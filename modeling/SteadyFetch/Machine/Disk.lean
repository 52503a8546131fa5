import SteadyFetch.Storage.Files

set_option autoImplicit false

/-! # Files of the machine

The file system on which the program runs. Failures keep the number that the system gives them. -/

namespace SteadyFetch.Disk

/-- The number of the system for a failed operation, if it has one. -/
def numberOf? : IO.Error → Option UInt32
  | .alreadyExists _ number _ | .invalidArgument _ number _ | .permissionDenied _ number _
  | .resourceExhausted _ number _ | .inappropriateType _ number _ | .noSuchThing _ number _
  | .interrupted _ number _ | .noFileOrDirectory _ number _ | .otherError number _
  | .resourceBusy number _ | .resourceVanished number _ | .unsupportedOperation number _
  | .hardwareFault number _ | .unsatisfiedConstraints number _ | .illegalOperation number _
  | .protocolError number _ | .timeExpired number _ => some number
  | .unexpectedEof | .userError _ => none

/-- A failed operation as a fault. -/
def fault (e : IO.Error) : IoFault :=
  match numberOf? e with
  | some number => .system number.toNat
  | none => .described .other (toString e)

/-- Carries out an operation and tells how it ended. -/
def attempt {α : Type} (act : IO α) : IO (Except IoFault α) := do
  try return .ok (← act) catch e => return .error (fault e)

/-- A file that is open. -/
structure OpenFile where
  path : String
  handle : IO.FS.Handle

/-- Opens a file. -/
def openWith (mode : IO.FS.Mode) (path : String) : IO (Except IoFault OpenFile) :=
  attempt do return ⟨path, ← IO.FS.Handle.mk path mode⟩

/-- Reads at most so many octets. -/
def read (file : OpenFile) (count : Nat) : IO Bytes := do
  return (← file.handle.read count.toUSize).toList

/-- Writes octets through to the system, all of them or it fails. -/
def write (file : OpenFile) (bs : Bytes) : IO Nat := do
  file.handle.write ⟨bs.toArray⟩
  file.handle.flush
  return bs.length

/-- The numbers of the system for a path that leads nowhere, and for a directory that is read. -/
def noSuchPath : List Nat := [2, 20]
def isDirectory : Nat := 21

/-- Whether there is anything at a path: opening it fails for another reason or not at all. -/
def hasPath (path : String) : IO Bool := do
  match ← openWith .read path with
  | .error (.system number) => return !noSuchPath.contains number
  | _ => return true

/-- Whether there is a directory at a path: it opens but cannot be read. -/
def hasDirectory (path : String) : IO Bool := do
  match ← openWith .read path with
  | .error _ => return false
  | .ok file =>
    match ← attempt (read file 1) with
    | .error (.system number) => return number == isDirectory
    | _ => return false

/-- The file system of the machine. -/
def files : Files IO OpenFile where
  openRead := openWith .read
  openFresh := openWith .write
  openAppend := openWith .append
  read file count := do return (← attempt (read file count), file)
  write file bs := do return (← attempt (write file bs), file)
  size file := attempt do return (← IO.FS.readBinFile file.path).size
  sync file := attempt file.handle.flush
  rename source target := attempt (IO.FS.rename source target)
  remove path := attempt (IO.FS.removeFile path)
  makeDirectory path := attempt (IO.FS.createDir path)
  hasPath := hasPath
  hasDirectory := hasDirectory

end SteadyFetch.Disk
