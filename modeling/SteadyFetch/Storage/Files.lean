import SteadyFetch.Bytes
import SteadyFetch.Fault
import SteadyFetch.Text.Utf8

set_option autoImplicit false

/-! # Files

What the program needs of a file system, in a context `m` of effects. An open file `η` knows where it
stands: reading and writing hand it back. Paths are texts in the system's notation. -/

namespace SteadyFetch

/-- A file system with open files `η`, in a context `m` of effects. -/
structure Files (m : Type → Type) (η : Type) where
  /-- Opens for reading. -/
  openRead : String → m (Except IoFault η)
  /-- Opens for writing from the start; what was there before is discarded. -/
  openFresh : String → m (Except IoFault η)
  /-- Opens for writing at the end. -/
  openAppend : String → m (Except IoFault η)
  /-- Reads at most so many octets; none mean the end. -/
  read : η → Nat → m (Except IoFault Bytes × η)
  /-- Writes octets, and tells how many of them it stored. -/
  write : η → Bytes → m (Except IoFault Nat × η)
  /-- The number of octets in an open file. -/
  size : η → m (Except IoFault Nat)
  /-- Makes what was written permanent. -/
  sync : η → m (Except IoFault Unit)
  /-- Moves the first path to the second, replacing a file that is there. -/
  rename : String → String → m (Except IoFault Unit)
  /-- Removes a file. -/
  remove : String → m (Except IoFault Unit)
  /-- Makes one directory. -/
  makeDirectory : String → m (Except IoFault Unit)
  /-- Whether there is anything at the path. -/
  hasPath : String → m Bool
  /-- Whether there is a directory at the path. -/
  hasDirectory : String → m Bool

namespace Files

variable {m : Type → Type} {η : Type} [Monad m]

/-- The fault of a write that stores nothing. -/
def nothingWritten : IoFault := .described .writeZero "failed to write whole buffer"

/-- Writes on until all octets are stored, a write fails or one stores nothing; so many writes at most. -/
def writeOn {α : Type} (write : α → Bytes → m (Except IoFault Nat × α)) :
    (writes : Nat) → α → Bytes → m (Except IoFault Unit × α)
  | _, file, [] => return (.ok (), file)
  | 0, file, _ => return (.error nothingWritten, file)
  | writes + 1, file, bs => do
    let (result, file) ← write file bs
    match result with
    | .error fault => return (.error fault, file)
    | .ok 0 => return (.error nothingWritten, file)
    | .ok stored => writeOn write writes file (bs.drop stored)

/-- Writes all octets. There are never more writes than octets. -/
def writeAll {α : Type} (write : α → Bytes → m (Except IoFault Nat × α)) (file : α) (bs : Bytes) :
    m (Except IoFault Unit × α) :=
  writeOn write bs.length file bs

/-- Replaces the content of a file, making it if need be. -/
def replace (files : Files m η) (path : String) (content : Bytes) : m (Except IoFault Unit) := do
  match ← files.openFresh path with
  | .error fault => return .error fault
  | .ok file => return (← writeAll files.write file content).1

/-- Octets read at once where a whole file is wanted. -/
def pieceSize : Nat := 65536

/-- Reads on to the end. `got` holds what came so far, latest first; none if so many reads do not
    reach the end. -/
def readRest (files : Files m η) : Nat → η → (got : List Bytes) → m (Option (Except IoFault Bytes))
  | 0, _, _ => return none
  | reads + 1, file, got => do
    let (result, file) ← files.read file pieceSize
    match result with
    | .error fault => return some (.error fault)
    | .ok bs =>
      if bs.isEmpty then return some (.ok got.reverse.flatten)
      else files.readRest reads file (bs :: got)

/-- The octets of a file. -/
def readWhole (files : Files m η) (reads : Nat) (path : String) :
    m (Option (Except IoFault Bytes)) := do
  match ← files.openRead path with
  | .error fault => return some (.error fault)
  | .ok file => files.readRest reads file []

/-- The fault of a file that should hold text but does not. -/
def notText : IoFault := .described .invalidData "stream did not contain valid UTF-8"

/-- The text of a file. -/
def readText (files : Files m η) (reads : Nat) (path : String) :
    m (Option (Except IoFault String)) := do
  match ← files.readWhole reads path with
  | none => return none
  | some (.error fault) => return some (.error fault)
  | some (.ok bs) =>
    match Utf8.decode? bs with
    | some text => return some (.ok text)
    | none => return some (.error notText)

/-! ## Directories -/

/-- The path without its last component; none if there is no other. -/
def parentOf? (path : List Char) : Option (List Char) :=
  let back := path.reverse.dropWhile (· == '/')
  if back.isEmpty then none
  else
    let rest := (back.dropWhile (· != '/')).dropWhile (· == '/')
    if rest.isEmpty then
      if (back.dropWhile (· != '/')).isEmpty then some [] else some ['/']
    else some rest.reverse

/-- Makes a directory and those above it. Directories that are there already are no failure. -/
def makeDirectories (files : Files m η) : Nat → List Char → m (Except IoFault Unit)
  | 0, _ => return .error (.described .uncategorized "failed to create whole tree")
  | depth + 1, path => do
    if path.isEmpty then return .ok ()
    let text := String.ofList path
    match ← files.makeDirectory text with
    | .ok () => return .ok ()
    | .error fault =>
      if fault.kind = .notFound then
        match parentOf? path with
        | none => return .error (.described .uncategorized "failed to create whole tree")
        | some parent =>
          match ← files.makeDirectories depth parent with
          | .error fault => return .error fault
          | .ok () =>
            match ← files.makeDirectory text with
            | .ok () => return .ok ()
            | .error fault =>
              if ← files.hasDirectory text then return .ok () else return .error fault
      else if ← files.hasDirectory text then return .ok ()
      else return .error fault

/-- Makes a directory and those above it. -/
def makeTree (files : Files m η) (path : String) : m (Except IoFault Unit) :=
  files.makeDirectories (path.length + 1) path.toList

end Files

end SteadyFetch
