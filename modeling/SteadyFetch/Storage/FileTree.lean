import SteadyFetch.Storage.Files

set_option autoImplicit false

/-! # A tree of files

A file system as a value: directories by their names from the root, and files, each with its octets and the
one name under which it stands. So what stands at a path is a directory or a file of its own; there are no links,
hard or symbolic. An open file is known by its number, so it can be written to after its name was moved or taken
away. What owners, permissions and the device make of an operation is the answer of a disk, which may refuse any of
them and store less than it is given. -/

namespace SteadyFetch

/-- What a name stands for. -/
inductive Entry where
  | directory
  /-- A file, by its number. -/
  | file (number : Nat)
  deriving DecidableEq, Repr

/-- A file: the name it stands under, none once that was taken away, and its octets. -/
structure StoredFile where
  name : Option (List String)
  content : Bytes

/-- A file system. Names are lists of components from the root, which is always there. -/
structure FileTree where
  directories : List (List String)
  /-- The number of a file is its place in the list. -/
  stored : List StoredFile
  /-- Where relative paths begin. -/
  workingDirectory : List String

/-- An open file: its number, none for a directory, and where it stands. -/
structure OpenFile where
  number : Option Nat
  /-- Whether writes go to the end. -/
  atEnd : Bool
  offset : Nat

/-! ## Faults -/

namespace IoFault

/-- There is no such name. -/
def noEntry : IoFault := .system 2
/-- A device is busy. -/
def busy : IoFault := .system 16
/-- There is something already. -/
def entryExists : IoFault := .system 17
/-- Something other than a directory stands on the way. -/
def notDirectory : IoFault := .system 20
/-- A directory stands where a file is wanted. -/
def isDirectory : IoFault := .system 21
/-- A name is too long. -/
def nameTooLong : IoFault := .system 36
/-- A directory is not empty. -/
def notEmpty : IoFault := .system 39
/-- A path holds the character that ends paths in the system's notation. -/
def nulInPath : IoFault :=
  .described .invalidInput "file name contained an unexpected NUL byte"

end IoFault

namespace FileTree

/-- Nothing but the root. -/
def empty : FileTree := ⟨[], [], []⟩

/-- The number of the file that stands under a name. -/
def number? (t : FileTree) (name : List String) : Option Nat :=
  t.stored.findIdx? fun file => file.name == some name

/-- What a name stands for. -/
def entry? (t : FileTree) (name : List String) : Option Entry :=
  if name.isEmpty || t.directories.contains name then some .directory
  else (t.number? name).map .file

/-- The octets of a file. -/
def content (t : FileTree) (number : Nat) : Bytes := (t.stored[number]?.map StoredFile.content).getD []

/-- Takes a name away. -/
def erase (t : FileTree) (name : List String) : FileTree :=
  { t with
    directories := t.directories.filter (· != name)
    stored := t.stored.map fun file => if file.name == some name then { file with name := none } else file }

/-- Gives a name its meaning. -/
def put (t : FileTree) (name : List String) : Entry → FileTree
  | .directory =>
    let t := t.erase name
    { t with directories := name :: t.directories }
  | .file number =>
    let t := t.erase name
    { t with stored := t.stored.modify number fun file => { file with name := some name } }

/-- Replaces the octets of a file. -/
def setContent (t : FileTree) (number : Nat) (bs : Bytes) : FileTree :=
  { t with stored := t.stored.modify number fun file => { file with content := bs } }

/-- A new, empty file under a name. -/
def addFile (t : FileTree) (name : List String) : Nat × FileTree :=
  let grown : FileTree := { t with stored := t.stored ++ [⟨none, []⟩] }
  (t.stored.length, grown.put name (.file t.stored.length))

/-! ## Paths -/

/-- Where a path leads. -/
inductive Place where
  /-- A directory that is there. -/
  | directory (name : List String)
  /-- A name in a directory that is there; the flag tells whether a slash follows. -/
  | name (parent : List String) (last : String) (slash : Bool)

/-- The pieces of a path between slashes. -/
def pieces (path : String) : List String :=
  ((path.toList.splitBy fun _ b => b != '/').map fun piece =>
    String.ofList (piece.filter (· != '/'))).filter (· != "")

/-- Goes one step from a directory to another. -/
def stepInto (t : FileTree) (here : List String) (piece : String) :
    Except IoFault (List String) :=
  if piece = "." then .ok here
  else if piece = ".." then .ok here.dropLast
  else if 255 < piece.utf8ByteSize then .error .nameTooLong
  else
    match t.entry? (here ++ [piece]) with
    | none => .error .noEntry
    | some (.file _) => .error .notDirectory
    | some .directory => .ok (here ++ [piece])

/-- Goes along pieces from a directory to another. -/
def walk (t : FileTree) (here : List String) : List String → Except IoFault (List String)
  | [] => .ok here
  | piece :: rest => do t.walk (← t.stepInto here piece) rest

/-- The longest path, in octets. -/
def maxPath : Nat := 4095

/-- Finds where a path leads; all but its last piece must be directories. -/
def locate (t : FileTree) (path : String) : Except IoFault Place := do
  if path.toList.contains '\x00' then throw .nulInPath
  if path.isEmpty then throw .noEntry
  if maxPath < path.utf8ByteSize then throw .nameTooLong
  let start := if path.toList.head? == some '/' then [] else t.workingDirectory
  match (pieces path).reverse with
  | [] => return .directory start
  | last :: before =>
    let parent ← t.walk start before.reverse
    if last = "." then return .directory parent
    else if last = ".." then return .directory parent.dropLast
    else return .name parent last (path.toList.getLast? == some '/')

/-- What a path stands for, with its name. -/
def resolve (t : FileTree) (path : String) : Except IoFault (List String × Entry) := do
  match ← t.locate path with
  | .directory name => return (name, .directory)
  | .name parent last slash =>
    if 255 < last.utf8ByteSize then throw .nameTooLong
    match t.entry? (parent ++ [last]) with
    | none => throw .noEntry
    | some .directory => return (parent ++ [last], .directory)
    | some (.file number) =>
      if slash then throw .notDirectory else return (parent ++ [last], .file number)

/-! ## Building and showing -/

/-- Puts directories at every level of a name that has none. -/
def plantDirectories (t : FileTree) (name : List String) : FileTree :=
  (List.range name.length).foldl (fun t depth =>
    let directory := name.take (depth + 1)
    if (t.entry? directory).isSome then t else t.put directory .directory) t

/-- Gives a file its content; the file and the directories on the way are made if they are missing. -/
def plant (t : FileTree) (name : List String) (content : Bytes) : FileTree :=
  let t := t.plantDirectories name.dropLast
  match t.entry? name with
  | some (.file number) => t.setContent number content
  | _ =>
    let (number, t) := t.addFile name
    t.setContent number content

/-- Whether a name is that of something in a directory, or deeper. -/
def isBelow (directory name : List String) : Bool := directory.isPrefixOf name && name != directory

/-- What stands below a directory: the names from there, and the contents of files. -/
def below (t : FileTree) (directory : List String) : List (List String × Option Bytes) :=
  (t.directories.filter (isBelow directory)).map (fun name => (name.drop directory.length, none)) ++
    t.stored.filterMap fun file => do
      let name ← file.name
      if isBelow directory name then return (name.drop directory.length, some file.content) else none

/-- The octets in all files together. -/
def volume (t : FileTree) : Nat := t.stored.foldl (fun n file => n + file.content.length) 0

/-! ## Operations -/

/-- Opens for reading; a directory opens too, but cannot be read. -/
def openRead (t : FileTree) (path : String) : Except IoFault OpenFile := do
  match ← t.resolve path with
  | (_, .directory) => return ⟨none, false, 0⟩
  | (_, .file number) => return ⟨some number, false, 0⟩

/-- The number of the file at a path, which is made if it is missing. -/
def fileFor (t : FileTree) (path : String) : Except IoFault (Nat × FileTree) := do
  match ← t.locate path with
  | .directory _ => throw .isDirectory
  | .name parent last slash =>
    if 255 < last.utf8ByteSize then throw .nameTooLong
    match t.entry? (parent ++ [last]) with
    | some .directory => throw .isDirectory
    | some (.file number) => if slash then throw .notDirectory else return (number, t)
    | none => if slash then throw .isDirectory else return t.addFile (parent ++ [last])

/-- Opens for writing from the start. -/
def openFresh (t : FileTree) (path : String) : Except IoFault OpenFile × FileTree :=
  match t.fileFor path with
  | .error fault => (.error fault, t)
  | .ok (number, t) => (.ok ⟨some number, false, 0⟩, t.setContent number [])

/-- Opens for writing at the end. -/
def openAppend (t : FileTree) (path : String) : Except IoFault OpenFile × FileTree :=
  match t.fileFor path with
  | .error fault => (.error fault, t)
  | .ok (number, t) => (.ok ⟨some number, true, 0⟩, t)

/-- Reads at most `count` octets. -/
def read (t : FileTree) (file : OpenFile) (count : Nat) : Except IoFault Bytes × OpenFile :=
  match file.number with
  | none => (.error .isDirectory, file)
  | some number =>
    let bs := ((t.content number).drop file.offset).take count
    (.ok bs, { file with offset := file.offset + bs.length })

/-- `old` with `bs` written over it from `offset` on; a gap reads as zeros. -/
def overwrite (old : Bytes) (offset : Nat) (bs : Bytes) : Bytes :=
  old.take offset ++ List.replicate (offset - old.length) 0 ++ bs ++ old.drop (offset + bs.length)

/-- Writes octets at the end, or where the file stands, and tells how many. -/
def write (t : FileTree) (file : OpenFile) (bs : Bytes) :
    (Except IoFault Nat × OpenFile) × FileTree :=
  match file.number with
  | none => ((.error .isDirectory, file), t)
  | some number =>
    if file.atEnd then ((.ok bs.length, file), t.setContent number (t.content number ++ bs))
    else
      ((.ok bs.length, { file with offset := file.offset + bs.length }),
        t.setContent number (overwrite (t.content number) file.offset bs))

/-- The number of octets in an open file. -/
def size (t : FileTree) (file : OpenFile) : Nat :=
  match file.number with
  | none => 0
  | some number => (t.content number).length

/-- The name under which a path's last piece would be found, where the path does not lead to `.`,
    `..` or the root. -/
def namedPlace (place : Place) : Except IoFault (List String × Bool) :=
  match place with
  | .directory _ => .error .busy
  | .name parent last slash =>
    if 255 < last.utf8ByteSize then .error .nameTooLong else .ok (parent ++ [last], slash)

/-- Moves everything at or below a name to another name. -/
def moveNames (t : FileTree) (old new : List String) : FileTree :=
  let moved (name : List String) := if old.isPrefixOf name then new ++ name.drop old.length else name
  { t with
    directories := t.directories.map moved
    stored := t.stored.map fun file => { file with name := file.name.map moved } }

/-- Moves a file to another name, replacing a file that has it, or a directory to a name that is free
    or that of an empty directory. -/
def rename (t : FileTree) (old new : String) : Except IoFault FileTree := do
  let oldPlace ← t.locate old
  let newPlace ← t.locate new
  let (oldName, oldSlash) ← namedPlace oldPlace
  let (newName, newSlash) ← namedPlace newPlace
  match t.entry? oldName with
  | none => throw .noEntry
  | some (.file number) =>
    if oldSlash || newSlash then throw .notDirectory
    match t.entry? newName with
    | some .directory => throw .isDirectory
    | some (.file other) =>
      if other = number then return t
      else return (t.erase oldName).put newName (.file number)
    | none => return (t.erase oldName).put newName (.file number)
  | some .directory =>
    if oldName = newName then return t
    if oldName.isPrefixOf newName then throw (.system 22)
    match t.entry? newName with
    | some (.file _) => throw .notDirectory
    | some .directory =>
      if !(t.below newName).isEmpty then throw .notEmpty
      else return (t.erase newName).moveNames oldName newName
    | none => return t.moveNames oldName newName

/-- Removes a file. -/
def remove (t : FileTree) (path : String) : Except IoFault FileTree := do
  match ← t.locate path with
  | .directory _ => throw .isDirectory
  | .name parent last slash =>
    if 255 < last.utf8ByteSize then throw .nameTooLong
    match t.entry? (parent ++ [last]) with
    | none => throw .noEntry
    | some .directory => throw .isDirectory
    | some (.file _) => if slash then throw .notDirectory else return t.erase (parent ++ [last])

/-- Makes one directory. -/
def makeDirectory (t : FileTree) (path : String) : Except IoFault FileTree := do
  match ← t.locate path with
  | .directory _ => throw .entryExists
  | .name parent last _ =>
    if 255 < last.utf8ByteSize then throw .nameTooLong
    match t.entry? (parent ++ [last]) with
    | some _ => throw .entryExists
    | none => return t.put (parent ++ [last]) .directory

/-- The result of an operation that leaves the tree as it is when it fails. -/
def settle (t : FileTree) : Except IoFault FileTree → Except IoFault Unit × FileTree
  | .ok t => (.ok (), t)
  | .error fault => (.error fault, t)

end FileTree

/-! ## Disks -/

/-- What a disk makes of an operation. That something is missing is for the tree to say, and an operation that is
    interrupted is made again. -/
inductive DiskAnswer where
  /-- It is carried out. -/
  | granted
  /-- It is carried out, but a write stores so many octets at most. -/
  | short (count : Nat)
  /-- It fails, and changes nothing. -/
  | refused (fault : IoFault) (honest : fault.kind ≠ .notFound ∧ fault.kind ≠ .interrupted)

namespace FileTree

section Files

variable {m : Type → Type} [Monad m]

/-- Performs an operation unless the disk refuses it. -/
def ask {α : Type} (disk : m DiskAnswer) (act : m (Except IoFault α)) : m (Except IoFault α) := do
  match ← disk with
  | .refused fault _ => return .error fault
  | _ => act

/-- The operations on a tree as a file system, as far as a disk grants them. `run` performs a step on the tree. -/
def filesOn (disk : m DiskAnswer) (run : {α : Type} → (FileTree → α × FileTree) → m α) : Files m OpenFile where
  openRead path := ask disk (run fun t => (t.openRead path, t))
  openFresh path := ask disk (run fun t => t.openFresh path)
  openAppend path := ask disk (run fun t => t.openAppend path)
  read file count := do
    match ← disk with
    | .refused fault _ => return (.error fault, file)
    | _ => run fun t => (t.read file count, t)
  write file bs := do
    match ← disk with
    | .refused fault _ => return (.error fault, file)
    | .short count => run fun t => t.write file (bs.take count)
    | .granted => run fun t => t.write file bs
  size file := ask disk (run fun t => (.ok (t.size file), t))
  sync _ := ask disk (pure (.ok ()))
  rename old new := ask disk (run fun t => t.settle (t.rename old new))
  remove path := ask disk (run fun t => t.settle (t.remove path))
  makeDirectory path := ask disk (run fun t => t.settle (t.makeDirectory path))
  hasPath path := do
    match ← disk with
    | .refused _ _ => return false
    | _ => run fun t => ((t.resolve path).isOk, t)
  hasDirectory path := do
    match ← disk with
    | .refused _ _ => return false
    | _ => run fun t =>
      (match t.resolve path with
        | .ok (_, .directory) => true
        | _ => false, t)

/-- The operations on a tree as a file system, on a disk that grants everything. -/
def files (run : {α : Type} → (FileTree → α × FileTree) → m α) : Files m OpenFile := filesOn (pure .granted) run

end Files

end FileTree

end SteadyFetch
