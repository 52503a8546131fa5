import SteadyFetch.Storage.Marker

set_option autoImplicit false

/-! # Part files

The octets of a download on their way to its destination. They are appended in order and moved into
place once the download is complete; the marker goes with that. -/

namespace SteadyFetch

/-- The part file of one destination. -/
structure PartFile (η : Type) where
  file : η
  path : String
  /-- Octets in it, those from before a resume included: where a resumed read goes on. -/
  length : Nat

/-- Why an operation on a part file failed. -/
inductive PartError where
  | create (path : String) (fault : IoFault)
  | resume (path : String) (fault : IoFault)
  | measure (path : String) (fault : IoFault)
  | sync (fault : IoFault)
  | rename (old new : String) (fault : IoFault)
  | removeMarker (path : String) (fault : IoFault)
  deriving DecidableEq, Repr

/-- The error for readers, the outermost cause first. -/
def PartError.causes : PartError → List String
  | .create path fault => [s!"failed to create temp file: {path}", fault.text]
  | .resume path fault => [s!"failed to open temp file for resume: {path}", fault.text]
  | .measure path fault => [s!"failed to stat {path}", fault.text]
  | .sync fault => ["part file sync failed", fault.text]
  | .rename old new fault => [s!"failed to rename {old} to {new}", fault.text]
  | .removeMarker path fault => [s!"failed to remove {path}", fault.text]

namespace PartFile

variable {m : Type → Type} {η : Type} [Monad m]

/-- An empty part file for a destination; what was in it before is discarded. -/
def create (files : Files m η) (path : String) : m (Except PartError (PartFile η)) := do
  let path := partPath path
  match ← files.openFresh path with
  | .error fault => return .error (.create path fault)
  | .ok file => return .ok ⟨file, path, 0⟩

/-- The part file of a destination with the octets that it holds, made if it is missing. -/
def resume (files : Files m η) (path : String) : m (Except PartError (PartFile η)) := do
  let path := partPath path
  match ← files.openAppend path with
  | .error fault => return .error (.resume path fault)
  | .ok file =>
    match ← files.size file with
    | .error fault => return .error (.measure path fault)
    | .ok length => return .ok ⟨file, path, length⟩

/-- Appends octets by one write, and counts those that it stored. -/
def writeSome (files : Files m η) (part : PartFile η) (bs : Bytes) :
    m (Except IoFault Nat × PartFile η) := do
  let (result, file) ← files.write part.file bs
  match result with
  | .ok stored => return (.ok stored, { part with file := file, length := part.length + stored })
  | .error fault => return (.error fault, { part with file := file })

/-- Appends all octets. -/
def write (files : Files m η) (part : PartFile η) (bs : Bytes) :
    m (Except IoFault Unit × PartFile η) :=
  Files.writeAll (writeSome files) part bs

/-- Makes what was written permanent. -/
def sync (files : Files m η) (part : PartFile η) : m (Except PartError Unit) := do
  match ← files.sync part.file with
  | .ok () => return .ok ()
  | .error fault => return .error (.sync fault)

/-- Moves the part file to the destination and removes the marker, if there is one. -/
def finalize (files : Files m η) (part : PartFile η) (path : String) :
    m (Except PartError Unit) := do
  match ← files.rename part.path path with
  | .error fault => return .error (.rename part.path path fault)
  | .ok () =>
    match ← files.remove (markerPath path) with
    | .ok () => return .ok ()
    | .error fault =>
      if fault.kind = .notFound then return .ok ()
      else return .error (.removeMarker (markerPath path) fault)

end PartFile

end SteadyFetch
