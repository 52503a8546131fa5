import SteadyFetch.Json.Records
import SteadyFetch.Storage.Files

set_option autoImplicit false

/-! # Resume markers

Octets of a download land in a part file beside its destination; a marker beside both records which
generation of which object they came from. A download is only resumed on the generation its marker
names. -/

namespace SteadyFetch

/-- The part file of a destination. -/
def partPath (path : String) : String := path ++ ".part"

/-- The marker of a destination. -/
def markerPath (path : String) : String := path ++ ".part.json"

/-- Which object a part file holds octets of. -/
structure ResumeMarker where
  object : ObjectRef
  deriving DecidableEq, Repr

/-- Why a marker could not be written or read. -/
inductive MarkerError where
  | write (path : String) (fault : IoFault)
  | read (path : String) (fault : IoFault)
  /-- The file at the path is no marker. -/
  | parse (path : String)
  deriving DecidableEq, Repr

/-- The error for readers, the outermost cause first. -/
def MarkerError.causes : MarkerError → List String
  | .write path fault => [s!"write {path}", fault.text]
  | .read path fault => [s!"read {path}", fault.text]
  | .parse path => [s!"parse {path}"]

namespace ResumeMarker

/-- A marker in JSON over several lines. -/
def json (marker : ResumeMarker) : String :=
  let o := marker.object
  let generation := match o.generation with
    | none => ""
    | some g => s!",\n    \"generation\": {g}"
  s!"\x7b\n  \"object\": \x7b\n    \"bucket\": {Json.quote o.bucket},\n    \"name\": {Json.quote o.name}{generation}\n  \x7d\n\x7d"

/-- Reads a marker. -/
def parse? (s : String) : Option ResumeMarker := do
  match ← (← Json.parse? s).fields? ["object"] with
  | [some object] => return ⟨← ObjectRef.ofJson? object⟩
  | _ => none

/-- Whether octets of the marker's object can be octets of this one: bucket and name are the same,
    and the generations do not contradict each other. -/
def admits (marker : ResumeMarker) (o : ObjectRef) : Bool :=
  marker.object.bucket == o.bucket && marker.object.name == o.name &&
    match marker.object.generation, o.generation with
    | some a, some b => a == b
    | _, _ => true

variable {m : Type → Type} {η : Type} [Monad m]

/-- Writes the marker of a destination, replacing the one before. -/
def save (files : Files m η) (marker : ResumeMarker) (path : String) :
    m (Except MarkerError Unit) := do
  match ← files.replace (markerPath path) (Utf8.encode marker.json) with
  | .ok () => return .ok ()
  | .error fault => return .error (.write (markerPath path) fault)

/-- Reads the marker of a destination, if there is one. -/
def load (files : Files m η) (reads : Nat) (path : String) :
    m (Option (Except MarkerError (Option ResumeMarker))) := do
  let path := markerPath path
  match ← files.readText reads path with
  | none => return none
  | some (.error fault) =>
    if fault.kind = .notFound then return some (.ok none)
    else return some (.error (.read path fault))
  | some (.ok text) =>
    match parse? text with
    | some marker => return some (.ok (some marker))
    | none => return some (.error (.parse path))

end ResumeMarker

end SteadyFetch
