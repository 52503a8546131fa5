import SteadyFetch.Config
import SteadyFetch.Places

set_option autoImplicit false

/-! # Loading the configuration

Settings come from the user's file, which is written with the defaults if it is missing. A file that
is there is never changed. -/

namespace SteadyFetch

/-- Why settings could not be loaded. -/
inductive ConfigLoadError where
  /-- The directory of the file cannot be made. -/
  | directory (fault : IoFault)
  /-- A new file cannot be written. -/
  | create (fault : IoFault)
  | read (path : String) (fault : IoFault)
  /-- The file does not hold settings. -/
  | parse (path : String)
  /-- The settings cannot be worked with. -/
  | invalid (path : String) (cause : ConfigError)
  deriving DecidableEq, Repr

/-- The error for readers, the outermost cause first. -/
def ConfigLoadError.causes : ConfigLoadError → List String
  | .directory fault => [fault.text]
  | .create fault => [fault.text]
  | .read path fault => [s!"read config {path}", fault.text]
  | .parse path => [s!"parse config {path}"]
  | .invalid path cause => [s!"invalid config {path}", cause.message]

namespace Config

variable {m : Type → Type} {η : Type} [Monad m]

/-- Makes the directory of the settings and returns the path of their file. -/
def place (files : Files m η) (places : Places) : m (Except ConfigLoadError String) := do
  match ← files.makeTree places.configDirectory with
  | .error fault => return .error (.directory fault)
  | .ok () => return .ok places.configPath

/-- The settings in a file with the given text. -/
def ofText (path text : String) : Except ConfigLoadError Config :=
  match parse? text with
  | none => .error (.parse path)
  | some config =>
    match config.validate with
    | .error cause => .error (.invalid path cause)
    | .ok () => .ok config

/-- Loads the settings; none if so many reads do not reach the end of the file. -/
def load (files : Files m η) (reads : Nat) (places : Places) :
    m (Option (Except ConfigLoadError Config)) := do
  match ← place files places with
  | .error e => return some (.error e)
  | .ok path =>
    if ← files.hasPath path then
      match ← files.readText reads path with
      | none => return none
      | some (.error fault) => return some (.error (.read path fault))
      | some (.ok text) => return some (ofText path text)
    else
      match ← files.replace path (Utf8.encode defaultText) with
      | .error fault => return some (.error (.create fault))
      | .ok () => return some (.ok default)

end Config

end SteadyFetch
