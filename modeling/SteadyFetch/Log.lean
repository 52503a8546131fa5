import SteadyFetch.Places
import SteadyFetch.Storage.Files

set_option autoImplicit false

/-! # The log file

Events are appended to a file below the state directory, which is made if it is missing. A program
whose log cannot be opened runs without it. -/

namespace SteadyFetch

/-- Why the log cannot be opened. -/
inductive LogError where
  | directory (path : String) (fault : IoFault)
  | file (path : String) (fault : IoFault)
  deriving DecidableEq, Repr

/-- The error for readers, the outermost cause first. -/
def LogError.causes : LogError → List String
  | .directory path fault => [s!"create log dir {path}", fault.text]
  | .file path fault => [s!"open log file {path}", fault.text]

namespace Log

variable {m : Type → Type} {η : Type} [Monad m]

/-- Opens the log for appending. -/
def openFile (files : Files m η) (places : Places) : m (Except LogError η) := do
  match ← files.makeTree places.logDirectory with
  | .error fault => return .error (.directory places.logDirectory fault)
  | .ok () =>
    match ← files.openAppend places.logPath with
    | .error fault => return .error (.file places.logPath fault)
    | .ok file => return .ok file

end Log

end SteadyFetch
