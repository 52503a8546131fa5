import SteadyFetch.Command.Arguments
import SteadyFetch.Command.Download
import SteadyFetch.Command.Segment
import SteadyFetch.Config.Load
import SteadyFetch.Log

set_option autoImplicit false

/-! # The program

One run: the log is opened, the command line read, the configuration loaded, and the command carried
out. A run ends with what it prints, with an error, or with a complaint about its arguments. -/

namespace SteadyFetch

/-- Why a command failed. -/
inductive ProgramError where
  | config (e : ConfigLoadError)
  | download (e : DownloadError)
  | segment (e : SegmentError)
  | checksum (e : ChecksumError)
  deriving DecidableEq

/-- The error for readers, the outermost cause first. -/
def ProgramError.causes : ProgramError → List String
  | .config e => e.causes
  | .download e => e.causes
  | .segment e => e.causes
  | .checksum e => e.causes

/-- Causes in one line. -/
def chainText (causes : List String) : String := ": ".intercalate causes

/-- What is printed about an error. -/
def errorText (causes : List String) : String := s!"{Places.program} error: {chainText causes}"

/-- How a run ends. -/
inductive ProgramResult where
  | usage (e : ArgumentError)
  | failed (e : ProgramError)
  | printed (text : String)
  deriving DecidableEq

/-- The exit status of a run. -/
def ProgramResult.exitCode : ProgramResult → Nat
  | .usage .help => 0
  | .usage _ => 2
  | .failed _ => 1
  | .printed _ => 0

namespace Program

variable {m : Type → Type} {η : Type} [Monad m]

/-- The line of a file's checksum. -/
def checksumLine (path : String) (c : Checksum) : String :=
  s!"{c.base64}  {c.hex}  {c.length}  {path}\n"

/-- The end of a run with a result that may be missing. -/
def ending {ε α : Type} (error : ε → ProgramError) (text : α → String)
    (result : Option (Except ε α)) : Option ProgramResult :=
  result.map fun
    | .error e => .failed (error e)
    | .ok a => .printed (text a)

/-- Carries out a command. -/
def carryOut (context : DownloadContext m η) (config : Config) :
    Command → m (Option ProgramResult)
  | .download args => do
    return ending .download DownloadSummary.text (← Download.run context config args)
  | .segment args => do
    return ending .segment Segmenting.table
      (← Segmenting.run context.files context.limit config args)
  | .checksum path => do
    return ending .checksum (checksumLine path)
      (← Checksum.ofFile context.files context.limit path)

/-- One run with the given arguments; none if the limit of the context was too low for it. -/
def run (context : DownloadContext m η) (places : Places) (args : List String) :
    m (Option ProgramResult) := do
  let _ ← Log.openFile context.files places
  match Command.parse args with
  | .error e => return some (.usage e)
  | .ok command =>
    match ← Config.load context.files context.limit places with
    | none => return none
    | some (.error e) => return some (.failed (.config e))
    | some (.ok config) => carryOut context config command

end Program

end SteadyFetch
