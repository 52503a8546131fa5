import SteadyFetch.Machine.Disk
import SteadyFetch.Machine.Internet
import SteadyFetch.Program

set_option autoImplicit false

/-! # The command line program -/

namespace SteadyFetch

/-- A directory of the user: what a variable names, if that is an absolute path, or one below the home
    directory. -/
def userDirectory (name below : String) : IO String := do
  match ← IO.getEnv name with
  | some path => if path.startsWith "/" then return path else inHome
  | none => inHome
where
  inHome : IO String := do
    let home := (← IO.getEnv "HOME").getD ""
    return s!"{home}/{below}"

/-- The places of the user. -/
def userPlaces : IO Places := do
  return ⟨← userDirectory "XDG_CONFIG_HOME" ".config",
    ← userDirectory "XDG_STATE_HOME" ".local/state"⟩

/-- Sleeps for a span; the longest sleep is that of the system. -/
def sleep (span : Span) : IO Unit :=
  IO.sleep (min (span.nanos / 1000000) (Word.limit32 - 1)).toUInt32

/-- What a run on this machine works with. No run comes near the limit. -/
def machine : DownloadContext IO Disk.OpenFile where
  files := Disk.files
  network := Internet.network
  pause := sleep
  limit := Word.limit63 / 2

/-- A line that shows how a command is called. -/
def usageLine (command : String) (spec : ArgumentSpec) : String :=
  let options := spec.options.map fun o =>
    let value := if o.kind.isSome then s!" <{o.name}>" else ""
    s!" [--{o.name}{value}]"
  let positionals := spec.positionals.map fun (name, _) => s!" <{name}>"
  s!"  {Places.program} {command}{String.join options}{String.join positionals}\n"

/-- How the program is called. -/
def usageText : String :=
  "usage:\n" ++ usageLine "download" Command.downloadSpec
    ++ usageLine "segment" Command.segmentSpec ++ usageLine "checksum" Command.checksumSpec

/-- Prints how a run ended. -/
def report : ProgramResult → IO Unit
  | .printed text => IO.print text
  | .failed e => IO.eprintln (errorText e.causes)
  | .usage .help => IO.print usageText
  | .usage _ => IO.eprint usageText

end SteadyFetch

open SteadyFetch in
/-- Runs the program with the arguments of the command line. -/
def main (args : List String) : IO UInt32 := do
  match ← Program.run machine (← userPlaces) args with
  | none => return 1
  | some result =>
    report result
    return result.exitCode.toUInt32
