set_option autoImplicit false

/-! # Places

Where the program keeps its own files: the settings below the configuration directory of the user,
the log below the state directory. -/

namespace SteadyFetch

/-- The directories of the user below which the program keeps its files. -/
structure Places where
  configHome : String
  stateHome : String
  deriving DecidableEq, Repr

namespace Places

/-- The name of the program, and of its directories. -/
def program : String := "objstream"

/-- The directory of the settings. -/
def configDirectory (p : Places) : String := s!"{p.configHome}/{program}"

/-- The file of the settings. -/
def configPath (p : Places) : String := s!"{p.configDirectory}/config.toml"

/-- The directory of the log. -/
def logDirectory (p : Places) : String := s!"{p.stateHome}/{program}/{program}"

/-- The file of the log. -/
def logPath (p : Places) : String := s!"{p.logDirectory}/{program}.log"

end Places

end SteadyFetch
