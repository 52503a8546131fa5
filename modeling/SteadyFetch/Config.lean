import SteadyFetch.Retry.Settings
import SteadyFetch.Toml.Document
import SteadyFetch.Storage.Files

set_option autoImplicit false

/-! # Configuration

The settings of the program as a TOML file holds them. Reading accepts every file with the required
keys, whatever else is in it; checking then refuses what segmenting, retrying and transfers cannot
work with. -/

namespace SteadyFetch

/-- The settings of the program. -/
structure Config where
  /-- Where the storage service is. -/
  endpoint : String
  /-- The largest segment, in octets. -/
  maxSegmentSize : Nat
  /-- The unit of uploads, in octets. -/
  blockSize : Nat
  /-- Whether segments carry checksums. -/
  crc32c : Bool
  /-- Longest wait for a connection, in seconds. -/
  connectTimeout : Nat
  /-- How long a transfer may be slow, in seconds. -/
  lowSpeedTime : Nat
  /-- How failures are retried; none for the default. -/
  retry : Option RetrySettings
  deriving DecidableEq

/-- Why settings cannot be worked with. -/
inductive ConfigError where
  | zeroSegmentSize
  | zeroBlockSize
  | zeroAttempts
  | badBaseDelay
  deriving DecidableEq, Repr

/-- The wording of each cause. -/
def ConfigError.message : ConfigError → String
  | .zeroSegmentSize => "max_segment_size must be greater than zero"
  | .zeroBlockSize => "block_size must be greater than zero"
  | .zeroAttempts => "retry.max_attempts must be at least 1"
  | .badBaseDelay => "retry.base_delay_secs must be a non-negative number"

namespace Config

/-- The settings of a new file. -/
def default : Config where
  endpoint := "https://storage.googleapis.com"
  maxSegmentSize := 2 * 1024 * 1024
  blockSize := 256 * 1024
  crc32c := true
  connectTimeout := 30
  lowSpeedTime := 60
  retry := none

/-- The settings that retrying follows. -/
def retrySettings (c : Config) : RetrySettings := c.retry.getD .default

/-- Checks retry settings. -/
def validateRetry (s : RetrySettings) : Except ConfigError Unit := do
  if s.maxAttempts = 0 then throw .zeroAttempts
  if !(s.baseDelay.isFinite && s.baseDelay.isNonNegative) then throw .badBaseDelay

/-- Checks settings; the first thing wrong is reported. -/
def validate (c : Config) : Except ConfigError Unit := do
  if c.maxSegmentSize = 0 then throw .zeroSegmentSize
  if c.blockSize = 0 then throw .zeroBlockSize
  match c.retry with
  | none => return ()
  | some s => validateRetry s

/-! ## Reading -/

/-- A text. -/
def text? : Toml → Option String
  | .string s => some s
  | _ => none

/-- A truth value. -/
def boolean? : Toml → Option Bool
  | .boolean b => some b
  | _ => none

/-- A number that is not negative and has at most so many bits. -/
def natural? (bits : Nat) : Toml → Option Nat
  | .integer n => if 0 ≤ n ∧ n.toNat < Nat.pow 2 bits then some n.toNat else none
  | _ => none

/-- A number of any kind. -/
def number? : Toml → Option Binary64
  | .integer n => some (.ofDecimal (n < 0) n.natAbs 0)
  | .float x => some x
  | _ => none

/-- Retry settings as a table, or as an array of their values in order; more values do not count. -/
def retryTable? : Toml → Option RetrySettings
  | .table _ members => do
    return ⟨← natural? 32 (← members.lookup "max_attempts"),
      ← number? (← members.lookup "base_delay_secs"),
      ← natural? 64 (← members.lookup "max_delay_secs")⟩
  | .array (attempts :: base :: max :: _) => do
    return ⟨← natural? 32 attempts, ← number? base, ← natural? 64 max⟩
  | _ => none

/-- The settings of a table. -/
def ofMembers? (members : Toml.Members) : Option Config := do
  let retry ← match members.lookup "retry" with
    | none => some none
    | some value => (retryTable? value).map some
  return {
    endpoint := ← text? (← members.lookup "endpoint")
    maxSegmentSize := ← natural? 64 (← members.lookup "max_segment_size")
    blockSize := ← natural? 64 (← members.lookup "block_size")
    crc32c := ← boolean? (← members.lookup "crc32c")
    connectTimeout := ← natural? 64 (← members.lookup "connect_timeout_secs")
    lowSpeedTime := ← natural? 64 (← members.lookup "low_speed_time_secs")
    retry := retry }

/-- Reads settings from a TOML document. -/
def parse? (text : String) : Option Config := do ofMembers? (← Toml.parse? text)

/-- The settings of a new file as TOML. -/
def defaultText : String :=
  "endpoint = \"https://storage.googleapis.com\"\nmax_segment_size = 2097152\nblock_size = 262144\ncrc32c = true\nconnect_timeout_secs = 30\nlow_speed_time_secs = 60\n"

end Config

end SteadyFetch
