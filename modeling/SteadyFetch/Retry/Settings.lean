import SteadyFetch.Decimal.Binary64
import SteadyFetch.Retry.Policy

set_option autoImplicit false

/-! # Retry settings

Retrying as a configuration file describes it, in seconds. A policy is made of settings by rounding
the base delay to the nearest nanosecond, a half to the even one; a delay below zero, or one that is
no number, counts as none, and there is no policy for a delay that no span can hold. -/

namespace SteadyFetch

/-- Retrying as a configuration file describes it. -/
structure RetrySettings where
  /-- Attempts allowed in a row, the first included. -/
  maxAttempts : Nat
  /-- The delay after the first failure, in seconds. -/
  baseDelay : Binary64
  /-- The longest delay, in seconds. -/
  maxDelay : Nat
  deriving DecidableEq, Repr

/-- Five attempts, a quarter of a second at first, half a minute at most. -/
def RetrySettings.default : RetrySettings := ⟨5, .finite false 1 (-2), 30⟩

/-- A number of seconds as a span, to the nearest nanosecond. -/
def Span.ofBinary? : Binary64 → Option Span
  | .notANumber => some .zero
  | .infinite true => some .zero
  | .infinite false => none
  | .finite true _ _ => some .zero
  | .finite false m e =>
    let (num, den) := Binary64.scaled (m * nanosPerSecond) 1 (-e)
    Span.ofNanos? (roundDiv num den)

/-- The policy of given settings, unless the base delay is too long. -/
def RetrySettings.policy? (s : RetrySettings) : Option RetryPolicy :=
  (Span.ofBinary? s.baseDelay).map fun base => ⟨s.maxAttempts, base, .ofSeconds s.maxDelay⟩

end SteadyFetch
