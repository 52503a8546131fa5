import SteadyFetch.Retry.FaultClass
import SteadyFetch.Retry.Span

set_option autoImplicit false

/-! # Retry policies

Capped exponential backoff: the delay doubles with every failure in a row, at most eight times, and
never exceeds a maximum. -/

namespace SteadyFetch

/-- How often and how soon to try again. -/
structure RetryPolicy where
  /-- Attempts allowed in a row, the first included. -/
  maxAttempts : Nat
  /-- The delay after the first failure. -/
  baseDelay : Span
  /-- The longest delay. -/
  maxDelay : Span
  deriving DecidableEq, Repr

namespace RetryPolicy

/-- Five attempts, a quarter of a second at first, half a minute at most. -/
def default : RetryPolicy := ⟨5, .saturating 250000000, .ofSeconds 30⟩

/-- Attempts without delay. -/
def immediate (maxAttempts : Nat) : RetryPolicy := ⟨maxAttempts, .zero, .zero⟩

/-- The factor of the base delay after the given number of failures in a row. -/
def factor (attempt : Nat) : Nat := Nat.pow 2 (min (attempt - 1) 8)

/-- The delay before another attempt after the `attempt`-th failure in a row, or none if there shall
    be no other. -/
def decide (p : RetryPolicy) (attempt : Nat) (faultClass : FaultClass) : Option Span :=
  if p.maxAttempts ≤ attempt ∨ faultClass.isTransient = false then none
  else some ((p.baseDelay.scale (factor attempt)).shorter p.maxDelay)

end RetryPolicy

end SteadyFetch
