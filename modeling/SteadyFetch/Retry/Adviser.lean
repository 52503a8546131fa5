import SteadyFetch.Retry.Policy
import SteadyFetch.Retry.ReadFailure

set_option autoImplicit false

/-! # Advice on retrying

A read channel does not decide itself whether a failure is worth another attempt: it asks an
`Adviser`. A fault of the protocol is put to it twice: first as it came, then, if declined, as the
failed read it would become. -/

namespace SteadyFetch

/-- A failure that is put to an adviser. -/
inductive Candidate where
  /-- A fault as it came from the transport. -/
  | raw (fault : Fault)
  /-- The failed read that a fault would become. -/
  | classified (failure : ReadFailure)
  deriving DecidableEq, Repr

/-- The class an adviser sees. -/
def Candidate.faultClass : Candidate → FaultClass
  | .raw fault => fault.faultClass
  | .classified failure => failure.faultClass

/-- Decides on further attempts, in a context `m` of effects. -/
structure Adviser (m : Type → Type) where
  /-- The delay before another attempt, or none; the number counts failures in a row from one. -/
  advise : Nat → Candidate → m (Option Span)
  /-- Lets a delay pass. -/
  pause : Span → m Unit

/-- Asks a policy; `pause` says how a delay passes. -/
def RetryPolicy.adviser {m : Type → Type} [Monad m] (p : RetryPolicy) (pause : Span → m Unit) :
    Adviser m where
  advise attempt candidate := pure (p.decide attempt candidate.faultClass)
  pause := pause

end SteadyFetch
