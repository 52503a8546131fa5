import SteadyFetch.Object.Ref
import SteadyFetch.Retry.FaultClass

set_option autoImplicit false

/-! # Failed reads

What a reader is told when a read fails: a failure of the transport with its class, a read that
cannot go on with the same generation, or anything else. The fault behind it stays with it. -/

namespace SteadyFetch

/-- Why a read cannot go on with the generation it began with. -/
inductive ResumptionReason where
  /-- The generation is gone. -/
  | notFound
  /-- The service served another generation. -/
  | generationChanged (observed : Int)
  deriving DecidableEq, Repr

/-- The reason for readers. -/
def ResumptionReason.text : ResumptionReason → String
  | .notFound => "generation not found"
  | .generationChanged observed => s!"service returned generation {observed}"

/-- Why a read failed. -/
inductive ReadFailure where
  /-- The transport failed; retries, if any, are used up. -/
  | transport (faultClass : FaultClass) (source : Fault)
  /-- The object changed or vanished under the read. -/
  | resumption (object : ObjectRef) (reason : ResumptionReason)
  /-- The request could not be made. -/
  | other (source : Fault)
  deriving DecidableEq, Repr

namespace ReadFailure

/-- The class of a failed read; only the transport's failures can be transient. -/
def faultClass : ReadFailure → FaultClass
  | .transport faultClass _ => faultClass
  | _ => .other

/-- Whether the object changed or vanished under the read. -/
def isResumption : ReadFailure → Bool
  | .resumption _ _ => true
  | _ => false

/-- The fault behind a failed read. -/
def source? : ReadFailure → Option Fault
  | .transport _ source => some source
  | .resumption _ _ => none
  | .other source => some source

/-- The failed read for readers. -/
def text : ReadFailure → String
  | .transport faultClass source => s!"transport failure ({faultClass.text}): {source.text}"
  | .resumption object reason =>
    s!"failure while trying to resume download of {object.text}: {reason.text}"
  | .other source => s!"read failed: {source.text}"

end ReadFailure

/-- What a reader is told about a fault. -/
def Fault.readFailure (f : Fault) : ReadFailure :=
  if f.isProtocol then .transport f.widenedClass f else .other f

end SteadyFetch
