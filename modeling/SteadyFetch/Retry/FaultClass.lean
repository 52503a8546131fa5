import SteadyFetch.Fault
import SteadyFetch.Text.Search

set_option autoImplicit false

/-! # Classes of faults

What retrying has to know of a fault. The strict class looks at status, transfer code and I/O kind
alone; `widened` also reads the message of an I/O fault that is otherwise unremarkable. -/

namespace SteadyFetch

/-- What retrying has to know of a fault. -/
inductive FaultClass where
  /-- Connecting or reading took too long. -/
  | timeout
  /-- The service asks for patience. -/
  | throttled
  /-- The connection failed, or closed before the body was complete. -/
  | connection
  /-- The service failed with this status. -/
  | serverError (status : Nat)
  /-- Anything else; never worth another attempt. -/
  | other
  deriving DecidableEq, Repr

namespace FaultClass

/-- Whether another attempt may go better. -/
def isTransient : FaultClass → Bool
  | .other => false
  | _ => true

/-- The class for readers. -/
def text : FaultClass → String
  | .timeout => "Timeout"
  | .throttled => "Throttled"
  | .connection => "Connection"
  | .serverError status => s!"Http5xx({status})"
  | .other => "Other"

/-- The class of a status. -/
def ofStatus (status : Nat) : FaultClass :=
  if status = 408 then .timeout
  else if status = 429 ∨ status = 503 then .throttled
  else if 500 ≤ status ∧ status ≤ 599 then .serverError status
  else .other

/-- Transfer codes that mean a failed or dropped connection. -/
def connectionCodes : List TransferCode :=
  [.couldNotConnect, .couldNotResolveHost, .couldNotResolveProxy, .readFailed, .receiveFailed,
    .sendFailed, .nothingReceived, .partialBody]

/-- The class of a failed transfer. -/
def ofTransfer (code : TransferCode) : FaultClass :=
  if code = .timedOut then .timeout
  else if code ∈ connectionCodes then .connection
  else .other

/-- The class of a kind of I/O failure. -/
def ofIoKind : IoKind → FaultClass
  | .timedOut | .wouldBlock => .timeout
  | .connectionReset | .connectionAborted | .connectionRefused | .notConnected | .brokenPipe
  | .unexpectedEof => .connection
  | _ => .other

end FaultClass

/-! ## Reading messages -/

/-- Wordings that tell of a dropped connection. -/
def connectionHints : List String :=
  ["connection reset", "connection closed", "closed prematurely", "broken pipe", "unexpected eof",
    "unexpected end of file"]

/-- The wording that tells of a timeout. -/
def timeoutHint : String := "timed out"

/-- What the wording of an I/O fault tells, in any case of its ASCII letters. -/
def hintedClass (message : String) : FaultClass :=
  let lowered := lowerAscii message.toList
  if connectionHints.any fun hint => occursIn hint.toList lowered then .connection
  else if occursIn timeoutHint.toList lowered then .timeout
  else .other

namespace Fault

/-- The strict class of a fault. -/
def faultClass : Fault → FaultClass
  | .io fault => .ofIoKind fault.kind
  | .status code _ => .ofStatus code
  | .transfer code => .ofTransfer code
  | .other _ => .other

/-- The class of a fault, where an I/O fault without a class of its own is judged by its wording. -/
def widenedClass (f : Fault) : FaultClass :=
  match f.faultClass, f with
  | .other, .io fault => hintedClass fault.text
  | strict, _ => strict

end Fault

end SteadyFetch
