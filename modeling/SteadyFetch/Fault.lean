import SteadyFetch.Fault.TransferCode
import SteadyFetch.Text.Blank

set_option autoImplicit false

/-! # Faults

Why an open or a read of an object failed, before anyone decides what to do about it. A fault is a
failed I/O operation, an answer with a status other than success, a failed transfer, or something
that has nothing to do with the protocol at all. -/

namespace SteadyFetch

/-- A failed operation on a file or a stream. -/
inductive IoFault where
  /-- A failure with a message of its own. -/
  | described (kind : IoKind) (message : String)
  /-- A failure of which only the kind is known. -/
  | bare (kind : IoKind)
  /-- A failure that the system reports by number. -/
  | system (number : Nat)
  /-- A transfer that failed while its body was read. -/
  | transfer (code : TransferCode)
  deriving DecidableEq, Repr

namespace IoFault

/-- The kind of the failure. -/
def kind : IoFault → IoKind
  | .described kind _ => kind
  | .bare kind => kind
  | .system number => .ofSystem number
  | .transfer code => code.ioKind

/-- The failure for readers. -/
def text : IoFault → String
  | .described _ message => message
  | .bare kind => kind.description
  | .system number => s!"{systemErrorText number} (os error {number})"
  | .transfer code => code.text

end IoFault

/-- Why an open or a read failed. -/
inductive Fault where
  /-- A stream or the system failed. -/
  | io (fault : IoFault)
  /-- The service answered with this status. -/
  | status (code : Nat) (message : String)
  /-- The transfer failed. -/
  | transfer (code : TransferCode)
  /-- The request could not be made, or broke off for reasons outside the protocol. -/
  | other (message : String)
  deriving DecidableEq, Repr

namespace Fault

/-- Whether the fault is one of the protocol or the network. -/
def isProtocol : Fault → Bool
  | .other _ => false
  | _ => true

/-- The status the service answered with, if that is the fault. -/
def status? : Fault → Option Nat
  | .status code _ => some code
  | _ => none

/-- Whether the service says that there is no such object. -/
def isNotFound (f : Fault) : Bool := f.status? == some 404

/-- The fault for readers. -/
def text : Fault → String
  | .io fault => fault.text
  | .status code message => s!"HTTP {code}: {message}"
  | .transfer code => code.text
  | .other message => message

end Fault

end SteadyFetch
