import SteadyFetch.Object.ByteRange
import SteadyFetch.Object.Options
import SteadyFetch.Object.Ref

set_option autoImplicit false

/-! # Read requests

One logical download: which object, under which options, which octets. -/

namespace SteadyFetch

/-- Which octets of which object to read. -/
structure ReadRequest where
  object : ObjectRef
  options : ReadOptions
  range : ByteRange
  deriving DecidableEq

namespace ReadRequest

/-- The request with another start, or none if that is where it starts already. -/
def rebased? (r : ReadRequest) (start : Nat) : Option ReadRequest :=
  if start = r.range.start then none
  else some { r with range := r.range.startingAt start }

/-- The request for the octets from `start` on. -/
def startingAt (r : ReadRequest) (start : Nat) : ReadRequest := (r.rebased? start).getD r

/-- The request for readers. -/
def text (r : ReadRequest) : String := s!"{r.object.text} [{r.range.text}]"

end ReadRequest

end SteadyFetch
