import SteadyFetch.Fault
import SteadyFetch.Object.Request

set_option autoImplicit false

/-! # Openers

Where ranged reads come from. An opener opens a request and reads from what it opened, in a context
`m` of effects; a read fills the given destinations in order and returns what it put into them. -/

namespace SteadyFetch

/-- An open stream `σ`, and the generation that the service named with it. -/
structure Opened (σ : Type) where
  stream : σ
  generation : Option Int

/-- Opens ranged reads, in a context `m` of effects. -/
structure Opener (m : Type → Type) (σ : Type) where
  /-- Opens a request. The number is the generation that an earlier open of the same read found;
      where there is one, exactly it is to be read, unless the object names one itself. -/
  openAt : ReadRequest → Option Int → m (Except Fault (Opened σ))
  /-- Reads into destinations of the given sizes. No octets mean the end of the stream. -/
  read : σ → List Nat → m (Except IoFault Bytes × σ)

end SteadyFetch
