import SteadyFetch.Bytes
import SteadyFetch.Fault

set_option autoImplicit false

/-! # Response bodies

A transfer hands over a response as frames: its head, chunks of its body, and how it ended. A
`BodyStream` is read in pieces of any size. It gives the octets of the body in order, then the end or,
once, the fault that ended the transfer, and no octets from then on. A transfer that goes away
without saying how it ended counts as a fault. -/

namespace SteadyFetch

/-- One step of a transfer. -/
inductive Frame where
  /-- The response head. -/
  | head (status : Nat) (lines : List String)
  /-- A chunk of the body. -/
  | body (bs : Bytes)
  /-- The end of the transfer, and its failure if it failed. -/
  | done (failure : Option TransferCode)
  deriving DecidableEq

/-- The body of one response. -/
structure BodyStream where
  /-- The frames still to come. -/
  frames : List Frame
  /-- What is left of the chunk under way. -/
  chunk : Bytes
  /-- Whether the transfer has ended. -/
  finished : Bool
  /-- Whether the transfer was told to stop. -/
  cancelled : Bool

namespace BodyStream

/-- A body that consists of frames. -/
def ofFrames (frames : List Frame) : BodyStream := ⟨frames, [], false, false⟩

/-- A body without octets that ends well. -/
def empty : BodyStream := ⟨[], [], true, false⟩

/-- Gives up the stream, which tells its transfer to stop. -/
def abandon (s : BodyStream) : BodyStream := { s with cancelled := true }

/-- The fault of a transfer that goes away without saying how it ended. -/
def vanished : IoFault := .described .unexpectedEof "transfer ended without completing"

/-- The first piece of a chunk. -/
def give (s : BodyStream) (size : Nat) (chunk : Bytes) (frames : List Frame) :
    Except IoFault Bytes × BodyStream :=
  (.ok (chunk.take size), { s with frames := frames, chunk := chunk.drop size })

/-- Reads from the frames: up to the next chunk that is not empty, or the end. -/
def pull (s : BodyStream) (size : Nat) : List Frame → Except IoFault Bytes × BodyStream
  | [] => (.error vanished, { s with frames := [], chunk := [], finished := true })
  | .head _ _ :: frames => s.pull size frames
  | .body bs :: frames => if bs.isEmpty then s.pull size frames else s.give size bs frames
  | .done none :: frames => (.ok [], { s with frames := frames, chunk := [], finished := true })
  | .done (some code) :: frames =>
    (.error (.transfer code), { s with frames := frames, chunk := [], finished := true })

/-- Reads into a destination of the given size; an empty one takes nothing and changes nothing. -/
def read (s : BodyStream) (size : Nat) : Except IoFault Bytes × BodyStream :=
  if size = 0 then (.ok [], s)
  else if !s.chunk.isEmpty then s.give size s.chunk s.frames
  else if s.finished then (.ok [], s)
  else s.pull size s.frames

/-- Reads into several destinations; only the first that is not empty is filled. -/
def readInto (s : BodyStream) (sizes : List Nat) : Except IoFault Bytes × BodyStream :=
  s.read ((sizes.find? (0 < ·)).getD 0)

/-- Reads one after the other, each into destinations of its own. -/
def readEach (s : BodyStream) : List (List Nat) → List (Except IoFault Bytes) × BodyStream
  | [] => ([], s)
  | sizes :: rest =>
    let (result, s) := s.readInto sizes
    let (results, s) := s.readEach rest
    (result :: results, s)

end BodyStream

end SteadyFetch
