import SteadyFetch.Channel.Opener
import SteadyFetch.Retry.Adviser
import SteadyFetch.Word

set_option autoImplicit false

/-! # Read channels

A channel makes one logical stream of octets out of a series of ranged reads. When the transport
fails, the broken stream is dropped and another one is opened at the next unread offset, pinned to the
generation that the first response named, for as long as the adviser allows. If the generation is gone
or another one is served, the channel is broken for good.

`turn` is one step of a read: open if need be, read once, and judge what came of it. `rounds` repeats
it until the read is settled. How many turns that takes is up to opener and adviser, so the number of
turns is limited from outside; a read that is not settled by then has no result. -/

namespace SteadyFetch

/-- A logical read of one generation of an object. -/
structure Channel (σ : Type) where
  request : ReadRequest
  /-- Offset of the next octet to deliver. -/
  position : Nat
  /-- The stream under way. -/
  stream : Option σ
  /-- Whether neither the end was reached nor the channel closed. -/
  isOpen : Bool
  /-- The generation that the first response to name one has named. -/
  generation : Option Int
  /-- The object at that generation, until it is handed out. -/
  unreported : Option ObjectRef
  /-- Why the read cannot go on, once it cannot. -/
  broken : Option ResumptionReason
  /-- Failed attempts since octets were last delivered. -/
  failures : Nat

/-- How far a read got. -/
inductive Progress where
  /-- These octets were delivered. -/
  | octets (bs : Bytes)
  /-- There are no more. -/
  | endOfStream
  deriving DecidableEq, Repr

/-- What a read call returns. -/
structure Outcome where
  progress : Progress
  /-- The object at the generation that is read, once. -/
  resolved : Option ObjectRef
  deriving DecidableEq, Repr

namespace Channel

variable {m : Type → Type} {σ : Type}

/-- A channel that has not opened anything yet. -/
def start (request : ReadRequest) : Channel σ :=
  ⟨request, request.range.start, none, true, none, none, none, 0⟩

/-- Drops the stream; there is nothing more to read. -/
def close (c : Channel σ) : Channel σ := { c with isOpen := false, stream := none }

/-- Takes the resolved object, if it was not handed out yet. -/
def takeResolved (c : Channel σ) : Option ObjectRef × Channel σ :=
  (c.unreported, { c with unreported := none })

/-- Whether a bounded range is read to its end. -/
def isExhausted (c : Channel σ) : Bool :=
  match c.request.range.stop? with
  | some stop => stop ≤ c.position
  | none => false

/-- The failure of a channel that is broken for the given reason: it names the generation read. -/
def resumptionFailure (c : Channel σ) (reason : ResumptionReason) : ReadFailure :=
  match c.generation with
  | some g => .resumption (c.request.object.atGeneration g) reason
  | none => .resumption c.request.object reason

/-- The greatest count of failures; counting stops there. -/
def maxFailures : Nat := Word.limit32 - 1

/-! ## One turn -/

/-- What came of one turn. -/
inductive Turn (σ : Type) where
  /-- The read is over. -/
  | settled (result : Except ReadFailure Progress) (channel : Channel σ)
  /-- Another turn is due. -/
  | again (channel : Channel σ)

/-- The channel cannot go on with its generation. -/
def breakOff (c : Channel σ) (reason : ResumptionReason) : Turn σ :=
  .settled (.error (c.resumptionFailure reason)) { c with stream := none, broken := some reason }

/-- The channel after octets were delivered. -/
def deliver (c : Channel σ) (stream : σ) (bs : Bytes) : Turn σ :=
  if bs.isEmpty then .settled (.ok .endOfStream) c.close
  else .settled (.ok (.octets bs))
    { c with stream := some stream, position := c.position + bs.length, failures := 0 }

/-- Takes up the generation that a response names: the first one is kept and becomes the resolved
    object; another one later breaks the channel. -/
def settleGeneration (c : Channel σ) (observed : Option Int) :
    Except ResumptionReason (Channel σ) :=
  match c.generation, observed with
  | none, some g =>
    .ok { c with generation := some g, unreported := some (c.request.object.atGeneration g) }
  | some pinned, some g => if pinned = g then .ok c else .error (.generationChanged g)
  | _, none => .ok c

variable [Monad m]

/-- A failed attempt: the stream is dropped and the adviser asked, first about the fault, then, for a
    fault of the protocol, about the failure it becomes. -/
def recover (adviser : Adviser m) (c : Channel σ) (fault : Fault) : m (Turn σ) := do
  let attempt := min (c.failures + 1) maxFailures
  let c := { c with stream := none, failures := attempt }
  match ← adviser.advise attempt (.raw fault) with
  | some delay =>
    adviser.pause delay
    return .again c
  | none =>
    let failure := fault.readFailure
    if fault.isProtocol then
      match ← adviser.advise attempt (.classified failure) with
      | some delay =>
        adviser.pause delay
        return .again c
      | none => return .settled (.error failure) c
    else return .settled (.error failure) c

/-- Reads once from an open stream. An interrupted read is taken up again. -/
def readStream (opener : Opener m σ) (adviser : Adviser m) (c : Channel σ) (stream : σ)
    (sizes : List Nat) : m (Turn σ) := do
  let (result, stream) ← opener.read stream sizes
  match result with
  | .ok bs => return c.deliver stream bs
  | .error fault =>
    if fault.kind = .interrupted then return .again { c with stream := some stream }
    else recover adviser c (.io fault)

/-- Opens a stream at the position of the channel and reads once from it. -/
def openAndRead (opener : Opener m σ) (adviser : Adviser m) (c : Channel σ) (sizes : List Nat) :
    m (Turn σ) := do
  match ← opener.openAt (c.request.startingAt c.position) c.generation with
  | .error fault =>
    if c.generation.isSome && fault.isNotFound then return c.breakOff .notFound
    else recover adviser c fault
  | .ok opened =>
    match c.settleGeneration opened.generation with
    | .error reason => return c.breakOff reason
    | .ok c => readStream opener adviser c opened.stream sizes

/-- One turn: reads from the stream under way, or from a new one. -/
def turn (opener : Opener m σ) (adviser : Adviser m) (c : Channel σ) (sizes : List Nat) :
    m (Turn σ) :=
  match c.stream with
  | some stream => readStream opener adviser c stream sizes
  | none => openAndRead opener adviser c sizes

/-! ## Reading -/

/-- At most so many turns; none if the read is not settled by then. -/
def rounds (opener : Opener m σ) (adviser : Adviser m) :
    Nat → Channel σ → List Nat → m (Option (Except ReadFailure Progress × Channel σ))
  | 0, _, _ => return none
  | limit + 1, c, sizes => do
    match ← c.turn opener adviser sizes with
    | .settled result c => return some (result, c)
    | .again c => rounds opener adviser limit c sizes

/-- Reads into destinations of the given sizes, without looking at the resolved object. -/
def advance (opener : Opener m σ) (adviser : Adviser m) (limit : Nat) (c : Channel σ)
    (sizes : List Nat) : m (Option (Except ReadFailure Progress × Channel σ)) :=
  match c.broken with
  | some reason => return some (.error (c.resumptionFailure reason), c)
  | none =>
    if !c.isOpen then return some (.ok .endOfStream, c)
    else if c.isExhausted then return some (.ok .endOfStream, c.close)
    else if sizes.all (· == 0) then return some (.ok (.octets []), c)
    else rounds opener adviser limit c sizes

/-- Reads into destinations of the given sizes. The resolved object comes with the first call that
    succeeds after it is known. -/
def read (opener : Opener m σ) (adviser : Adviser m) (limit : Nat) (c : Channel σ)
    (sizes : List Nat) : m (Option (Except ReadFailure Outcome × Channel σ)) := do
  match ← c.advance opener adviser limit sizes with
  | none => return none
  | some (.error failure, c) => return some (.error failure, c)
  | some (.ok progress, c) =>
    let (resolved, c) := c.takeResolved
    return some (.ok ⟨progress, resolved⟩, c)

end Channel

end SteadyFetch
