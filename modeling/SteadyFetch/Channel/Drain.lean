import SteadyFetch.Channel

set_option autoImplicit false

/-! # Reading a channel to its end

Ways of reading on until something ends the reading: `drain` with the channel's own reads, and the
reads of a plain stream of octets, where the end reads as no octets: `readExact` and `readToEnd`.
Octets that were read before a failure are kept. -/

namespace SteadyFetch

/-- What draining a channel gave. -/
structure Drained where
  /-- All octets, in order. -/
  octets : Bytes
  /-- The resolved objects that came with them. -/
  resolved : List ObjectRef
  /-- The failure that ended it, if one did. -/
  failure : Option ReadFailure
  deriving DecidableEq

/-- Why reading an exact number of octets failed. -/
inductive ExactFailure where
  /-- The channel's own failure. -/
  | read (failure : ReadFailure)
  /-- The stream ended before. -/
  | tooShort
  deriving DecidableEq

/-- The fault of a stream that ended before it gave the octets asked for. -/
def ExactFailure.shortFault : IoFault := .described .unexpectedEof "failed to fill whole buffer"

namespace Channel

variable {m : Type → Type} {σ : Type} [Monad m]

/-- Reads with destinations of one size until the end, a read without octets, or a failure. `got` and
    `resolved` hold what came so far, latest first. -/
def drainFrom (opener : Opener m σ) (adviser : Adviser m) (limit size : Nat) :
    Nat → Channel σ → (got : List Bytes) → (resolved : List ObjectRef) →
    m (Option (Drained × Channel σ))
  | 0, _, _, _ => return none
  | calls + 1, c, got, resolved => do
    match ← c.read opener adviser limit [size] with
    | none => return none
    | some (.error failure, c) =>
      return some (⟨got.reverse.flatten, resolved.reverse, some failure⟩, c)
    | some (.ok outcome, c) =>
      let resolved := outcome.resolved.toList ++ resolved
      match outcome.progress with
      | .endOfStream => return some (⟨got.reverse.flatten, resolved.reverse, none⟩, c)
      | .octets bs =>
        if bs.isEmpty then return some (⟨got.reverse.flatten, resolved.reverse, none⟩, c)
        else drainFrom opener adviser limit size calls c (bs :: got) resolved

/-- Reads with destinations of one size until the end, a read without octets, or a failure. -/
def drain (opener : Opener m σ) (adviser : Adviser m) (limit calls : Nat) (c : Channel σ)
    (size : Nat) : m (Option (Drained × Channel σ)) :=
  c.drainFrom opener adviser limit size calls [] []

/-! ## As a plain stream -/

/-- Reads once; the end of the stream reads as no octets. -/
def readOctets (opener : Opener m σ) (adviser : Adviser m) (limit : Nat) (c : Channel σ)
    (sizes : List Nat) : m (Option (Except ReadFailure Bytes × Channel σ)) := do
  match ← c.advance opener adviser limit sizes with
  | none => return none
  | some (.error failure, c) => return some (.error failure, c)
  | some (.ok (.octets bs), c) => return some (.ok bs, c)
  | some (.ok .endOfStream, c) => return some (.ok [], c)

/-- Reads until the missing octets are there. `got` holds what came so far, latest first. -/
def readExactFrom (opener : Opener m σ) (adviser : Adviser m) (limit : Nat) :
    Nat → Channel σ → (missing : Nat) → (got : List Bytes) →
    m (Option (Except ExactFailure Bytes × Channel σ))
  | 0, _, _, _ => return none
  | calls + 1, c, missing, got => do
    if missing = 0 then return some (.ok got.reverse.flatten, c)
    match ← c.readOctets opener adviser limit [missing] with
    | none => return none
    | some (.error failure, c) => return some (.error (.read failure), c)
    | some (.ok bs, c) =>
      if bs.isEmpty then return some (.error .tooShort, c)
      else readExactFrom opener adviser limit calls c (missing - bs.length) (bs :: got)

/-- Reads exactly `count` octets. -/
def readExact (opener : Opener m σ) (adviser : Adviser m) (limit calls : Nat) (c : Channel σ)
    (count : Nat) : m (Option (Except ExactFailure Bytes × Channel σ)) :=
  c.readExactFrom opener adviser limit calls count []

end Channel

/-! ## Reading everything into a growing buffer -/

/-- A buffer that grows as it is filled, and the greatest size of the next read. -/
structure GrowingBuffer where
  /-- Octets in it. -/
  length : Nat
  /-- Octets it has room for. -/
  capacity : Nat
  /-- The greatest size of a read. -/
  maxRead : Nat

namespace GrowingBuffer

/-- The size of a read that only looks whether there is anything at all. -/
def probe : Nat := 32

/-- The greatest size of the first reads. -/
def firstMaxRead : Nat := 8192

/-- The buffer after a probe: at least eight octets of room, or just enough. -/
def afterProbe (count : Nat) : GrowingBuffer := ⟨count, max count 8, firstMaxRead⟩

/-- Makes room where there is none: twice as much as before, or enough for a probe. -/
def grow (b : GrowingBuffer) : GrowingBuffer :=
  if b.length = b.capacity then { b with capacity := max (2 * b.capacity) (b.length + probe) }
  else b

/-- The size of the next read. -/
def readSize (b : GrowingBuffer) : Nat := min (b.capacity - b.length) b.maxRead

/-- The buffer after a read; a read that fills the greatest size doubles it. -/
def filled (b : GrowingBuffer) (count : Nat) : GrowingBuffer :=
  { b with
    length := b.length + count
    maxRead := if b.maxRead ≤ b.readSize ∧ count = b.readSize then 2 * b.maxRead else b.maxRead }

end GrowingBuffer

namespace Channel

variable {m : Type → Type} {σ : Type} [Monad m]

/-- Reads on into a growing buffer. `got` holds what came so far, latest first. -/
def readToEndFrom (opener : Opener m σ) (adviser : Adviser m) (limit : Nat) :
    Nat → Channel σ → GrowingBuffer → (got : List Bytes) →
    m (Option (Bytes × Option ReadFailure × Channel σ))
  | 0, _, _, _ => return none
  | calls + 1, c, buffer, got => do
    let buffer := buffer.grow
    match ← c.readOctets opener adviser limit [buffer.readSize] with
    | none => return none
    | some (.error failure, c) => return some (got.reverse.flatten, some failure, c)
    | some (.ok bs, c) =>
      if bs.isEmpty then return some (got.reverse.flatten, none, c)
      else readToEndFrom opener adviser limit calls c (buffer.filled bs.length) (bs :: got)

/-- Reads everything that is left: the octets, and the failure that ended it, if one did. -/
def readToEnd (opener : Opener m σ) (adviser : Adviser m) (limit calls : Nat) (c : Channel σ) :
    m (Option (Bytes × Option ReadFailure × Channel σ)) := do
  match ← c.readOctets opener adviser limit [GrowingBuffer.probe] with
  | none => return none
  | some (.error failure, c) => return some ([], some failure, c)
  | some (.ok bs, c) =>
    if bs.isEmpty then return some ([], none, c)
    else c.readToEndFrom opener adviser limit calls (.afterProbe bs.length) [bs]

end Channel

end SteadyFetch
