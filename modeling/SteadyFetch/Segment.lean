import SteadyFetch.Checksum.Hasher

set_option autoImplicit false

/-! # Segments

A list of buffers, read as one stretch of data, is cut into segments of at most a given size. All but
the last are full. A segment keeps the slices of the buffers it consists of: it is cut wherever a
buffer ends, and nowhere else. Every slice is hashed once, and a segment's checksum joins those of
its slices, so no octet is read twice. -/

namespace SteadyFetch

/-- One piece of data with its checksum. -/
structure Segment where
  /-- The slices it consists of, in order. -/
  parts : List Bytes
  /-- Its number of octets. -/
  length : Nat
  /-- The checksum of exactly its octets, unless a hasher declined. -/
  checksum : Option Checksum
  /-- Whether the length is a whole number of blocks. -/
  aligned : Bool
  deriving DecidableEq, Repr

namespace Segment

/-- The octets of a segment. -/
def bytes (s : Segment) : Bytes := s.parts.flatten

end Segment

/-! ## Cutting -/

/-- The number of octets in a list of buffers. -/
def totalLength : List Bytes → Nat
  | [] => 0
  | b :: buffers => b.length + totalLength buffers

/-- Cuts buffers into groups of slices. `part` holds the slices of the group under way, and `room`
    how many octets it can still take; every group holds `size` octets, the last one at most so
    many. -/
def cutFrom (size : Nat) (size_pos : 0 < size) (room : Nat) (room_pos : 0 < room)
    (part : List Bytes) : List Bytes → List (List Bytes)
  | [] => if part.isEmpty then [] else [part]
  | [] :: buffers => cutFrom size size_pos room room_pos part buffers
  | (b :: bs) :: buffers =>
    match (b :: bs).drop room with
    | [] =>
      if h : room ≤ (b :: bs).length then
        (part ++ [b :: bs]) :: cutFrom size size_pos size size_pos [] buffers
      else
        cutFrom size size_pos (room - (b :: bs).length) (Nat.sub_pos_of_lt (Nat.lt_of_not_le h))
          (part ++ [b :: bs]) buffers
    | _ :: _ =>
      (part ++ [(b :: bs).take room])
        :: cutFrom size size_pos size size_pos [] (((b :: bs).drop room) :: buffers)
termination_by buffers => totalLength buffers + buffers.length
decreasing_by
  all_goals simp only [totalLength, List.length_cons, List.length_nil, List.length_drop]
  all_goals omega

/-- Cuts buffers into groups of slices that hold `size` octets each, the last one at most so many. -/
def cut (size : Nat) (size_pos : 0 < size) (buffers : List Bytes) : List (List Bytes) :=
  cutFrom size size_pos size size_pos [] buffers

/-! ## Segmenters -/

/-- A size that is zero but must not be. -/
inductive SizeError where
  | maxSegmentSize
  | blockSize
  deriving DecidableEq, Repr

/-- The wording of each size error. -/
def SizeError.message : SizeError → String
  | .maxSegmentSize => "max_segment_size must be positive"
  | .blockSize => "block_size must be positive"

/-- Cuts data into segments of at most `maxSize` octets. -/
structure Segmenter (m : Type → Type) where
  hasher : Hasher m
  maxSize : Nat
  /-- Segments whose length is a multiple of this are aligned. -/
  blockSize : Nat
  maxSize_pos : 0 < maxSize
  blockSize_pos : 0 < blockSize

namespace Segmenter

variable {m : Type → Type}

/-- The block size where none is given. -/
def defaultBlockSize : Nat := 262144

/-- A segmenter, if both sizes are positive. -/
def make (hasher : Hasher m) (maxSize blockSize : Nat) : Except SizeError (Segmenter m) :=
  if hMax : 0 < maxSize then
    if hBlock : 0 < blockSize then .ok ⟨hasher, maxSize, blockSize, hMax, hBlock⟩
    else .error .blockSize
  else .error .maxSegmentSize

/-- The configuration for readers. -/
def text (s : Segmenter m) : String :=
  s!"ChunkSegmenter \x7b max_segment_size: {s.maxSize}, block_size: {s.blockSize}, .. \x7d"

variable [Monad m]

/-- Joins the checksum of what came before with those of further slices. From the first slice that
    is declined on there is no checksum, but every slice is still hashed. -/
def joinHashes (s : Segmenter m) (before : Option Checksum) : List Bytes → m (Option Checksum)
  | [] => pure before
  | part :: parts => do
    let own ← s.hasher.hash part
    let joined ← match before, own with
      | some a, some b => s.hasher.combine a b
      | _, _ => pure none
    s.joinHashes joined parts

/-- The checksum of slices that follow each other. -/
def hashParts (s : Segmenter m) : List Bytes → m (Option Checksum)
  | [] => pure none
  | part :: parts => do s.joinHashes (← s.hasher.hash part) parts

/-- A segment of given slices. -/
def segmentOf (s : Segmenter m) (parts : List Bytes) : m Segment := do
  let length := totalLength parts
  return ⟨parts, length, ← s.hashParts parts, length % s.blockSize == 0⟩

/-- The segments of all buffers together. -/
def segment (s : Segmenter m) (buffers : List Bytes) : m (List Segment) :=
  (cut s.maxSize s.maxSize_pos buffers).mapM s.segmentOf

/-- Segments `count` of the buffers, from the one at `offset` on, and empties them. None, if there
    are not so many buffers. -/
def segmentRange? (s : Segmenter m) (buffers : List Bytes) (offset count : Nat) :
    m (Option (List Segment × List Bytes)) :=
  if offset + count ≤ buffers.length then do
    let segments ← s.segment ((buffers.drop offset).take count)
    return some (segments,
      buffers.take offset ++ List.replicate count [] ++ buffers.drop (offset + count))
  else return none

/-- Segments of one range of buffers after the other, and the octets left in the buffers each time; a
    range that is out of bounds leaves the buffers as they are. -/
def segmentEach (s : Segmenter m) (buffers : List Bytes) :
    List (Nat × Nat) → m (List (Option (List Segment) × List Nat))
  | [] => return []
  | (offset, count) :: rest => do
    let (segments, buffers) := match ← s.segmentRange? buffers offset count with
      | some (segments, buffers) => (some segments, buffers)
      | none => (none, buffers)
    return (segments, buffers.map List.length) :: (← s.segmentEach buffers rest)

end Segmenter

end SteadyFetch
