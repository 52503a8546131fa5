set_option autoImplicit false

/-! # Byte ranges

A range starts somewhere and either has an exclusive end or runs to the end of the object. The end
never lies before the start: that is part of the type. Moving the start keeps the end, so a read can
be taken up again where it stopped. -/

namespace SteadyFetch

/-- The octets from `start` on, up to `stop?` if there is one. -/
structure ByteRange where
  /-- Offset of the first octet. -/
  start : Nat
  /-- Offset after the last octet; none for the end of the object. -/
  stop? : Option Nat
  /-- The end does not lie before the start. -/
  start_le_stop : ∀ stop ∈ stop?, start ≤ stop
  deriving DecidableEq, Repr

namespace ByteRange

/-- The whole object. -/
def all : ByteRange := ⟨0, none, by simp⟩

/-- From `start` to the end of the object. -/
def onward (start : Nat) : ByteRange := ⟨start, none, by simp⟩

/-- From `start` up to `stop`; empty if `stop` lies before `start`. -/
def bounded (start stop : Nat) : ByteRange :=
  ⟨start, some (max stop start), by rintro _ ⟨⟩; exact Nat.le_max_right ..⟩

/-- Whether a bounded range has no octets. -/
def isEmpty (r : ByteRange) : Bool :=
  match r.stop? with
  | some stop => stop ≤ r.start
  | none => false

/-- The same end with another start; a start past the end makes the range empty. -/
def startingAt (r : ByteRange) (start : Nat) : ByteRange :=
  match r.stop? with
  | some stop => bounded (min start stop) stop
  | none => onward start

/-- A range and what it becomes as its start moves to one place after the other. -/
def movedAlong (r : ByteRange) : List Nat → List ByteRange
  | [] => [r]
  | start :: rest => r :: (r.startingAt start).movedAlong rest

/-- The value of the `Range` header, whose end is inclusive. The whole object and empty ranges have
    none. -/
def header? (r : ByteRange) : Option String :=
  match r.stop? with
  | none => if r.start = 0 then none else some s!"bytes={r.start}-"
  | some stop => if r.isEmpty then none else some s!"bytes={r.start}-{stop - 1}"

/-- The range for readers, with an exclusive end. -/
def text (r : ByteRange) : String :=
  match r.stop? with
  | none => s!"bytes={r.start}-"
  | some stop => s!"bytes={r.start}-{stop}"

@[simp] theorem stop?_bounded (a b : Nat) : (bounded a b).stop? = some (max b a) := rfl

@[simp] theorem stop?_startingAt (r : ByteRange) (n : Nat) :
    (r.startingAt n).stop? = r.stop? := by
  unfold startingAt
  split
  · next h => rw [h, stop?_bounded, Nat.max_eq_left (Nat.min_le_right ..)]
  · next h => simp [onward, h]

end ByteRange

end SteadyFetch
