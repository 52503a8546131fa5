import SteadyFetch.Proofs.Opening

set_option autoImplicit false

/-! # Ranges whose start is moved

A range is given as the whole object, as what follows an offset, or as what lies between two, and then its start
is moved from one offset to the next, forth or back. Only the last one of these counts, and the end stays where
it is (`ByteRange.startingAt_startingAt`, `ByteRange.covers_startingAt`). Where a range covers some offsets and
not all, its header names exactly these (`ByteRange.moved_chain`): the last offset that it names is the one
before the end, and the end of such a range lies after its start. -/

namespace SteadyFetch

namespace ByteRange

variable {r : ByteRange}

theorem ext_of {r r' : ByteRange} (hstart : r.start = r'.start) (hstop : r.stop? = r'.stop?) : r = r' := by
  cases r
  cases r'
  subst hstart hstop
  rfl

/-! ## Moving the start -/

theorem start_startingAt_eq (r : ByteRange) (start : Nat) :
    (r.startingAt start).start = (r.stop?.map (min start)).getD start := by
  unfold startingAt
  split
  · next stop hstop => rw [hstop]; rfl
  · next hstop => rw [hstop]; rfl

@[simp] theorem startingAt_startingAt (r : ByteRange) (before start : Nat) :
    (r.startingAt before).startingAt start = r.startingAt start := by
  apply ext_of
  · rw [start_startingAt_eq, start_startingAt_eq, stop?_startingAt]
  · simp only [stop?_startingAt]

/-- A range whose start is moved to where it is stays what it is, since no range starts past its end. -/
@[simp] theorem startingAt_start (r : ByteRange) : r.startingAt r.start = r := by
  apply ext_of
  · rw [start_startingAt_eq]
    cases hstop : r.stop? with
    | none => rfl
    | some stop => exact Nat.min_eq_left (r.start_le_stop stop hstop)
  · exact stop?_startingAt r r.start

theorem foldl_startingAt (r : ByteRange) (starts : List Nat) :
    starts.foldl startingAt r = (starts.getLast?.map r.startingAt).getD r := by
  induction starts generalizing r with
  | nil => rfl
  | cons start starts ih =>
      rw [List.foldl_cons, ih, List.getLast?_cons]
      cases starts.getLast? with
      | none => rfl
      | some last => exact startingAt_startingAt r start last

theorem getLast?_movedAlong (r : ByteRange) (starts : List Nat) :
    (r.movedAlong starts).getLast? = some (starts.foldl startingAt r) := by
  induction starts generalizing r with
  | nil => rfl
  | cons start starts ih => rw [movedAlong, List.getLast?_cons, ih, List.foldl_cons, Option.getD_some]

/-! ## What a range covers -/

/-- Whether the octet at an offset belongs to a range. -/
def Covers (r : ByteRange) (offset : Nat) : Prop :=
  r.start ≤ offset ∧ ∀ stop ∈ r.stop?, offset < stop

/-- A range that is moved covers what lies between its new start and its old end. -/
theorem covers_startingAt (r : ByteRange) (start offset : Nat) :
    (r.startingAt start).Covers offset ↔ start ≤ offset ∧ ∀ stop ∈ r.stop?, offset < stop := by
  rw [Covers, stop?_startingAt, start_startingAt_eq]
  cases r.stop? with
  | none => rfl
  | some stop =>
      simp only [Option.map_some, Option.getD_some, Option.mem_some, forall_eq']
      omega

theorem covers_all_iff : (∀ offset, r.Covers offset) ↔ r.start = 0 ∧ r.stop? = none := by
  constructor
  · intro hall
    refine ⟨Nat.le_zero.1 (hall 0).1, Option.eq_none_iff_forall_ne_some.2 ?_⟩
    intro stop hstop
    exact Nat.lt_irrefl stop ((hall stop).2 stop hstop)
  · rintro ⟨hstart, hstop⟩ offset
    simp [Covers, hstart, hstop]

theorem isEmpty_iff_covers : r.isEmpty = true ↔ ∀ offset, ¬r.Covers offset := by
  unfold isEmpty Covers
  cases r.stop? with
  | none =>
      simp only [Bool.false_eq_true, false_iff, not_forall]
      exact ⟨r.start, by simp⟩
  | some stop =>
      simp only [decide_eq_true_eq, Option.mem_some, forall_eq', not_and, not_lt]
      constructor
      · intro hempty offset hstart
        exact hempty.trans hstart
      · intro hnone
        exact hnone r.start (Nat.le_refl _)

/-! ## What a header names -/

/-- A range has no header if it covers every offset or none. -/
theorem header?_eq_none_iff :
    r.header? = none ↔ (∀ offset, r.Covers offset) ∨ ∀ offset, ¬r.Covers offset := by
  rw [covers_all_iff, ← isEmpty_iff_covers]
  unfold header? isEmpty
  cases r.stop? with
  | none => simp
  | some stop => simp

theorem header?_eq_some {value : String} (h : r.header? = some value) :
    ∃ last, r.stop? = last.map (· + 1) ∧ HttpRequest.readSpan? value.toList = some (r.start, last) ∧
      value = match last with
        | none => s!"bytes={r.start}-"
        | some last => s!"bytes={r.start}-{last}" := by
  have hread := readSpan?_header r
  rw [h, Option.bind_some] at hread
  have hsome : r.header? ≠ none := by simp [h]
  unfold header? at h
  unfold span? at hread
  cases hstop : r.stop? with
  | none =>
      simp only [hstop, Option.ite_none_left_eq_some, Option.some.injEq] at h
      refine ⟨none, rfl, ?_, h.2.symm⟩
      rw [hread, hstop]
      simp only [h.1, if_false]
  | some stop =>
      simp only [hstop, Option.ite_none_left_eq_some, Option.some.injEq] at h
      have hlater : r.start < stop := by
        have hempty := h.1
        simpa [isEmpty, hstop] using hempty
      refine ⟨some (stop - 1), ?_, ?_, h.2.symm⟩
      · rw [Option.map_some, Nat.sub_add_cancel (Nat.one_le_of_lt hlater)]
      · rw [hread, hstop]
        simp [h.1]

/-! ## Ranges as they are given -/

/-- How a range is given in the first place. -/
inductive Origin where
  | all
  | onward (start : Nat)
  | bounded (start stop : Nat)

namespace Origin

/-- The range that is given. -/
def range : Origin → ByteRange
  | all => .all
  | onward start => .onward start
  | bounded start stop => .bounded start stop

/-- The offsets that it is given by. -/
def offsets : Origin → List Nat
  | all => []
  | onward start => [start]
  | bounded start stop => [start, stop]

/-- The range after its start was moved from one place to the next. -/
def moved (origin : Origin) (starts : List Nat) : ByteRange := starts.foldl startingAt origin.range

end Origin

/-- Whether the offsets of a range can be kept in words of sixty-four bits. -/
def IsKept (r : ByteRange) : Prop := r.start < Word.limit64 ∧ ∀ stop ∈ r.stop?, stop < Word.limit64

theorem isKept_range {origin : Origin} (h : ∀ n ∈ origin.offsets, n < Word.limit64) :
    origin.range.IsKept := by
  cases origin with
  | all => exact ⟨show 0 < Word.limit64 by decide, nofun⟩
  | onward start => exact ⟨h start List.mem_cons_self, nofun⟩
  | bounded start stop =>
      have hstart : start < Word.limit64 := h start (by simp [Origin.offsets])
      have hstop : stop < Word.limit64 := h stop (by simp [Origin.offsets])
      refine ⟨hstart, ?_⟩
      simp only [Origin.range, stop?_bounded, Option.mem_some, forall_eq']
      exact Nat.max_lt.2 ⟨hstop, hstart⟩

theorem IsKept.startingAt (h : r.IsKept) {start : Nat} (hstart : start < Word.limit64) :
    (r.startingAt start).IsKept := by
  refine ⟨?_, by rw [stop?_startingAt]; exact h.2⟩
  rw [start_startingAt_eq]
  cases r.stop? with
  | none => exact hstart
  | some stop => exact Nat.lt_of_le_of_lt (Nat.min_le_left _ _) hstart

end ByteRange

/-- A request that is moved is the request for the range that is moved, be it made anew or not. -/
theorem ReadRequest.startingAt_eq_mk (r : ReadRequest) (start : Nat) :
    r.startingAt start = ⟨r.object, r.options, r.range.startingAt start⟩ := by
  unfold startingAt rebased?
  by_cases hsame : start = r.range.start
  · rw [if_pos hsame, hsame, ByteRange.startingAt_start]
    rfl
  · rw [if_neg hsame]
    rfl

namespace ByteRange

/-- However often the start of a range is moved, only the last place counts, and the end stays. What is covered
    lies from that place on and before the end. There is no header for a range that covers all offsets or
    none; any other header is read back as the start and as the offset before the end, if there is an end.
    Offsets of sixty-four bits give ranges of sixty-four bits, and a request that is moved is always the one
    for the range that is moved. -/
theorem moved_chain (origin : Origin) (starts : List Nat) :
    ((origin.range.movedAlong starts).getLast? = some (origin.moved starts) ∧
        origin.moved starts = (starts.getLast?.map origin.range.startingAt).getD origin.range) ∧
      ((origin.moved starts).stop? = origin.range.stop? ∧
        ∀ stop ∈ (origin.moved starts).stop?, (origin.moved starts).start ≤ stop) ∧
      (∀ start ∈ starts.getLast?, ∀ offset, (origin.moved starts).Covers offset ↔
        start ≤ offset ∧ ∀ stop ∈ origin.range.stop?, offset < stop) ∧
      ((origin.moved starts).header? = none ↔
        (∀ offset, (origin.moved starts).Covers offset) ∨ ∀ offset, ¬(origin.moved starts).Covers offset) ∧
      (∀ value ∈ (origin.moved starts).header?, ∃ last, (origin.moved starts).stop? = last.map (· + 1) ∧
        HttpRequest.readSpan? value.toList = some ((origin.moved starts).start, last) ∧
        value = match last with
          | none => s!"bytes={(origin.moved starts).start}-"
          | some last => s!"bytes={(origin.moved starts).start}-{last}") ∧
      ((∀ n ∈ origin.offsets ++ starts, n < Word.limit64) → (origin.moved starts).IsKept) ∧
      ∀ object options start, ReadRequest.startingAt ⟨object, options, origin.moved starts⟩ start
        = ⟨object, options, (origin.moved starts).startingAt start⟩ := by
  have hlast : origin.moved starts = (starts.getLast?.map origin.range.startingAt).getD origin.range :=
    foldl_startingAt origin.range starts
  have hstop : (origin.moved starts).stop? = origin.range.stop? := by
    rw [hlast]
    cases starts.getLast? with
    | none => rfl
    | some start => exact stop?_startingAt origin.range start
  refine ⟨⟨getLast?_movedAlong origin.range starts, hlast⟩, ⟨hstop, (origin.moved starts).start_le_stop⟩, ?_,
    header?_eq_none_iff, fun value hvalue => header?_eq_some hvalue, ?_, ?_⟩
  · intro start hstart offset
    rw [hlast, Option.mem_def.1 hstart]
    exact covers_startingAt origin.range start offset
  · intro hwords
    rw [List.forall_mem_append] at hwords
    have hkept := isKept_range hwords.1
    rw [hlast]
    cases hstart : starts.getLast? with
    | none => exact hkept
    | some start => exact hkept.startingAt (hwords.2 start (List.mem_of_getLast? hstart))
  · intro object options start
    exact ReadRequest.startingAt_eq_mk _ start

end ByteRange

end SteadyFetch
