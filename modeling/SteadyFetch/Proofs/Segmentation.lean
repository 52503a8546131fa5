import Mathlib.Tactic.ByContra
import SteadyFetch.Segment
import SteadyFetch.Proofs.After

set_option autoImplicit false

/-! # What segmenting produces

`Bytes.pieces` is what cutting is meant to be: consecutive pieces of one size, as long as there is
something left. It looks at the octets alone, while `cutFrom` goes from buffer to buffer. Both agree
(`map_flatten_cut`): the loop keeps a group that is not full, so the group and the rest of the buffers
together are what is still to be cut.

Segments take their octets from the groups, so a hasher has no say in where they end. The main
statement (`segmentRange_cuts`) follows the buffers through any sequence of calls: what a call finds in
its range is what no earlier call took. -/

namespace SteadyFetch

/-! ## Pieces of a stretch of octets -/

/-- Consecutive pieces of `size` octets, the last one at most so many. -/
def Bytes.pieces (size : Nat) (bs : Bytes) : List Bytes :=
  if _h : bs = [] ∨ size = 0 then [] else bs.take size :: Bytes.pieces size (bs.drop size)
termination_by bs.length
decreasing_by
  have hlength : 0 < bs.length := List.length_pos_iff.2 fun he => _h (Or.inl he)
  simp only [List.length_drop]
  omega

namespace Bytes

variable {size : Nat} {bs : Bytes}

@[simp] theorem pieces_nil : pieces size [] = [] := by
  rw [pieces, dif_pos (Or.inl rfl)]

theorem pieces_of_ne_nil (hsize : 0 < size) (h : bs ≠ []) :
    pieces size bs = bs.take size :: pieces size (bs.drop size) := by
  rw [pieces, dif_neg]
  rintro (he | he)
  · exact h he
  · omega

theorem pieces_append {full : Bytes} (hsize : 0 < size) (h : full.length = size) (bs : Bytes) :
    pieces size (full ++ bs) = full :: pieces size bs := by
  have hne : full ++ bs ≠ [] := by
    intro he
    simp only [List.append_eq_nil_iff] at he
    rw [he.1, List.length_nil] at h
    omega
  rw [pieces_of_ne_nil hsize hne, List.take_left' h, List.drop_left' h]

theorem pieces_of_length_le (hsize : 0 < size) (h : bs ≠ []) (hle : bs.length ≤ size) :
    pieces size bs = [bs] := by
  rw [pieces_of_ne_nil hsize h, List.take_of_length_le hle, List.drop_of_length_le hle, pieces_nil]

/-- Cutting drops nothing and adds nothing. -/
theorem flatten_pieces (hsize : 0 < size) (bs : Bytes) : (pieces size bs).flatten = bs := by
  fun_induction pieces size bs with
  | case1 bs h =>
      rcases h with h | h
      · exact h.symm
      · omega
  | case2 bs h ih => rw [List.flatten_cons, ih, List.take_append_drop]

theorem length_of_mem_pieces {p : Bytes} (hp : p ∈ pieces size bs) :
    1 ≤ p.length ∧ p.length ≤ size := by
  fun_induction pieces size bs with
  | case1 bs h => simp at hp
  | case2 bs h ih =>
      rcases List.mem_cons.1 hp with rfl | hp
      · have hlength : bs.length ≠ 0 := fun he => h (Or.inl (List.eq_nil_of_length_eq_zero he))
        have hsize : size ≠ 0 := fun he => h (Or.inr he)
        rw [List.length_take]
        omega
      · exact ih hp

/-- Every piece but the last one is full. -/
theorem length_of_mem_dropLast_pieces {p : Bytes} (hp : p ∈ (pieces size bs).dropLast) :
    p.length = size := by
  fun_induction pieces size bs with
  | case1 bs h => simp at hp
  | case2 bs h ih =>
      by_cases hrest : bs.drop size = []
      · rw [hrest, pieces_nil] at hp
        simp at hp
      · have hsize : size ≠ 0 := fun he => h (Or.inr he)
        have hne : pieces size (bs.drop size) ≠ [] := by
          rw [pieces_of_ne_nil (by omega) hrest]
          exact List.cons_ne_nil _ _
        rw [List.dropLast_cons_of_ne_nil hne] at hp
        rcases List.mem_cons.1 hp with rfl | hp
        · have hlong : size < bs.length := by
            by_contra hshort
            exact hrest (List.drop_of_length_le (by omega))
          rw [List.length_take]
          omega
        · exact ih hp

end Bytes

/-! ## Cutting buffers -/

theorem totalLength_eq_length_flatten (buffers : List Bytes) :
    totalLength buffers = buffers.flatten.length := by
  induction buffers with
  | nil => rfl
  | cons b buffers ih => rw [totalLength, ih, List.flatten_cons, List.length_append]

/-- The groups that are cut are the pieces of the group under way and what follows it. The group under
    way has no empty slices, so it is empty only if it has no octets. -/
theorem map_flatten_cutFrom (size : Nat) (size_pos : 0 < size) (room : Nat) (room_pos : 0 < room)
    (part buffers : List Bytes) (hroom : part.flatten.length + room = size)
    (hpart : ∀ p ∈ part, p ≠ []) :
    (cutFrom size size_pos room room_pos part buffers).map List.flatten
      = Bytes.pieces size (part.flatten ++ buffers.flatten) := by
  fun_induction cutFrom size size_pos room room_pos part buffers with
  | case1 room room_pos part hempty =>
      rw [List.isEmpty_iff.1 hempty]
      simp
  | case2 room room_pos part hempty =>
      have hne : part.flatten ≠ [] := by
        intro he
        refine hempty (List.isEmpty_iff.2 (List.eq_nil_iff_forall_not_mem.2 fun p hp => ?_))
        exact hpart p hp (List.flatten_eq_nil_iff.1 he p hp)
      rw [List.flatten_nil, List.append_nil, Bytes.pieces_of_length_le size_pos hne (by omega)]
      rfl
  | case3 room room_pos part buffers ih => exact ih hroom hpart
  | case4 room room_pos part b bs buffers hdrop hle ih =>
      -- the buffer fills the group exactly
      have hlength : (b :: bs).length ≤ room := List.drop_eq_nil_iff.1 hdrop
      have hfull : (part.flatten ++ (b :: bs)).length = size := by
        rw [List.length_append]
        omega
      rw [List.map_cons, ih (by simp) (by simp), List.flatten_cons, ← List.append_assoc,
        Bytes.pieces_append size_pos hfull]
      simp
  | case5 room room_pos part b bs buffers hdrop hlt ih =>
      have hgrown : (part ++ [b :: bs]).flatten = part.flatten ++ (b :: bs) := by simp
      rw [ih, hgrown, List.flatten_cons, List.append_assoc]
      · rw [hgrown, List.length_append]
        omega
      · intro p hp
        rcases List.mem_append.1 hp with hp | hp
        · exact hpart p hp
        · rw [List.mem_singleton.1 hp]
          exact List.cons_ne_nil _ _
  | case6 room room_pos part b bs buffers c cs hdrop ih =>
      -- the group is full before the buffer ends
      have hlt : room < (b :: bs).length := by
        by_contra hge
        rw [List.drop_of_length_le (by omega)] at hdrop
        exact List.cons_ne_nil _ _ hdrop.symm
      have hfull : (part.flatten ++ (b :: bs).take room).length = size := by
        rw [List.length_append, List.length_take]
        omega
      have hsplit : part.flatten ++ ((b :: bs) :: buffers).flatten
          = part.flatten ++ (b :: bs).take room ++ ((b :: bs).drop room :: buffers).flatten := by
        rw [List.flatten_cons, List.flatten_cons, List.append_assoc, ← List.append_assoc (List.take _ _),
          List.take_append_drop]
      rw [List.map_cons, ih (by simp) (by simp), hsplit, Bytes.pieces_append size_pos hfull]
      simp

/-- **Where buffers end does not show in what is cut.** -/
theorem map_flatten_cut (size : Nat) (size_pos : 0 < size) (buffers : List Bytes) :
    (cut size size_pos buffers).map List.flatten = Bytes.pieces size buffers.flatten :=
  map_flatten_cutFrom size size_pos size size_pos [] buffers (by simp) (by simp)

/-! ## Segments of a stretch -/

namespace Segmenter

variable {W : Type}

/-- Segments that hold the consecutive pieces of a stretch, with lengths and alignment that are
    those of their octets. -/
structure Cuts (s : Segmenter (StateM W)) (bs : Bytes) (segments : List Segment) : Prop where
  bytes_eq : segments.map Segment.bytes = Bytes.pieces s.maxSize bs
  flatten_bytes : (segments.map Segment.bytes).flatten = bs
  full : ∀ segment ∈ segments.dropLast, segment.length = s.maxSize
  bounded : ∀ segment ∈ segments, 1 ≤ segment.length ∧ segment.length ≤ s.maxSize
  measured : ∀ segment ∈ segments, segment.length = segment.bytes.length
  aligned_iff : ∀ segment ∈ segments, segment.aligned = true ↔ s.blockSize ∣ segment.length

theorem after_segmentOf (s : Segmenter (StateM W)) (parts : List Bytes) (w : W) :
    After (s.segmentOf parts) w fun segment _ =>
      segment.bytes = parts.flatten ∧ segment.length = segment.bytes.length ∧
        (segment.aligned = true ↔ s.blockSize ∣ segment.length) := by
  refine ⟨rfl, totalLength_eq_length_flatten parts, ?_⟩
  show (totalLength parts % s.blockSize == 0) = true ↔ _
  rw [beq_iff_eq, Nat.dvd_iff_mod_eq_zero]
  rfl

theorem after_mapM_segmentOf (s : Segmenter (StateM W)) (groups : List (List Bytes)) (w : W) :
    After (groups.mapM s.segmentOf) w fun segments _ =>
      segments.map Segment.bytes = groups.map List.flatten ∧
        ∀ segment ∈ segments, segment.length = segment.bytes.length ∧
          (segment.aligned = true ↔ s.blockSize ∣ segment.length) := by
  induction groups generalizing w with
  | nil => simp
  | cons parts groups ih =>
      rw [List.mapM_cons]
      refine After.bind (s.after_segmentOf parts w) ?_
      rintro segment w₁ ⟨hbytes, hmeasured⟩
      refine After.bind (ih w₁) ?_
      rintro segments w₂ ⟨hrest, hall⟩
      rw [After.pure_iff]
      refine ⟨by rw [List.map_cons, List.map_cons, hbytes, hrest], ?_⟩
      intro other hother
      rcases List.mem_cons.1 hother with rfl | hother
      · exact hmeasured
      · exact hall other hother

theorem after_segment (s : Segmenter (StateM W)) (buffers : List Bytes) (w : W) :
    After (s.segment buffers) w fun segments _ => s.Cuts buffers.flatten segments := by
  refine (s.after_mapM_segmentOf _ w).imp ?_
  rintro segments - ⟨hbytes, hall⟩
  rw [map_flatten_cut] at hbytes
  have hmem : ∀ segment ∈ segments, segment.bytes ∈ Bytes.pieces s.maxSize buffers.flatten := by
    intro segment hsegment
    rw [← hbytes]
    exact List.mem_map_of_mem hsegment
  refine ⟨hbytes, by rw [hbytes, Bytes.flatten_pieces s.maxSize_pos], ?_, ?_,
    fun segment hsegment => (hall segment hsegment).1,
    fun segment hsegment => (hall segment hsegment).2⟩
  · intro segment hsegment
    have hlast : segment.bytes ∈ (Bytes.pieces s.maxSize buffers.flatten).dropLast := by
      rw [← hbytes, ← List.map_dropLast]
      exact List.mem_map_of_mem hsegment
    rw [(hall segment (List.dropLast_subset _ hsegment)).1]
    exact Bytes.length_of_mem_dropLast_pieces hlast
  · intro segment hsegment
    rw [(hall segment hsegment).1]
    exact Bytes.length_of_mem_pieces (hmem segment hsegment)

/-! ## Ranges of buffers -/

/-- Whether a call that asks for `call.2` buffers from number `call.1` on is in bounds and takes the
    buffer of the given number. -/
def takes (total : Nat) (call : Nat × Nat) (number : Nat) : Bool :=
  call.1 + call.2 ≤ total && call.1 ≤ number && number < call.1 + call.2

/-- The buffers after calls: those that one of them took are empty, all others as they were. -/
def leftAfter (buffers : List Bytes) (calls : List (Nat × Nat)) : List Bytes :=
  buffers.mapIdx fun number b =>
    if calls.any fun call => takes buffers.length call number then [] else b

@[simp] theorem length_leftAfter (buffers : List Bytes) (calls : List (Nat × Nat)) :
    (leftAfter buffers calls).length = buffers.length := by
  simp [leftAfter]

@[simp] theorem leftAfter_nil (buffers : List Bytes) : leftAfter buffers [] = buffers := by
  apply List.ext_getElem?
  simp [leftAfter, List.getElem?_mapIdx]

/-- Calls one after the other leave what they leave together. -/
theorem leftAfter_leftAfter (buffers : List Bytes) (call : Nat × Nat) (calls : List (Nat × Nat)) :
    leftAfter (leftAfter buffers [call]) calls = leftAfter buffers (call :: calls) := by
  apply List.ext_getElem?
  intro number
  simp only [leftAfter, List.getElem?_mapIdx, List.length_mapIdx, List.any_cons, List.any_nil]
  cases buffers[number]? with
  | none => rfl
  | some b =>
      by_cases hcall : takes buffers.length call number = true
      · simp [hcall]
      · rw [Bool.not_eq_true] at hcall
        simp only [hcall, Option.map_some]
        rfl

theorem leftAfter_of_lt {buffers : List Bytes} {offset count : Nat}
    (h : buffers.length < offset + count) : leftAfter buffers [(offset, count)] = buffers := by
  apply List.ext_getElem?
  intro number
  have hnot : takes buffers.length (offset, count) number = false := by
    simp only [takes, Bool.and_eq_false_iff, decide_eq_false_iff_not]
    omega
  cases hb : buffers[number]? with
  | none => simp [leftAfter, List.getElem?_mapIdx, hb]
  | some b => simp [leftAfter, List.getElem?_mapIdx, hb, hnot]

theorem leftAfter_of_le {buffers : List Bytes} {offset count : Nat}
    (h : offset + count ≤ buffers.length) :
    leftAfter buffers [(offset, count)]
      = buffers.take offset ++ List.replicate count [] ++ buffers.drop (offset + count) := by
  -- buffer by buffer: before the range, in it, and after it
  apply List.ext_getElem?
  intro number
  have htakes : takes buffers.length (offset, count) number
      = (decide (offset ≤ number) && decide (number < offset + count)) := by
    simp [takes, h]
  simp only [leftAfter, List.getElem?_mapIdx, List.any_cons, List.any_nil, Bool.or_false, htakes]
  rcases Nat.lt_or_ge number offset with hlow | hlow
  · have hleft : number < (buffers.take offset ++ List.replicate count []).length := by
      rw [List.length_append, List.length_take]
      omega
    rw [List.getElem?_append_left hleft, List.getElem?_append_left (by rw [List.length_take]; omega),
      List.getElem?_take_of_lt hlow]
    cases buffers[number]? <;> simp [Nat.not_le.2 hlow]
  · rcases Nat.lt_or_ge number (offset + count) with hhigh | hhigh
    · have hsome : buffers[number]? = some (buffers.get ⟨number, by omega⟩) :=
        List.getElem?_eq_getElem (by omega)
      rw [List.getElem?_append_left (by simp; omega), List.getElem?_append_right (by simp; omega), hsome,
        List.getElem?_replicate]
      simp only [List.length_take]
      rw [if_pos (by omega)]
      simp [hlow, hhigh]
    · rw [List.getElem?_append_right (by simp; omega), List.getElem?_drop]
      have hsame : offset + count
          + (number - (buffers.take offset ++ List.replicate count []).length) = number := by
        simp only [List.length_append, List.length_take, List.length_replicate]
        omega
      rw [hsame]
      cases buffers[number]? <;> simp [Nat.not_lt.2 hhigh]

/-- What one call does: in bounds it cuts its range and empties it, out of bounds it does nothing. -/
theorem after_segmentRange (s : Segmenter (StateM W)) (buffers : List Bytes) (offset count : Nat)
    (w : W) :
    After (s.segmentRange? buffers offset count) w fun result w' =>
      if offset + count ≤ buffers.length then
        ∃ segments, result = some (segments, leftAfter buffers [(offset, count)]) ∧
          s.Cuts ((buffers.drop offset).take count).flatten segments
      else result = none ∧ w' = w := by
  unfold segmentRange?
  by_cases h : offset + count ≤ buffers.length
  · simp only [if_pos h]
    refine After.bind (s.after_segment _ w) ?_
    intro segments w₁ hcuts
    rw [After.pure_iff, leftAfter_of_le h]
    exact ⟨segments, rfl, hcuts⟩
  · simp only [if_neg h]
    exact ⟨rfl, rfl⟩

/-- What the call of the given number comes to: it cuts what the calls before it left in its range. -/
def CallCuts (s : Segmenter (StateM W)) (buffers : List Bytes) (before : List (Nat × Nat))
    (call : Nat × Nat) (result : Option (List Segment) × List Nat) : Prop :=
  result.2 = (leftAfter buffers (before ++ [call])).map List.length ∧
    if call.1 + call.2 ≤ buffers.length then
      ∃ segments, result.1 = some segments ∧
        s.Cuts (((leftAfter buffers before).drop call.1).take call.2).flatten segments
    else result.1 = none

/-- Results of a list of calls, each of which cuts what the calls before it left. -/
def EachCuts (s : Segmenter (StateM W)) (buffers : List Bytes) (calls : List (Nat × Nat))
    (results : List (Option (List Segment) × List Nat)) : Prop :=
  results.length = calls.length ∧
    ∀ i call result, calls[i]? = some call → results[i]? = some result →
      s.CallCuts buffers (calls.take i) call result

/-- The first call, and then the others on what it left. -/
theorem EachCuts.cons {s : Segmenter (StateM W)} {buffers : List Bytes} {call : Nat × Nat}
    {calls : List (Nat × Nat)} {result : Option (List Segment) × List Nat}
    {results : List (Option (List Segment) × List Nat)} (hfirst : s.CallCuts buffers [] call result)
    (hrest : s.EachCuts (leftAfter buffers [call]) calls results) :
    s.EachCuts buffers (call :: calls) (result :: results) := by
  obtain ⟨hlength, hall⟩ := hrest
  refine ⟨by simp [hlength], ?_⟩
  intro i other otherResult hother hresult
  cases i with
  | zero =>
      simp only [List.getElem?_cons_zero, Option.some.injEq] at hother hresult
      subst hother hresult
      exact hfirst
  | succ i =>
      simp only [List.getElem?_cons_succ] at hother hresult
      have hcuts := hall i other otherResult hother hresult
      simp only [CallCuts, leftAfter_leftAfter, length_leftAfter] at hcuts
      exact hcuts

theorem after_segmentEach (s : Segmenter (StateM W)) (buffers : List Bytes)
    (calls : List (Nat × Nat)) (w : W) :
    After (s.segmentEach buffers calls) w fun results _ => s.EachCuts buffers calls results := by
  induction calls generalizing buffers w with
  | nil => exact ⟨rfl, by simp⟩
  | cons call calls ih =>
      obtain ⟨offset, count⟩ := call
      unfold segmentEach
      refine After.bind (s.after_segmentRange buffers offset count w) ?_
      intro first w₁ hfirst
      by_cases h : offset + count ≤ buffers.length
      · rw [if_pos h] at hfirst
        obtain ⟨segments, rfl, hcuts⟩ := hfirst
        refine After.bind (ih _ w₁) fun results w₂ hrest => EachCuts.cons ⟨rfl, ?_⟩ hrest
        rw [if_pos h]
        exact ⟨segments, rfl, by rwa [leftAfter_nil]⟩
      · rw [if_neg h] at hfirst
        obtain ⟨rfl, -⟩ := hfirst
        have hsame : leftAfter buffers [(offset, count)] = buffers :=
          leftAfter_of_lt (Nat.lt_of_not_le h)
        refine After.bind (ih buffers w₁) fun results w₂ hrest => EachCuts.cons ⟨?_, ?_⟩ ?_
        · rw [List.nil_append, hsame]
        · rw [if_neg h]
        · rwa [hsame]

/-- **Segmenting a range cuts its concatenation and empties it, and nothing is cut twice.** A call in
    bounds gives the consecutive pieces of its range taken as one stretch, leaves the range empty and
    every other buffer as it was; a call out of bounds gives nothing and changes nothing, the world of
    the hasher included. In any sequence of calls on the same buffers each one finds in its range
    exactly what no call in bounds before it took. -/
theorem segmentRange_cuts (s : Segmenter (StateM W)) (buffers : List Bytes) :
    (∀ offset count w,
      After (s.segmentRange? buffers offset count) w fun result w' =>
        if offset + count ≤ buffers.length then
          ∃ segments, result = some (segments, leftAfter buffers [(offset, count)]) ∧
            s.Cuts ((buffers.drop offset).take count).flatten segments
        else result = none ∧ w' = w) ∧
    (∀ calls w,
      After (s.segmentEach buffers calls) w fun results _ => s.EachCuts buffers calls results) :=
  ⟨s.after_segmentRange buffers, s.after_segmentEach buffers⟩

end Segmenter

end SteadyFetch
