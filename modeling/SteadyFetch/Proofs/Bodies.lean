import SteadyFetch.Http.Body

set_option autoImplicit false

/-! # What a body gives

A body that is read in pieces gives its octets in order, then ends the way its transfer ended. `Gives`
says what is left to give, and how it will end; every read keeps it. -/

namespace SteadyFetch

/-- A failed transfer is never a mere interruption. -/
theorem TransferCode.ioKind_ne_interrupted (code : TransferCode) : code.ioKind ≠ .interrupted := by
  unfold ioKind
  repeat' split
  all_goals decide

namespace BodyStream

/-- The stream has the octets `rest` left to give, and then ends: with the failure, if there is one. -/
inductive Gives (s : BodyStream) (rest : Bytes) (failure : Option TransferCode) : Prop where
  /-- The transfer has not ended yet. -/
  | underWay (chunks : List Bytes) (finished_eq : s.finished = false)
      (frames_eq : s.frames = chunks.map .body ++ [.done failure])
      (rest_eq : s.chunk ++ chunks.flatten = rest)
  /-- The transfer has ended well. -/
  | ended (finished_eq : s.finished = true) (chunk_eq : s.chunk = []) (rest_eq : rest = [])
      (failure_eq : failure = none)

/-- What a read into a destination with room comes to: octets, the end, or the failure. -/
def Gave (rest : Bytes) (failure : Option TransferCode) (read : Except IoFault Bytes × BodyStream) :
    Prop :=
  match read with
  | (.ok bs, s) =>
    bs <+: rest ∧ (bs = [] → rest = [] ∧ failure = none) ∧ s.Gives (rest.drop bs.length) failure
  | (.error fault, _) => rest = [] ∧ ∃ code, failure = some code ∧ fault = .transfer code

variable {s : BodyStream} {rest : Bytes} {failure : Option TransferCode} {size : Nat}

theorem gives_ofFrames (chunks : List Bytes) (failure : Option TransferCode) :
    (ofFrames (chunks.map .body ++ [.done failure])).Gives chunks.flatten failure :=
  .underWay chunks rfl rfl rfl

theorem gives_empty : empty.Gives [] none :=
  .ended rfl rfl rfl rfl

theorem gave_give (s : BodyStream) (hsize : 0 < size) {chunk : Bytes} (hchunk : chunk ≠ [])
    (chunks : List Bytes) (failure : Option TransferCode) (hfinished : s.finished = false) :
    Gave (chunk ++ chunks.flatten) failure
      (s.give size chunk (chunks.map .body ++ [.done failure])) := by
  refine ⟨(List.take_prefix size chunk).trans (List.prefix_append chunk _), ?_, ?_⟩
  · intro hempty
    rw [List.take_eq_nil_iff] at hempty
    rcases hempty with hzero | hnil
    · omega
    · exact absurd hnil hchunk
  · refine .underWay chunks hfinished rfl ?_
    show chunk.drop size ++ chunks.flatten = _
    have hlength : (chunk.take size).length ≤ chunk.length := List.length_take_le' size chunk
    rw [List.drop_append_of_le_length hlength, List.length_take, ← List.drop_eq_drop_min]

theorem gave_pull (s : BodyStream) (hsize : 0 < size) (chunks : List Bytes)
    (failure : Option TransferCode) (hfinished : s.finished = false) :
    Gave chunks.flatten failure (s.pull size (chunks.map .body ++ [.done failure])) := by
  -- an empty chunk is no end: only the last frame tells how the transfer ended
  induction chunks with
  | nil =>
      cases failure with
      | none => exact ⟨List.nil_prefix, fun _ => ⟨rfl, rfl⟩, .ended rfl rfl rfl rfl⟩
      | some code => exact ⟨rfl, code, rfl, rfl⟩
  | cons chunk chunks ih =>
      rw [List.map_cons, List.cons_append, pull]
      by_cases hempty : chunk = []
      · rw [if_pos (List.isEmpty_iff.2 hempty), hempty, List.flatten_cons, List.nil_append]
        exact ih
      · rw [if_neg (fun he => hempty (List.isEmpty_iff.1 he)), List.flatten_cons]
        exact s.gave_give hsize hempty chunks failure hfinished

theorem Gives.read (h : s.Gives rest failure) (hsize : 0 < size) :
    Gave rest failure (s.read size) := by
  have hzero : size ≠ 0 := by omega
  unfold BodyStream.read
  cases h with
  | underWay chunks hfinished hframes hrest =>
      subst hrest
      by_cases hchunk : s.chunk = []
      · simp only [hzero, hchunk, hfinished, hframes, List.isEmpty_nil, Bool.not_true, Bool.false_eq_true,
          if_false, List.nil_append]
        exact s.gave_pull hsize chunks failure hfinished
      · have hfull : s.chunk.isEmpty = false := by
          rw [Bool.eq_false_iff]
          exact fun he => hchunk (List.isEmpty_iff.1 he)
        simp only [hzero, hfull, hframes, Bool.not_false, if_false, if_true]
        exact s.gave_give hsize hchunk chunks failure hfinished
  | ended hfinished hchunk hrest hfailure =>
      subst hrest hfailure
      simp only [hzero, hchunk, hfinished, List.isEmpty_nil, Bool.not_true, Bool.false_eq_true, if_false,
        if_true]
      exact ⟨List.nil_prefix, fun _ => ⟨rfl, rfl⟩, .ended hfinished hchunk rfl rfl⟩

/-- A read into destinations of which one has room. -/
theorem Gives.readInto (h : s.Gives rest failure) {sizes : List Nat}
    (hsizes : ∃ size ∈ sizes, 0 < size) : Gave rest failure (s.readInto sizes) := by
  have hfind : ∃ size, sizes.find? (0 < ·) = some size ∧ 0 < size := by
    obtain ⟨size, hsize, hpos⟩ := hsizes
    have hsome : (sizes.find? (0 < ·)).isSome := by
      rw [List.find?_isSome]
      exact ⟨size, hsize, decide_eq_true hpos⟩
    obtain ⟨first, hfirst⟩ := Option.isSome_iff_exists.1 hsome
    exact ⟨first, hfirst, of_decide_eq_true (List.find?_some (p := fun n => decide (0 < n)) hfirst)⟩
  obtain ⟨size, hfind, hpos⟩ := hfind
  rw [BodyStream.readInto, hfind]
  exact h.read hpos

theorem readInto_of_full (s : BodyStream) {sizes : List Nat} (hsizes : ¬∃ size ∈ sizes, 0 < size) :
    s.readInto sizes = (.ok [], s) := by
  have hnone : sizes.find? (0 < ·) = none := by
    rw [List.find?_eq_none]
    intro size hsize hpos
    exact hsizes ⟨size, hsize, of_decide_eq_true hpos⟩
  rw [BodyStream.readInto, hnone]
  rfl

/-- A body that has what is left of some octets from an offset on, unless its transfer breaks off with
    one of the codes. -/
def HoldsFrom (octets : Bytes) (Breaks : TransferCode → Prop) (s : BodyStream) (offset : Nat) : Prop :=
  ∃ rest failure, s.Gives rest failure ∧ rest <+: octets.drop offset ∧
    (failure = none → rest = octets.drop offset) ∧ ∀ code ∈ failure, Breaks code

/-- What such a body gives comes next; the end it reports is the end of the octets. -/
theorem HoldsFrom.readInto {octets : Bytes} {Breaks : TransferCode → Prop} {offset : Nat}
    (h : HoldsFrom octets Breaks s offset) {sizes : List Nat} {result : Except IoFault Bytes}
    {s' : BodyStream} (hread : s.readInto sizes = (result, s')) :
    match result with
    | .ok bs => bs <+: octets.drop offset ∧ HoldsFrom octets Breaks s' (offset + bs.length) ∧
        (bs = [] → (∃ size ∈ sizes, 0 < size) → octets.drop offset = [])
    | .error fault => ∃ code, Breaks code ∧ fault = .transfer code := by
  by_cases hsizes : ∃ size ∈ sizes, 0 < size
  · obtain ⟨rest, failure, hgives, hinit, hwhole, hbreaks⟩ := h
    have hgave := hgives.readInto hsizes
    rw [hread] at hgave
    cases result with
    | error fault =>
        obtain ⟨-, code, hcode, rfl⟩ := hgave
        exact ⟨code, hbreaks code hcode, rfl⟩
    | ok bs =>
        obtain ⟨hbs, hend, hleft⟩ := hgave
        refine ⟨hbs.trans hinit, ⟨rest.drop bs.length, failure, hleft, ?_, ?_, hbreaks⟩, ?_⟩
        · obtain ⟨others, hothers⟩ := hinit
          rw [← List.drop_drop, ← hothers, List.drop_append_of_le_length hbs.length_le]
          exact List.prefix_append _ _
        · intro hfailure
          rw [hwhole hfailure, List.drop_drop]
        · intro hnil _
          obtain ⟨hnone, hfailure⟩ := hend hnil
          rw [← hwhole hfailure, hnone]
  · rw [s.readInto_of_full hsizes] at hread
    obtain ⟨rfl, rfl⟩ := Prod.mk.inj hread
    exact ⟨List.nil_prefix, h, fun _ hroom => absurd hroom hsizes⟩

end BodyStream

end SteadyFetch
