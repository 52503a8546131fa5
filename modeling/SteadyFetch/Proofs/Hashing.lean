import Mathlib.Data.List.Forall2
import SteadyFetch.Proofs.Checksums
import SteadyFetch.Proofs.Segmentation

set_option autoImplicit false

/-! # What segmenting hashes

Segments consist of slices, and each slice is hashed once. The slices are what remains of the data when it
is cut wherever a buffer ends and at every multiple of the segment size: those are the places where
consecutive pieces may end (`Bytes.EndsAt`), and pieces without empty ones among them are determined by
where they end (`Bytes.CutAt.unique`).

`Hasher.recorded` writes down each call to a hasher, which may answer as it likes. The calls for a segment
join the hashes of its slices from left to right (`HasherCall.Joins`), so a segment has a checksum exactly
if none of its calls was declined. -/

namespace SteadyFetch

/-! ## Where pieces end -/

namespace Bytes

/-- Whether one of consecutive pieces begins or ends at an offset. -/
def EndsAt (pieces : List Bytes) (offset : Nat) : Prop :=
  ∃ count, (pieces.take count).flatten.length = offset

variable {pieces others : List Bytes} {piece bs : Bytes} {offset : Nat}

theorem endsAt_zero (pieces : List Bytes) : EndsAt pieces 0 := ⟨0, by simp⟩

@[simp] theorem endsAt_nil : EndsAt [] offset ↔ offset = 0 := by
  simp [EndsAt, eq_comm]

theorem endsAt_cons :
    EndsAt (piece :: pieces) offset ↔
      offset = 0 ∨ ∃ later, EndsAt pieces later ∧ offset = piece.length + later := by
  constructor
  · rintro ⟨count, rfl⟩
    cases count with
    | zero => simp
    | succ count => exact Or.inr ⟨_, ⟨count, rfl⟩, by simp⟩
  · rintro (rfl | ⟨_, ⟨count, rfl⟩, rfl⟩)
    · exact endsAt_zero _
    · exact ⟨count + 1, by simp⟩

@[simp] theorem endsAt_cons_nil : EndsAt ([] :: pieces) offset ↔ EndsAt pieces offset := by
  rw [endsAt_cons]
  constructor
  · rintro (rfl | ⟨later, hlater, rfl⟩)
    · exact endsAt_zero _
    · rwa [List.length_nil, Nat.zero_add]
  · exact fun h => Or.inr ⟨offset, h, by simp⟩

theorem endsAt_append :
    EndsAt (pieces ++ others) offset ↔
      EndsAt pieces offset ∨ ∃ later, EndsAt others later ∧ offset = pieces.flatten.length + later := by
  induction pieces generalizing offset with
  | nil =>
      simp only [List.nil_append, endsAt_nil, List.flatten_nil, List.length_nil, Nat.zero_add]
      constructor
      · exact fun h => Or.inr ⟨offset, h, rfl⟩
      · rintro (rfl | ⟨_, h, rfl⟩)
        · exact endsAt_zero _
        · exact h
  | cons piece pieces ih =>
      rw [List.cons_append, endsAt_cons, endsAt_cons, List.flatten_cons, List.length_append, or_assoc]
      refine or_congr_right ?_
      constructor
      · rintro ⟨later, hlater, rfl⟩
        rcases ih.1 hlater with hinside | ⟨last, hlast, rfl⟩
        · exact Or.inl ⟨later, hinside, rfl⟩
        · exact Or.inr ⟨last, hlast, (Nat.add_assoc _ _ _).symm⟩
      · rintro (⟨later, hinside, rfl⟩ | ⟨last, hlast, rfl⟩)
        · exact ⟨later, ih.2 (Or.inl hinside), rfl⟩
        · exact ⟨_, ih.2 (Or.inr ⟨last, hlast, rfl⟩), Nat.add_assoc _ _ _⟩

theorem endsAt_split {before : List Bytes} {room : Nat} (h : room ≤ piece.length) :
    EndsAt (before ++ piece.take room :: piece.drop room :: pieces) offset ↔
      EndsAt (before ++ piece :: pieces) offset ∨ offset = before.flatten.length + room := by
  have htake : (piece.take room).length = room := List.length_take_of_le h
  have hdrop : room + (piece.drop room).length = piece.length := by
    rw [List.length_drop]
    omega
  simp only [endsAt_append, endsAt_cons, htake]
  constructor
  · rintro (hbefore | ⟨_, rfl | ⟨_, rfl | ⟨later, hlater, rfl⟩, rfl⟩, rfl⟩)
    · exact Or.inl (Or.inl hbefore)
    · exact Or.inl (Or.inr ⟨0, Or.inl rfl, rfl⟩)
    · exact Or.inr rfl
    · exact Or.inl (Or.inr ⟨_, Or.inr ⟨later, hlater, rfl⟩, by omega⟩)
  · rintro ((hbefore | ⟨_, rfl | ⟨later, hlater, rfl⟩, rfl⟩) | rfl)
    · exact Or.inl hbefore
    · exact Or.inr ⟨0, Or.inl rfl, rfl⟩
    · exact Or.inr ⟨_, Or.inr ⟨_, Or.inr ⟨later, hlater, rfl⟩, rfl⟩, by omega⟩
    · exact Or.inr ⟨room, Or.inr ⟨0, Or.inl rfl, rfl⟩, rfl⟩

/-- Pieces that follow a full group end where they end after it, and at multiples of its size. -/
theorem endsAt_full {size : Nat} {group rest : List Bytes} (hfull : group.flatten.length = size)
    (hrest : ∀ later, EndsAt rest later ↔
      EndsAt pieces later ∨ size ∣ later ∧ later ≤ pieces.flatten.length) :
    EndsAt (group ++ rest) offset ↔
      EndsAt (group ++ pieces) offset ∨ size ∣ offset ∧ offset ≤ (group ++ pieces).flatten.length := by
  rw [endsAt_append, endsAt_append, List.flatten_append, List.length_append, hfull]
  constructor
  · rintro (hgroup | ⟨later, hlater, rfl⟩)
    · exact Or.inl (Or.inl hgroup)
    · rcases (hrest later).1 hlater with hends | ⟨hdvd, hle⟩
      · exact Or.inl (Or.inr ⟨later, hends, rfl⟩)
      · exact Or.inr ⟨Nat.dvd_add (Nat.dvd_refl size) hdvd, by omega⟩
  · rintro ((hgroup | ⟨later, hends, rfl⟩) | ⟨hdvd, hle⟩)
    · exact Or.inl hgroup
    · exact Or.inr ⟨later, (hrest later).2 (Or.inl hends), rfl⟩
    · rcases Nat.eq_zero_or_pos offset with rfl | hpos
      · exact Or.inl (endsAt_zero group)
      · have hge : size ≤ offset := Nat.le_of_dvd hpos hdvd
        have hlater : EndsAt rest (offset - size) :=
          (hrest _).2 (Or.inr ⟨Nat.dvd_sub hdvd (Nat.dvd_refl size), by omega⟩)
        exact Or.inr ⟨offset - size, hlater, by omega⟩

/-- The pieces, none of them empty, of octets that are cut at certain offsets. -/
structure CutAt (bs : Bytes) (cut : Nat → Prop) (pieces : List Bytes) : Prop where
  flatten_eq : pieces.flatten = bs
  ne_nil : ∀ piece ∈ pieces, piece ≠ []
  endsAt_iff : ∀ offset, 0 < offset → offset < bs.length → (EndsAt pieces offset ↔ cut offset)

namespace CutAt

variable {cut : Nat → Prop}

theorem tail (h : CutAt bs cut (piece :: pieces)) :
    CutAt pieces.flatten (fun offset => cut (piece.length + offset)) pieces where
  flatten_eq := rfl
  ne_nil := fun other hother => h.ne_nil other (List.mem_cons_of_mem _ hother)
  endsAt_iff := by
    intro offset hpos hlt
    have hlength : (piece :: pieces).flatten.length = bs.length := congrArg List.length h.flatten_eq
    rw [List.flatten_cons, List.length_append] at hlength
    rw [← h.endsAt_iff (piece.length + offset) (by omega) (by omega), endsAt_cons]
    constructor
    · exact fun hends => Or.inr ⟨offset, hends, rfl⟩
    · rintro (hzero | ⟨later, hlater, hsum⟩)
      · omega
      · rwa [Nat.add_left_cancel hsum]

theorem length_le {other : Bytes} (h : CutAt bs cut (piece :: pieces))
    (h' : CutAt bs cut (other :: others)) : piece.length ≤ other.length := by
  by_contra hlonger
  have hpos : 0 < other.length :=
    List.length_pos_iff.2 (h'.ne_nil other List.mem_cons_self)
  have hlength : (piece :: pieces).flatten.length = bs.length := congrArg List.length h.flatten_eq
  rw [List.flatten_cons, List.length_append] at hlength
  have hends : EndsAt (other :: others) other.length :=
    endsAt_cons.2 (Or.inr ⟨0, endsAt_zero _, rfl⟩)
  rw [h'.endsAt_iff _ hpos (by omega), ← h.endsAt_iff _ hpos (by omega), endsAt_cons] at hends
  rcases hends with hzero | ⟨later, -, hsum⟩ <;> omega

/-- Where octets are cut determines the pieces. -/
theorem unique (h : CutAt bs cut pieces) (h' : CutAt bs cut others) : pieces = others := by
  induction pieces generalizing bs cut others with
  | nil =>
      have hnil : others.flatten = [] := h'.flatten_eq.trans h.flatten_eq.symm
      refine (List.eq_nil_iff_forall_not_mem.2 fun other hother => ?_).symm
      exact h'.ne_nil other hother (List.flatten_eq_nil_iff.1 hnil other hother)
  | cons piece pieces ih =>
      cases others with
      | nil =>
          have hnil : (piece :: pieces).flatten = [] := h.flatten_eq.trans h'.flatten_eq.symm
          exact absurd (List.flatten_eq_nil_iff.1 hnil piece List.mem_cons_self)
            (h.ne_nil piece List.mem_cons_self)
      | cons other others =>
          have hjoined : piece ++ pieces.flatten = other ++ others.flatten :=
            h.flatten_eq.trans h'.flatten_eq.symm
          obtain ⟨rfl, hrest⟩ := List.append_inj hjoined
            (Nat.le_antisymm (h.length_le h') (h'.length_le h))
          have htail' := h'.tail
          rw [← hrest] at htail'
          rw [ih h.tail htail']

end CutAt

end Bytes

/-! ## The slices of segments -/

theorem ne_nil_of_mem_cutFrom (size : Nat) (size_pos : 0 < size) (room : Nat) (room_pos : 0 < room)
    (part buffers : List Bytes) (hpart : ∀ p ∈ part, p ≠ []) :
    ∀ p ∈ (cutFrom size size_pos room room_pos part buffers).flatten, p ≠ [] := by
  have hgrown : ∀ {b : Bytes} {part : List Bytes}, b ≠ [] → (∀ p ∈ part, p ≠ []) →
      ∀ p ∈ part ++ [b], p ≠ [] := by
    intro b part hb hpart p hp
    rcases List.mem_append.1 hp with hp | hp
    · exact hpart p hp
    · rwa [List.mem_singleton.1 hp]
  fun_induction cutFrom size size_pos room room_pos part buffers with
  | case1 => simp
  | case2 => simpa using hpart
  | case3 room room_pos part buffers ih => exact ih hpart
  | case4 room room_pos part b bs buffers hdrop hle ih =>
      intro p hp
      rw [List.flatten_cons, List.mem_append] at hp
      exact hp.elim (hgrown (List.cons_ne_nil _ _) hpart p) (ih (by simp) p)
  | case5 room room_pos part b bs buffers hdrop hlt ih =>
      exact ih (hgrown (List.cons_ne_nil _ _) hpart)
  | case6 room room_pos part b bs buffers c cs hdrop ih =>
      have htake : (b :: bs).take room ≠ [] := by
        rw [Ne, List.take_eq_nil_iff]
        rintro (hzero | hnil)
        · omega
        · exact List.cons_ne_nil _ _ hnil
      intro p hp
      rw [List.flatten_cons, List.mem_append] at hp
      exact hp.elim (hgrown htake hpart p) (ih (by simp) p)

/-- The slices end where the slices at hand and the buffers end, and at every multiple of the size. -/
theorem endsAt_cutFrom (size : Nat) (size_pos : 0 < size) (room : Nat) (room_pos : 0 < room)
    (part buffers : List Bytes) (hroom : part.flatten.length + room = size) (offset : Nat) :
    Bytes.EndsAt (cutFrom size size_pos room room_pos part buffers).flatten offset ↔
      Bytes.EndsAt (part ++ buffers) offset ∨
        size ∣ offset ∧ offset ≤ (part ++ buffers).flatten.length := by
  fun_induction cutFrom size size_pos room room_pos part buffers generalizing offset with
  | case1 room room_pos part hempty =>
      rw [List.isEmpty_iff.1 hempty]
      simp only [List.flatten_nil, List.append_nil, Bytes.endsAt_nil, List.length_nil, Nat.le_zero]
      exact (or_iff_left_of_imp And.right).symm
  | case2 room room_pos part hempty =>
      rw [List.flatten_singleton, List.append_nil]
      refine (or_iff_left_of_imp ?_).symm
      rintro ⟨hdvd, hle⟩
      rw [Nat.eq_zero_of_dvd_of_lt hdvd (by omega)]
      exact Bytes.endsAt_zero part
  | case3 room room_pos part buffers ih =>
      have hends : Bytes.EndsAt (part ++ [] :: buffers) offset ↔ Bytes.EndsAt (part ++ buffers) offset := by
        simp only [Bytes.endsAt_append, Bytes.endsAt_cons_nil]
      rw [ih hroom, hends]
      simp
  | case4 room room_pos part b bs buffers hdrop hle ih =>
      have hfull : (part ++ [b :: bs]).flatten.length = size := by
        have hlength : (b :: bs).length ≤ room := List.drop_eq_nil_iff.1 hdrop
        rw [List.flatten_append, List.flatten_singleton, List.length_append]
        omega
      rw [List.flatten_cons, Bytes.endsAt_full hfull (ih (by simp)), List.append_assoc]
      rfl
  | case5 room room_pos part b bs buffers hdrop hlt ih =>
      rw [ih, List.append_assoc]
      · rfl
      · rw [List.flatten_append, List.flatten_singleton, List.length_append]
        omega
  | case6 room room_pos part b bs buffers c cs hdrop ih =>
      have hlt : room < (b :: bs).length := by
        by_contra hge
        rw [List.drop_of_length_le (by omega)] at hdrop
        exact List.cons_ne_nil _ _ hdrop.symm
      have hfull : (part ++ [(b :: bs).take room]).flatten.length = size := by
        rw [List.flatten_append, List.flatten_singleton, List.length_append, List.length_take]
        omega
      have hwhole : (part ++ (b :: bs).take room :: (b :: bs).drop room :: buffers).flatten
          = (part ++ (b :: bs) :: buffers).flatten := by
        rw [List.flatten_append, List.flatten_append, List.flatten_cons, List.flatten_cons,
          List.flatten_cons, ← List.append_assoc ((b :: bs).take room), List.take_append_drop]
      rw [List.flatten_cons, Bytes.endsAt_full hfull (ih (by simp)), List.append_assoc, List.singleton_append,
        List.nil_append, Bytes.endsAt_split (Nat.le_of_lt hlt), hroom, hwhole, or_assoc]
      refine or_congr_right (or_iff_right_of_imp ?_)
      rintro rfl
      refine ⟨Nat.dvd_refl _, ?_⟩
      rw [List.flatten_append, List.flatten_cons, List.length_append, List.length_append]
      omega

/-- **The slices of segments are cut at the ends of buffers and at multiples of the segment size.** -/
theorem cutAt_cut (size : Nat) (size_pos : 0 < size) (buffers : List Bytes) :
    Bytes.CutAt buffers.flatten (fun offset => size ∣ offset ∨ Bytes.EndsAt buffers offset)
      (cut size size_pos buffers).flatten where
  flatten_eq := by
    rw [List.flatten_flatten, map_flatten_cut, Bytes.flatten_pieces size_pos]
  ne_nil := ne_nil_of_mem_cutFrom size size_pos size size_pos [] buffers (by simp)
  endsAt_iff := by
    intro offset _ hlt
    rw [cut, endsAt_cutFrom size size_pos size size_pos [] buffers (by simp), List.nil_append, or_comm]
    exact or_congr_left (and_iff_left (Nat.le_of_lt hlt))

/-! ## Calls to a hasher -/

/-- A call to a hasher, and its answer. -/
inductive HasherCall where
  | hashed (slice : Bytes) (answer : Option Checksum)
  | combined (a b : Checksum) (answer : Option Checksum)

namespace HasherCall

/-- What a call was answered. -/
def answer : HasherCall → Option Checksum
  | .hashed _ answer => answer
  | .combined _ _ answer => answer

/-- The slice that a call hashes. -/
def slice? : HasherCall → Option Bytes
  | .hashed slice _ => some slice
  | .combined _ _ _ => none

/-- The calls that join the hashes of slices, from left to right, to the checksum of what came before, and
    the checksum that comes of it. Once there is none, slices are hashed but nothing is joined. -/
inductive Joins : Option Checksum → List Bytes → List HasherCall → Option Checksum → Prop where
  | nil (before : Option Checksum) : Joins before [] [] before
  | joined {a b : Checksum} {slice : Bytes} {joined result : Option Checksum} {slices : List Bytes}
      {calls : List HasherCall} (h : Joins joined slices calls result) :
      Joins (some a) (slice :: slices) (.hashed slice (some b) :: .combined a b joined :: calls) result
  | declined {before own result : Option Checksum} {slice : Bytes} {slices : List Bytes}
      {calls : List HasherCall} (hdeclined : before = none ∨ own = none)
      (h : Joins none slices calls result) :
      Joins before (slice :: slices) (.hashed slice own :: calls) result

/-- The calls that make the checksum of slices. -/
inductive Makes : List Bytes → List HasherCall → Option Checksum → Prop where
  | intro {slice : Bytes} {own result : Option Checksum} {slices : List Bytes} {calls : List HasherCall}
      (h : Joins own slices calls result) : Makes (slice :: slices) (.hashed slice own :: calls) result

variable {before result : Option Checksum} {slices : List Bytes} {calls : List HasherCall}

theorem Joins.slices_eq (h : Joins before slices calls result) : calls.filterMap slice? = slices := by
  induction h with
  | nil before => rfl
  | joined _ ih => simpa [List.filterMap_cons, slice?] using ih
  | declined _ _ ih => simpa [slice?] using ih

/-- Every slice is hashed once, and nothing else is. -/
theorem Makes.slices_eq (h : Makes slices calls result) : calls.filterMap slice? = slices := by
  obtain ⟨h⟩ := h
  simpa [slice?] using h.slices_eq

theorem Joins.isSome_iff (h : Joins before slices calls result) :
    result.isSome ↔ before.isSome ∧ ∀ call ∈ calls, call.answer.isSome := by
  induction h with
  | nil before => simp
  | joined _ ih => simpa [answer] using ih
  | declined hdeclined _ ih =>
      rw [ih]
      rcases hdeclined with rfl | rfl <;> simp [answer]

/-- There is a checksum exactly if no call was declined. -/
theorem Makes.isSome_iff (h : Makes slices calls result) :
    result.isSome ↔ ∀ call ∈ calls, call.answer.isSome := by
  obtain ⟨h⟩ := h
  simp [h.isSome_iff, answer]

/-- Whether a call was answered by functions. -/
def Follows (hash : Bytes → Option Checksum) (combine : Checksum → Checksum → Option Checksum) :
    HasherCall → Prop
  | .hashed slice answer => answer = hash slice
  | .combined a b answer => answer = combine a b

/-- Joins the hashes of slices from left to right to the checksum of what came before. -/
def joinLeft (hash : Bytes → Option Checksum) (combine : Checksum → Checksum → Option Checksum)
    (before : Option Checksum) (slices : List Bytes) : Option Checksum :=
  slices.foldl (fun joined slice => do combine (← joined) (← hash slice)) before

section Functions

variable {hash : Bytes → Option Checksum} {combine : Checksum → Checksum → Option Checksum}

@[simp] theorem joinLeft_nil (before : Option Checksum) : joinLeft hash combine before [] = before := rfl

@[simp] theorem joinLeft_cons (before : Option Checksum) (slice : Bytes) (slices : List Bytes) :
    joinLeft hash combine before (slice :: slices)
      = joinLeft hash combine (do combine (← before) (← hash slice)) slices := rfl

theorem joinLeft_crc32c (before : Bytes) (slices : List Bytes) :
    joinLeft (fun slice => some (.of slice)) (fun a b => some (a.concat b)) (some (.of before)) slices
      = some (.of (before ++ slices.flatten)) := by
  induction slices generalizing before with
  | nil => rw [joinLeft_nil, List.flatten_nil, List.append_nil]
  | cons slice slices ih =>
      rw [joinLeft_cons, List.flatten_cons, ← List.append_assoc, ← ih, ← Checksum.concat_of]
      rfl

theorem joinLeft_none (slices : List Bytes) : joinLeft hash combine none slices = none := by
  induction slices with
  | nil => rfl
  | cons slice slices ih => exact ih

/-- Where two checksums can always be combined, only slices that are declined leave none. -/
theorem isSome_joinLeft (hcombine : ∀ a b, (combine a b).isSome) (before : Option Checksum)
    (slices : List Bytes) :
    (joinLeft hash combine before slices).isSome ↔
      before.isSome ∧ ∀ slice ∈ slices, (hash slice).isSome := by
  induction slices generalizing before with
  | nil => simp
  | cons slice slices ih =>
      rw [joinLeft_cons, ih, List.forall_mem_cons, ← and_assoc]
      refine and_congr_left fun _ => ?_
      cases before with
      | none => simp
      | some a => cases hash slice <;> simp [hcombine]

theorem Joins.eq_joinLeft (h : Joins before slices calls result)
    (hfollows : ∀ call ∈ calls, call.Follows hash combine) :
    result = joinLeft hash combine before slices := by
  induction h with
  | nil before => rfl
  | @joined a b slice joined result slices calls _ ih =>
      simp only [List.forall_mem_cons] at hfollows
      obtain ⟨hhashed, hcombined, hrest⟩ := hfollows
      have hown : some b = hash slice := hhashed
      have hjoined : joined = combine a b := hcombined
      rw [ih hrest, joinLeft_cons, ← hown, hjoined]
      rfl
  | @declined before own result slice slices calls hdeclined _ ih =>
      simp only [List.forall_mem_cons] at hfollows
      obtain ⟨hhashed, hrest⟩ := hfollows
      have hown : own = hash slice := hhashed
      have hnone : (do combine (← before) (← hash slice)) = none := by
        rw [← hown]
        rcases hdeclined with rfl | rfl
        · rfl
        · cases before <;> rfl
      rw [ih hrest, joinLeft_cons, hnone]

/-- Where the answers are those of functions, the checksum is what they give, joined from the left. -/
theorem Makes.eq_joinLeft (h : Makes slices calls result)
    (hfollows : ∀ call ∈ calls, call.Follows hash combine) :
    ∃ slice rest, slices = slice :: rest ∧ result = joinLeft hash combine (hash slice) rest := by
  obtain ⟨h⟩ := h
  simp only [List.forall_mem_cons] at hfollows
  obtain ⟨hhashed, hrest⟩ := hfollows
  exact ⟨_, _, rfl, hhashed ▸ h.eq_joinLeft hrest⟩

end Functions

end HasherCall

namespace Hasher

variable {W : Type}

/-- The hasher with each of its calls written down, the earliest first. -/
def recorded (h : Hasher (StateM W)) : Hasher (StateM (List HasherCall × W)) where
  hash slice := fun w =>
    let (answer, w') := h.hash slice w.2
    (answer, (w.1 ++ [.hashed slice answer], w'))
  combine a b := fun w =>
    let (answer, w') := h.combine a b w.2
    (answer, (w.1 ++ [.combined a b answer], w'))

/-- Whether a hasher answers as functions do, whatever the world. -/
def Follows (h : Hasher (StateM W)) (hash : Bytes → Option Checksum)
    (combine : Checksum → Checksum → Option Checksum) : Prop :=
  ∀ w, (∀ slice, (h.hash slice w).1 = hash slice) ∧ ∀ a b, (h.combine a b w).1 = combine a b

/-- Whether a hasher may answer a call as it was answered. -/
def MayAnswer (h : Hasher (StateM W)) : HasherCall → Prop
  | .hashed slice answer => ∃ w, (h.hash slice w).1 = answer
  | .combined a b answer => ∃ w, (h.combine a b w).1 = answer

theorem Follows.of_mayAnswer {h : Hasher (StateM W)} {hash : Bytes → Option Checksum}
    {combine : Checksum → Checksum → Option Checksum} (hfollows : h.Follows hash combine)
    {call : HasherCall} (hanswer : h.MayAnswer call) : call.Follows hash combine := by
  cases call with
  | hashed slice answer =>
      obtain ⟨w, rfl⟩ := hanswer
      exact (hfollows w).1 slice
  | combined a b answer =>
      obtain ⟨w, rfl⟩ := hanswer
      exact (hfollows w).2 a b

theorem follows_crc32c : (crc32c : Hasher (StateM W)).Follows (fun slice => some (.of slice))
    fun a b => some (a.concat b) :=
  fun _ => ⟨fun _ => rfl, fun _ _ => rfl⟩

theorem follows_disabled :
    (disabled : Hasher (StateM W)).Follows (fun _ => none) fun _ _ => none :=
  fun _ => ⟨fun _ => rfl, fun _ _ => rfl⟩

end Hasher

namespace Segmenter

variable {W : Type} {s : Segmenter (StateM W)}

/-- The segmenter with each call to its hasher written down. -/
def recorded (s : Segmenter (StateM W)) : Segmenter (StateM (List HasherCall × W)) where
  hasher := s.hasher.recorded
  maxSize := s.maxSize
  blockSize := s.blockSize
  maxSize_pos := s.maxSize_pos
  blockSize_pos := s.blockSize_pos

/-- What writing down makes of a procedure of a segmenter: it comes to the same, and the calls written down
    are as stated, and such as the hasher may answer. -/
def Records {α : Type} (s : Segmenter (StateM W)) (log : List HasherCall) (plain : α × W)
    (P : α → List HasherCall → Prop) (result : α) (w' : List HasherCall × W) : Prop :=
  plain = (result, w'.2) ∧ ∃ calls, w'.1 = log ++ calls ∧ P result calls ∧
    ∀ call ∈ calls, s.hasher.MayAnswer call

namespace Records

variable {α β : Type} {log : List HasherCall} {w : W}

theorem pure (a : α) : After (Pure.pure a : StateM (List HasherCall × W) α) (log, w)
    (s.Records log ((Pure.pure a : StateM W α) w) fun result calls => result = a ∧ calls = []) :=
  ⟨rfl, [], (List.append_nil log).symm, ⟨rfl, rfl⟩, by simp⟩

theorem imp {plain : α × W} {P Q : α → List HasherCall → Prop}
    {x : StateM (List HasherCall × W) α} (h : After x (log, w) (s.Records log plain P))
    (hPQ : ∀ a calls, P a calls → Q a calls) : After x (log, w) (s.Records log plain Q) :=
  After.imp h fun a _ ⟨hplain, calls, hlog, hP, hanswers⟩ => ⟨hplain, calls, hlog, hPQ a calls hP, hanswers⟩

theorem bind {x : StateM W α} {x' : StateM (List HasherCall × W) α} {f : α → StateM W β}
    {f' : α → StateM (List HasherCall × W) β} {P : α → List HasherCall → Prop}
    {Q : α → β → List HasherCall → Prop} (hx : After x' (log, w) (s.Records log (x w) P))
    (hf : ∀ a log w, After (f' a) (log, w) (s.Records log (f a w) (Q a))) :
    After (x' >>= f') (log, w) (s.Records log ((x >>= f) w) fun b calls =>
      ∃ a earlier later, calls = earlier ++ later ∧ P a earlier ∧ Q a b later) := by
  refine After.bind hx ?_
  rintro a ⟨log₁, w₁⟩ ⟨hplain, earlier, rfl, hP, hanswers⟩
  refine (hf a (log ++ earlier) w₁).imp ?_
  rintro b ⟨log₂, w₂⟩ ⟨hplain', later, rfl, hQ, hanswers'⟩
  refine ⟨?_, earlier ++ later, List.append_assoc _ _ _, ⟨a, earlier, later, rfl, hP, hQ⟩, ?_⟩
  · show f (x w).1 (x w).2 = _
    rw [hplain]
    exact hplain'
  · intro call hcall
    exact (List.mem_append.1 hcall).elim (hanswers call) (hanswers' call)

end Records

theorem after_hash_recorded (slice : Bytes) (log : List HasherCall) (w : W) :
    After (s.recorded.hasher.hash slice) (log, w)
      (s.Records log (s.hasher.hash slice w) fun answer calls => calls = [.hashed slice answer]) :=
  ⟨rfl, _, rfl, rfl, by simpa using ⟨w, rfl⟩⟩

theorem after_combine_recorded (a b : Checksum) (log : List HasherCall) (w : W) :
    After (s.recorded.hasher.combine a b) (log, w)
      (s.Records log (s.hasher.combine a b w) fun answer calls => calls = [.combined a b answer]) :=
  ⟨rfl, _, rfl, rfl, by simpa using ⟨w, rfl⟩⟩

theorem after_joinHashes_recorded (before : Option Checksum) (slices : List Bytes)
    (log : List HasherCall) (w : W) :
    After (s.recorded.joinHashes before slices) (log, w)
      (s.Records log (s.joinHashes before slices w) fun result calls =>
        HasherCall.Joins before slices calls result) := by
  induction slices generalizing before log w with
  | nil =>
      refine Records.imp (Records.pure before) ?_
      rintro _ _ ⟨rfl, rfl⟩
      exact .nil _
  | cons slice slices ih =>
      -- what follows the hash of a slice depends on whether there is something to join
      have hnothing : ∀ log w,
          After (pure none >>= fun joined => s.recorded.joinHashes joined slices) (log, w)
            (s.Records log ((pure none >>= fun joined => s.joinHashes joined slices : StateM W _) w)
              fun result calls => HasherCall.Joins none slices calls result) := fun log w =>
        Records.imp (Records.bind (Records.pure none) fun joined => ih joined) <| by
          rintro result calls ⟨_, _, later, rfl, ⟨rfl, rfl⟩, hlater⟩
          exact hlater
      refine Records.imp (Records.bind (Q := fun own result calls =>
        HasherCall.Joins before (slice :: slices) (.hashed slice own :: calls) result)
        (s.after_hash_recorded slice log w) fun own log w => ?_) ?_
      · cases before with
        | none => exact Records.imp (hnothing log w) fun _ _ h => .declined (Or.inl rfl) h
        | some a =>
            cases own with
            | none => exact Records.imp (hnothing log w) fun _ _ h => .declined (Or.inr rfl) h
            | some b =>
                refine Records.imp (Records.bind (s.after_combine_recorded a b log w)
                  fun joined => ih joined) ?_
                rintro result calls ⟨joined, _, later, rfl, rfl, hlater⟩
                exact .joined hlater
      · rintro result calls ⟨own, _, later, rfl, rfl, hjoins⟩
        exact hjoins

theorem after_hashParts_recorded {parts : List Bytes} (hne : parts ≠ []) (log : List HasherCall) (w : W) :
    After (s.recorded.hashParts parts) (log, w)
      (s.Records log (s.hashParts parts w) fun result calls => HasherCall.Makes parts calls result) := by
  cases parts with
  | nil => exact absurd rfl hne
  | cons part parts =>
      refine Records.imp (Records.bind (s.after_hash_recorded part log w) fun own log w =>
        s.after_joinHashes_recorded own parts log w) ?_
      rintro result calls ⟨own, _, later, rfl, rfl, hjoins⟩
      exact .intro hjoins

theorem after_segmentOf_recorded {parts : List Bytes} (hne : parts ≠ []) (log : List HasherCall) (w : W) :
    After (s.recorded.segmentOf parts) (log, w)
      (s.Records log (s.segmentOf parts w) fun segment calls =>
        segment.parts = parts ∧ HasherCall.Makes segment.parts calls segment.checksum) := by
  refine Records.imp (Records.bind (s.after_hashParts_recorded hne log w) fun checksum _ _ =>
    Records.pure (Segment.mk parts (totalLength parts) checksum (totalLength parts % s.blockSize == 0))) ?_
  rintro segment calls ⟨checksum, made, _, rfl, hmakes, rfl, rfl⟩
  rw [List.append_nil]
  exact ⟨rfl, hmakes⟩

theorem after_mapM_segmentOf_recorded (groups : List (List Bytes)) (hne : ∀ parts ∈ groups, parts ≠ [])
    (log : List HasherCall) (w : W) :
    After (groups.mapM s.recorded.segmentOf) (log, w)
      (s.Records log (groups.mapM s.segmentOf w) fun segments calls =>
        segments.map Segment.parts = groups ∧ ∃ each : List (List HasherCall), calls = each.flatten ∧
          List.Forall₂ (fun segment calls => HasherCall.Makes segment.parts calls segment.checksum)
            segments each) := by
  induction groups generalizing log w with
  | nil =>
      refine Records.imp (Records.pure []) ?_
      rintro _ _ ⟨rfl, rfl⟩
      exact ⟨rfl, [], rfl, .nil⟩
  | cons parts groups ih =>
      rw [List.mapM_cons, List.mapM_cons]
      obtain ⟨hfirst, hrest⟩ := List.forall_mem_cons.1 hne
      refine Records.imp (Records.bind (s.after_segmentOf_recorded hfirst log w) fun segment log w =>
        Records.bind (ih hrest log w) fun segments _ _ => Records.pure (segment :: segments)) ?_
      rintro _ calls ⟨segment, made, _, rfl, ⟨rfl, hmakes⟩, segments, _, _, rfl,
        ⟨rfl, each, rfl, heach⟩, rfl, rfl⟩
      exact ⟨rfl, made :: each, by simp, .cons hmakes heach⟩

theorem ne_nil_of_mem_cut {size : Nat} (size_pos : 0 < size) {buffers group : List Bytes}
    (h : group ∈ cut size size_pos buffers) : group ≠ [] := by
  rintro rfl
  have hpiece : [] ∈ Bytes.pieces size buffers.flatten := by
    rw [← map_flatten_cut size size_pos]
    exact List.mem_map_of_mem h
  exact absurd (Bytes.length_of_mem_pieces hpiece).1 (by simp)

/-- The checksums of segments where the hasher answers as functions do. -/
theorem checksum_eq_joinLeft {segments : List Segment} {each : List (List HasherCall)}
    {hash : Bytes → Option Checksum} {combine : Checksum → Checksum → Option Checksum}
    (hmakes : List.Forall₂ (fun segment calls => HasherCall.Makes segment.parts calls segment.checksum)
      segments each)
    (hanswers : ∀ call ∈ each.flatten, s.hasher.MayAnswer call) (hfollows : s.hasher.Follows hash combine) :
    ∀ segment ∈ segments, ∃ part parts, segment.parts = part :: parts ∧
      segment.checksum = HasherCall.joinLeft hash combine (hash part) parts := by
  induction hmakes with
  | nil => simp
  | @cons segment calls segments each hfirst _ ih =>
      rw [List.flatten_cons, List.forall_mem_append] at hanswers
      exact List.forall_mem_cons.2
        ⟨hfirst.eq_joinLeft fun call hcall => hfollows.of_mayAnswer (hanswers.1 call hcall),
          ih hanswers.2⟩

/-- What segmenting writes down: the parts of every segment are hashed in turn. -/
theorem after_segment_recorded (s : Segmenter (StateM W)) (buffers : List Bytes) (w : W) :
    After (s.recorded.segment buffers) ([], w)
      (s.Records [] (s.segment buffers w) fun segments calls =>
        segments.map Segment.parts = cut s.maxSize s.maxSize_pos buffers ∧
          ∃ each : List (List HasherCall), calls = each.flatten ∧
            List.Forall₂ (fun segment calls => HasherCall.Makes segment.parts calls segment.checksum)
              segments each) :=
  s.after_mapM_segmentOf_recorded _ (fun _ hgroup => ne_nil_of_mem_cut s.maxSize_pos hgroup) [] w

section Functions

variable {hash : Bytes → Option Checksum} {combine : Checksum → Checksum → Option Checksum}

/-- Where the hasher answers as functions do, the checksum of a segment joins the hashes of its parts from
    left to right. -/
theorem after_segment_joinLeft (hfollows : s.hasher.Follows hash combine) (buffers : List Bytes) (w : W) :
    After (s.segment buffers) w fun segments _ =>
      ∀ segment ∈ segments, ∃ part parts, segment.parts = part :: parts ∧
        segment.checksum = HasherCall.joinLeft hash combine (hash part) parts := by
  obtain ⟨hplain, _, -, ⟨-, each, rfl, heach⟩, hanswers⟩ := s.after_segment_recorded buffers w
  rw [After, hplain]
  exact checksum_eq_joinLeft heach hanswers hfollows

/-- Where two checksums can always be combined, a segment goes without one exactly if one of its parts is
    declined. -/
theorem after_segment_isSome (hfollows : s.hasher.Follows hash combine)
    (hcombine : ∀ a b, (combine a b).isSome) (buffers : List Bytes) (w : W) :
    After (s.segment buffers) w fun segments _ =>
      ∀ segment ∈ segments, segment.checksum.isSome ↔ ∀ part ∈ segment.parts, (hash part).isSome := by
  refine (after_segment_joinLeft hfollows buffers w).imp fun segments _ hjoined segment hsegment => ?_
  obtain ⟨part, parts, hparts, hchecksum⟩ := hjoined segment hsegment
  rw [hparts, hchecksum, HasherCall.isSome_joinLeft hcombine, List.forall_mem_cons]

end Functions

theorem after_segment_crc32c (hhasher : s.hasher = .crc32c) (buffers : List Bytes) (w : W) :
    After (s.segment buffers) w fun segments _ =>
      ∀ segment ∈ segments, segment.checksum = some (.of segment.bytes) := by
  have hfollows := hhasher ▸ Hasher.follows_crc32c
  refine (after_segment_joinLeft hfollows buffers w).imp fun segments _ hjoined segment hsegment => ?_
  obtain ⟨part, parts, hparts, hchecksum⟩ := hjoined segment hsegment
  rw [hchecksum, HasherCall.joinLeft_crc32c, Segment.bytes, hparts, List.flatten_cons]

theorem after_segment_disabled (hhasher : s.hasher = .disabled) (buffers : List Bytes) (w : W) :
    After (s.segment buffers) w fun segments _ => ∀ segment ∈ segments, segment.checksum = none := by
  have hfollows := hhasher ▸ Hasher.follows_disabled
  refine (after_segment_joinLeft hfollows buffers w).imp fun segments _ hjoined segment hsegment => ?_
  obtain ⟨part, parts, -, hchecksum⟩ := hjoined segment hsegment
  rw [hchecksum, HasherCall.joinLeft_none]

/-- **A hasher is called once on each part that is cut, and on nothing else.** Whatever it answers, the
    parts are the pieces, none of them empty, of the buffers taken as one stretch and cut where a buffer
    ends and at every multiple of the segment size; the calls for each segment hash its parts in order and
    join the hashes from left to right, and there is a checksum exactly if none of them was declined. So
    the code that is computed is that of the segment's octets, a hasher that computes none leaves every
    segment without, and one that declines some slices those that have one of them among their parts. -/
theorem segment_hashes_each_part (s : Segmenter (StateM W)) (buffers : List Bytes) (w : W) :
    After (s.recorded.segment buffers) ([], w) fun segments w' =>
      s.segment buffers w = (segments, w'.2) ∧
      segments.map Segment.parts = cut s.maxSize s.maxSize_pos buffers ∧
      segments.map Segment.bytes = Bytes.pieces s.maxSize buffers.flatten ∧
      (∀ parts, parts = segments.flatMap Segment.parts ↔
        Bytes.CutAt buffers.flatten (fun offset => s.maxSize ∣ offset ∨ Bytes.EndsAt buffers offset)
          parts) ∧
      (∃ each : List (List HasherCall), w'.1 = each.flatten ∧ List.Forall₂ (fun segment calls =>
        HasherCall.Makes segment.parts calls segment.checksum ∧
        calls.filterMap HasherCall.slice? = segment.parts ∧
        (segment.checksum.isSome ↔ ∀ call ∈ calls, call.answer.isSome)) segments each) ∧
      (∀ hash combine, s.hasher.Follows hash combine → ∀ segment ∈ segments,
        ∃ part parts, segment.parts = part :: parts ∧
          segment.checksum = HasherCall.joinLeft hash combine (hash part) parts) ∧
      (∀ hash combine, s.hasher.Follows hash combine → (∀ a b, (combine a b).isSome) →
        ∀ segment ∈ segments,
          segment.checksum.isSome ↔ ∀ part ∈ segment.parts, (hash part).isSome) ∧
      (s.hasher = .crc32c → ∀ segment ∈ segments, segment.checksum = some (.of segment.bytes)) ∧
      (s.hasher = .disabled → ∀ segment ∈ segments, segment.checksum = none) := by
  refine (s.after_segment_recorded buffers w).imp ?_
  rintro segments w' ⟨hplain, _, hlog, ⟨hparts, each, rfl, heach⟩, -⟩
  -- what is known of segmenting is known of these segments
  have hsame : ∀ {Q : List Segment → W → Prop}, After (s.segment buffers) w Q → Q segments w'.2 := by
    intro Q h
    rwa [After, hplain] at h
  have hslices : segments.flatMap Segment.parts = (cut s.maxSize s.maxSize_pos buffers).flatten := by
    rw [← hparts, List.flatMap_def]
  refine ⟨hplain, hparts, (hsame (s.after_segment buffers w)).bytes_eq, fun parts => ?_,
    ⟨each, hlog, heach.imp fun segment calls hmakes => ⟨hmakes, hmakes.slices_eq, hmakes.isSome_iff⟩⟩,
    fun hash combine hfollows => hsame (after_segment_joinLeft hfollows buffers w),
    fun hash combine hfollows hcombine => hsame (after_segment_isSome hfollows hcombine buffers w),
    fun hhasher => hsame (after_segment_crc32c hhasher buffers w),
    fun hhasher => hsame (after_segment_disabled hhasher buffers w)⟩
  rw [hslices]
  constructor
  · rintro rfl
    exact cutAt_cut s.maxSize s.maxSize_pos buffers
  · exact fun h => h.unique (cutAt_cut s.maxSize s.maxSize_pos buffers)

end Segmenter

end SteadyFetch
