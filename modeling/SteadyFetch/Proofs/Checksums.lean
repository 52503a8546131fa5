import Mathlib.Algebra.Group.Nat.Defs
import Mathlib.Logic.Function.Iterate
import SteadyFetch.Checksum

set_option autoImplicit false

/-! # Checksums of what is cut and joined

The register of the code is linear in the exclusive or of words: passing a bit is, so passing any number
of zero octets is, and an operator kept as the images of the unit words is (`Linear`). Hence an operator
that agrees with a linear function on the unit words agrees with it everywhere, squaring an operator
doubles its steps, and what is fed to a register adds to what the register becomes over as many zeros
(`foldl_feed_xor`). From that follows what joining checksums is for: it gives the checksum of the joined
octets, however they were cut and in whatever order the pieces are joined (`joined_eq_of`). Joining is
associative even for checksums that were not computed from octets (`concat_laws`). -/

namespace SteadyFetch

namespace Crc32c

/-! ## Linear functions of words -/

/-- Whether a function of words is linear. -/
def Linear (f : UInt32 → UInt32) : Prop := ∀ a b, f (a ^^^ b) = f a ^^^ f b

namespace Linear

variable {f g : UInt32 → UInt32}

theorem map_zero (hf : Linear f) : f 0 = 0 := by
  have h := hf 0 0
  rw [UInt32.xor_self, UInt32.xor_self] at h
  exact h

theorem comp (hf : Linear f) (hg : Linear g) : Linear fun w => f (g w) := by
  intro a b
  show f (g (a ^^^ b)) = f (g a) ^^^ f (g b)
  rw [hg, hf]

theorem xor (hf : Linear f) (hg : Linear g) : Linear fun w => f w ^^^ g w := by
  intro a b
  show f (a ^^^ b) ^^^ g (a ^^^ b) = f a ^^^ g a ^^^ (f b ^^^ g b)
  rw [hf, hg]
  ac_rfl

theorem shiftRight (n : UInt32) : Linear fun w => w >>> n := fun _ _ => UInt32.shiftRight_xor

theorem shiftLeft (n : UInt32) : Linear fun w => w <<< n := fun _ _ => UInt32.shiftLeft_xor

end Linear

theorem and_one_cases (w : UInt32) : w &&& 1 = 0 ∨ w &&& 1 = 1 := by
  have h : (w &&& 1).toNat = w.toNat % 2 := by simp [UInt32.toNat_and]
  rcases Nat.mod_two_eq_zero_or_one w.toNat with hzero | hone
  · exact Or.inl (UInt32.toNat_inj.1 (h.trans hzero))
  · exact Or.inr (UInt32.toNat_inj.1 (h.trans hone))

theorem linear_choose (image : UInt32) : Linear fun w => if w &&& 1 = 1 then image else 0 := by
  intro a b
  have hxor : (a ^^^ b) &&& 1 = (a &&& (1 : UInt32)) ^^^ (b &&& 1) := by
    apply UInt32.toBitVec_inj.1
    ext i hi
    simp only [UInt32.toBitVec_and, UInt32.toBitVec_xor, BitVec.getElem_and, BitVec.getElem_xor]
    exact Bool.and_xor_distrib_right _ _ _
  rcases and_one_cases a with ha | ha <;> rcases and_one_cases b with hb | hb <;> simp [hxor, ha, hb]

/-- A word is its lowest bit and the others. -/
theorem and_one_xor_shift (w : UInt32) : (w &&& (1 : UInt32)) ^^^ ((w >>> 1) <<< 1) = w := by
  apply UInt32.toBitVec_inj.1
  ext i hi
  cases i with
  | zero => simp
  | succ i => simp [Nat.add_comm 1 i, BitVec.getLsbD_eq_getElem hi]

theorem linear_shiftOut : Linear shiftOut := by
  have hsum : shiftOut = fun r : UInt32 => (r >>> 1) ^^^ (if r &&& 1 = 1 then polynomial else 0) := by
    funext r
    unfold shiftOut
    split <;> simp
  rw [hsum]
  exact (Linear.shiftRight 1).xor (linear_choose polynomial)

theorem linear_passZero : Linear passZero := by
  have h := linear_shiftOut
  exact h.comp (h.comp (h.comp (h.comp (h.comp (h.comp (h.comp h))))))

/-! ## Operators -/

namespace Operator

theorem linear_apply (images : Operator) : Linear images.apply := by
  induction images with
  | nil =>
      intro a b
      exact (UInt32.xor_self (a := 0)).symm
  | cons image images ih => exact (linear_choose image).xor (ih.comp (.shiftRight 1))

/-- An operator that agrees with a linear function on the unit words below `2 ^ n` agrees with it on all
    words below `2 ^ n`. -/
theorem apply_images {f : UInt32 → UInt32} (hf : Linear f) {n : Nat} (hn : n ≤ 32) {w : UInt32}
    (hw : w.toNat < 2 ^ n) :
    apply ((List.range n).map fun i => f (1 <<< UInt32.ofNat i)) w = f w := by
  -- the images of the higher bits are those of the function one bit up
  induction n generalizing f w with
  | zero =>
      have hzero : w = 0 := UInt32.toNat_inj.1 (by simpa using hw)
      rw [hzero, hf.map_zero]
      rfl
  | succ n ih =>
      have hup : ∀ i ∈ List.range n,
          f (1 <<< UInt32.ofNat (i + 1)) = f ((1 <<< UInt32.ofNat i) <<< 1) := by
        have hunit : ∀ i < 31,
            (1 : UInt32) <<< UInt32.ofNat (i + 1) = (1 <<< UInt32.ofNat i) <<< 1 := by decide
        intro i hi
        have hlt := List.mem_range.1 hi
        rw [hunit i (by omega)]
      have hrest : (w >>> 1).toNat < 2 ^ n := by
        have hhalf : (w >>> 1).toNat = w.toNat / 2 := by
          simp [UInt32.toNat_shiftRight, Nat.shiftRight_eq_div_pow]
        rw [Nat.pow_succ] at hw
        omega
      have hchoose : (if w &&& 1 = 1 then f 1 else 0) = f (w &&& 1) := by
        rcases and_one_cases w with hbit | hbit
        · rw [hbit, hf.map_zero, if_neg (by decide)]
        · rw [hbit, if_pos rfl]
      have hstep := ih (hf.comp (.shiftLeft 1)) (by omega) hrest
      rw [List.range_succ_eq_map, List.map_cons, List.map_map, apply]
      calc (if w &&& 1 = 1 then f (1 <<< UInt32.ofNat 0) else 0)
            ^^^ apply ((List.range n).map fun i => f (1 <<< UInt32.ofNat (i + 1))) (w >>> 1)
          = f (w &&& 1) ^^^ f ((w >>> 1) <<< 1) := by rw [List.map_congr_left hup, hstep, ← hchoose]; rfl
        _ = f w := by rw [← hf, and_one_xor_shift]

theorem apply_ofFun {f : UInt32 → UInt32} (hf : Linear f) (w : UInt32) : (ofFun f).apply w = f w :=
  apply_images hf (Nat.le_refl 32) w.toNat_lt

theorem apply_comp (f g : Operator) (w : UInt32) : (f.comp g).apply w = f.apply (g.apply w) := by
  have hf := f.linear_apply
  induction g generalizing w with
  | nil => exact hf.map_zero.symm
  | cons image g ih =>
      have hrest : apply (comp f g) (w >>> 1) = f.apply (apply g (w >>> 1)) := ih (w >>> 1)
      rw [comp, List.map_cons, apply, apply, hf, ← hrest]
      by_cases hbit : w &&& 1 = 1
      · rw [if_pos hbit, if_pos hbit]
        rfl
      · rw [if_neg hbit, if_neg hbit, hf.map_zero]
        rfl

/-- Repeated squaring applies an operator as often as it is told to. -/
theorem iterate_eq (f : Operator) (n : Nat) (w : UInt32) : f.iterate n w = f.apply^[n] w := by
  induction n using Nat.strongRecOn generalizing f w with
  | ind n ih =>
      by_cases hzero : n = 0
      · rw [hzero, iterate, if_pos rfl]
        rfl
      · have hsquare : (f.comp f).apply = f.apply^[2] := funext fun v => f.apply_comp f v
        rw [iterate, if_neg hzero, ih (n / 2) (by omega), hsquare, ← Function.iterate_mul]
        by_cases hodd : n % 2 = 1
        · rw [if_pos hodd, ← Function.iterate_succ_apply, show (2 * (n / 2)).succ = n by omega]
        · rw [if_neg hodd, show 2 * (n / 2) = n by omega]

end Operator

theorem advanceZeros_eq (n : Nat) (w : UInt32) : advanceZeros n w = passZero^[n] w := by
  have hpass : (Operator.ofFun passZero).apply = passZero :=
    funext fun v => Operator.apply_ofFun linear_passZero v
  rw [advanceZeros, Operator.iterate_eq, hpass]

/-! ## Registers and codes -/

/-- What a register is at first adds, over as many zeros, to what it becomes. -/
theorem foldl_feed_xor (a b : UInt32) (bs : Bytes) :
    bs.foldl feed (a ^^^ b) = passZero^[bs.length] a ^^^ bs.foldl feed b := by
  induction bs generalizing a b with
  | nil => rfl
  | cons x bs ih =>
      have hfeed : feed (a ^^^ b) x = passZero a ^^^ feed b x := by
        rw [feed, UInt32.xor_assoc, linear_passZero]
        rfl
      rw [List.foldl_cons, List.foldl_cons, hfeed, ih, List.length_cons, Function.iterate_succ_apply]

/-- **Joining codes is going on with the octets.** -/
theorem combine_ofBytes (code : UInt32) (bs : Bytes) :
    combine code (ofBytes bs) bs.length = extend code bs := by
  have hnot : ~~~code = code ^^^ ~~~0 := by rw [UInt32.xor_not, UInt32.xor_zero]
  rw [combine, advanceZeros_eq, ofBytes, extend, extend, hnot, foldl_feed_xor, UInt32.xor_not]

theorem extend_extend (code : UInt32) (a b : Bytes) : extend (extend code a) b = extend code (a ++ b) := by
  rw [extend, extend, extend, UInt32.not_not, List.foldl_append]

theorem linear_iterate_passZero (n : Nat) : Linear passZero^[n] := by
  induction n with
  | zero => exact fun _ _ => rfl
  | succ n ih => exact ih.comp linear_passZero

theorem combine_combine (a b c : UInt32) (m n : Nat) :
    combine (combine a b m) c n = combine a (combine b c n) (m + n) := by
  have hlinear := linear_iterate_passZero n
  rw [combine, combine, combine, combine, advanceZeros_eq, advanceZeros_eq, advanceZeros_eq,
    advanceZeros_eq, hlinear, ← Function.iterate_add_apply, Nat.add_comm n m, UInt32.xor_assoc]

/-! ## Nothing is forgotten -/

theorem Linear.injective {f : UInt32 → UInt32} (hf : Linear f) (hzero : ∀ w, f w = 0 → w = 0) :
    Function.Injective f := by
  intro a b hab
  have hsum : f (a ^^^ b) = 0 := by rw [hf, hab, UInt32.xor_self]
  exact UInt32.xor_eq_zero_iff.1 (hzero _ hsum)

/-- A bit that is set leaves the highest bit of the polynomial behind, so shifting out can be undone. -/
theorem shiftOut_injective : Function.Injective shiftOut := by
  refine linear_shiftOut.injective fun w hw => ?_
  have hhalf : (w >>> 1).toNat < 2 ^ 31 := by
    have hdiv : (w >>> 1).toNat = w.toNat / 2 := by
      simp [UInt32.toNat_shiftRight, Nat.shiftRight_eq_div_pow]
    have hlt := w.toNat_lt
    omega
  unfold shiftOut at hw
  rcases and_one_cases w with hbit | hbit
  · rw [if_neg (by rw [hbit]; decide)] at hw
    rw [← and_one_xor_shift w, hbit, hw]
    rfl
  · rw [if_pos hbit] at hw
    rw [UInt32.xor_eq_zero_iff.1 hw] at hhalf
    exact absurd hhalf (by decide)

theorem passZero_injective : Function.Injective passZero := by
  have h := shiftOut_injective
  exact h.comp (h.comp (h.comp (h.comp (h.comp (h.comp (h.comp h))))))

/-- Octets that follow do not hide what the code was before. -/
theorem extend_injective (bs : Bytes) : Function.Injective fun code => extend code bs := by
  have hfold : ∀ r r' : UInt32, bs.foldl feed r = bs.foldl feed r' → r = r' := by
    induction bs with
    | nil => exact fun _ _ h => h
    | cons b bs ih => exact fun r r' h => (UInt32.xor_left_inj _).1 (passZero_injective (ih _ _ h))
  intro code code' h
  exact UInt32.not_inj.1 (hfold _ _ (UInt32.not_inj.1 h))

end Crc32c

/-! ## Checksums -/

namespace Checksum

theorem of_nil : of [] = empty := rfl

theorem append_of (a b : Bytes) : (of a).append b = of (a ++ b) := by
  rw [append, of, of, Crc32c.ofBytes, Crc32c.extend_extend, List.length_append]
  rfl

/-- The checksums of two adjoining stretches make that of both. -/
theorem concat_of (a b : Bytes) : (of a).concat (of b) = of (a ++ b) := by
  unfold concat
  by_cases hb : b = []
  · rw [hb, of_nil, List.append_nil]
    rfl
  by_cases ha : a = []
  · have hlength : (of b).length ≠ 0 := fun h => hb (List.length_eq_zero_iff.1 h)
    rw [ha, if_neg hlength]
    rfl
  · have hlength : ∀ bs : Bytes, bs ≠ [] → (of bs).length ≠ 0 :=
      fun _ hbs h => hbs (List.length_eq_zero_iff.1 h)
    rw [if_neg (hlength b hb), if_neg (hlength a ha), ← append_of]
    exact congrArg (Checksum.mk · _) (Crc32c.combine_ofBytes _ b)

theorem foldl_append_of (a : Bytes) (pieces : List Bytes) :
    pieces.foldl append (of a) = of (a ++ pieces.flatten) := by
  induction pieces generalizing a with
  | nil => rw [List.foldl_nil, List.flatten_nil, List.append_nil]
  | cons piece pieces ih => rw [List.foldl_cons, append_of, ih, List.flatten_cons, List.append_assoc]

theorem foldl_concat_of (a : Bytes) (pieces : List Bytes) :
    (pieces.map of).foldl concat (of a) = of (a ++ pieces.flatten) := by
  induction pieces generalizing a with
  | nil => rw [List.map_nil, List.foldl_nil, List.flatten_nil, List.append_nil]
  | cons piece pieces ih =>
      rw [List.map_cons, List.foldl_cons, concat_of, ih, List.flatten_cons, List.append_assoc]

/-- An order in which the checksums of pieces are joined, two adjoining stretches at a time. -/
inductive Bracketing : List Bytes → Type where
  /-- The checksum of one piece. -/
  | piece (bs : Bytes) : Bracketing [bs]
  /-- Two stretches of pieces. -/
  | join {before after : List Bytes} (a : Bracketing before) (b : Bracketing after) :
      Bracketing (before ++ after)

/-- The checksum that joining gives. -/
def Bracketing.joined {pieces : List Bytes} : Bracketing pieces → Checksum
  | .piece bs => of bs
  | .join a b => a.joined.concat b.joined

theorem Bracketing.joined_eq {pieces : List Bytes} (b : Bracketing pieces) :
    b.joined = of pieces.flatten := by
  induction b with
  | piece bs => simp [joined]
  | join a b iha ihb => rw [joined, iha, ihb, concat_of, List.flatten_append]

/-- **A checksum does not depend on how it was come by.** However octets are cut into pieces, empty ones
    included, and in whatever order the checksums of the pieces are joined, the result is the checksum of
    all of them, with their length; and so it is if the checksum of nothing is extended by one piece after
    the other. -/
theorem joined_eq_of (pieces : List Bytes) :
    (∀ b : Bracketing pieces, b.joined = of pieces.flatten) ∧
      pieces.foldl append empty = of pieces.flatten := by
  refine ⟨fun b => b.joined_eq, ?_⟩
  rw [← of_nil, foldl_append_of, List.nil_append]

/-- The check value of the code, from pieces of nine digits. -/
example : ((Bracketing.piece [0x31, 0x32, 0x33, 0x34]).join
    ((Bracketing.piece []).join (.piece [0x35, 0x36, 0x37, 0x38, 0x39]))).joined = ⟨0xE3069283, 9⟩ := by
  decide +kernel

/-! ## Checksums of nothing in particular -/

theorem concat_of_length_zero {a b : Checksum} (hb : b.length = 0) : a.concat b = a := if_pos hb

theorem concat_of_length_zero_left {a b : Checksum} (ha : a.length = 0) (hb : b.length ≠ 0) :
    a.concat b = b := by
  rw [concat, if_neg hb, if_pos ha]

theorem concat_of_length_pos {a b : Checksum} (ha : a.length ≠ 0) (hb : b.length ≠ 0) :
    a.concat b = ⟨Crc32c.combine a.value b.value b.length, a.length + b.length⟩ := by
  rw [concat, if_neg hb, if_neg ha]

/-- A side of length zero gives way on either side of a second join, whatever its code is. -/
theorem concat_assoc (a b c : Checksum) : (a.concat b).concat c = a.concat (b.concat c) := by
  by_cases hc : c.length = 0
  · rw [concat_of_length_zero hc, concat_of_length_zero hc]
  by_cases hb : b.length = 0
  · rw [concat_of_length_zero hb, concat_of_length_zero_left hb hc]
  have hbc : (b.concat c).length ≠ 0 := by
    rw [concat_of_length_pos hb hc]
    exact fun h => hc (Nat.add_eq_zero_iff.1 h).2
  by_cases ha : a.length = 0
  · rw [concat_of_length_zero_left ha hb, concat_of_length_zero_left ha hbc]
  have hab : (a.concat b).length ≠ 0 := by
    rw [concat_of_length_pos ha hb]
    exact fun h => hb (Nat.add_eq_zero_iff.1 h).2
  rw [concat_of_length_pos hab hc, concat_of_length_pos ha hbc, concat_of_length_pos ha hb,
    concat_of_length_pos hb hc, Crc32c.combine_combine, Nat.add_assoc]

/-- Going on with octets is joining their checksum, unless the checksum is of nothing and yet not that of
    nothing: going on keeps its code, and joining forgets it. -/
theorem append_eq_concat_iff (v : Checksum) (bs : Bytes) :
    v.append bs = v.concat (of bs) ↔ v = empty ∨ 0 < v.length ∨ bs = [] := by
  by_cases hbs : bs = []
  · have hnothing : v.append [] = v := by
      rw [append, Crc32c.extend, List.foldl_nil, UInt32.not_not]
      rfl
    rw [hbs, of_nil, concat_empty, hnothing]
    simp
  have hof : (of bs).length ≠ 0 := fun h => hbs (List.length_eq_zero_iff.1 h)
  by_cases hv : v.length = 0
  · rw [concat_of_length_zero_left hv hof]
    constructor
    · intro h
      have hvalue : Crc32c.extend v.value bs = Crc32c.extend 0 bs := congrArg Checksum.value h
      have hzero : v.value = 0 := Crc32c.extend_injective bs hvalue
      obtain ⟨value, length⟩ := v
      obtain rfl : value = 0 := hzero
      obtain rfl : length = 0 := hv
      exact Or.inl rfl
    · rintro (rfl | hpos | hnil)
      · rw [← of_nil, append_of, List.nil_append]
      · exact absurd hv (Nat.ne_of_gt hpos)
      · exact absurd hnil hbs
  · rw [concat_of_length_pos hv hof, append, of, Crc32c.combine_ofBytes]
    simp [Nat.pos_of_ne_zero hv]

/-- **Joining is associative for all checksums, and going on with octets is joining theirs.** Codes and
    lengths may be any, such as are read from a file: joining is associative and the checksum of no octets
    is neutral on the right. Going on with octets is joining their checksum exactly if the checksum that is
    gone on with is the one of no octets or covers some, or there are none to go on with. -/
theorem concat_laws (a b c : Checksum) :
    (a.concat b).concat c = a.concat (b.concat c) ∧ a.concat empty = a ∧
      ∀ bs, a.append bs = a.concat (of bs) ↔ a = empty ∨ 0 < a.length ∨ bs = [] :=
  ⟨concat_assoc a b c, concat_empty a, append_eq_concat_iff a⟩

/-- A code that covers nothing is lost when something is joined to it. -/
example : Checksum.concat ⟨7, 0⟩ (of [0x31]) = of [0x31] ∧ Checksum.append ⟨7, 0⟩ [0x31] ≠ of [0x31] := by
  decide +kernel

end Checksum

end SteadyFetch
