import Mathlib.Algebra.Order.Field.Power
import Mathlib.Algebra.Order.Field.Rat
import Mathlib.Tactic.Linarith
import Mathlib.Tactic.Positivity
import Mathlib.Tactic.Ring
import SteadyFetch.Config
import SteadyFetch.Segment

set_option autoImplicit false

/-! # Settings that can be worked with

Settings that pass the check make a segmenter, and they make a policy unless the base delay is longer than any
span (`Config.validate_makes_usable`): the check asks whether the delay is a number and not below zero, but not
whether it is too long, so `2 ^ 64` seconds pass it and make no policy (`Config.validate_admits_overlong`).

Which delays a span can hold is told on the exact value of a floating-point number (`Binary64.value?`). It is
rounded to nanoseconds, so the bound for numbers of any precision is half a nanosecond below `2 ^ 64` seconds; no
number of sixty-four bits lies between. -/

namespace SteadyFetch

/-! ## Rounding -/

/-- A quotient is rounded to a nearest integer, and a half to the even one. -/
theorem roundDiv_nearest {num den : Nat} (hden : 0 < den) :
    |(num : ℚ) / den - roundDiv num den| ≤ 1 / 2 ∧
      (|(num : ℚ) / den - roundDiv num den| = 1 / 2 → roundDiv num den % 2 = 0) := by
  have hden' : (0 : ℚ) < den := by exact_mod_cast hden
  -- the quotient lies by the fraction `part` above the whole number
  obtain ⟨part, hpart⟩ : ∃ part : ℚ, part = (num % den : Nat) / den := ⟨_, rfl⟩
  have hquotient : (num : ℚ) / den = (num / den : Nat) + part := by
    have hsplit : (num : ℚ) = den * (num / den : Nat) + (num % den : Nat) := by
      exact_mod_cast (Nat.div_add_mod num den).symm
    rw [hpart, div_eq_iff hden'.ne', add_mul, div_mul_cancel₀ _ hden'.ne', mul_comm, ← hsplit]
  have hbelow : (2 * (num % den) < den ↔ part < 1 / 2) := by
    rw [hpart, div_lt_div_iff₀ hden' two_pos, one_mul, mul_comm]
    exact_mod_cast Iff.rfl
  have habove : (den < 2 * (num % den) ↔ 1 / 2 < part) := by
    rw [hpart, div_lt_div_iff₀ two_pos hden', one_mul, mul_comm]
    exact_mod_cast Iff.rfl
  have hnonneg : 0 ≤ part := by rw [hpart]; positivity
  have hlt : part < 1 := by
    rw [hpart, div_lt_one hden']
    exact_mod_cast Nat.mod_lt num hden
  have hdown : |(num / den : Nat) + part - (num / den : Nat)| = part := by
    rw [add_sub_cancel_left, abs_of_nonneg hnonneg]
  have hup : |(num / den : Nat) + part - (num / den + 1 : Nat)| = 1 - part := by
    rw [Nat.cast_succ, add_sub_add_left_eq_sub, abs_of_neg (sub_neg.2 hlt), neg_sub]
  rw [hquotient]
  unfold roundDiv
  simp only [hbelow, habove]
  split_ifs with hlow hhigh heven
  · rw [hdown]
    exact ⟨hlow.le, fun htie => absurd htie hlow.ne⟩
  · rw [hup]
    exact ⟨by linarith, fun htie => by linarith⟩
  · rw [hdown]
    exact ⟨not_lt.1 hhigh, fun _ => heven⟩
  · rw [hup]
    exact ⟨by linarith, fun _ => by omega⟩

/-- So it is rounded to something below an even number if it lies more than a half below it. -/
theorem roundDiv_lt_iff {num den bound : Nat} (hden : 0 < den) (heven : bound % 2 = 0) :
    roundDiv num den < bound ↔ (num : ℚ) / den < bound - 1 / 2 := by
  obtain ⟨hnear, htie⟩ := @roundDiv_nearest num den hden
  obtain ⟨hlow, hhigh⟩ := abs_le.1 hnear
  constructor
  · intro hlt
    have hle : (roundDiv num den : ℚ) + 1 ≤ bound := by exact_mod_cast hlt
    refine lt_of_le_of_ne (by linarith) fun hhalf => ?_
    -- a half below an even number is rounded to it, since the number before it is odd
    have hbefore : (roundDiv num den : ℚ) + 1 = bound := by linarith
    have hbefore : roundDiv num den + 1 = bound := by exact_mod_cast hbefore
    have hdistance : (num : ℚ) / den - roundDiv num den = 1 / 2 := by
      rw [hhalf, ← hbefore]
      push_cast
      ring
    have hround := htie (by rw [hdistance, abs_of_pos one_half_pos])
    omega
  · intro hlt
    have hlt : (roundDiv num den : ℚ) < bound := by linarith
    exact_mod_cast hlt

namespace Binary64

/-- The exact value of a number, if it is finite. -/
def value? : Binary64 → Option ℚ
  | .finite negative m e => some ((if negative then -1 else 1) * (m * 2 ^ e))
  | _ => none

/-- Whether the mantissa of a number has no more bits than there are for it. -/
def Fits : Binary64 → Prop
  | .finite _ m _ => m < 2 ^ precision
  | _ => True

theorem scaled_den_pos {num den : Nat} (hden : 0 < den) (e : Int) : 0 < (scaled num den e).2 := by
  unfold scaled
  split_ifs with he
  · exact Nat.mul_pos hden (Nat.pow_pos (by decide))
  · exact hden

theorem scaled_div (num den : Nat) (e : Int) :
    ((scaled num den e).1 : ℚ) / (scaled num den e).2 = num / den * 2 ^ (-e) := by
  unfold scaled
  split_ifs with he
  · obtain ⟨n, rfl⟩ := Int.eq_ofNat_of_zero_le he
    simp [div_eq_mul_inv, mul_assoc, mul_comm]
  · obtain ⟨n, hn⟩ := Int.eq_ofNat_of_zero_le (show 0 ≤ -e by omega)
    rw [hn]
    simp [div_eq_mul_inv, mul_right_comm]

/-- What the check of a delay asks for is a value that is not below zero. -/
theorem isNonNegative_iff (x : Binary64) :
    (x.isFinite && x.isNonNegative) = true ↔ ∃ value, x.value? = some value ∧ 0 ≤ value := by
  cases x with
  | notANumber => simp [isFinite, value?]
  | infinite negative => simp [isFinite, value?]
  | finite negative m e =>
      have hpower : (0 : ℚ) < 2 ^ e := by positivity
      have hmagnitude : (0 : ℚ) ≤ m * 2 ^ e := by positivity
      cases negative with
      | false => simp [isFinite, isNonNegative, value?, hmagnitude]
      | true =>
          have hzero : (m : ℚ) * 2 ^ e ≤ 0 ↔ m = 0 := by
            rw [hmagnitude.ge_iff_eq', mul_eq_zero, or_iff_left hpower.ne', Nat.cast_eq_zero]
          simp [isFinite, isNonNegative, value?, hzero]

/-- The doubles next to `2 ^ 64` are further from it than one. -/
theorem le_value_iff {x : Binary64} {value gap : ℚ} (hfits : x.Fits) (hvalue : x.value? = some value)
    (hpos : 0 ≤ gap) (hgap : gap < 1) : 2 ^ 64 - gap ≤ value ↔ 2 ^ 64 ≤ value := by
  refine ⟨fun hle => ?_, fun hle => by linarith⟩
  by_contra hless
  cases x with
  | notANumber => cases hvalue
  | infinite negative => cases hvalue
  | finite negative m e =>
      obtain rfl := Option.some.inj hvalue
      have hmagnitude : (0 : ℚ) ≤ m * 2 ^ e := by positivity
      cases negative with
      | true =>
          simp only [if_true] at hle
          linarith
      | false =>
          simp only [Bool.false_eq_true, if_false, one_mul, not_le] at hle hless
          rcases Int.le_total 0 e with he | he
          · -- a whole number
            obtain ⟨n, rfl⟩ := Int.eq_ofNat_of_zero_le he
            have hwhole : m * 2 ^ n + 1 ≤ 2 ^ 64 := by exact_mod_cast hless
            have hwhole : (m : ℚ) * 2 ^ n + 1 ≤ 2 ^ 64 := by exact_mod_cast hwhole
            rw [zpow_natCast] at hle
            linarith
          · -- no greater than its mantissa
            have hsmall : (2 : ℚ) ^ e ≤ 1 := zpow_le_one_of_nonpos₀ one_le_two he
            have hmantissa : (m : ℚ) < 2 ^ 53 := by exact_mod_cast hfits
            have hmost : (m : ℚ) * 2 ^ e ≤ m := mul_le_of_le_one_right (Nat.cast_nonneg m) hsmall
            linarith

end Binary64

/-! ## Delays -/

namespace Span

open Binary64 (value? scaled scaled_den_pos scaled_div)

theorem ofNanos?_eq_none_iff (n : Nat) : ofNanos? n = none ↔ Word.limit64 * nanosPerSecond ≤ n := by
  unfold ofNanos?
  split_ifs with hfits
  · simp [hfits]
  · simpa using hfits

theorem nanos_of_ofNanos? {n : Nat} {s : Span} (h : ofNanos? n = some s) : s.nanos = n := by
  unfold ofNanos? at h
  split_ifs at h with hfits
  cases h
  rfl

/-- A delay that is not below zero is counted in nanoseconds: the quotient that is rounded is its exact value. -/
theorem ofBinary?_eq {x : Binary64} {value : ℚ} (hvalue : x.value? = some value) (hpos : 0 ≤ value) :
    ∃ num den : Nat, 0 < den ∧ (num : ℚ) / den = value * 10 ^ 9 ∧
      ofBinary? x = ofNanos? (roundDiv num den) := by
  cases x with
  | notANumber => cases hvalue
  | infinite negative => cases hvalue
  | finite negative m e =>
      obtain rfl := Option.some.inj hvalue
      cases negative with
      | true =>
          have hmagnitude : (0 : ℚ) ≤ m * 2 ^ e := by positivity
          simp only [if_true] at hpos ⊢
          have hzero : (m : ℚ) * 2 ^ e = 0 := by linarith
          refine ⟨0, 1, one_pos, ?_, rfl⟩
          rw [hzero]
          simp
      | false =>
          refine ⟨(scaled (m * nanosPerSecond) 1 (-e)).1, _, scaled_den_pos one_pos (-e), ?_, rfl⟩
          rw [scaled_div, neg_neg, nanosPerSecond]
          push_cast
          ring

/-- It is a span if it is shorter than `2 ^ 64` seconds by more than half a nanosecond. -/
theorem ofBinary?_eq_none_iff {x : Binary64} {value : ℚ} (hvalue : x.value? = some value) (hpos : 0 ≤ value) :
    ofBinary? x = none ↔ 2 ^ 64 - 1 / (2 * 10 ^ 9) ≤ value := by
  obtain ⟨num, den, hden, hquotient, hspan⟩ := ofBinary?_eq hvalue hpos
  rw [hspan, ofNanos?_eq_none_iff, ← not_lt, roundDiv_lt_iff hden (by decide), hquotient, not_lt, nanosPerSecond]
  push_cast
  constructor
  · intro hlong
    linarith
  · intro hlong
    linarith

theorem abs_nanos_ofBinary?_sub_le {x : Binary64} {value : ℚ} {s : Span} (hvalue : x.value? = some value)
    (hpos : 0 ≤ value) (hs : ofBinary? x = some s) : |value * 10 ^ 9 - s.nanos| ≤ 1 / 2 := by
  obtain ⟨num, den, hden, hquotient, hspan⟩ := ofBinary?_eq hvalue hpos
  rw [nanos_of_ofNanos? (hspan.symm.trans hs), ← hquotient]
  exact (roundDiv_nearest hden).1

end Span

/-! ## Settings -/

namespace Config

variable {c : Config}

theorem validateRetry_eq_ok_iff (s : RetrySettings) : validateRetry s = .ok () ↔
    0 < s.maxAttempts ∧ ∃ delay, s.baseDelay.value? = some delay ∧ 0 ≤ delay := by
  rw [← Binary64.isNonNegative_iff]
  unfold validateRetry
  by_cases hattempts : s.maxAttempts = 0
  · rw [if_pos hattempts, hattempts]
    exact ⟨nofun, fun h => absurd h.1 (Nat.lt_irrefl 0)⟩
  · rw [if_neg hattempts]
    cases hdelay : s.baseDelay.isFinite && s.baseDelay.isNonNegative with
    | false => exact ⟨nofun, nofun⟩
    | true => exact ⟨fun _ => ⟨Nat.pos_of_ne_zero hattempts, rfl⟩, fun _ => rfl⟩

/-- The check accepts settings with sizes that are not zero and, where retrying is set, at least one attempt and a
    base delay that is a number and not below zero. -/
theorem validate_eq_ok_iff (c : Config) : c.validate = .ok () ↔
    0 < c.maxSegmentSize ∧ 0 < c.blockSize ∧ ∀ s ∈ c.retry,
      0 < s.maxAttempts ∧ ∃ delay, s.baseDelay.value? = some delay ∧ 0 ≤ delay := by
  unfold validate
  by_cases hmax : c.maxSegmentSize = 0
  · rw [if_pos hmax, hmax]
    exact ⟨nofun, fun h => absurd h.1 (Nat.lt_irrefl 0)⟩
  by_cases hblock : c.blockSize = 0
  · rw [if_neg hmax, if_pos hblock, hblock]
    exact ⟨nofun, fun h => absurd h.2.1 (Nat.lt_irrefl 0)⟩
  have hsizes : 0 < c.maxSegmentSize ∧ 0 < c.blockSize :=
    ⟨Nat.pos_of_ne_zero hmax, Nat.pos_of_ne_zero hblock⟩
  rw [if_neg hmax, if_neg hblock]
  cases c.retry with
  | none => exact ⟨fun _ => ⟨hsizes.1, hsizes.2, nofun⟩, fun _ => rfl⟩
  | some s =>
      refine (validateRetry_eq_ok_iff s).trans ⟨fun h => ⟨hsizes.1, hsizes.2, ?_⟩, fun h => h.2.2 s rfl⟩
      rintro s' ⟨⟩
      exact h

/-- The delay that is in effect is set, and passes the check, or is the default. -/
theorem exists_delay (h : c.validate = .ok ()) : 0 < c.retrySettings.maxAttempts ∧
    ∃ delay, c.retrySettings.baseDelay.value? = some delay ∧ 0 ≤ delay := by
  obtain ⟨-, -, hretry⟩ := (validate_eq_ok_iff c).1 h
  unfold retrySettings
  cases hset : c.retry with
  | some s => exact hretry s hset
  | none => exact ⟨by decide, _, rfl, by norm_num⟩

/-- **Settings that pass the check can be worked with, but for delays that are too long.** Sizes that pass make a
    segmenter with these sizes. What passes as a base delay has an exact value that is not below zero, and there is
    no policy exactly if it is at least `2 ^ 64` seconds, less half a nanosecond; of the doubles, exactly those
    from `2 ^ 64` on make none. A policy has the attempts of the settings, at least one, their base delay to half
    a nanosecond, and their longest delay if that fits in sixty-four bits. -/
theorem validate_makes_usable {m : Type → Type} (hasher : Hasher m) (h : c.validate = .ok ()) :
    (∃ s : Segmenter m, Segmenter.make hasher c.maxSegmentSize c.blockSize = .ok s ∧
      s.hasher = hasher ∧ s.maxSize = c.maxSegmentSize ∧ s.blockSize = c.blockSize) ∧
    ∃ delay, c.retrySettings.baseDelay.value? = some delay ∧ 0 ≤ delay ∧
      (c.retrySettings.policy? = none ↔ 2 ^ 64 - 1 / (2 * 10 ^ 9) ≤ delay) ∧
      (c.retrySettings.baseDelay.Fits → (c.retrySettings.policy? = none ↔ 2 ^ 64 ≤ delay)) ∧
      ∀ p ∈ c.retrySettings.policy?,
        0 < p.maxAttempts ∧ p.maxAttempts = c.retrySettings.maxAttempts ∧
        |delay * 10 ^ 9 - p.baseDelay.nanos| ≤ 1 / 2 ∧
        (c.retrySettings.maxDelay < Word.limit64 →
          p.maxDelay.nanos = c.retrySettings.maxDelay * nanosPerSecond) := by
  obtain ⟨hmax, hblock, -⟩ := (validate_eq_ok_iff c).1 h
  obtain ⟨hattempts, delay, hdelay, hpos⟩ := exists_delay h
  have hnone : c.retrySettings.policy? = none ↔ 2 ^ 64 - 1 / (2 * 10 ^ 9) ≤ delay := by
    rw [RetrySettings.policy?, Option.map_eq_none_iff, Span.ofBinary?_eq_none_iff hdelay hpos]
  refine ⟨⟨⟨hasher, c.maxSegmentSize, c.blockSize, hmax, hblock⟩, ?_, rfl, rfl, rfl⟩, delay, hdelay, hpos, hnone,
    fun hfits => ?_, fun p hp => ?_⟩
  · rw [Segmenter.make, dif_pos hmax, dif_pos hblock]
  · rw [hnone, Binary64.le_value_iff hfits hdelay (by norm_num) (by norm_num)]
  · obtain ⟨base, hbase, rfl⟩ := Option.map_eq_some_iff.1 hp
    refine ⟨hattempts, rfl, Span.abs_nanos_ofBinary?_sub_le hdelay hpos hbase, fun hlongest => ?_⟩
    have hshort : c.retrySettings.maxDelay * nanosPerSecond < Word.limit64 * nanosPerSecond :=
      Nat.mul_lt_mul_of_pos_right hlongest (by decide)
    show (Span.saturating _).nanos = _
    rw [Span.saturating, Span.ofNanos?, dif_pos hshort]
    rfl

/-- Settings at the far ends: the greatest sizes, the most attempts, the greatest double below `2 ^ 64` and the
    longest delay. -/
def extreme : Config where
  endpoint := ""
  maxSegmentSize := Word.limit64 - 1
  blockSize := Word.limit64 - 1
  crc32c := true
  connectTimeout := Word.limit64 - 1
  lowSpeedTime := Word.limit64 - 1
  retry := some ⟨Word.limit32 - 1, .finite false (2 ^ 53 - 1) 11, Word.limit64 - 1⟩

theorem validate_makes_usable_extreme : extreme.validate = .ok () ∧
    (∃ s : Segmenter Id, Segmenter.make .crc32c extreme.maxSegmentSize extreme.blockSize = .ok s) ∧
    ∃ p, extreme.retrySettings.policy? = some p ∧ 0 < p.maxAttempts ∧
      p.maxDelay.nanos = extreme.retrySettings.maxDelay * nanosPerSecond := by
  have hvalid : extreme.validate = .ok () := rfl
  have hfits : extreme.retrySettings.baseDelay.Fits := show 2 ^ 53 - 1 < 2 ^ 53 by decide
  have hlongest : extreme.retrySettings.maxDelay < Word.limit64 := show Word.limit64 - 1 < Word.limit64 by decide
  obtain ⟨⟨s, hs, -⟩, delay, hdelay, -, -, hnone, hmade⟩ :=
    validate_makes_usable (Hasher.crc32c : Hasher Id) hvalid
  obtain rfl := Option.some.inj hdelay
  obtain ⟨p, hp⟩ := Option.ne_none_iff_exists'.1 (mt (hnone hfits).1 (by norm_num))
  obtain ⟨hattempts, -, -, hdelay⟩ := hmade p hp
  exact ⟨hvalid, ⟨s, hs⟩, p, hp, hattempts, hdelay hlongest⟩

/-- The default settings, but for a base delay of `2 ^ 64` seconds. -/
def overlong : Config := { default with retry := some ⟨5, .finite false (2 ^ 52) 12, 30⟩ }

/-- A delay that can be written down passes the check, and makes no policy. -/
theorem validate_admits_overlong :
    overlong.retry.map RetrySettings.baseDelay = Binary64.parse? "18446744073709551616.0" ∧
      overlong.validate = .ok () ∧ overlong.retrySettings.policy? = none := by
  refine ⟨?_, rfl, ?_⟩
  · decide +kernel
  · decide +kernel

end Config

end SteadyFetch
