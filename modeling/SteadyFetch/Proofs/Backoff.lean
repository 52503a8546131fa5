import Mathlib.Algebra.Group.Nat.Defs
import Mathlib.Order.Lattice
import SteadyFetch.Retry.Policy

set_option autoImplicit false

/-! # How long to wait before another attempt

The delay of a policy is the shorter one of its longest delay and of its base delay doubled once for each
failure after the first, at most eight times, and that as if spans could be of any length
(`RetryPolicy.decide_backs_off`): the product is cut at the longest span, but no longest delay is longer than
that. Counting in seconds and nanoseconds, with what the nanoseconds make in seconds carried, comes to the
same (`Span.parts_scale`). -/

namespace SteadyFetch

namespace Span

variable {s t : Span}

theorem nanos_le_longest (s : Span) : s.nanos ≤ longest.nanos := Nat.le_sub_one_of_lt s.nanos_lt

theorem nanos_saturating (n : Nat) : (saturating n).nanos = min n longest.nanos := by
  unfold saturating ofNanos?
  split_ifs with hfits
  · exact (min_eq_left (Nat.le_sub_one_of_lt hfits)).symm
  · exact (min_eq_right (Nat.le_trans (Nat.sub_le _ _) (Nat.le_of_not_lt hfits))).symm

theorem nanos_scale (s : Span) (factor : Nat) :
    (s.scale factor).nanos = min (s.nanos * factor) longest.nanos :=
  nanos_saturating _

theorem nanos_shorter (s t : Span) : (s.shorter t).nanos = min s.nanos t.nanos := by
  unfold shorter
  split_ifs with hle
  · exact (min_eq_left hle).symm
  · exact (min_eq_right (Nat.le_of_not_le hle)).symm

/-- A product that is cut off is longer than any span that it is compared with. -/
theorem nanos_shorter_scale (s t : Span) (factor : Nat) :
    ((s.scale factor).shorter t).nanos = min t.nanos (s.nanos * factor) := by
  rw [nanos_shorter, nanos_scale, min_assoc, min_eq_right (nanos_le_longest t), min_comm]

/-! ## Seconds and nanoseconds -/

/-- A span as it is counted: whole seconds, and the nanoseconds after them. -/
def parts (s : Span) : Nat × Nat := (s.seconds, s.subsecondNanos)

/-- A multiple of a span, part by part: what the nanoseconds make in seconds is carried. None where the seconds
    do not fit in sixty-four bits. -/
def carried? (s : Span) (factor : Nat) : Option (Nat × Nat) :=
  let nanos := s.subsecondNanos * factor
  let seconds := s.seconds * factor + nanos / nanosPerSecond
  if seconds < Word.limit64 then some (seconds, nanos % nanosPerSecond) else none

/-- The lesser of two counts, by seconds first. -/
def lesser (a b : Nat × Nat) : Nat × Nat :=
  if a.1 < b.1 ∨ a.1 = b.1 ∧ a.2 ≤ b.2 then a else b

theorem carried?_eq (s : Span) (factor : Nat) :
    s.carried? factor = if s.nanos * factor < Word.limit64 * nanosPerSecond then
      some (s.nanos * factor / nanosPerSecond, s.nanos * factor % nanosPerSecond) else none := by
  have hpos : 0 < nanosPerSecond := by decide
  have hsplit : s.nanos * factor
      = nanosPerSecond * (s.seconds * factor) + s.subsecondNanos * factor := by
    rw [← Nat.mul_assoc, ← Nat.add_mul, seconds, subsecondNanos, Nat.div_add_mod]
  have hseconds : s.nanos * factor / nanosPerSecond
      = s.seconds * factor + s.subsecondNanos * factor / nanosPerSecond := by
    rw [hsplit, Nat.mul_add_div hpos]
  have hnanos : s.nanos * factor % nanosPerSecond = s.subsecondNanos * factor % nanosPerSecond := by
    rw [hsplit, Nat.mul_add_mod]
  rw [carried?, ← hseconds, ← hnanos]
  simp only [Nat.div_lt_iff_lt_mul hpos]

/-- Counting part by part comes to the product, cut at the longest span. -/
theorem parts_scale (s : Span) (factor : Nat) :
    (s.scale factor).parts = (s.carried? factor).getD longest.parts := by
  rw [carried?_eq, scale, saturating, ofNanos?]
  split_ifs with hfits
  · rfl
  · rfl

theorem nanos_le_iff (s t : Span) :
    s.nanos ≤ t.nanos ↔ s.parts.1 < t.parts.1 ∨ s.parts.1 = t.parts.1 ∧ s.parts.2 ≤ t.parts.2 := by
  have hpos : 0 < nanosPerSecond := by decide
  have hs := Nat.div_add_mod s.nanos nanosPerSecond
  have ht := Nat.div_add_mod t.nanos nanosPerSecond
  have hslt := Nat.mod_lt s.nanos hpos
  have htlt := Nat.mod_lt t.nanos hpos
  unfold parts seconds subsecondNanos
  unfold nanosPerSecond at *
  omega

theorem parts_shorter (s t : Span) : (s.shorter t).parts = lesser s.parts t.parts := by
  unfold shorter lesser
  by_cases hle : s.nanos ≤ t.nanos
  · rw [if_pos hle, if_pos ((nanos_le_iff s t).1 hle)]
  · rw [if_neg hle, if_neg (mt (nanos_le_iff s t).2 hle)]

end Span

namespace RetryPolicy

variable {p : RetryPolicy} {attempt : Nat} {kind : FaultClass}

/-- The delay before another attempt, counted in seconds and nanoseconds. -/
def countedDelay (p : RetryPolicy) (attempt : Nat) : Nat × Nat :=
  Span.lesser ((p.baseDelay.carried? (factor attempt)).getD Span.longest.parts) p.maxDelay.parts

/-- The delay before another attempt in nanoseconds, without bounds on the way. An attempt without a number
    counts as the first. -/
def delayNanos (p : RetryPolicy) (attempt : Nat) : Nat :=
  min p.maxDelay.nanos (p.baseDelay.nanos * 2 ^ min (max attempt 1 - 1) 8)

/-- Another attempt is made after a transient fault, unless as many failed as are allowed. -/
theorem decide_eq (p : RetryPolicy) (attempt : Nat) (kind : FaultClass) :
    p.decide attempt kind = if kind.isTransient = true ∧ attempt < p.maxAttempts then
      some ((p.baseDelay.scale (factor attempt)).shorter p.maxDelay) else none := by
  have hstop : (p.maxAttempts ≤ attempt ∨ kind.isTransient = false) ↔
      ¬(kind.isTransient = true ∧ attempt < p.maxAttempts) := by
    rw [not_and_or, Bool.not_eq_true, Nat.not_lt, or_comm]
  rw [decide]
  by_cases hallowed : kind.isTransient = true ∧ attempt < p.maxAttempts
  · rw [if_pos hallowed, if_neg (mt hstop.1 (not_not_intro hallowed))]
  · rw [if_neg hallowed, if_pos (hstop.2 hallowed)]

theorem nanos_shorter_scale_factor (p : RetryPolicy) (attempt : Nat) :
    ((p.baseDelay.scale (factor attempt)).shorter p.maxDelay).nanos = p.delayNanos attempt := by
  have hattempt : max attempt 1 - 1 = attempt - 1 := by omega
  rw [Span.nanos_shorter_scale, delayNanos, hattempt]
  rfl

theorem parts_shorter_scale_factor (p : RetryPolicy) (attempt : Nat) :
    ((p.baseDelay.scale (factor attempt)).shorter p.maxDelay).parts = p.countedDelay attempt := by
  rw [Span.parts_shorter, Span.parts_scale, countedDelay]

theorem nanos_of_decide {delay : Span} (h : delay ∈ p.decide attempt kind) :
    delay.nanos = p.delayNanos attempt := by
  rw [Option.mem_def, decide_eq, Option.ite_none_right_eq_some, Option.some.injEq] at h
  rw [← h.2, nanos_shorter_scale_factor]

theorem delayNanos_mono (p : RetryPolicy) {later : Nat} (h : attempt ≤ later) :
    p.delayNanos attempt ≤ p.delayNanos later := by
  have hexponent : min (max attempt 1 - 1) 8 ≤ min (max later 1 - 1) 8 := by omega
  have hproduct := Nat.mul_le_mul_left p.baseDelay.nanos (Nat.pow_le_pow_right (show 2 > 0 by decide) hexponent)
  exact inf_le_inf_left _ hproduct

theorem delayNanos_succ_le (p : RetryPolicy) (attempt : Nat) :
    p.delayNanos (attempt + 1) ≤ 2 * p.delayNanos attempt := by
  have hexponent : min (max (attempt + 1) 1 - 1) 8 ≤ min (max attempt 1 - 1) 8 + 1 := by omega
  have hproduct : p.baseDelay.nanos * 2 ^ min (max (attempt + 1) 1 - 1) 8
      ≤ 2 * (p.baseDelay.nanos * 2 ^ min (max attempt 1 - 1) 8) :=
    calc p.baseDelay.nanos * 2 ^ min (max (attempt + 1) 1 - 1) 8
        ≤ p.baseDelay.nanos * 2 ^ (min (max attempt 1 - 1) 8 + 1) :=
          Nat.mul_le_mul_left _ (Nat.pow_le_pow_right (by decide) hexponent)
      _ = 2 * (p.baseDelay.nanos * 2 ^ min (max attempt 1 - 1) 8) := by
          rw [Nat.pow_succ, ← Nat.mul_assoc, Nat.mul_comm]
  unfold delayNanos
  omega

/-- A policy allows another attempt after a transient fault if fewer attempts failed than it allows, and after
    no other fault. The delay before it is the shorter one of the longest delay and of the unbounded product
    of the base delay and a power of two, whatever the fault was; it is what counting in seconds and
    nanoseconds comes to. It never falls from one attempt to a later one, and at most doubles from one attempt
    to the next. -/
theorem decide_backs_off (p : RetryPolicy) (attempt : Nat) (kind : FaultClass) :
    ((p.decide attempt kind).isSome = true ↔ kind.isTransient = true ∧ attempt < p.maxAttempts) ∧
      (∀ kind', kind'.isTransient = kind.isTransient → p.decide attempt kind' = p.decide attempt kind) ∧
      ∀ delay ∈ p.decide attempt kind,
        delay.nanos = min p.maxDelay.nanos (p.baseDelay.nanos * 2 ^ min (max attempt 1 - 1) 8) ∧
        (factor attempt < Word.limit32 ∧ delay.parts = p.countedDelay attempt) ∧
        delay.nanos ≤ p.maxDelay.nanos ∧
        (∀ later kind', ∀ delay' ∈ p.decide later kind', attempt ≤ later → delay.nanos ≤ delay'.nanos) ∧
        ∀ kind', ∀ delay' ∈ p.decide (attempt + 1) kind', delay'.nanos ≤ 2 * delay.nanos := by
  refine ⟨?_, ?_, ?_⟩
  · rw [decide_eq]
    split_ifs with hallowed
    · simp [hallowed]
    · simp [hallowed]
  · intro kind' hkind
    rw [decide_eq, decide_eq, hkind]
  · intro delay hdelay
    have hnanos := nanos_of_decide hdelay
    refine ⟨hnanos, ⟨?_, ?_⟩, ?_, ?_, ?_⟩
    · have hfactor : factor attempt ≤ 2 ^ 8 := Nat.pow_le_pow_right (by decide) (Nat.min_le_right _ _)
      exact Nat.lt_of_le_of_lt hfactor (by decide)
    · rw [Option.mem_def, decide_eq, Option.ite_none_right_eq_some, Option.some.injEq] at hdelay
      rw [← hdelay.2, parts_shorter_scale_factor]
    · rw [hnanos]
      exact Nat.min_le_left _ _
    · intro later kind' delay' hdelay' hlater
      rw [hnanos, nanos_of_decide hdelay']
      exact p.delayNanos_mono hlater
    · intro kind' delay' hdelay'
      rw [hnanos, nanos_of_decide hdelay']
      exact p.delayNanos_succ_le attempt

end RetryPolicy

end SteadyFetch
