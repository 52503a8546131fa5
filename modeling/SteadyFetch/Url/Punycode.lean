set_option autoImplicit false

/-! # Punycode

A label with characters beyond ASCII is written as its ASCII characters, a hyphen, and a string of
digits to base 36 that says which other characters come in, in increasing order, and where. Each
number in it counts the steps of a counter that goes over all places of the text for one code point
after the other; the weights of its digits adapt to the size of the number before. -/

namespace SteadyFetch.Punycode

/-! ## Digits -/

/-- The digit of a value: letters, then decimal digits. -/
def digit (n : Nat) : Char :=
  if n < 26 then Char.ofNat (0x61 + n) else Char.ofNat (0x30 + n - 26)

/-- The value of a digit. -/
def digitValue? (c : Char) : Option Nat :=
  if 'a' ≤ c ∧ c ≤ 'z' then some (c.toNat - 0x61)
  else if 'A' ≤ c ∧ c ≤ 'Z' then some (c.toNat - 0x41)
  else if '0' ≤ c ∧ c ≤ '9' then some (c.toNat - 0x30 + 26)
  else none

/-- The least digit that continues a number, for the digit at a place counted in steps of 36. -/
def threshold (place bias : Nat) : Nat :=
  if place ≤ bias then 1 else min 26 (place - bias)

theorem one_le_threshold (place bias : Nat) : 1 ≤ threshold place bias := by
  unfold threshold
  split
  · exact Nat.le_refl 1
  · omega

/-! ## Adaptation -/

/-- Divides by 35 until at most 455 is left, and counts the divisions in steps of 36. -/
def damped (delta steps : Nat) : Nat × Nat :=
  if 455 < delta then damped (delta / 35) (steps + 36) else (delta, steps)
termination_by delta
decreasing_by exact Nat.div_lt_self (by omega) (by omega)

/-- The bias after a number, for a text of `count` characters so far. -/
def adapt (delta count : Nat) (first : Bool) : Nat :=
  let halved := if first then delta / 700 else delta / 2
  let (rest, steps) := damped (halved + halved / count) 0
  steps + 36 * rest / (rest + 38)

/-- The bias before any number. -/
def initialBias : Nat := 72

/-- The least code point that is not written as it is. -/
def initialPoint : Nat := 0x80

/-! ## Encoding -/

/-- The digits of a number, the least weight first. -/
def number (bias place n : Nat) : List Char :=
  if n < threshold place bias then [digit n]
  else
    let base := 36 - threshold place bias
    let excess := n - threshold place bias
    digit (threshold place bias + excess % base) :: number bias (place + 36) (excess / base)
termination_by n
decreasing_by
  have := one_le_threshold place bias
  exact Nat.lt_of_le_of_lt (Nat.div_le_self ..) (by omega)

/-- How far an encoder is. -/
structure Encoder where
  /-- Digits so far, in pieces, latest first. -/
  pieces : List (List Char)
  /-- Steps of the counter since the last number. -/
  delta : Nat
  bias : Nat
  /-- Characters written so far. -/
  count : Nat
  /-- Whether no number was written yet. -/
  first : Bool

/-- Goes past one character of the label on the way over the places for a code point. -/
def Encoder.pass (point : Nat) (e : Encoder) (c : Char) : Encoder :=
  if c.toNat < point then { e with delta := e.delta + 1 }
  else if c.toNat = point then
    { pieces := number e.bias 36 e.delta :: e.pieces
      delta := 0
      bias := adapt e.delta (e.count + 1) e.first
      count := e.count + 1
      first := false }
  else e

/-- Goes over all places of the label for each of the given code points, `point` being the first for
    which it did not. -/
def Encoder.run (label : List Char) (e : Encoder) (point : Nat) : List Nat → Encoder
  | [] => e
  | next :: points =>
    let e := { e with delta := e.delta + (next - point) * (e.count + 1) }
    let e := label.foldl (Encoder.pass next) e
    Encoder.run label { e with delta := e.delta + 1 } (next + 1) points

/-- The increasing code points of a text that lie beyond ASCII, each once. -/
def pointsBeyondAscii (cs : List Char) : List Nat :=
  ((cs.map Char.toNat).filter (initialPoint ≤ ·)).mergeSort.eraseReps

/-- The ASCII form of a label, without the mark in front. -/
def encode (label : List Char) : List Char :=
  let basic := label.filter (·.toNat < initialPoint)
  let start : Encoder := ⟨[], 0, initialBias, basic.length, true⟩
  let e := start.run label initialPoint (pointsBeyondAscii label)
  basic ++ (if basic.isEmpty then [] else ['-']) ++ e.pieces.reverse.flatten

/-! ## Decoding -/

/-- Reads one number and adds it, times the weight, to a sum. -/
def number? (bias : Nat) (place weight sum : Nat) : List Char → Option (Nat × List Char)
  | [] => none
  | c :: cs => do
    let n ← digitValue? c
    let sum := sum + n * weight
    if n < threshold place bias then return (sum, cs)
    else number? bias (place + 36) (weight * (36 - threshold place bias)) sum cs

theorem number?_length_lt {bias place weight sum n : Nat} {cs rest : List Char}
    (h : number? bias place weight sum cs = some (n, rest)) : rest.length < cs.length := by
  induction cs generalizing place weight sum with
  | nil => simp [number?] at h
  | cons c cs ih =>
    rw [number?] at h
    cases hc : digitValue? c with
    | none => simp [hc] at h
    | some d =>
      simp only [hc, Option.bind_eq_bind, Option.bind_some] at h
      split at h
      · simp only [Option.pure_def, Option.some.injEq, Prod.mk.injEq] at h
        rw [← h.2]
        exact Nat.lt_succ_self _
      · exact Nat.lt_succ_of_lt (ih h)

/-- Puts a character at a place of a text. -/
def insertAt (text : List Char) (i : Nat) (c : Char) : List Char :=
  text.take i ++ c :: text.drop i

/-- Reads the numbers that are left. The counter stands at a code point and a place. -/
def decodeFrom (text : List Char) (point place bias : Nat) (first : Bool) (cs : List Char) :
    Option (List Char) :=
  if cs.isEmpty then some text
  else
    match _h : number? bias 36 1 place cs with
    | none => none
    | some (sum, rest) =>
      let count := text.length + 1
      let point := point + sum / count
      if point.isValidChar then
        decodeFrom (insertAt text (sum % count) (Char.ofNat point)) point (sum % count + 1)
          (adapt (sum - place) count first) false rest
      else none
termination_by cs.length
decreasing_by exact number?_length_lt _h

/-- Splits at the last hyphen; one in front of everything is no separator. -/
def splitLast (cs : List Char) : List Char × List Char :=
  let behind := (cs.reverse.takeWhile (· != '-')).reverse
  let basic := cs.take (cs.length - behind.length - 1)
  (basic, if basic.isEmpty then cs else behind)

/-- The label with a given ASCII form, without the mark in front. -/
def decode? (cs : List Char) : Option (List Char) :=
  let (basic, digits) := splitLast cs
  decodeFrom basic initialPoint 0 initialBias true digits

end SteadyFetch.Punycode
