import SteadyFetch.Text.Canonical.Decomposition
import SteadyFetch.Text.Canonical.Order

set_option autoImplicit false

/-! # Canonical composition

Texts that mean the same characters are written in one way: every character is decomposed, marks on
one base are put in the order of their classes, and what can be composed is composed again
(normalization form C). -/

namespace SteadyFetch.Canonical

/-! ## Hangul

The syllables of Hangul follow from their letters by arithmetic. -/

/-- The first syllable, and the code points below the first letter of each kind. -/
def syllableBase : Nat := 0xAC00
def leadBase : Nat := 0x1100
def vowelBase : Nat := 0x1161
def tailBase : Nat := 0x11A7

/-- The letters of a syllable. -/
def lettersOf? (c : Char) : Option (List Char) :=
  if c.toNat < syllableBase ∨ 0xD7A3 < c.toNat then none
  else
    let index := c.toNat - syllableBase
    let lead := Char.ofNat (leadBase + index / 588)
    let vowel := Char.ofNat (vowelBase + index % 588 / 28)
    if index % 28 = 0 then some [lead, vowel]
    else some [lead, vowel, Char.ofNat (tailBase + index % 28)]

/-- The syllable of a leading letter and a vowel, or of an open syllable and a trailing letter. -/
def syllable? (a b : Char) : Option Char :=
  if leadBase ≤ a.toNat ∧ a.toNat ≤ 0x1112 ∧ vowelBase ≤ b.toNat ∧ b.toNat ≤ 0x1175 then
    some (Char.ofNat (syllableBase
      + ((a.toNat - leadBase) * 21 + (b.toNat - vowelBase)) * 28))
  else if syllableBase ≤ a.toNat ∧ a.toNat ≤ 0xD7A3 ∧ (a.toNat - syllableBase) % 28 = 0
      ∧ tailBase < b.toNat ∧ b.toNat ≤ 0x11C2 then
    some (Char.ofNat (a.toNat + (b.toNat - tailBase)))
  else none

/-! ## Decomposition -/

/-- One step of the decomposition of a character; the character itself if it has none. -/
def decomposeOnce (c : Char) : List Char :=
  if c.toNat < 0xC0 then [c]
  else
    match lettersOf? c with
    | some letters => letters
    | none => (canonicalPairs.chars? c).getD [c]

/-- The full decomposition of a character, which takes at most four steps. -/
def decomposeChar (c : Char) : List Char :=
  (decomposeOnce c).flatMap fun c => (decomposeOnce c).flatMap fun c =>
    (decomposeOnce c).flatMap decomposeOnce

/-! ## Order of marks -/

/-- The combining class of a character: zero for a base, otherwise the rank of a mark. -/
def combiningClass (c : Char) : Nat :=
  if c.toNat < 0x300 then 0
  else
    match combiningClasses.find? c with
    | some (rank :: _) => rank
    | _ => 0

/-- Puts a mark after the marks whose rank is not higher than its own. -/
def insertMark (rank : Nat) (c : Char) : List (Nat × Char) → List (Nat × Char)
  | [] => [(rank, c)]
  | (r, d) :: marks =>
    if rank < r then (rank, c) :: (r, d) :: marks else (r, d) :: insertMark rank c marks

/-- Sorts the marks after each base; `marks` are those since the last base, in order. -/
def orderFrom (marks : List (Nat × Char)) : List Char → List (Nat × Char)
  | [] => marks
  | c :: cs =>
    let rank := combiningClass c
    if rank = 0 then marks ++ (0, c) :: orderFrom [] cs
    else orderFrom (insertMark rank c marks) cs

/-- The full decomposition of a text with the marks in order, each character with its class. -/
def decompose (cs : List Char) : List (Nat × Char) := orderFrom [] (cs.flatMap decomposeChar)

/-! ## Composition -/

/-- The characters of a decomposition into two whose second is `b`, with the first. -/
def composites : List (Char × Char × Char) :=
  canonicalPairs.blocks.toList.flatMap fun block =>
    (block.images.toList.zipIdx block.first).filterMap fun
      | (some [a, b], whole) =>
        if compositionExclusions.contains whole then none
        else some (Char.ofNat a, Char.ofNat b, Char.ofNat whole)
      | _ => none

/-- The character that two compose to. -/
def compose? (a b : Char) : Option Char :=
  (syllable? a b).orElse fun _ =>
    (composites.find? fun (x, y, _) => x == a && y == b).map (·.2.2)

/-- Composes a decomposition. `base` is the last base, `marks` the characters after it that were not
    composed with it, latest first, and `last` the class of the latest of them. A character composes
    with the base unless one of its own class or a base stands between. -/
def composeFrom (base : Char) (marks : List Char) (last : Nat) : List (Nat × Char) → List Char
  | [] => base :: marks.reverse
  | (rank, c) :: rest =>
    let composed := if marks.isEmpty ∨ last < rank then compose? base c else none
    match composed with
    | some whole => composeFrom whole marks last rest
    | none =>
      if rank = 0 then base :: marks.reverse ++ composeFrom c [] 0 rest
      else composeFrom base (c :: marks) rank rest

/-- Composes a decomposition from its first base on. -/
def compose : List (Nat × Char) → List Char
  | [] => []
  | (rank, c) :: rest => if rank = 0 then composeFrom c [] 0 rest else c :: compose rest

/-- The canonical composition of a text. -/
def normalize (cs : List Char) : List Char := compose (decompose cs)

end SteadyFetch.Canonical
