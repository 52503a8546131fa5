import SteadyFetch.Bytes

set_option autoImplicit false

/-! # UTF-8

`encode` writes text as octets. `scan` reads octets back: every well-formed sequence becomes its
character, and every maximal piece of an ill-formed one becomes a single hole. Strict decoding asks
for no hole; lossy decoding fills each hole with U+FFFD. Both therefore agree on well-formed input. -/

namespace SteadyFetch.Utf8

/-- The octets of a text. -/
def encode (s : String) : Bytes :=
  s.toList.flatMap String.utf8EncodeChar

/-! ## What a first octet announces -/

/-- What must follow the first octet of a sequence. -/
structure Lead where
  /-- Continuation octets still to come. -/
  count : Nat
  /-- The least value allowed for the next octet. -/
  low : Nat
  /-- The greatest value allowed for the next octet. -/
  high : Nat
  /-- The bits of the scalar value that the first octet carries. -/
  bits : Nat

/-- Reads a first octet; the bounds on the second one keep out overlong forms, surrogates and
    values past U+10FFFF. -/
def lead? (b : UInt8) : Option Lead :=
  let n := b.toNat
  if n < 0x80 then some ⟨0, 0x80, 0xBF, n⟩
  else if n < 0xC2 then none
  else if n < 0xE0 then some ⟨1, 0x80, 0xBF, n - 0xC0⟩
  else if n = 0xE0 then some ⟨2, 0xA0, 0xBF, 0⟩
  else if n = 0xED then some ⟨2, 0x80, 0x9F, 0xD⟩
  else if n < 0xF0 then some ⟨2, 0x80, 0xBF, n - 0xE0⟩
  else if n = 0xF0 then some ⟨3, 0x90, 0xBF, 0⟩
  else if n < 0xF4 then some ⟨3, 0x80, 0xBF, n - 0xF0⟩
  else if n = 0xF4 then some ⟨3, 0x80, 0x8F, 4⟩
  else none

/-- Reads the continuation octets that are still to come: the scalar value, or none where the
    sequence breaks off, and the octets that were not used. -/
def follow : (count low high bits : Nat) → Bytes → Option Nat × Bytes
  | 0, _, _, bits, bs => (some bits, bs)
  | _ + 1, _, _, _, [] => (none, [])
  | n + 1, low, high, bits, b :: bs =>
    if low ≤ b.toNat ∧ b.toNat ≤ high then
      follow n 0x80 0xBF (bits * 64 + (b.toNat - 0x80)) bs
    else (none, b :: bs)

theorem follow_length_le (n low high bits : Nat) (bs : Bytes) :
    (follow n low high bits bs).2.length ≤ bs.length := by
  induction n generalizing low high bits bs with
  | zero => simp [follow]
  | succ n ih =>
    cases bs with
    | nil => simp [follow]
    | cons b bs =>
      unfold follow
      split
      · exact Nat.le_succ_of_le (ih ..)
      · exact Nat.le_refl _

/-- One item: a character or a hole, and the octets after it. -/
def item (b : UInt8) (bs : Bytes) : Option Char × Bytes :=
  match lead? b with
  | none => (none, bs)
  | some l =>
    let (value, rest) := follow l.count l.low l.high l.bits bs
    (value.map Char.ofNat, rest)

theorem item_length_le (b : UInt8) (bs : Bytes) : (item b bs).2.length ≤ bs.length := by
  unfold item
  split
  · exact Nat.le_refl _
  · exact follow_length_le ..

/-! ## Decoding -/

/-- All items of an octet string: a character for each well-formed sequence, a hole for each
    maximal piece of an ill-formed one. -/
def scan : Bytes → List (Option Char)
  | [] => []
  | b :: bs => (item b bs).1 :: scan (item b bs).2
termination_by bs => bs.length
decreasing_by exact Nat.lt_succ_of_le (item_length_le b bs)

/-- The text of well-formed octets. -/
def decode? (bs : Bytes) : Option String :=
  ((scan bs).mapM id).map String.ofList

/-- The text of any octets, with U+FFFD for every piece that is not well formed. -/
def decodeLossy (bs : Bytes) : String :=
  String.ofList ((scan bs).map (·.getD (Char.ofNat 0xFFFD)))

end SteadyFetch.Utf8
