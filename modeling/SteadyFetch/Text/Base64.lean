import SteadyFetch.Text.Utf8

set_option autoImplicit false

/-! # Base64

The standard alphabet with padding. Three octets make four symbols; one or two octets left over
make two or three symbols and padding up to four. Decoding accepts the canonical form only: padding
is required, and the bits of the last symbol that carry no octet must be zero. -/

namespace SteadyFetch.Base64

/-- The symbol for six bits. -/
def symbol (n : Nat) : Char :=
  if n < 26 then Char.ofNat (65 + n)
  else if n < 52 then Char.ofNat (71 + n)
  else if n < 62 then Char.ofNat (n - 4)
  else if n = 62 then '+'
  else '/'

/-- The six bits of a symbol. -/
def value? (b : UInt8) : Option Nat :=
  let n := b.toNat
  if 65 ≤ n ∧ n ≤ 90 then some (n - 65)
  else if 97 ≤ n ∧ n ≤ 122 then some (n - 71)
  else if 48 ≤ n ∧ n ≤ 57 then some (n + 4)
  else if n = 43 then some 62
  else if n = 47 then some 63
  else none

/-! ## Encoding -/

/-- The symbols of an octet string. -/
def symbols : Bytes → List Char
  | [] => []
  | [a] => [symbol (a.toNat / 4), symbol (a.toNat % 4 * 16), '=', '=']
  | [a, b] =>
    [symbol (a.toNat / 4), symbol (a.toNat % 4 * 16 + b.toNat / 16),
      symbol (b.toNat % 16 * 4), '=']
  | a :: b :: c :: rest =>
    symbol (a.toNat / 4) :: symbol (a.toNat % 4 * 16 + b.toNat / 16)
      :: symbol (b.toNat % 16 * 4 + c.toNat / 64) :: symbol (c.toNat % 64) :: symbols rest

/-- The canonical text of an octet string. -/
def encode (bs : Bytes) : String := String.ofList (symbols bs)

/-! ## Decoding -/

/-- Why a text is not canonical base64. -/
inductive DecodeError where
  /-- An octet outside the alphabet, or padding where none may stand. -/
  | invalidSymbol (offset : Nat) (octet : UInt8)
  /-- A last symbol alone in its group; the length counts the octets up to it. -/
  | invalidLength (length : Nat)
  /-- A last symbol with bits that belong to no octet. -/
  | invalidLastSymbol (offset : Nat) (octet : UInt8)
  /-- Padding that does not fill the last group. -/
  | invalidPadding
  deriving DecidableEq, Repr

/-- The wording of each cause. -/
def DecodeError.message : DecodeError → String
  | .invalidSymbol offset octet => s!"Invalid symbol {octet}, offset {offset}."
  | .invalidLength length => s!"Invalid input length: {length}"
  | .invalidLastSymbol offset octet => s!"Invalid last symbol {octet}, offset {offset}."
  | .invalidPadding => "Invalid padding"

/-- The six bits of the octet at `offset`. -/
def sixBits (offset : Nat) (b : UInt8) : Except DecodeError Nat :=
  match value? b with
  | some n => .ok n
  | none => .error (.invalidSymbol offset b)

/-- Three octets from the six bits of four symbols. -/
def octets (p q r s : Nat) : Bytes :=
  [UInt8.ofNat (p * 4 + q / 16), UInt8.ofNat (q % 16 * 16 + r / 4), UInt8.ofNat (r % 4 * 64 + s)]

/-- What the last group holds: its symbols in order, and how many paddings follow them. -/
structure Tail where
  values : List Nat
  padding : Nat

/-- Reads the last group octet by octet: the first two places take no padding, and after padding
    only padding may come. `pad` is the offset of the first padding met. -/
def readTail : (index offset : Nat) → (pad : Option Nat) → Tail → Bytes → Except DecodeError Tail
  | _, _, _, t, [] => .ok t
  | index, offset, pad, t, b :: bs =>
    if b = 61 then
      if index < 2 then .error (.invalidSymbol offset b)
      else readTail (index + 1) (offset + 1) (pad.or (some offset))
        { t with padding := t.padding + 1 } bs
    else
      match pad with
      | some at_ => .error (.invalidSymbol at_ 61)
      | none => do
        let v ← sixBits offset b
        readTail (index + 1) (offset + 1) none { t with values := t.values ++ [v] } bs

/-- The octets of the last group, which holds up to four of the text's octets. -/
def decodeTail (offset : Nat) (last : Bytes) : Except DecodeError Bytes := do
  if last.isEmpty then return []
  let t ← readTail 0 offset none ⟨[], 0⟩ last
  if t.values.length < 2 then throw (.invalidLength (offset + t.values.length))
  if (t.values.length + t.padding) % 4 ≠ 0 then throw .invalidPadding
  match t.values with
  | [p, q] =>
    if q % 16 ≠ 0 then throw (.invalidLastSymbol (offset + 1) (last.getD 1 0))
    return (octets p q 0 0).take 1
  | [p, q, r] =>
    if r % 4 ≠ 0 then throw (.invalidLastSymbol (offset + 2) (last.getD 2 0))
    return (octets p q r 0).take 2
  | [p, q, r, s] => return octets p q r s
  | _ => throw .invalidPadding

/-- The octets of the groups before the last, then those of the last. -/
def decodeFrom (offset : Nat) : Bytes → Except DecodeError Bytes
  | a :: b :: c :: d :: e :: rest => do
    let p ← sixBits offset a
    let q ← sixBits (offset + 1) b
    let r ← sixBits (offset + 2) c
    let s ← sixBits (offset + 3) d
    return octets p q r s ++ (← decodeFrom (offset + 4) (e :: rest))
  | last => decodeTail offset last

/-- The octets of a canonical text. A lone last octet outside the alphabet, such as a line break,
    is reported before anything else. -/
def decode (s : String) : Except DecodeError Bytes :=
  let bs := Utf8.encode s
  match bs.getLast? with
  | some b =>
    if bs.length % 4 = 1 ∧ b ≠ 61 ∧ value? b = none then
      .error (.invalidSymbol (bs.length - 1) b)
    else decodeFrom 0 bs
  | none => .ok []

end SteadyFetch.Base64
