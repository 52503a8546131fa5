set_option autoImplicit false

/-! # Byte strings

Payloads, wire messages and file contents are lists of octets, so that "these bytes, then those" is
`++` and "from offset `n` on" is `List.drop n`. This file holds the type and its hexadecimal form. -/

namespace SteadyFetch

/-- A string of octets. -/
abbrev Bytes := List UInt8

/-- The lowercase hexadecimal digit for a value below sixteen. -/
def hexDigit (n : Nat) : Char :=
  if n < 10 then Char.ofNat (48 + n) else Char.ofNat (87 + n)

/-- The uppercase hexadecimal digit for a value below sixteen. -/
def hexDigitUpper (n : Nat) : Char :=
  if n < 10 then Char.ofNat (48 + n) else Char.ofNat (55 + n)

/-- The value of a hexadecimal digit of either case. -/
def hexValue? (c : Char) : Option Nat :=
  if '0' ≤ c ∧ c ≤ '9' then some (c.toNat - 48)
  else if 'a' ≤ c ∧ c ≤ 'f' then some (c.toNat - 87)
  else if 'A' ≤ c ∧ c ≤ 'F' then some (c.toNat - 55)
  else none

/-- Two lowercase digits for an octet. -/
def hexPair (b : UInt8) : List Char :=
  [hexDigit (b.toNat / 16), hexDigit (b.toNat % 16)]

/-- Two lowercase digits for every octet, in order. -/
def Bytes.hex (bs : Bytes) : String :=
  String.ofList (bs.flatMap hexPair)

/-- The octets that pairs of digits of either case denote. -/
def Bytes.ofHex? : List Char → Option Bytes
  | [] => some []
  | a :: b :: rest => do
    let octet := UInt8.ofNat ((← hexValue? a) * 16 + (← hexValue? b))
    return octet :: (← ofHex? rest)
  | [_] => none

/-- The four octets of a word, the most significant first. -/
def bigEndian32 (w : UInt32) : Bytes :=
  [(w >>> 24).toUInt8, (w >>> 16).toUInt8, (w >>> 8).toUInt8, w.toUInt8]

/-- The word whose octets, most significant first, are the given ones. -/
def wordOfBytes (bs : Bytes) : UInt32 :=
  bs.foldl (fun w b => (w <<< 8) ||| b.toUInt32) 0

end SteadyFetch
