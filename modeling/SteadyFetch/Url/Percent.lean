import SteadyFetch.Text.Utf8

set_option autoImplicit false

/-! # Percent encoding

Octets outside ASCII, controls, and the octets of a set are written as `%` and two digits. Which set
applies depends on the part of the URL. Decoding reads such triples back and leaves everything else
as it is. -/

namespace SteadyFetch.Percent

/-- Octets that a part of a URL cannot hold as they are, beside controls and those outside ASCII. -/
abbrev EncodeSet := List Char

/-- What a fragment cannot hold. -/
def fragmentSet : EncodeSet := [' ', '"', '<', '>', '\x60']

/-- What a query cannot hold. -/
def querySet : EncodeSet := [' ', '"', '#', '<', '>']

/-- What the query of a special scheme cannot hold. -/
def specialQuerySet : EncodeSet := '\x27' :: querySet

/-- What a path cannot hold. -/
def pathSet : EncodeSet := fragmentSet ++ ['#', '?', '\x7b', '\x7d']

/-- What one segment of a path cannot hold. -/
def segmentSet : EncodeSet := pathSet ++ ['/', '%']

/-- What one segment of a path of a special scheme cannot hold. -/
def specialSegmentSet : EncodeSet := segmentSet ++ ['\\']

/-- What a user name or a password cannot hold. -/
def userinfoSet : EncodeSet := pathSet ++ ['/', ':', ';', '=', '@', '[', '\\', ']', '^', '|']

/-- Whether an octet is encoded. -/
def isEncoded (set : EncodeSet) (b : UInt8) : Bool :=
  b < 0x20 || 0x7F ≤ b || set.contains (Char.ofNat b.toNat)

/-- An octet as `%` and two digits. -/
def triple (b : UInt8) : List Char :=
  ['%', hexDigitUpper (b.toNat / 16), hexDigitUpper (b.toNat % 16)]

/-- Encodes octets. -/
def encodeBytes (set : EncodeSet) (bs : Bytes) : List Char :=
  bs.flatMap fun b => if isEncoded set b then triple b else [Char.ofNat b.toNat]

/-- Encodes a text. -/
def encode (set : EncodeSet) (cs : List Char) : List Char :=
  encodeBytes set (Utf8.encode (String.ofList cs))

/-- Reads triples back. -/
def decodeBytes : Bytes → Bytes
  | [] => []
  | [a] => [a]
  | [a, b] => [a, b]
  | a :: b :: c :: rest =>
    if a = 37 then
      match hexValue? (Char.ofNat b.toNat), hexValue? (Char.ofNat c.toNat) with
      | some x, some y => UInt8.ofNat (x * 16 + y) :: decodeBytes rest
      | _, _ => a :: decodeBytes (b :: c :: rest)
    else a :: decodeBytes (b :: c :: rest)

/-- The octets that a text denotes. -/
def decode (cs : List Char) : Bytes := decodeBytes (Utf8.encode (String.ofList cs))

end SteadyFetch.Percent
