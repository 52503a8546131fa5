import SteadyFetch.Url.Percent

set_option autoImplicit false

/-! # Form encoding

Pairs of names and values as they stand in a query: letters, digits and four marks as they are, a
space as `+`, and every other octet as `%` and two digits. -/

namespace SteadyFetch.Form

/-- Whether an octet stands for itself. -/
def isPlain (b : UInt8) : Bool :=
  let c := Char.ofNat b.toNat
  b < 0x80 && (c.isAlphanum || c == '*' || c == '-' || c == '.' || c == '_')

/-- One octet of a name or value. -/
def encodeByte (b : UInt8) : List Char :=
  if isPlain b then [Char.ofNat b.toNat]
  else if b = 32 then ['+']
  else Percent.triple b

/-- A name or a value. -/
def encode (s : String) : List Char := (Utf8.encode s).flatMap encodeByte

/-- A pair. -/
def encodePair (pair : String × String) : List Char := encode pair.1 ++ '=' :: encode pair.2

/-- A query with one more pair. -/
def appendPair (query : List Char) (pair : String × String) : List Char :=
  if query.isEmpty then encodePair pair else query ++ '&' :: encodePair pair

/-- A query with more pairs. -/
def appendPairs (query : List Char) (pairs : List (String × String)) : List Char :=
  pairs.foldl appendPair query

end SteadyFetch.Form
