import SteadyFetch.Word

set_option autoImplicit false

/-! # Decimal numerals

Numerals as they stand in header lines and on command lines: ASCII digits, leading zeros allowed,
an optional `+` (for signed numbers also `-`), nothing else, and a value inside the bounds of the
type that is asked for. -/

namespace SteadyFetch.Numeral

/-- The value of a list of digits, or none if there is another character. -/
def digits? : List Char → Nat → Option Nat
  | [], acc => some acc
  | c :: cs, acc => if c.isDigit then digits? cs (acc * 10 + (c.toNat - 48)) else none

/-- The value of at least one digit and nothing else. -/
def magnitude? : List Char → Option Nat
  | [] => none
  | cs => digits? cs 0

/-- A numeral without bounds: digits after an optional `+`. -/
def nat? : List Char → Option Nat
  | '+' :: cs => magnitude? cs
  | cs => magnitude? cs

/-- An unsigned number below `limit`. -/
def below? (limit : Nat) (cs : List Char) : Option Nat :=
  (nat? cs).filter (· < limit)

/-- An unsigned number of 32 bits. -/
def u32? (cs : List Char) : Option Nat := below? Word.limit32 cs

/-- An unsigned number of 64 bits. -/
def u64? (cs : List Char) : Option Nat := below? Word.limit64 cs

/-- A signed number of 64 bits. -/
def i64? (cs : List Char) : Option Int :=
  match cs with
  | '-' :: rest => ((magnitude? rest).filter (· ≤ Word.limit63)).map fun n => -(n : Int)
  | _ => ((nat? cs).filter (· < Word.limit63)).map fun n => (n : Int)

end SteadyFetch.Numeral
