set_option autoImplicit false

/-! # Binary floating point

Numbers of sixty-four bits as exact values: a finite one is a sign, an integer and a power of two.
`ofDecimal` rounds a decimal fraction to the nearest such number, a half to the even neighbour, in
exact integer arithmetic; past the greatest one lies infinity. -/

namespace SteadyFetch

/-- A floating-point number of sixty-four bits. -/
inductive Binary64 where
  /-- The number `± mantissa * 2 ^ exponent`. -/
  | finite (negative : Bool) (mantissa : Nat) (exponent : Int)
  | infinite (negative : Bool)
  | notANumber
  deriving DecidableEq, Repr

/-- The quotient rounded to the nearest integer, a half to the even one. -/
def roundDiv (num den : Nat) : Nat :=
  let q := num / den
  let r := num % den
  if 2 * r < den then q
  else if den < 2 * r then q + 1
  else if q % 2 = 0 then q else q + 1

namespace Binary64

/-- The exponent of the least positive number. -/
def leastExponent : Int := -1074

/-- The bits of a mantissa. -/
def precision : Nat := 53

/-- The greatest exponent of a whole mantissa. -/
def greatestExponent : Int := 971

/-- A quotient scaled by a power of two, `num / den * 2 ^ -e`, as a quotient. -/
def scaled (num den : Nat) (e : Int) : Nat × Nat :=
  if 0 ≤ e then (num, den * Nat.pow 2 e.toNat) else (num * Nat.pow 2 (-e).toNat, den)

/-- The quotient of two positive numbers, rounded. -/
def ofQuotient (negative : Bool) (num den : Nat) : Binary64 :=
  -- The quotient lies between `2 ^ (d - 1)` and `2 ^ (d + 1)`.
  let d : Int := (num.log2 : Int) - (den.log2 : Int)
  let low := max leastExponent (d - precision)
  let (n₀, d₀) := scaled num den low
  -- One place further up if the quotient has more bits than a mantissa.
  let e := if Nat.pow 2 precision ≤ n₀ / d₀ then low + 1 else low
  let (n₁, d₁) := scaled num den e
  let m := roundDiv n₁ d₁
  let (m, e) := if m = Nat.pow 2 precision then (m / 2, e + 1) else (m, e)
  if greatestExponent < e then .infinite negative else .finite negative m e

/-- The number `± digits * 10 ^ exponent`, rounded. The exponents of ten beyond which every number
    is infinite or zero are not computed. -/
def ofDecimal (negative : Bool) (digits : Nat) (exponent : Int) : Binary64 :=
  if digits = 0 then .finite negative 0 leastExponent
  else
    let magnitude : Int := (digits.log2 : Int) * 30103 / 100000 + exponent
    if 400 < magnitude then .infinite negative
    else if magnitude < -500 then .finite negative 0 leastExponent
    else if 0 ≤ exponent then ofQuotient negative (digits * Nat.pow 10 exponent.toNat) 1
    else ofQuotient negative digits (Nat.pow 10 (-exponent).toNat)

/-- Whether a number is finite. -/
def isFinite : Binary64 → Bool
  | .finite _ _ _ => true
  | _ => false

/-- Whether a number is zero, of either sign, or above. -/
def isNonNegative : Binary64 → Bool
  | .finite negative m _ => !negative || m == 0
  | .infinite negative => !negative
  | .notANumber => false

/-! ## Reading -/

/-- The value of decimal digits after a value already read. -/
def accumulate (n : Nat) (ds : List Char) : Nat := ds.foldl (fun n c => n * 10 + (c.toNat - 48)) n

/-- An exponent: digits, at least one, after an optional sign. -/
def exponent? (cs : List Char) : Option Int :=
  let (negative, ds) := match cs with
    | '-' :: rest => (true, rest)
    | '+' :: rest => (false, rest)
    | _ => (false, cs)
  if ds.isEmpty || !ds.all Char.isDigit then none
  else
    let n : Int := accumulate 0 ds
    some (if negative then -n else n)

/-- A number without sign: digits with an optional point among them, and an optional exponent, or one
    of the words for what is not finite. -/
def unsigned? (negative : Bool) (cs : List Char) : Option Binary64 :=
  let lowered := cs.map Char.toLower
  if lowered == "inf".toList || lowered == "infinity".toList then some (.infinite negative)
  else if lowered == "nan".toList then some .notANumber
  else
    let whole := cs.takeWhile Char.isDigit
    let rest := cs.dropWhile Char.isDigit
    let (fraction, rest) := match rest with
      | '.' :: r => (r.takeWhile Char.isDigit, r.dropWhile Char.isDigit)
      | _ => ([], rest)
    if whole.isEmpty && fraction.isEmpty then none
    else
      let digits := accumulate 0 (whole ++ fraction)
      let shift : Int := fraction.length
      match rest with
      | [] => some (ofDecimal negative digits (-shift))
      | e :: r =>
        if e = 'e' ∨ e = 'E' then
          (exponent? r).map fun x => ofDecimal negative digits (x - shift)
        else none

/-- A number in decimal notation, after an optional sign. -/
def parse? (s : String) : Option Binary64 :=
  match s.toList with
  | '-' :: cs => unsigned? true cs
  | '+' :: cs => unsigned? false cs
  | cs => unsigned? false cs

end Binary64

end SteadyFetch
