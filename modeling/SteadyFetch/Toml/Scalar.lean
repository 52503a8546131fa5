import SteadyFetch.Bytes
import SteadyFetch.Toml.Value
import SteadyFetch.Word

set_option autoImplicit false

/-! # Scalars of TOML

Strings of four kinds, integers, floats, and dates and times. Every reader takes what it reads off
the front of a text and hands back the rest. -/

namespace SteadyFetch.Toml

/-- Whether a character is a space or a tab. -/
def isSpace (c : Char) : Bool := c == ' ' || c == '\t'

/-- Drops spaces and tabs. -/
def skipBlank (cs : List Char) : List Char := cs.dropWhile isSpace

/-- Drops one line break. -/
def lineBreak? : List Char → Option (List Char)
  | '\n' :: rest => some rest
  | '\r' :: '\n' :: rest => some rest
  | _ => none

/-- Whether a character may stand in a comment or in literal text: anything but controls. -/
def isPlain (c : Char) : Bool := c == '\t' || (0x20 ≤ c.toNat && c.toNat != 0x7F)

/-! ## Strings -/

/-- `count` hexadecimal digits. -/
def hexNumber? : (count : Nat) → Nat → List Char → Option (Nat × List Char)
  | 0, n, cs => some (n, cs)
  | count + 1, n, c :: cs => do hexNumber? count (n * 16 + (← hexValue? c)) cs
  | _ + 1, _, [] => none

/-- The character with a code point, which must not be a surrogate. -/
def scalar? (n : Nat) : Option Char :=
  if n < 0xD800 ∨ (0xE000 ≤ n ∧ n < 0x110000) then some (Char.ofNat n) else none

/-- An escape after its backslash. -/
def escape? : List Char → Option (Char × List Char)
  | 'b' :: rest => some ('\x08', rest)
  | 'f' :: rest => some ('\x0c', rest)
  | 'n' :: rest => some ('\n', rest)
  | 'r' :: rest => some ('\r', rest)
  | 't' :: rest => some ('\t', rest)
  | '"' :: rest => some ('"', rest)
  | '\\' :: rest => some ('\\', rest)
  | 'u' :: rest => do
    let (n, rest) ← hexNumber? 4 0 rest
    return (← scalar? n, rest)
  | 'U' :: rest => do
    let (n, rest) ← hexNumber? 8 0 rest
    return (← scalar? n, rest)
  | _ => none

/-- A string in double quotes after the opening one. `done` is what was read, latest first. -/
def basicString? : Nat → (done : List Char) → List Char → Option (String × List Char)
  | 0, _, _ => none
  | _ + 1, done, '"' :: rest => some (String.ofList done.reverse, rest)
  | n + 1, done, '\\' :: rest => do
    let (c, rest) ← escape? rest
    basicString? n (c :: done) rest
  | n + 1, done, c :: rest => if isPlain c then basicString? n (c :: done) rest else none
  | _ + 1, _, [] => none

/-- A string in single quotes after the opening one. -/
def literalString? (cs : List Char) : Option (String × List Char) :=
  let body := cs.takeWhile fun c => isPlain c && c != '\''
  match cs.drop body.length with
  | '\'' :: rest => some (String.ofList body, rest)
  | _ => none

/-- The blanks and line breaks that an escaped line break swallows; at least one break. -/
def swallowBreaks? (cs : List Char) : Option (List Char) := do
  let rest ← lineBreak? (skipBlank cs)
  return dropBreaks (rest.length + 1) rest
where
  /-- Drops blanks and line breaks. -/
  dropBreaks : Nat → List Char → List Char
    | 0, cs => cs
    | n + 1, cs =>
      match lineBreak? (skipBlank cs) with
      | some rest => dropBreaks n rest
      | none => skipBlank cs

/-- A string between threefold quotes after the opening ones. Up to two quotes right before the
    closing ones belong to it. -/
def multilineString? (quote : Char) (escapes : Bool) :
    Nat → (done : List Char) → List Char → Option (String × List Char)
  | 0, _, _ => none
  | _ + 1, _, [] => none
  | n + 1, done, c :: rest =>
    if c = quote then
      let run := ((c :: rest).takeWhile (· == quote)).length
      let after := (c :: rest).drop run
      if run < 3 then multilineString? quote escapes n (List.replicate run quote ++ done) after
      else if run ≤ 5 then
        some (String.ofList (List.replicate (run - 3) quote ++ done).reverse, after)
      else none
    else if escapes && c == '\\' then
      match swallowBreaks? rest with
      | some rest => multilineString? quote escapes n done rest
      | none => do
        let (e, rest) ← escape? rest
        multilineString? quote escapes n (e :: done) rest
    else
      match lineBreak? (c :: rest) with
      | some rest => multilineString? quote escapes n ('\n' :: done) rest
      | none =>
        if isPlain c then multilineString? quote escapes n (c :: done) rest else none

/-- A string of any kind. -/
def string? (cs : List Char) : Option (String × List Char) :=
  let fuel := cs.length + 1
  let body (rest : List Char) : List Char := (lineBreak? rest).getD rest
  match cs with
  | '"' :: '"' :: '"' :: rest => multilineString? '"' true fuel [] (body rest)
  | '"' :: rest => basicString? fuel [] rest
  | '\'' :: '\'' :: '\'' :: rest => multilineString? '\'' false fuel [] (body rest)
  | '\'' :: rest => literalString? rest
  | _ => none

/-! ## Numbers -/

/-- Digits with single underscores between them: the digits, and what follows. -/
def digitRun? (isDigit : Char → Bool) : Nat → List Char → Option (List Char × List Char)
  | 0, _ => none
  | n + 1, c :: cs =>
    if isDigit c then
      match cs with
      | '_' :: rest => do
        let (ds, rest) ← digitRun? isDigit n rest
        return (c :: ds, rest)
      | d :: _ =>
        if isDigit d then do
          let (ds, rest) ← digitRun? isDigit n cs
          return (c :: ds, rest)
        else some ([c], cs)
      | [] => some ([c], [])
    else none
  | _ + 1, [] => none

/-- The value of digits to a base. -/
def digitsIn (base : Nat) (ds : List Char) : Nat :=
  ds.foldl (fun n c => n * base + (hexValue? c).getD 0) 0

/-- An optional sign: whether it is `-`, and what follows. -/
def sign : List Char → Bool × List Char
  | '-' :: rest => (true, rest)
  | '+' :: rest => (false, rest)
  | cs => (false, cs)

/-- A decimal integer without its sign: no leading zeros. -/
def wholeDigits? (cs : List Char) : Option (List Char × List Char) :=
  match cs with
  | '0' :: rest => some (['0'], rest)
  | _ => digitRun? Char.isDigit (cs.length + 1) cs

/-- An exponent after its letter. -/
def exponentDigits? (cs : List Char) : Option (Int × List Char) := do
  let (negative, cs) := sign cs
  let (ds, rest) ← digitRun? Char.isDigit (cs.length + 1) cs
  let n : Int := digitsIn 10 ds
  return (if negative then -n else n, rest)

/-- Whether a float is past the greatest one. -/
def isPositiveInfinity : Binary64 → Bool
  | .infinite false => true
  | _ => false

/-- A float: an integer with a fraction, an exponent, or both, or a word for what is not finite. A
    number past the greatest float is none. -/
def float? (cs : List Char) : Option (Binary64 × List Char) := do
  let (negative, body) := sign cs
  match body with
  | 'i' :: 'n' :: 'f' :: rest => return (.infinite negative, rest)
  | 'n' :: 'a' :: 'n' :: rest => return (.notANumber, rest)
  | _ =>
    let (whole, rest) ← wholeDigits? body
    let (fraction, rest) ← match rest with
      | '.' :: rest => digitRun? Char.isDigit (rest.length + 1) rest
      | _ => some ([], rest)
    let (exponent, rest) ← match rest with
      | 'e' :: rest => (exponentDigits? rest).map fun (x, rest) => (some x, rest)
      | 'E' :: rest => (exponentDigits? rest).map fun (x, rest) => (some x, rest)
      | _ => some (none, rest)
    if fraction.isEmpty && exponent.isNone then none
    let shift : Int := fraction.length
    let value := Binary64.ofDecimal negative (digitsIn 10 (whole ++ fraction))
      (exponent.getD 0 - shift)
    if isPositiveInfinity value then none
    return (value, rest)

/-- Whether a value fits in sixty-four bits with a sign. -/
def fitsInt64 (n : Int) : Bool := -(Word.limit63 : Int) ≤ n && n < Word.limit63

/-- A decimal integer with an optional sign. -/
def decimal? (cs : List Char) : Option (Int × List Char) := do
  let (negative, body) := sign cs
  let (ds, rest) ← wholeDigits? body
  let n : Int := digitsIn 10 ds
  return (if negative then -n else n, rest)

/-- An integer of sixty-four bits: decimal with an optional sign, or to base 16, 8 or 2. -/
def integer? (cs : List Char) : Option (Int × List Char) := do
  let fuel := cs.length + 1
  let based (base : Nat) (isDigit : Char → Bool) (rest : List Char) :
      Option (Int × List Char) := do
    let (ds, rest) ← digitRun? isDigit fuel rest
    return ((digitsIn base ds : Int), rest)
  let (n, rest) ← match cs with
    | '0' :: 'x' :: rest => based 16 (fun c => (hexValue? c).isSome) rest
    | '0' :: 'o' :: rest => based 8 (fun c => '0' ≤ c && c ≤ '7') rest
    | '0' :: 'b' :: rest => based 2 (fun c => c == '0' || c == '1') rest
    | _ => decimal? cs
  if fitsInt64 n then return (n, rest) else none

/-! ## Dates and times -/

/-- `count` digits whose value lies between two bounds. -/
def fixedDigits? (count low high : Nat) (cs : List Char) : Option (Nat × List Char) :=
  let ds := cs.take count
  if ds.length = count ∧ ds.all Char.isDigit then
    let n := digitsIn 10 ds
    if low ≤ n ∧ n ≤ high then some (n, cs.drop count) else none
  else none

/-- Drops one character that must stand here. -/
def drop? (c : Char) : List Char → Option (List Char)
  | d :: rest => if d = c then some rest else none
  | [] => none

/-- The days of a month. -/
def daysIn (year month : Nat) : Nat :=
  if month = 2 then
    if year % 4 = 0 ∧ (year % 100 ≠ 0 ∨ year % 400 = 0) then 29 else 28
  else if month = 4 ∨ month = 6 ∨ month = 9 ∨ month = 11 then 30
  else 31

/-- A date. -/
def date? (cs : List Char) : Option (List Char) := do
  let (year, cs) ← fixedDigits? 4 0 9999 cs
  let cs ← drop? '-' cs
  let (month, cs) ← fixedDigits? 2 1 12 cs
  let cs ← drop? '-' cs
  let (_, cs) ← fixedDigits? 2 1 (daysIn year month) cs
  return cs

/-- A time of day, with an optional fraction of a second. -/
def time? (cs : List Char) : Option (List Char) := do
  let (_, cs) ← fixedDigits? 2 0 23 cs
  let cs ← drop? ':' cs
  let (_, cs) ← fixedDigits? 2 0 59 cs
  let cs ← drop? ':' cs
  let (_, cs) ← fixedDigits? 2 0 60 cs
  match cs with
  | '.' :: d :: rest =>
    if d.isDigit then return rest.dropWhile Char.isDigit else return cs
  | _ => return cs

/-- An offset from universal time. -/
def offset? : List Char → Option (List Char)
  | 'Z' :: rest => some rest
  | 'z' :: rest => some rest
  | c :: rest =>
    if c = '+' ∨ c = '-' then do
      let (_, cs) ← fixedDigits? 2 0 23 rest
      let cs ← drop? ':' cs
      let (_, cs) ← fixedDigits? 2 0 59 cs
      return cs
    else none
  | [] => none

/-- A date, a time, or both with an optional offset. -/
def datetime? (cs : List Char) : Option (List Char) :=
  match date? cs with
  | none => time? cs
  | some rest =>
    match rest with
    | c :: after =>
      if c = 'T' ∨ c = 't' ∨ c = ' ' then
        match time? after with
        | some rest => some ((offset? rest).getD rest)
        | none => some rest
      else some rest
    | [] => some []

end SteadyFetch.Toml
