import SteadyFetch.Json.Value

set_option autoImplicit false

/-! # Reading JSON

A recursive-descent reader over the characters of a text. Each step takes at least one character, so
the number of characters, plus one, is fuel enough; `parse?` supplies it. -/

namespace SteadyFetch.Json

/-- Drops the white space of JSON. -/
def skipSpace (cs : List Char) : List Char :=
  cs.dropWhile fun c => c == ' ' || c == '\t' || c == '\n' || c == '\r'

/-! ## Strings -/

/-- Four hexadecimal digits. -/
def hexQuad? : List Char → Option (Nat × List Char)
  | a :: b :: c :: d :: rest => do
    let w ← hexValue? a
    let x ← hexValue? b
    let y ← hexValue? c
    let z ← hexValue? d
    return (((w * 16 + x) * 16 + y) * 16 + z, rest)
  | _ => none

/-- The character of a one-letter escape. -/
def simpleEscape? : Char → Option Char
  | '"' => some '"'
  | '\\' => some '\\'
  | '/' => some '/'
  | 'b' => some '\x08'
  | 'f' => some '\x0c'
  | 'n' => some '\n'
  | 'r' => some '\r'
  | 't' => some '\t'
  | _ => none

/-- The UTF-16 units of a string up to its closing quote; a character stands for its code point. -/
def stringUnits? : Nat → List Char → Option (List Nat × List Char)
  | 0, _ => none
  | _ + 1, '"' :: rest => some ([], rest)
  | n + 1, '\\' :: 'u' :: rest => do
    let (unit, rest) ← hexQuad? rest
    let (units, rest) ← stringUnits? n rest
    return (unit :: units, rest)
  | n + 1, '\\' :: c :: rest => do
    let c ← simpleEscape? c
    let (units, rest) ← stringUnits? n rest
    return (c.toNat :: units, rest)
  | n + 1, c :: rest => do
    if c.toNat < 0x20 then none
    let (units, rest) ← stringUnits? n rest
    return (c.toNat :: units, rest)
  | _ + 1, [] => none

/-- Whether a unit is the first half of a surrogate pair. -/
def isHighSurrogate (u : Nat) : Bool := 0xD800 ≤ u && u < 0xDC00

/-- Whether a unit is the second half of a surrogate pair. -/
def isLowSurrogate (u : Nat) : Bool := 0xDC00 ≤ u && u < 0xE000

/-- Joins surrogate pairs; none if a half stands alone. -/
def joinSurrogates? : List Nat → Option (List Char)
  | [] => some []
  | u :: v :: rest =>
    if isHighSurrogate u then
      if isLowSurrogate v then
        (joinSurrogates? rest).map
          (Char.ofNat (0x10000 + (u - 0xD800) * 0x400 + (v - 0xDC00)) :: ·)
      else none
    else if isLowSurrogate u then none
    else (joinSurrogates? (v :: rest)).map (Char.ofNat u :: ·)
  | [u] => if isHighSurrogate u || isLowSurrogate u then none else some [Char.ofNat u]

/-- A string after its opening quote. -/
def readString? (cs : List Char) : Option (Option String × List Char) := do
  let (units, rest) ← stringUnits? (cs.length + 1) cs
  return ((joinSurrogates? units).map String.ofList, rest)

/-! ## Numbers -/

/-- The value of decimal digits. -/
def digitsValue (ds : List Char) : Nat := ds.foldl (fun n c => n * 10 + (c.toNat - 48)) 0

/-- Digits, at least one, and what follows. -/
def someDigits? (cs : List Char) : Option (List Char × List Char) :=
  let ds := cs.takeWhile Char.isDigit
  if ds.isEmpty then none else some (ds, cs.dropWhile Char.isDigit)

/-- The fraction and the exponent of a number, if any: whether there was one, and what follows. -/
def readFraction? (cs : List Char) : Option (Bool × List Char) := do
  let (fraction, cs) ← match cs with
    | '.' :: rest => do
      let (_, rest) ← someDigits? rest
      pure (true, rest)
    | _ => pure (false, cs)
  match cs with
  | e :: rest =>
    if e = 'e' ∨ e = 'E' then
      let rest := match rest with
        | '+' :: r => r
        | '-' :: r => r
        | r => r
      let (_, rest) ← someDigits? rest
      return (true, rest)
    else return (fraction, cs)
  | [] => return (fraction, cs)

/-- A number: no leading zeros, digits after a point, digits in an exponent. -/
def readNumber? (cs : List Char) : Option (Json × List Char) := do
  let (negative, body) := match cs with
    | '-' :: rest => (true, rest)
    | _ => (false, cs)
  let (ds, rest) ← someDigits? body
  if ds.head? == some '0' && ds.length > 1 then none
  let (fractional, rest) ← readFraction? rest
  let n := digitsValue ds
  if fractional || (negative && n == 0) then return (.number none, rest)
  else return (.number (some (if negative then -(n : Int) else n)), rest)

/-! ## Values -/

/-- Drops a word that must stand here. -/
def expect? (word : String) (cs : List Char) : Option (List Char) :=
  if word.toList.isPrefixOf cs then some (cs.drop word.length) else none

mutual

/-- A value, after white space. -/
def readValue? : Nat → List Char → Option (Json × List Char)
  | 0, _ => none
  | n + 1, cs =>
    match skipSpace cs with
    | [] => none
    | '"' :: rest => (readString? rest).map fun (s, rest) => (.string s, rest)
    | '[' :: rest =>
      match skipSpace rest with
      | ']' :: rest => some (.array [], rest)
      | rest => (readItems? n rest).map fun (items, rest) => (.array items, rest)
    | '{' :: rest =>
      match skipSpace rest with
      | '}' :: rest => some (.object [], rest)
      | rest => (readMembers? n rest).map fun (members, rest) => (.object members, rest)
    | 'n' :: rest => (expect? "ull" rest).map fun rest => (.null, rest)
    | 't' :: rest => (expect? "rue" rest).map fun rest => (.bool true, rest)
    | 'f' :: rest => (expect? "alse" rest).map fun rest => (.bool false, rest)
    | cs => readNumber? cs

/-- The items of an array, up to its closing bracket. -/
def readItems? : Nat → List Char → Option (List Json × List Char)
  | 0, _ => none
  | n + 1, cs => do
    let (item, rest) ← readValue? n cs
    match skipSpace rest with
    | ']' :: rest => return ([item], rest)
    | ',' :: rest => do
      let (items, rest) ← readItems? n rest
      return (item :: items, rest)
    | _ => none

/-- The members of an object, up to its closing brace. -/
def readMembers? : Nat → List Char → Option (List (Option String × Json) × List Char)
  | 0, _ => none
  | n + 1, cs => do
    match skipSpace cs with
    | '"' :: rest =>
      let (key, rest) ← readString? rest
      match skipSpace rest with
      | ':' :: rest =>
        let (value, rest) ← readValue? n rest
        match skipSpace rest with
        | '}' :: rest => return ([(key, value)], rest)
        | ',' :: rest => do
          let (members, rest) ← readMembers? n rest
          return ((key, value) :: members, rest)
        | _ => none
      | _ => none
    | _ => none

end

/-- The value of a text that holds one value and nothing else. -/
def parse? (s : String) : Option Json := do
  let cs := s.toList
  let (value, rest) ← readValue? (2 * cs.length + 2) cs
  if (skipSpace rest).isEmpty then return value else none

end SteadyFetch.Json
