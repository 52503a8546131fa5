import SteadyFetch.Toml.Scalar

set_option autoImplicit false

/-! # TOML documents

Reads keys, values and lines, and assembles the table that they denote. Values nest, and a key has
parts, fewer than `nestingLimit` deep. -/

namespace SteadyFetch.Toml

/-- The depth that nothing reaches. -/
def nestingLimit : Nat := 80

/-! ## Blanks and comments -/

/-- Drops a comment, if there is one. -/
def skipComment : List Char → List Char
  | '#' :: rest => rest.dropWhile isPlain
  | cs => cs

/-- Drops blanks, comments and line breaks. -/
def skipLines : Nat → List Char → List Char
  | 0, cs => cs
  | n + 1, cs =>
    match skipComment (skipBlank cs) with
    | [] => []
    | rest =>
      match lineBreak? rest with
      | some rest => skipLines n rest
      | none => rest

/-- The end of a line: blanks, an optional comment, and a line break or the end of the text. -/
def endLine? (cs : List Char) : Option (List Char) :=
  match skipComment (skipBlank cs) with
  | [] => some []
  | rest => lineBreak? rest

/-! ## Keys -/

/-- Whether a character may stand in a bare key. -/
def isBareKey (c : Char) : Bool := c.isAlphanum || c == '-' || c == '_'

/-- One part of a key. -/
def keyPart? (cs : List Char) : Option (String × List Char) :=
  match cs with
  | '"' :: rest => basicString? (cs.length + 1) [] rest
  | '\'' :: rest => literalString? rest
  | _ =>
    let part := cs.takeWhile isBareKey
    if part.isEmpty then none else some (String.ofList part, cs.drop part.length)

/-- A key: parts with dots between them, blanks around each. -/
def keyParts? : Nat → List Char → Option (List String × List Char)
  | 0, _ => none
  | n + 1, cs => do
    let (part, rest) ← keyPart? (skipBlank cs)
    match skipBlank rest with
    | '.' :: rest => do
      let (parts, rest) ← keyParts? n rest
      return (part :: parts, rest)
    | rest => return ([part], rest)

/-- A key that is not too deep. -/
def key? (cs : List Char) : Option (List String × List Char) := keyParts? (nestingLimit - 1) cs

/-! ## Values -/

mutual

/-- A value inside `depth` others. -/
def value? : (fuel depth : Nat) → List Char → Option (Toml × List Char)
  | 0, _, _ => none
  | n + 1, depth, cs =>
    match cs with
    | '"' :: _ => (string? cs).map fun (s, rest) => (.string s, rest)
    | '\'' :: _ => (string? cs).map fun (s, rest) => (.string s, rest)
    | '[' :: rest => do
      if nestingLimit ≤ depth + 1 then none
      let (items, rest) ← items? n (depth + 1) rest
      return (.array items, rest)
    | '{' :: rest => do
      if nestingLimit ≤ depth + 1 then none
      let (pairs, rest) ← pairs? n (depth + 1) rest
      return (.table .inline (← assign [] pairs), rest)
    | 't' :: 'r' :: 'u' :: 'e' :: rest => some (.boolean true, rest)
    | 'f' :: 'a' :: 'l' :: 's' :: 'e' :: rest => some (.boolean false, rest)
    | _ =>
      match datetime? cs with
      | some rest => some (.datetime, rest)
      | none =>
        match float? cs with
        | some (x, rest) => some (.float x, rest)
        | none => (integer? cs).map fun (n, rest) => (.integer n, rest)

/-- The items of an array up to its closing bracket; a comma may follow the last one. -/
def items? : (fuel depth : Nat) → List Char → Option (List Toml × List Char)
  | 0, _, _ => none
  | n + 1, depth, cs =>
    match skipLines (cs.length + 1) cs with
    | ']' :: rest => some ([], rest)
    | cs => do
      let (item, rest) ← value? n depth cs
      match skipLines (rest.length + 1) rest with
      | ']' :: rest => return ([item], rest)
      | ',' :: rest => do
        let (items, rest) ← items? n depth rest
        return (item :: items, rest)
      | _ => none

/-- The pairs of an inline table up to its closing brace. -/
def pairs? : (fuel depth : Nat) → List Char → Option (List Assignment × List Char)
  | 0, _, _ => none
  | n + 1, depth, cs =>
    match skipBlank cs with
    | '}' :: rest => some ([], rest)
    | cs => morePairs? n depth cs

/-- At least one pair of an inline table, up to its closing brace. -/
def morePairs? : (fuel depth : Nat) → List Char → Option (List Assignment × List Char)
  | 0, _, _ => none
  | n + 1, depth, cs => do
    let (key, rest) ← key? cs
    let rest ← drop? '=' rest
    let (value, rest) ← value? n depth (skipBlank rest)
    match skipBlank rest with
    | '}' :: rest => return ([(key, value)], rest)
    | ',' :: rest => do
      let (pairs, rest) ← morePairs? n depth rest
      return ((key, value) :: pairs, rest)
    | _ => none

end

/-! ## Lines -/

/-- A line of a document. -/
inductive Line where
  /-- Blanks and perhaps a comment. -/
  | blank
  | assignment (line : Assignment)
  | header (repeated : Bool) (path : List String)

/-- One line. -/
def line? (cs : List Char) : Option (Line × List Char) :=
  match cs with
  | '#' :: _ => (endLine? cs).map fun rest => (.blank, rest)
  | '\n' :: _ => (lineBreak? cs).map fun rest => (.blank, rest)
  | '\r' :: _ => (lineBreak? cs).map fun rest => (.blank, rest)
  | '[' :: '[' :: rest => do
    let (path, rest) ← key? rest
    let rest ← drop? ']' rest
    let rest ← drop? ']' rest
    return (.header true path, ← endLine? rest)
  | '[' :: rest => do
    let (path, rest) ← key? rest
    let rest ← drop? ']' rest
    return (.header false path, ← endLine? rest)
  | _ => do
    let (key, rest) ← key? cs
    let rest ← drop? '=' rest
    let rest := skipBlank rest
    let (value, rest) ← value? (2 * rest.length + 2) 0 rest
    return (.assignment (key, value), ← endLine? rest)

/-- All lines. -/
def lines? : Nat → List Char → Option (List Line)
  | 0, _ => none
  | n + 1, cs =>
    match skipBlank cs with
    | [] => some []
    | cs => do
      let (line, rest) ← line? cs
      return line :: (← lines? n rest)

/-- Groups lines: assignments before any header, then sections. -/
def group : List Line → List Assignment × List Section
  | [] => ([], [])
  | .blank :: rest => group rest
  | .assignment line :: rest =>
    let (lines, sections) := group rest
    (line :: lines, sections)
  | .header repeated path :: rest =>
    let (lines, sections) := group rest
    ([], ⟨repeated, path, lines⟩ :: sections)

/-- The table that a document denotes; a byte order mark in front does not count. -/
def parse? (text : String) : Option Members := do
  let cs := match text.toList with
    | c :: rest => if c.toNat = 0xFEFF then rest else c :: rest
    | [] => []
  let (lines, sections) := group (← lines? (cs.length + 1) cs)
  assemble lines sections

end SteadyFetch.Toml
