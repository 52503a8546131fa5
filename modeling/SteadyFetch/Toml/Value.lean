import SteadyFetch.Decimal.Binary64

set_option autoImplicit false

/-! # TOML values and tables

What a TOML document denotes. A table remembers how it came about, because that decides which later
lines may add to it: a table that only stands on the way to another one may get a header of its own
once, a table made of dotted keys may be extended by dotted keys in the same place, and what stands in
braces or has its own header is complete. -/

namespace SteadyFetch

/-- How a table came about. -/
inductive TableOrigin where
  /-- By its own header. -/
  | header
  /-- On the way to the table of a longer header. -/
  | implied
  /-- On the way of a dotted key. -/
  | dotted
  /-- Between braces. -/
  | inline
  deriving DecidableEq, Repr

/-- A TOML value. -/
inductive Toml where
  | string (text : String)
  | integer (value : Int)
  | float (value : Binary64)
  | boolean (value : Bool)
  /-- A date, a time, or both; nothing here asks which one. -/
  | datetime
  | array (items : List Toml)
  | table (origin : TableOrigin) (members : List (String × Toml))
  /-- Tables under headers with double brackets, in order. -/
  | tables (items : List (List (String × Toml)))

namespace Toml

/-- The members of a table. -/
abbrev Members := List (String × Toml)

/-- Gives a key a value: in the place of its old one, or after all others. -/
def setMember (key : String) (value : Toml) : Members → Members
  | [] => [(key, value)]
  | (k, v) :: rest => if k = key then (k, value) :: rest else (k, v) :: setMember key value rest

/-- Adds a value under a dotted key. None where a key is taken, or where a table on the way must not
    be extended. -/
def insertDotted (value : Toml) : List String → Members → Option Members
  | [], _ => none
  | [key], members =>
    match members.lookup key with
    | some _ => none
    | none => some (members ++ [(key, value)])
  | key :: next :: rest, members =>
    match members.lookup key with
    | none => do
      let inner ← insertDotted value (next :: rest) []
      return members ++ [(key, .table .dotted inner)]
    | some (.table .dotted inner) => do
      return setMember key (.table .dotted (← insertDotted value (next :: rest) inner)) members
    | some (.table .implied inner) => do
      if rest.isEmpty then none
      return setMember key (.table .implied (← insertDotted value (next :: rest) inner)) members
    | some (.tables items) => do
      if rest.isEmpty then none
      let last ← items.getLast?
      let last ← insertDotted value (next :: rest) last
      return setMember key (.tables (items.dropLast ++ [last])) members
    | some _ => none

/-- Changes what stands at the path of a header. Tables on the way are made where they are missing,
    and of several tables the last one is meant. -/
def alterAt (change : Option Toml → Option Toml) : List String → Members → Option Members
  | [], _ => none
  | [key], members => do return setMember key (← change (members.lookup key)) members
  | key :: next :: rest, members =>
    match members.lookup key with
    | none => do
      return setMember key (.table .implied (← alterAt change (next :: rest) [])) members
    | some (.table .inline _) => none
    | some (.table origin inner) => do
      return setMember key (.table origin (← alterAt change (next :: rest) inner)) members
    | some (.tables items) => do
      let last ← items.getLast?
      let last ← alterAt change (next :: rest) last
      return setMember key (.tables (items.dropLast ++ [last])) members
    | some _ => none

/-- A line that gives a key its value. -/
abbrev Assignment := List String × Toml

/-- Adds assignments to the members of a table. -/
def assign (members : Members) (lines : List Assignment) : Option Members :=
  lines.foldlM (fun members line => insertDotted line.2 line.1 members) members

/-- A header and the assignments below it. -/
structure Section where
  /-- Whether the header has double brackets. -/
  repeated : Bool
  path : List String
  lines : List Assignment

/-- Adds a section to a document. -/
def addSection (root : Members) (s : Section) : Option Members :=
  alterAt (fun old =>
    match s.repeated, old with
    | false, none => do return .table .header (← assign [] s.lines)
    | false, some (.table .implied members) => do
      return .table .header (← assign members s.lines)
    | true, none => do return .tables [← assign [] s.lines]
    | true, some (.tables items) => do return .tables (items ++ [← assign [] s.lines])
    | _, _ => none) s.path root

/-- The table that a document denotes: assignments before any header, then sections. -/
def assemble (lines : List Assignment) (sections : List Section) : Option Members := do
  sections.foldlM addSection (← assign [] lines)

end Toml

end SteadyFetch
