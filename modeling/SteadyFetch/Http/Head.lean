import SteadyFetch.Text.Blank
import SteadyFetch.Text.Numeral

set_option autoImplicit false

/-! # Response heads

What is read from the lines of a response head: the status, the generation of the object, and which
octets of it the body holds. -/

namespace SteadyFetch

/-- The status in a status line such as `HTTP/1.1 206 Partial Content`. -/
def statusOfLine? (line : String) : Option Nat :=
  let cs := line.toList
  if "HTTP/".toList.isPrefixOf cs then
    match words cs with
    | _ :: code :: _ => Numeral.u32? code
    | _ => none
  else none

/-- Name and value of a header line; blanks around either do not count. -/
def headerOfLine? (line : String) : Option (List Char × List Char) :=
  (splitOnce ':' line.toList).map fun (name, value) => (trim name, trim value)

/-- Whether a header line has the given name, in any case of its letters. -/
def isNamed (name : String) (header : List Char × List Char) : Bool :=
  lowerAscii header.1 == name.toList

/-- The generation that the response names: the first one that is a number. -/
def generationOf? (lines : List String) : Option Int :=
  lines.findSome? fun line => do
    let header ← headerOfLine? line
    if isNamed "x-goog-generation" header then Numeral.i64? header.2 else none

/-- Which octets of an object a body holds. -/
inductive ContentRange where
  /-- The octets from `first` to `last`, both included. -/
  | octets (first last : Nat)
  /-- None: the range asked for lies outside the object, which has `total` octets. -/
  | unsatisfied (total : Nat)
  deriving DecidableEq, Repr

/-- Reads the value of a `Content-Range` header: `bytes first-last/total`, where the total may be
    `*`, or `bytes */total`. -/
def ContentRange.parse? (value : List Char) : Option ContentRange := do
  if !"bytes ".toList.isPrefixOf value then none
  let (span, total) ← splitOnce '/' (trim (value.drop 6))
  if span = ['*'] then return .unsatisfied (← Numeral.u64? total)
  if total ≠ ['*'] then let _ ← Numeral.u64? total
  let (first, last) ← splitOnce '-' span
  return .octets (← Numeral.u64? first) (← Numeral.u64? last)

/-- What the first `Content-Range` line says, if it says anything. -/
def contentRangeOf? (lines : List String) : Option ContentRange := do
  let value ← lines.findSome? fun line => do
    let header ← headerOfLine? line
    if isNamed "content-range" header then some header.2 else none
  ContentRange.parse? value

end SteadyFetch
