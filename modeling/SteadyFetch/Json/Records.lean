import SteadyFetch.Checksum
import SteadyFetch.Json.Reader
import SteadyFetch.Object.Ref
import SteadyFetch.Word

set_option autoImplicit false

/-! # Records in JSON

How objects, checksums and resume markers are written and read back. A record is read from an object
whose members come in any order, or from an array in field order. Members of other names are
ignored; a known one must not come twice. -/

namespace SteadyFetch

namespace Json

/-- The text of a string value. -/
def text? : Json → Option String
  | .string text => text
  | _ => none

/-- An integer value between the bounds. -/
def integer? (low high : Int) : Json → Option Int
  | .number (some n) => if low ≤ n ∧ n ≤ high then some n else none
  | _ => none

/-- A value that may be absent: `null` or what `read` accepts. -/
def optional? {α : Type} (read : Json → Option α) : Json → Option (Option α)
  | .null => some none
  | value => (read value).map some

/-- The fields of a record, in the order of their names. From an object: the member of each name,
    none where there is none; no answer if a known name comes twice or a name is not a text. From an
    array: its items, none past its end; no answer if there are more items than names. -/
def fields? (names : List String) : Json → Option (List (Option Json))
  | .object members =>
    if members.any fun member => member.1.isNone then none
    else
      names.mapM fun name =>
        match members.filter fun member => member.1 == some name with
        | [] => some none
        | [member] => some (some member.2)
        | _ => none
  | .array items =>
    if items.length ≤ names.length then
      some (items.map some ++ List.replicate (names.length - items.length) none)
    else none
  | _ => none

/-- The least number of sixty-four bits with a sign. -/
def int64Min : Int := -(Word.limit63 : Int)

/-- The greatest number of sixty-four bits with a sign. -/
def int64Max : Int := Word.limit63 - 1

end Json

namespace ObjectRef

/-- An object in JSON on one line; the generation is left out where none is meant. -/
def json (o : ObjectRef) : String :=
  let generation := match o.generation with
    | none => ""
    | some g => s!",\"generation\":{g}"
  s!"\x7b\"bucket\":{Json.quote o.bucket},\"name\":{Json.quote o.name}{generation}\x7d"

/-- Reads an object. -/
def ofJson? (value : Json) : Option ObjectRef := do
  match ← value.fields? ["bucket", "name", "generation"] with
  | [some bucket, some name, generation] =>
    let bucket ← bucket.text?
    let name ← name.text?
    let generation ← match generation with
      | none => some none
      | some g => g.optional? (Json.integer? Json.int64Min Json.int64Max)
    return ⟨bucket, name, generation⟩
  | _ => none

/-- Reads an object from text. -/
def parse? (s : String) : Option ObjectRef := do ofJson? (← Json.parse? s)

end ObjectRef

namespace Checksum

/-- A checksum in JSON on one line. -/
def json (c : Checksum) : String := s!"\x7b\"value\":{c.value},\"length\":{c.length}\x7d"

/-- Reads a checksum. -/
def ofJson? (value : Json) : Option Checksum := do
  match ← value.fields? ["value", "length"] with
  | [some code, some length] =>
    let code ← code.integer? 0 (Word.limit32 - 1)
    let length ← length.integer? 0 (Word.limit64 - 1)
    return ⟨UInt32.ofNat code.toNat, length.toNat⟩
  | _ => none

/-- Reads a checksum from text. -/
def parse? (s : String) : Option Checksum := do ofJson? (← Json.parse? s)

end Checksum

end SteadyFetch
