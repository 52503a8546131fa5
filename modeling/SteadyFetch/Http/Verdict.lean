import SteadyFetch.Http.Head
import SteadyFetch.Object.ByteRange

set_option autoImplicit false

/-! # Judging a response

Whether a response holds the octets that were asked for. Where a range was asked for, only a partial
response that starts at its start, and for a bounded range ends before its end, is accepted: any other
success would put octets at the wrong offset. A range that begins exactly at the end of the object is
complete without a body. -/

namespace SteadyFetch

/-- What a response is good for. -/
inductive Verdict where
  /-- The body holds the octets asked for. -/
  | content
  /-- The range begins at the end of the object. -/
  | pastEnd
  /-- The service refused; the body says why. -/
  | failed
  /-- A success whose body starts elsewhere. -/
  | misplaced (message : String)
  deriving DecidableEq, Repr

/-- Judges a partial response. -/
def judgePartial (range : ByteRange) (lines : List String) : Verdict :=
  match contentRangeOf? lines with
  | some (.octets first last) =>
    if first = range.start ∧ (∀ stop ∈ range.stop?, last < stop) then .content
    else .misplaced s!"Content-Range bytes {first}-{last} does not fit {range.text}"
  | _ => .misplaced s!"206 without a usable Content-Range for {range.text}"

/-- Judges a response by its status and header lines. -/
def judge (range : ByteRange) (status : Nat) (lines : List String) : Verdict :=
  let ranged := range.header?.isSome
  if status = 206 ∧ ranged then judgePartial range lines
  else if 200 ≤ status ∧ status ≤ 299 then
    if ranged then .misplaced s!"range {range.text} not honored (HTTP {status})" else .content
  else if status = 416 ∧ range.stop? = none then
    match contentRangeOf? lines with
    | some (.unsatisfied total) => if total = range.start then .pastEnd else .failed
    | _ => .failed
  else .failed

end SteadyFetch
