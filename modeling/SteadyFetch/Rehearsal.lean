import SteadyFetch.Channel.Opener
import SteadyFetch.Http.Fetch
import SteadyFetch.Retry.Adviser

set_option autoImplicit false

/-! # Rehearsals

A rehearsal stands in for the world around a read: opens follow a script, an adviser answers by a rule,
a server replies in turn. It keeps what was asked of it, so that the course of a read can be looked at
afterwards. -/

namespace SteadyFetch

/-! ## Scripted opens -/

/-- What one open does. -/
structure ScriptedOpen where
  /-- The fault of an open that fails. -/
  fault : Option Fault
  /-- The generation that the service names. -/
  generation : Option Int
  /-- The octets after which the stream ends; none for the end of the range. -/
  stopAfter : Option Nat
  /-- The fault that ends the stream; none for a good end. -/
  ending : Option IoFault
  /-- Reads that are interrupted before the first one that is not. -/
  interrupts : Nat
  /-- The most octets of one read. -/
  chunk : Option Nat
  /-- Whether a read fills several destinations. -/
  scatters : Bool
  /-- Whether the end of the range is ignored. -/
  ignoresEnd : Bool

/-- What is left of a scripted stream. -/
structure ScriptedStream where
  left : Bytes
  interrupts : Nat
  source : ScriptedOpen

namespace ScriptedOpen

/-- The octets that a stream for a range delivers. -/
def octets (s : ScriptedOpen) (content : Bytes) (range : ByteRange) : Bytes :=
  let onward := content.drop range.start
  let ranged := match range.stop? with
    | some stop => if s.ignoresEnd then onward else onward.take (stop - range.start)
    | none => onward
  match s.stopAfter with
  | some n => ranged.take n
  | none => ranged

/-- Opens a range of an object with the given content. -/
def perform (s : ScriptedOpen) (content : Bytes) (range : ByteRange) :
    Except Fault (Opened ScriptedStream) :=
  match s.fault with
  | some fault => .error fault
  | none => .ok ⟨⟨s.octets content range, s.interrupts, s⟩, s.generation⟩

end ScriptedOpen

/-- Reads from a scripted stream. -/
def ScriptedStream.read (s : ScriptedStream) (sizes : List Nat) :
    Except IoFault Bytes × ScriptedStream :=
  if 0 < s.interrupts then
    (.error (.bare .interrupted), { s with interrupts := s.interrupts - 1 })
  else if s.left.isEmpty then
    match s.source.ending with
    | some fault => (.error fault, s)
    | none => (.ok [], s)
  else
    let room := if s.source.scatters then sizes.foldl (· + ·) 0 else (sizes.find? (0 < ·)).getD 0
    let room := match s.source.chunk with
      | some most => min room most
      | none => room
    (.ok (s.left.take room), { s with left := s.left.drop room })

/-! ## Advice -/

/-- How an adviser answers. -/
inductive Advice where
  /-- For, unless asked so many times before. -/
  | patient (limit : Nat)
  /-- Against. -/
  | never
  /-- For, but only for classified failures. -/
  | classifiedOnly
  /-- As listed; against, past the end of the list. -/
  | listed (answers : List Bool)
  /-- As a policy says. -/
  | policy (p : RetryPolicy)

/-- How often it can speak for another attempt once the script is over. -/
def Advice.patience : Advice → Nat
  | .patient limit => limit
  | .listed answers => answers.length
  | .policy p => p.maxAttempts
  | .never | .classifiedOnly => 0

/-- The answer to a question before which `asked` others were asked, and how further ones are
    answered. -/
def Advice.answer (a : Advice) (asked attempt : Nat) (c : Candidate) : Option Span × Advice :=
  match a, c with
  | .patient limit, _ => (if asked < limit then some .zero else none, a)
  | .never, _ => (none, a)
  | .classifiedOnly, .raw _ => (none, a)
  | .classifiedOnly, .classified _ => (some .zero, a)
  | .listed [], _ => (none, a)
  | .listed (yes :: rest), _ => (if yes then some .zero else none, .listed rest)
  | .policy p, c => (p.decide attempt c.faultClass, a)

/-! ## Rehearsals -/

/-- An open that was asked for. -/
structure OpenAsked where
  request : ReadRequest
  pin : Option Int

/-- A question that was put to the adviser, and its answer. -/
structure Consultation where
  attempt : Nat
  candidate : Candidate
  answer : Option Span

/-- What is still to come, and what was asked, latest first. -/
structure Rehearsal where
  script : List ScriptedOpen := []
  replies : List Reception := []
  advice : Advice := .never
  opens : List OpenAsked := []
  consultations : List Consultation := []
  requests : List HttpRequest := []

namespace Rehearsal

/-- The fault of an open past the end of the script. -/
def exhausted : Fault := .other "script exhausted"

/-- Turns enough for a read: each entry of the script, each reply and each interruption takes one, and
    the adviser allows some more. -/
def turnLimit (r : Rehearsal) : Nat :=
  r.script.length + r.script.foldl (fun n s => n + s.interrupts) 0 + r.replies.length
    + r.advice.patience + 100

/-- Answers one question. -/
def consult (attempt : Nat) (c : Candidate) (r : Rehearsal) : Option Span × Rehearsal :=
  let (answer, advice) := r.advice.answer r.consultations.length attempt c
  (answer, { r with advice, consultations := ⟨attempt, c, answer⟩ :: r.consultations })

/-- An adviser that keeps what it was asked and does not wait. -/
def adviser : Adviser (StateM Rehearsal) where
  advise := consult
  pause _ := pure ()

/-- Opens by the next entry of the script. -/
def openNext (content : Bytes) (request : ReadRequest) (pin : Option Int) (r : Rehearsal) :
    Except Fault (Opened ScriptedStream) × Rehearsal :=
  let r := { r with opens := ⟨request, pin⟩ :: r.opens }
  match r.script with
  | [] => (.error exhausted, r)
  | s :: rest => (s.perform content request.range, { r with script := rest })

/-- An opener for an object with the given content that follows the script. -/
def opener (content : Bytes) : Opener (StateM Rehearsal) ScriptedStream where
  openAt := openNext content
  read s sizes := pure (s.read sizes)

end Rehearsal

end SteadyFetch
