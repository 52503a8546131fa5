import SteadyFetch.Proofs.Invariants

set_option autoImplicit false

/-! # What a channel asks for

A history records what a channel asks of its opener and its adviser, and what it is answered. It is kept
beside the world by `Opener.watched` and `Adviser.watched`, so the channel cannot see it.

Whatever opener and adviser answer, and whatever calls are made, a channel follows its history
(`Followed`): each open is for the octets that are not delivered yet, of the generation that was
reported first, and there is no open without need. -/

namespace SteadyFetch

/-! ## Histories -/

/-- An open, the world it was made in, and what came of it. -/
structure OpenMade (W σ : Type) where
  request : ReadRequest
  /-- The generation that is to be read, where one is known. -/
  pin : Option Int
  world : W
  result : Except Fault (Opened σ)

/-- A read from a stream, what came of it, and the stream after it. -/
structure ReadMade (σ : Type) where
  stream : σ
  sizes : List Nat
  result : Except IoFault Bytes
  rest : σ

/-- What a channel asked for, and the answer. -/
inductive Event (W σ : Type) where
  | opened (made : OpenMade W σ)
  | read (made : ReadMade σ)
  | advised (attempt : Nat) (candidate : Candidate) (answer : Option Span)

/-- What a channel asked for so far, the latest first. -/
abbrev History (W σ : Type) := List (Event W σ)

/-- A world with a history. -/
abbrev Watched (W σ : Type) := History W σ × W

variable {W σ : Type}

/-- An opener whose opens and reads are recorded. -/
def Opener.watched (opener : Opener (StateM W) σ) : Opener (StateM (Watched W σ)) σ where
  openAt request pin := fun w =>
    let (result, w') := opener.openAt request pin w.2
    (result, (.opened ⟨request, pin, w.2, result⟩ :: w.1, w'))
  read stream sizes := fun w =>
    let ((result, rest), w') := opener.read stream sizes w.2
    ((result, rest), (.read ⟨stream, sizes, result, rest⟩ :: w.1, w'))

/-- An adviser whose advice is recorded. -/
def Adviser.watched (adviser : Adviser (StateM W)) : Adviser (StateM (Watched W σ)) where
  advise attempt candidate := fun w =>
    let (answer, w') := adviser.advise attempt candidate w.2
    (answer, (.advised attempt candidate answer :: w.1, w'))
  pause delay := fun w => ((), (w.1, (adviser.pause delay w.2).2))

/-- The generation that an open reported. -/
def OpenMade.reported? (made : OpenMade W σ) : Option Int :=
  match made.result with
  | .ok opened => opened.generation
  | .error _ => none

/-- The octets that a read gave. -/
def ReadMade.octets (made : ReadMade σ) : Bytes :=
  match made.result with
  | .ok bs => bs
  | .error _ => []

namespace Event

/-- The generation that was reported with an event. -/
def reported? : Event W σ → Option Int
  | .opened made => made.reported?
  | _ => none

/-- The octets that came with an event. -/
def octets : Event W σ → Bytes
  | .read made => made.octets
  | _ => []

def isOpen : Event W σ → Bool
  | .opened _ => true
  | _ => false

/-- Whether an attempt to open or to read failed; an interruption is no failure. -/
def isFailure : Event W σ → Bool
  | .opened made => made.result.isOk == false
  | .read made =>
    match made.result with
    | .ok _ => false
    | .error fault => fault.kind != .interrupted
  | .advised _ _ _ => false

def isAdvice : Event W σ → Bool
  | .advised _ _ _ => true
  | _ => false

/-- Whether a further attempt was declined. -/
def isDeclined : Event W σ → Bool
  | .advised _ _ none => true
  | _ => false

end Event

namespace History

/-- The octets that were delivered, in order. -/
def delivered : History W σ → Bytes
  | [] => []
  | event :: earlier => delivered earlier ++ event.octets

/-- The generation that was reported first. -/
def reported? : History W σ → Option Int
  | [] => none
  | event :: earlier => (reported? earlier).or event.reported?

/-- How often a stream was asked for. -/
def opens (history : History W σ) : Nat := history.countP Event.isOpen

/-- How many attempts to open or to read failed. -/
def failedAttempts (history : History W σ) : Nat := history.countP Event.isFailure

/-- Whether a claim holds of every event, told by what came before it. -/
def Throughout (P : History W σ → Event W σ → Prop) (history : History W σ) : Prop :=
  ∀ later event earlier, history = later ++ event :: earlier → P earlier event

theorem throughout_nil (P : History W σ → Event W σ → Prop) : Throughout P [] := by
  intro later event earlier h
  exact absurd h (by simp)

theorem Throughout.cons {P : History W σ → Event W σ → Prop} {history : History W σ}
    {event : Event W σ} (h : Throughout P history) (hevent : P history event) :
    Throughout P (event :: history) := by
  intro later other earlier heq
  cases later with
  | nil =>
      obtain ⟨rfl, rfl⟩ := List.cons_eq_cons.1 heq
      exact hevent
  | cons latest later => exact h later other earlier (List.cons_eq_cons.1 heq).2

theorem Throughout.append {P : History W σ → Event W σ → Prop} {earlier later : History W σ}
    (h : Throughout P earlier) (hlater : ∀ event ∈ later, ∀ before, P before event) :
    Throughout P (later ++ earlier) := by
  induction later with
  | nil => exact h
  | cons event later ih =>
      exact (ih fun other hother => hlater other (List.mem_cons_of_mem _ hother)).cons
        (hlater event List.mem_cons_self _)

theorem Throughout.imp {P Q : History W σ → Event W σ → Prop} {history : History W σ}
    (h : Throughout P history) (hPQ : ∀ earlier event, P earlier event → Q earlier event) :
    Throughout Q history :=
  fun later event earlier heq => hPQ earlier event (h later event earlier heq)

theorem Throughout.of_append {P : History W σ → Event W σ → Prop} {later earlier : History W σ}
    (h : Throughout P (later ++ earlier)) : Throughout P earlier := by
  intro between event before heq
  refine h (later ++ between) event before ?_
  rw [heq, List.append_assoc]

@[simp] theorem opens_cons (event : Event W σ) (earlier : History W σ) :
    opens (event :: earlier) = opens earlier + if event.isOpen then 1 else 0 :=
  List.countP_cons

@[simp] theorem failedAttempts_cons (event : Event W σ) (earlier : History W σ) :
    failedAttempts (event :: earlier) = failedAttempts earlier + if event.isFailure then 1 else 0 :=
  List.countP_cons

theorem delivered_append (later earlier : History W σ) :
    delivered (later ++ earlier) = delivered earlier ++ delivered later := by
  induction later with
  | nil => exact (List.append_nil _).symm
  | cons event later ih => rw [List.cons_append, delivered, delivered, ih, List.append_assoc]

theorem reported?_append (later earlier : History W σ) :
    reported? (later ++ earlier) = (reported? earlier).or (reported? later) := by
  induction later with
  | nil => exact Option.or_none.symm
  | cons event later ih => rw [List.cons_append, reported?, reported?, ih, Option.or_assoc]

section Advice

variable {asked : History W σ} (hasked : ∀ event ∈ asked, event.isAdvice = true)

include hasked

theorem isAdvice_cases {event : Event W σ} (hmem : event ∈ asked) :
    event.octets = [] ∧ event.reported? = none ∧ event.isOpen = false ∧ event.isFailure = false := by
  have hadvice := hasked event hmem
  cases event with
  | opened made => cases hadvice
  | read made => cases hadvice
  | advised attempt candidate answer => exact ⟨rfl, rfl, rfl, rfl⟩

theorem delivered_advised (history : History W σ) : delivered (asked ++ history) = delivered history := by
  induction asked with
  | nil => rfl
  | cons event asked ih =>
      rw [List.cons_append, delivered, (isAdvice_cases hasked List.mem_cons_self).1, List.append_nil]
      exact ih fun other hother => hasked other (List.mem_cons_of_mem _ hother)

theorem reported?_advised (history : History W σ) : reported? (asked ++ history) = reported? history := by
  induction asked with
  | nil => rfl
  | cons event asked ih =>
      rw [List.cons_append, reported?, (isAdvice_cases hasked List.mem_cons_self).2.1, Option.or_none]
      exact ih fun other hother => hasked other (List.mem_cons_of_mem _ hother)

theorem opens_advised (history : History W σ) : opens (asked ++ history) = opens history := by
  have hnone : asked.countP Event.isOpen = 0 :=
    List.countP_eq_zero.2 fun event hmem => by simp [(isAdvice_cases hasked hmem).2.2.1]
  rw [opens, List.countP_append, hnone, Nat.zero_add]
  rfl

theorem failedAttempts_advised (history : History W σ) :
    failedAttempts (asked ++ history) = failedAttempts history := by
  have hnone : asked.countP Event.isFailure = 0 :=
    List.countP_eq_zero.2 fun event hmem => by simp [(isAdvice_cases hasked hmem).2.2.2]
  rw [failedAttempts, List.countP_append, hnone, Nat.zero_add]
  rfl

end Advice

end History

theorem Opener.after_openAt_watched (opener : Opener (StateM W) σ) (request : ReadRequest)
    (pin : Option Int) (w : Watched W σ) :
    After (opener.watched.openAt request pin) w fun result w' =>
      w'.1 = .opened ⟨request, pin, w.2, result⟩ :: w.1 ∧
        (result, w'.2) = opener.openAt request pin w.2 :=
  ⟨rfl, rfl⟩

/-- A read is recorded with the stream that it leaves. -/
theorem Opener.after_read_watched (opener : Opener (StateM W) σ) (stream : σ) (sizes : List Nat)
    (w : Watched W σ) :
    After (opener.watched.read stream sizes) w fun result w' =>
      w'.1 = .read ⟨stream, sizes, result.1, result.2⟩ :: w.1 ∧
        (result, w'.2) = opener.read stream sizes w.2 :=
  ⟨rfl, rfl⟩

/-! ## Asking an adviser -/

/-- Which answers may be given to a failed attempt. -/
abbrev Answers := Nat → Candidate → Option Span → Prop

/-- Whether an adviser gives no other answers. -/
def Adviser.Gives (adviser : Adviser (StateM W)) (may : Answers) : Prop :=
  ∀ attempt candidate w, may attempt candidate (adviser.advise attempt candidate w).1

/-- Any answer may be given. -/
def Answers.any : Answers := fun _ _ _ => True

theorem Adviser.gives_any (adviser : Adviser (StateM W)) : adviser.Gives .any := fun _ _ _ => trivial

/-- The answers that a policy gives. -/
def RetryPolicy.answers (p : RetryPolicy) : Answers :=
  fun attempt candidate answer => answer = p.decide attempt candidate.faultClass

theorem RetryPolicy.gives_answers (p : RetryPolicy) (pause : Span → StateM W Unit) :
    (p.adviser pause).Gives p.answers := fun _ _ _ => rfl

/-- What is asked about a failed attempt, the latest question first, and whether another attempt is
    allowed. -/
inductive Offered (may : Answers) (attempt : Nat) (fault : Fault) : History W σ → Bool → Prop
  | allowed {delay : Span} (hraw : may attempt (.raw fault) (some delay)) :
      Offered may attempt fault [.advised attempt (.raw fault) (some delay)] true
  | twice {answer : Option Span} (hraw : may attempt (.raw fault) none) (hprotocol : fault.isProtocol = true)
      (hclassified : may attempt (.classified fault.readFailure) answer) :
      Offered may attempt fault
        [.advised attempt (.classified fault.readFailure) answer, .advised attempt (.raw fault) none]
        answer.isSome
  | declined (hraw : may attempt (.raw fault) none) (hother : fault.isProtocol = false) :
      Offered may attempt fault [.advised attempt (.raw fault) none] false

/-- A fault is put to an adviser in this way, and to no other. -/
theorem Adviser.after_allows_offered {adviser : Adviser (StateM W)} {may : Answers} (h : adviser.Gives may)
    (attempt : Nat) (fault : Fault) (w : Watched W σ) :
    After (adviser.watched.allows attempt fault) w fun allowed w' => ∃ asked : History W σ,
      w'.1 = asked ++ w.1 ∧ Offered may attempt fault asked allowed := by
  have hadvise : ∀ (candidate : Candidate) (w : Watched W σ),
      After (adviser.watched.advise attempt candidate) w fun answer w' =>
        w'.1 = .advised attempt candidate answer :: w.1 ∧ may attempt candidate answer :=
    fun candidate w => ⟨rfl, h attempt candidate w.2⟩
  unfold allows
  refine After.bind (hadvise (.raw fault) w) ?_
  intro answer w₁ hasked
  obtain ⟨hw₁, hraw⟩ := hasked
  cases answer with
  | some delay => exact ⟨[_], hw₁, .allowed hraw⟩
  | none =>
      cases hprotocol : fault.isProtocol with
      | false => exact ⟨[_], hw₁, .declined hraw hprotocol⟩
      | true =>
          simp only [if_true]
          refine After.bind (hadvise (.classified fault.readFailure) w₁) ?_
          intro answer w₂ hagain
          obtain ⟨hw₂, hclassified⟩ := hagain
          rw [hw₁] at hw₂
          cases answer with
          | some delay => exact ⟨[_, _], hw₂, .twice hraw hprotocol hclassified⟩
          | none => exact ⟨[_, _], hw₂, .twice hraw hprotocol hclassified⟩

/-- Nothing but advice is asked for, and as long as it does not allow another attempt, it declines. -/
theorem Offered.of_mem {may : Answers} {attempt : Nat} {fault : Fault} {asked : History W σ} {allowed : Bool}
    (h : Offered may attempt fault asked allowed) {event : Event W σ} (hmem : event ∈ asked) :
    event.isAdvice = true ∧ (allowed = false → event.isDeclined = true) := by
  cases h with
  | allowed hraw =>
      rw [List.mem_singleton.1 hmem]
      exact ⟨rfl, fun hdeclined => by cases hdeclined⟩
  | declined hraw hother =>
      rw [List.mem_singleton.1 hmem]
      exact ⟨rfl, fun _ => rfl⟩
  | @twice answer hraw hprotocol hclassified =>
      rcases List.mem_cons.1 hmem with rfl | hbefore
      · refine ⟨rfl, fun hdeclined => ?_⟩
        cases answer with
        | some delay => cases hdeclined
        | none => rfl
      · rw [List.mem_singleton.1 hbefore]
        exact ⟨rfl, fun _ => rfl⟩

/-- An adviser that is asked is recorded with its advice; as long as it does not allow another attempt, it
    declines. -/
theorem Adviser.after_allows_watched (adviser : Adviser (StateM W)) (attempt : Nat) (fault : Fault)
    (w : Watched W σ) :
    After (adviser.watched.allows attempt fault) w fun allowed w' => ∃ asked : History W σ,
      w'.1 = asked ++ w.1 ∧ (∀ event ∈ asked, event.isAdvice = true) ∧
        (allowed = false → ∀ event ∈ asked, event.isDeclined = true) := by
  refine (Adviser.after_allows_offered adviser.gives_any attempt fault w).imp ?_
  intro allowed w' hasked
  obtain ⟨asked, hw', hoffered⟩ := hasked
  exact ⟨asked, hw', fun event hmem => (hoffered.of_mem hmem).1,
    fun hdeclined event hmem => (hoffered.of_mem hmem).2 hdeclined⟩

/-! ## Following a history -/

/-- Whether an open goes on with a request where its history stands: at the first octet that was not
    delivered, which lies within the range, and for the generation that was reported first. -/
structure OpenMade.Continues (made : OpenMade W σ) (request : ReadRequest) (earlier : History W σ) :
    Prop where
  object_eq : made.request.object = request.object
  options_eq : made.request.options = request.options
  stop_eq : made.request.range.stop? = request.range.stop?
  start_eq : made.request.range.start = request.range.start + earlier.delivered.length
  room : ∀ stop ∈ request.range.stop?, made.request.range.start < stop
  pin_eq : made.pin = earlier.reported?

namespace Channel

/-- A channel that follows its history: it stands where the octets end that were delivered, and opens
    were made only after the stream before had failed. A channel that is broken has no stream, and is
    still open unless it was `closed`. -/
structure Followed (request : ReadRequest) (closed : Bool) (got : Bytes) (c : Channel σ)
    (history : History W σ) : Prop where
  request_eq : c.request = request
  position_eq : c.position = request.range.start + got.length
  delivered_eq : history.delivered = got
  generation_eq : c.generation = history.reported?
  continues : history.Throughout (fun earlier event => ∀ made, event = .opened made →
    made.Continues request earlier)
  opens_le : history.opens ≤ 1 + history.failedAttempts
  idle : c.stream = none → c.isOpen = true → c.broken = none → history.opens ≤ history.failedAttempts
  broken : c.broken.isSome → c.stream = none ∧ (closed = false → c.isOpen = true)

/-- Channels that follow their history, as an invariant. -/
def following (W : Type) {σ : Type} (request : ReadRequest) (closed : Bool) :
    Invariant (Watched W σ) σ where
  Holds got c w := c.Followed request closed got w.1
  Faulted _ got c w := c.Followed request closed got w.1 ∧ c.Ready ∧ c.stream = none

variable {request : ReadRequest} {closed : Bool} {got : Bytes} {c : Channel σ}
  {history : History W σ}

theorem followed_start : (start request : Channel σ).Followed (W := W) request closed [] [] where
  request_eq := rfl
  position_eq := rfl
  delivered_eq := rfl
  generation_eq := rfl
  continues := History.throughout_nil _
  opens_le := Nat.zero_le _
  idle _ _ _ := Nat.le_refl 0
  broken h := absurd h (by simp [start])

/-- The next open goes on where the history stands. -/
theorem Followed.continues_openAt (h : c.Followed request closed got history) (hready : c.Ready)
    (w : W) (result : Except Fault (Opened σ)) :
    OpenMade.Continues ⟨c.request.startingAt c.position, c.generation, w, result⟩ request history := by
  have hroom : ∀ stop ∈ c.request.range.stop?, c.position ≤ stop :=
    fun stop hstop => Nat.le_of_lt (hready.room stop hstop)
  have hstart := ReadRequest.start_startingAt hroom
  obtain ⟨hobject, hoptions, hstop⟩ := c.request.startingAt_eq c.position
  have hrequest := h.request_eq
  refine ⟨?_, ?_, ?_, ?_, ?_, h.generation_eq⟩
  · rw [← hrequest]
    exact hobject
  · rw [← hrequest]
    exact hoptions
  · rw [← hrequest]
    exact hstop
  · show (c.request.startingAt c.position).range.start = _
    rw [hstart, h.position_eq, h.delivered_eq]
  · intro stop hmem
    show (c.request.startingAt c.position).range.start < stop
    rw [hstart]
    rw [← hrequest] at hmem
    exact hready.room stop hmem

theorem Followed.advised (h : c.Followed request closed got history) {asked : History W σ}
    (hasked : ∀ event ∈ asked, event.isAdvice = true) :
    c.Followed request closed got (asked ++ history) where
  request_eq := h.request_eq
  position_eq := h.position_eq
  delivered_eq := (History.delivered_advised hasked history).trans h.delivered_eq
  generation_eq := h.generation_eq.trans (History.reported?_advised hasked history).symm
  continues := h.continues.append fun event hmem before made hopened => by
    rw [hopened] at hmem
    exact absurd (hasked _ hmem) nofun
  opens_le := by
    rw [History.opens_advised hasked, History.failedAttempts_advised hasked]
    exact h.opens_le
  idle := by
    rw [History.opens_advised hasked, History.failedAttempts_advised hasked]
    exact h.idle
  broken := h.broken

/-- A channel after it opened: it knows what was reported, and has a stream unless the open failed or the
    channel is broken. -/
theorem Followed.afterOpen (h : c.Followed request closed got history) (hready : c.Ready)
    (hstream : c.stream = none) (w : W) (result : Except Fault (Opened σ)) (c' : Channel σ)
    (hrequest : c'.request = c.request) (hposition : c'.position = c.position)
    (hgeneration : c'.generation = c.generation.or (OpenMade.reported?
      ⟨c.request.startingAt c.position, c.generation, w, result⟩))
    (hidle : c'.stream = none → c'.broken = none → result.isOk = false)
    (hbroken : c'.broken.isSome → c'.stream = none ∧ c'.isOpen = true) :
    c'.Followed request closed got
      (.opened ⟨c.request.startingAt c.position, c.generation, w, result⟩ :: history) := by
  have hcount := h.idle hstream hready.isOpen_eq hready.broken_eq
  refine ⟨hrequest.trans h.request_eq, hposition.trans h.position_eq, ?_, ?_, ?_, ?_, ?_, ?_⟩
  · rw [History.delivered, h.delivered_eq]
    exact List.append_nil got
  · rw [hgeneration, h.generation_eq]
    rfl
  · refine h.continues.cons ?_
    rintro _ ⟨⟩
    exact h.continues_openAt hready w result
  · rw [History.opens_cons, History.failedAttempts_cons]
    simp only [Event.isOpen, if_true]
    omega
  · intro hnone _ hunbroken
    rw [History.opens_cons, History.failedAttempts_cons]
    simp only [Event.isOpen, Event.isFailure, hidle hnone hunbroken, beq_self_eq_true, if_true]
    omega
  · exact fun hsome => ⟨(hbroken hsome).1, fun _ => (hbroken hsome).2⟩

/-- A channel after it read: it stands behind what was given, and keeps a stream unless the read failed or
    was the last one. -/
theorem Followed.afterRead (h : c.Followed request closed got history) (hready : c.Ready)
    (made : ReadMade σ) (c' : Channel σ) (hrequest : c'.request = c.request)
    (hposition : c'.position = c.position + made.octets.length)
    (hgeneration : c'.generation = c.generation) (hbroken : c'.broken = c.broken)
    (hidle : c'.stream = none → c'.isOpen = true → Event.isFailure (W := W) (.read made) = true) :
    c'.Followed request closed (got ++ made.octets) (.read made :: history) := by
  have hcount := h.opens_le
  refine ⟨hrequest.trans h.request_eq, ?_, ?_, ?_, h.continues.cons (by rintro _ ⟨⟩), ?_, ?_, ?_⟩
  · rw [hposition, h.position_eq, List.length_append, Nat.add_assoc]
  · rw [History.delivered, h.delivered_eq]
    rfl
  · rw [hgeneration, h.generation_eq]
    exact Option.or_none.symm
  · rw [History.opens_cons, History.failedAttempts_cons]
    simp only [Event.isOpen, Bool.false_eq_true, if_false]
    omega
  · intro hnone hopen _
    rw [History.opens_cons, History.failedAttempts_cons, hidle hnone hopen]
    simp only [Event.isOpen, Bool.false_eq_true, if_false, if_true]
    omega
  · intro hsome
    rw [hbroken, hready.broken_eq] at hsome
    cases hsome

/-- **Channels follow their history**, whatever opener and adviser answer. -/
theorem following_kept (opener : Opener (StateM W) σ) (adviser : Adviser (StateM W))
    (request : ReadRequest) (closed : Bool) :
    (following W request closed).Kept opener.watched adviser.watched where
  openAt := by
    intro got c w h hready hstream
    refine (opener.after_openAt_watched _ _ w).imp ?_
    rintro result w' ⟨hw', -⟩
    have hafter := h.afterOpen hready hstream w.2 result
    cases result with
    | error fault =>
        have hgeneration : c.generation = c.generation.or none := Option.or_none.symm
        by_cases hgone : (c.generation.isSome && fault.isNotFound) = true
        · simp only [hgone, if_true, following, hw']
          exact hafter _ rfl rfl hgeneration (by rintro - ⟨⟩) fun _ => ⟨rfl, hready.isOpen_eq⟩
        · simp only [hgone, following, hw']
          have hfailed : c.failed.Ready := ⟨hready.isOpen_eq, hready.broken_eq, hready.room⟩
          refine ⟨hafter _ rfl rfl hgeneration (fun _ _ => rfl) fun hsome => ?_, hfailed, rfl⟩
          rw [hfailed.broken_eq] at hsome
          cases hsome
    | ok opened =>
        cases hsettle : c.settleGeneration opened.generation with
        | error reason =>
            have hgeneration := settleGeneration_error hsettle
            simp only [hsettle, following, hw']
            exact hafter _ rfl rfl hgeneration (by rintro - ⟨⟩) fun _ => ⟨rfl, hready.isOpen_eq⟩
        | ok c' =>
            obtain ⟨hsame, hgeneration, -⟩ := settleGeneration_eq hsettle
            simp only [hsettle, following, hw']
            refine hafter _ ?_ ?_ hgeneration (by rintro ⟨⟩) fun hsome => ?_
            · rw [hsame]
              rfl
            · rw [hsame]
              rfl
            · rw [hsame] at hsome
              rw [streaming, hready.broken_eq] at hsome
              cases hsome
  read := by
    intro got c w stream sizes h hready hstream hsizes
    refine (opener.after_read_watched stream sizes w).imp ?_
    rintro ⟨result, rest⟩ w' ⟨hw', -⟩
    have hafter := h.afterRead hready ⟨stream, sizes, result, rest⟩
    cases result with
    | ok bs =>
        by_cases hempty : bs = []
        · subst hempty
          simp only [if_true, following, hw']
          have hclosed := hafter c.close rfl rfl rfl rfl (by rintro - ⟨⟩)
          rwa [show got ++ ReadMade.octets ⟨stream, sizes, .ok [], rest⟩ = got from List.append_nil got]
            at hclosed
        · simp only [hempty, if_false, following, hw']
          exact hafter (c.advanced rest bs) rfl rfl rfl rfl (by rintro ⟨⟩)
    | error fault =>
        have hnil : got ++ ReadMade.octets ⟨stream, sizes, .error fault, rest⟩ = got :=
          List.append_nil got
        rw [hnil] at hafter
        by_cases hkind : fault.kind = .interrupted
        · simp only [hkind, if_true, following, hw']
          exact hafter (c.streaming rest) rfl rfl rfl rfl (by rintro ⟨⟩)
        · simp only [hkind, if_false, following, hw']
          refine ⟨hafter c.failed rfl rfl rfl rfl fun _ _ => ?_,
            ⟨hready.isOpen_eq, hready.broken_eq, hready.room⟩, rfl⟩
          simp [Event.isFailure, hkind]
  allows := by
    rintro got c w fault ⟨h, hready, hstream⟩
    refine (adviser.after_allows_watched c.failures fault w).imp ?_
    rintro allowed w' ⟨asked, hw', hasked, -⟩
    have h' : c.Followed request closed got w'.1 := by
      rw [hw']
      exact h.advised hasked
    cases allowed with
    | true => exact h'
    | false => exact ⟨h', hready, hstream⟩
  exhausted := by
    rintro got c w h hopen hbroken -
    refine ⟨h.request_eq, h.position_eq, h.delivered_eq, h.generation_eq, h.continues, h.opens_le, ?_, ?_⟩
    · rintro - ⟨⟩
    · intro hsome
      rw [close, hbroken] at hsome
      cases hsome
  handed got c w h :=
    ⟨h.request_eq, h.position_eq, h.delivered_eq, h.generation_eq, h.continues, h.opens_le, h.idle,
      h.broken⟩

theorem following_outlasts (opener : Opener (StateM W) σ) (adviser : Adviser (StateM W))
    (request : ReadRequest) :
    Invariant.Outlasts (following W request) opener.watched adviser.watched where
  kept := following_kept opener adviser request
  resumed _ _ _ _ _ h := h.1
  close _ _ _ _ h :=
    ⟨h.request_eq, h.position_eq, h.delivered_eq, h.generation_eq, h.continues, h.opens_le, nofun,
      fun _ => ⟨rfl, nofun⟩⟩

/-- A read that fails leaves the channel where it was, without a stream, and open unless it was closed. -/
theorem after_perform_error (opener : Opener (StateM W) σ) (adviser : Adviser (StateM W)) (limit : Nat)
    {w : Watched W σ} (h : c.Followed request closed got w.1) (call : Call) :
    After (c.perform opener.watched adviser.watched limit call) w fun done _ =>
      ∀ result c' failure, done = some (result, c') → result.progress? = some (.error failure) →
        c'.position = c.position ∧ c'.stream = none ∧ (closed = false → c'.isOpen = true) := by
  have ho := following_outlasts opener adviser request
  refine ((ho.kept closed).after_perform (ho.close closed) limit h call).imp ?_
  rintro _ w' hdone result c' failure rfl hresult
  simp only [hresult] at hdone
  have hsame : ∀ h' : c'.Followed request closed got w'.1, c'.position = c.position :=
    fun h' => h'.position_eq.trans h.position_eq.symm
  rcases hdone with ⟨reason, h', hbroken, -⟩ | ⟨fault, ⟨h', hready, hstream⟩, -⟩
  · obtain ⟨hstream, hopen⟩ := h'.broken (by rw [hbroken]; rfl)
    exact ⟨hsame h', hstream, hopen⟩
  · exact ⟨hsame h', hstream, fun _ => hready.isOpen_eq⟩

/-- **A channel asks for what is missing, and no more often than it must.** Whatever opener and adviser
    answer and whatever calls are made: each open is for the request's object, options and end, starts
    behind all that was delivered, within the range, and names the generation that was reported first;
    there is at most one open more than attempts that failed; and a call that fails leaves the channel at
    its position, without a stream, and open unless it was closed. -/
theorem performEach_continues (opener : Opener (StateM W) σ) (adviser : Adviser (StateM W))
    (limit : Nat) (request : ReadRequest) (calls : List Call) (w : W) :
    After ((start request).performEach opener.watched adviser.watched limit calls)
      (([], w) : Watched W σ) fun ran w' =>
        (∀ later made earlier, w'.1 = later ++ .opened made :: earlier →
          made.Continues request earlier) ∧
        (∀ later made between other earlier,
          w'.1 = later ++ .opened made :: (between ++ .opened other :: earlier) →
            other.request.range.start ≤ made.request.range.start) ∧
        w'.1.delivered = (ran.1.map CallResult.octetsOf).flatten ∧
        w'.1.opens ≤ 1 + w'.1.failedAttempts ∧
        ∀ c ∈ ran.2, c.position = request.range.start + w'.1.delivered.length ∧
          ∀ call, After (c.perform opener.watched adviser.watched limit call) w' fun done _ =>
            ∀ result c' failure, done = some (result, c') → result.progress? = some (.error failure) →
              c'.position = c.position ∧ c'.stream = none ∧ (.close ∉ calls → c'.isOpen = true) := by
  have ho := following_outlasts opener adviser request
  have hstart : (following W request false).Holds [] (start request : Channel σ) ([], w) :=
    followed_start
  refine (ho.after_performEach limit hstart calls).imp ?_
  rintro ran w' ⟨closed, c, h, hclosed, hlast⟩
  have hcontinues : ∀ later made earlier, w'.1 = later ++ .opened made :: earlier →
      made.Continues request earlier :=
    fun later made earlier hhistory => h.continues later (.opened made) earlier hhistory made rfl
  refine ⟨hcontinues, ?_, h.delivered_eq, h.opens_le, ?_⟩
  · intro later made between other earlier hhistory
    have hmade := (hcontinues later made _ hhistory).start_eq
    have hother := (hcontinues (later ++ .opened made :: between) other earlier
      (by rw [hhistory, List.append_assoc, List.cons_append])).start_eq
    rw [History.delivered_append, List.length_append, History.delivered, List.length_append] at hmade
    omega
  · intro last hmem
    obtain rfl := hlast last hmem
    refine ⟨by rw [h.position_eq, h.delivered_eq], fun call => ?_⟩
    refine (after_perform_error opener adviser limit h call).imp ?_
    intro done _ hdone result c' failure hsome hfailure
    obtain ⟨hposition, hstream, hopen⟩ := hdone result c' failure hsome hfailure
    refine ⟨hposition, hstream, fun hcalls => hopen ?_⟩
    rw [Bool.eq_false_iff]
    intro htrue
    exact (hclosed htrue).elim (fun hfalse => absurd hfalse (by decide)) fun hmem => hcalls hmem

end Channel

end SteadyFetch
