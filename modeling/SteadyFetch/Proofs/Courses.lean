import SteadyFetch.Proofs.Histories

set_option autoImplicit false

/-! # The course of calls

What a turn of a channel records, and what it makes of the channel, is a matter of few cases
(`Channel.Turned`). A read is one turn after the other (`Channel.Course`), a call a read or less
(`Channel.Performed`), and a run one call after the other (`Channel.Ran`). Every run of a channel is of this
form, whatever opener and adviser are (`after_performEach_ran`), so what holds of the form by induction holds
of all runs.

The only thing that is told of an adviser is which answers it may give. -/

namespace SteadyFetch

variable {W σ : Type}

namespace Channel

/-! ## Turns -/

/-- What becomes of a failed attempt. -/
def retried (c : Channel σ) (fault : Fault) (allowed : Bool) : Turn σ :=
  if allowed then .again c.failed else .settled (.error fault.readFailure) c.failed

/-- What one read from a stream records, and what it comes to. -/
inductive ReadOnce (may : Answers) (c : Channel σ) (stream : σ) (sizes : List Nat) :
    History W σ → Turn σ → Prop
  | delivered {bs : Bytes} {rest : σ} (hbs : bs ≠ []) :
      ReadOnce may c stream sizes [.read ⟨stream, sizes, .ok bs, rest⟩]
        (.settled (.ok (.octets bs)) (c.advanced rest bs))
  | ended {rest : σ} :
      ReadOnce may c stream sizes [.read ⟨stream, sizes, .ok [], rest⟩] (.settled (.ok .endOfStream) c.close)
  | interrupted {fault : IoFault} {rest : σ} (hkind : fault.kind = .interrupted) :
      ReadOnce may c stream sizes [.read ⟨stream, sizes, .error fault, rest⟩] (.again (c.streaming rest))
  | failed {fault : IoFault} {rest : σ} {asked : History W σ} {allowed : Bool}
      (hkind : fault.kind ≠ .interrupted)
      (hasked : Offered may c.failed.failures (.io fault) asked allowed) :
      ReadOnce may c stream sizes (asked ++ [.read ⟨stream, sizes, .error fault, rest⟩])
        (c.retried (.io fault) allowed)

/-- The open of a channel at its position. -/
def openMade (c : Channel σ) (w : W) (result : Except Fault (Opened σ)) : OpenMade W σ :=
  ⟨c.request.startingAt c.position, c.generation, w, result⟩

/-- What a turn records, and what it comes to. -/
inductive Turned (may : Answers) (c : Channel σ) (sizes : List Nat) : History W σ → Turn σ → Prop
  /-- The stream under way is read. -/
  | reading {stream : σ} {events : History W σ} {turn : Turn σ} (hstream : c.stream = some stream)
      (hread : ReadOnce may c stream sizes events turn) : Turned may c sizes events turn
  /-- A stream is opened and read. -/
  | opening {w : W} {opened : Opened σ} {c' : Channel σ} {events : History W σ} {turn : Turn σ}
      (hstream : c.stream = none) (hsettle : c.settleGeneration opened.generation = .ok c')
      (hread : ReadOnce may c' opened.stream sizes events turn) :
      Turned may c sizes (events ++ [.opened (c.openMade w (.ok opened))]) turn
  /-- Another generation is served. -/
  | changed {w : W} {opened : Opened σ} {reason : ResumptionReason} (hstream : c.stream = none)
      (hsettle : c.settleGeneration opened.generation = .error reason) :
      Turned may c sizes [.opened (c.openMade w (.ok opened))] (c.breakOff reason)
  /-- The generation is gone. -/
  | gone {w : W} {fault : Fault} (hstream : c.stream = none)
      (hgone : (c.generation.isSome && fault.isNotFound) = true) :
      Turned may c sizes [.opened (c.openMade w (.error fault))] (c.breakOff .notFound)
  /-- An open fails. -/
  | refused {w : W} {fault : Fault} {asked : History W σ} {allowed : Bool} (hstream : c.stream = none)
      (hgone : (c.generation.isSome && fault.isNotFound) = false)
      (hasked : Offered may c.failed.failures fault asked allowed) :
      Turned may c sizes (asked ++ [.opened (c.openMade w (.error fault))]) (c.retried fault allowed)

section Turns

variable {opener : Opener (StateM W) σ} {adviser : Adviser (StateM W)} {may : Answers}
  (h : adviser.Gives may)

include h

theorem after_recover_retried (c : Channel σ) (fault : Fault) (w : Watched W σ) :
    After (c.recover adviser.watched fault) w fun turn w' => ∃ (asked : History W σ) (allowed : Bool),
      w'.1 = asked ++ w.1 ∧ Offered may c.failed.failures fault asked allowed ∧
        turn = c.retried fault allowed := by
  rw [recover_eq_allows]
  refine After.bind (Adviser.after_allows_offered h c.failed.failures fault w) ?_
  intro allowed w' hasked
  obtain ⟨asked, hw', hoffered⟩ := hasked
  cases allowed with
  | true => exact ⟨asked, true, hw', hoffered, rfl⟩
  | false => exact ⟨asked, false, hw', hoffered, rfl⟩

theorem after_readStream_once (c : Channel σ) (stream : σ) (sizes : List Nat) (w : Watched W σ) :
    After (readStream opener.watched adviser.watched c stream sizes) w fun turn w' =>
      ∃ events : History W σ, w'.1 = events ++ w.1 ∧ ReadOnce may c stream sizes events turn := by
  unfold readStream
  refine After.bind (opener.after_read_watched stream sizes w) ?_
  intro read w₁ hrecorded
  obtain ⟨result, rest⟩ := read
  obtain ⟨hw₁, -⟩ := hrecorded
  cases result with
  | ok bs =>
      cases bs with
      | nil => exact ⟨[_], hw₁, .ended⟩
      | cons b bs => exact ⟨[_], hw₁, .delivered (List.cons_ne_nil b bs)⟩
  | error fault =>
      by_cases hkind : fault.kind = .interrupted
      · simp only [hkind, if_true]
        exact ⟨[_], hw₁, .interrupted hkind⟩
      · simp only [hkind, if_false]
        refine (after_recover_retried h c (.io fault) w₁).imp ?_
        intro turn w₂ hretried
        obtain ⟨asked, allowed, hw₂, hasked, rfl⟩ := hretried
        refine ⟨asked ++ [.read ⟨stream, sizes, .error fault, rest⟩], ?_, .failed hkind hasked⟩
        rw [hw₂, hw₁, List.append_assoc, List.singleton_append]

theorem after_turn_turned (c : Channel σ) (sizes : List Nat) (w : Watched W σ) :
    After (c.turn opener.watched adviser.watched sizes) w fun turn w' =>
      ∃ events : History W σ, w'.1 = events ++ w.1 ∧ Turned may c sizes events turn := by
  unfold turn
  cases hstream : c.stream with
  | some stream =>
      refine (after_readStream_once h c stream sizes w).imp ?_
      intro turn w' hread
      obtain ⟨events, hw', honce⟩ := hread
      exact ⟨events, hw', .reading hstream honce⟩
  | none =>
      unfold openAndRead
      refine After.bind (opener.after_openAt_watched _ _ w) ?_
      intro result w₁ hrecorded
      obtain ⟨hw₁, -⟩ := hrecorded
      cases result with
      | error fault =>
          cases hgone : (c.generation.isSome && fault.isNotFound) with
          | true =>
              simp only [hgone, if_true]
              exact ⟨[_], hw₁, .gone hstream hgone⟩
          | false =>
              simp only [hgone, Bool.false_eq_true, if_false]
              refine (after_recover_retried h c fault w₁).imp ?_
              intro turn w₂ hretried
              obtain ⟨asked, allowed, hw₂, hasked, rfl⟩ := hretried
              refine ⟨_, ?_, .refused (w := w.2) hstream hgone hasked⟩
              rw [hw₂, hw₁, List.append_assoc, List.singleton_append]
              rfl
      | ok opened =>
          cases hsettle : c.settleGeneration opened.generation with
          | error reason =>
              simp only [hsettle]
              exact ⟨[_], hw₁, .changed hstream hsettle⟩
          | ok c' =>
              simp only [hsettle]
              refine (after_readStream_once h c' opened.stream sizes w₁).imp ?_
              intro turn w₂ hread
              obtain ⟨events, hw₂, honce⟩ := hread
              refine ⟨_, ?_, .opening (w := w.2) hstream hsettle honce⟩
              rw [hw₂, hw₁, List.append_assoc, List.singleton_append]
              rfl

end Turns

/-! ## What a turn leaves -/

section Leaving

variable {may : Answers} {c c' : Channel σ} {sizes : List Nat}

theorem retried_channel (c : Channel σ) (fault : Fault) (allowed : Bool) :
    (c.retried fault allowed).channel = c.failed := by
  cases allowed <;> rfl

theorem retried_eq_again {fault : Fault} {allowed : Bool} (h : c.retried fault allowed = .again c') :
    allowed = true ∧ c' = c.failed := by
  cases allowed with
  | true => exact ⟨rfl, (Turn.again.inj h).symm⟩
  | false => cases h

theorem ReadOnce.ready {stream : σ} {events : History W σ} {turn : Turn σ}
    (hread : ReadOnce may c stream sizes events turn) (h : c.Ready) (hagain : turn = .again c') :
    c'.Ready := by
  cases hread with
  | delivered hbs => cases hagain
  | ended => cases hagain
  | interrupted hkind =>
      cases hagain
      exact ⟨h.isOpen_eq, h.broken_eq, h.room⟩
  | failed hkind hasked =>
      obtain ⟨-, rfl⟩ := retried_eq_again hagain
      exact ⟨h.isOpen_eq, h.broken_eq, h.room⟩

theorem Turned.ready {events : History W σ} {turn : Turn σ} (hturn : Turned may c sizes events turn)
    (h : c.Ready) (hagain : turn = .again c') : c'.Ready := by
  cases hturn with
  | reading hstream hread => exact hread.ready h hagain
  | opening hstream hsettle hread =>
      refine hread.ready ?_ hagain
      rw [(settleGeneration_eq hsettle).1]
      exact ⟨h.isOpen_eq, h.broken_eq, h.room⟩
  | changed hstream hsettle => cases hagain
  | gone hstream hgone => cases hagain
  | refused hstream hgone hasked =>
      obtain ⟨-, rfl⟩ := retried_eq_again hagain
      exact ⟨h.isOpen_eq, h.broken_eq, h.room⟩

/-- A claim about a channel that lasts whatever the channel does. -/
structure Lasts (P : Channel σ → Prop) : Prop where
  settled : ∀ c c' reported, P c → c.settleGeneration reported = .ok c' → P c'
  streaming : ∀ c stream, P c → P (c.streaming stream)
  advanced : ∀ c stream bs, P c → P (c.advanced stream bs)
  failed : ∀ c, P c → P c.failed
  brokenBy : ∀ c reason, P c → P (c.brokenBy reason)
  close : ∀ c, P c → P c.close

theorem Lasts.readOnce {P : Channel σ → Prop} (h : Lasts P) {stream : σ} {events : History W σ}
    {turn : Turn σ} (hread : ReadOnce may c stream sizes events turn) (hc : P c) : P turn.channel := by
  cases hread with
  | delivered hbs => exact h.advanced c _ _ hc
  | ended => exact h.close c hc
  | interrupted hkind => exact h.streaming c _ hc
  | failed hkind hasked =>
      rw [retried_channel]
      exact h.failed c hc

theorem Lasts.turned {P : Channel σ → Prop} (h : Lasts P) {events : History W σ} {turn : Turn σ}
    (hturn : Turned may c sizes events turn) (hc : P c) : P turn.channel := by
  cases hturn with
  | reading hstream hread => exact h.readOnce hread hc
  | opening hstream hsettle hread => exact h.readOnce hread (h.settled c _ _ hc hsettle)
  | changed hstream hsettle => exact h.brokenBy c _ hc
  | gone hstream hgone => exact h.brokenBy c _ hc
  | refused hstream hgone hasked =>
      rw [retried_channel]
      exact h.failed c hc

/-- What a read comes to and what it leaves: a channel that may go on, one that is closed, or one that is
    broken. -/
inductive LeftBy (sizes : List Nat) : Except ReadFailure Progress → Channel σ → Prop
  | octets {c : Channel σ} {bs : Bytes} (hbs : (∃ size ∈ sizes, 0 < size) → bs ≠ [])
      (hbroken : c.broken = none) : LeftBy sizes (.ok (.octets bs)) c
  | ended {c : Channel σ} (hclosed : c.isOpen = false) (hbroken : c.broken = none) :
      LeftBy sizes (.ok .endOfStream) c
  | failed {c : Channel σ} (fault : Fault) (hbroken : c.broken = none) :
      LeftBy sizes (.error fault.readFailure) c
  | broken {c : Channel σ} {reason : ResumptionReason} (hbroken : c.broken = some reason) :
      LeftBy sizes (.error (c.resumptionFailure reason)) c

theorem retried_leftBy {fault : Fault} {allowed : Bool} {result : Except ReadFailure Progress}
    (hbroken : c.broken = none) (hsettled : c.retried fault allowed = .settled result c') :
    LeftBy sizes result c' := by
  cases allowed with
  | true => cases hsettled
  | false =>
      cases hsettled
      exact .failed fault hbroken

theorem ReadOnce.leftBy {stream : σ} {events : History W σ} {turn : Turn σ}
    {result : Except ReadFailure Progress} (hread : ReadOnce may c stream sizes events turn)
    (hbroken : c.broken = none) (hsettled : turn = .settled result c') : LeftBy sizes result c' := by
  cases hread with
  | delivered hbs =>
      cases hsettled
      exact .octets (fun _ => hbs) hbroken
  | ended =>
      cases hsettled
      exact .ended rfl hbroken
  | interrupted hkind => cases hsettled
  | failed hkind hasked => exact retried_leftBy hbroken hsettled

theorem Turned.leftBy {events : History W σ} {turn : Turn σ} {result : Except ReadFailure Progress}
    (hturn : Turned may c sizes events turn) (hbroken : c.broken = none)
    (hsettled : turn = .settled result c') : LeftBy sizes result c' := by
  cases hturn with
  | reading hstream hread => exact hread.leftBy hbroken hsettled
  | opening hstream hsettle hread =>
      refine hread.leftBy ?_ hsettled
      rw [(settleGeneration_eq hsettle).1]
      exact hbroken
  | @changed w opened reason hstream hsettle =>
      cases hsettled
      exact LeftBy.broken (c := c.brokenBy reason) rfl
  | gone hstream hgone =>
      cases hsettled
      exact LeftBy.broken (c := c.brokenBy .notFound) rfl
  | refused hstream hgone hasked => exact retried_leftBy hbroken hsettled

end Leaving

/-! ## Reads -/

/-- What turns record, one after the other, and what they come to; nothing if they are not settled. -/
inductive Course (may : Answers) (sizes : List Nat) :
    Channel σ → History W σ → Option (Except ReadFailure Progress × Channel σ) → Prop
  | unsettled {c : Channel σ} : Course may sizes c [] none
  | settled {c c' : Channel σ} {events : History W σ} {result : Except ReadFailure Progress}
      (hturn : Turned may c sizes events (.settled result c')) : Course may sizes c events (some (result, c'))
  | again {c c' : Channel σ} {events later : History W σ}
      {done : Option (Except ReadFailure Progress × Channel σ)}
      (hturn : Turned may c sizes events (.again c')) (hrest : Course may sizes c' later done) :
      Course may sizes c (later ++ events) done

/-- What a read records, and what it comes to. -/
inductive Advanced (may : Answers) (c : Channel σ) (sizes : List Nat) :
    History W σ → Option (Except ReadFailure Progress × Channel σ) → Prop
  | broken {reason : ResumptionReason} (hbroken : c.broken = some reason) :
      Advanced may c sizes [] (some (.error (c.resumptionFailure reason), c))
  | closed (hbroken : c.broken = none) (hopen : c.isOpen = false) :
      Advanced may c sizes [] (some (.ok .endOfStream, c))
  | exhausted (hbroken : c.broken = none) (hopen : c.isOpen = true) (hexhausted : c.isExhausted = true) :
      Advanced may c sizes [] (some (.ok .endOfStream, c.close))
  | full (hready : c.Ready) (hsizes : ¬ ∃ size ∈ sizes, 0 < size) :
      Advanced may c sizes [] (some (.ok (.octets []), c))
  | reading {events : History W σ} {done : Option (Except ReadFailure Progress × Channel σ)}
      (hready : c.Ready) (hsizes : ∃ size ∈ sizes, 0 < size) (hcourse : Course may sizes c events done) :
      Advanced may c sizes events done

theorem ready_of_not_isExhausted {c : Channel σ} (hbroken : c.broken = none) (hopen : c.isOpen = true)
    (hexhausted : c.isExhausted = false) : c.Ready := by
  refine ⟨hopen, hbroken, fun stop hstop => ?_⟩
  rw [Option.mem_def] at hstop
  simpa [isExhausted, hstop] using hexhausted

/-- The sizes of the destinations, if a call is a read. -/
def Call.sizes? : Call → Option (List Nat)
  | .read sizes => some sizes
  | .readOctets sizes => some sizes
  | _ => none

/-- What a call records, and what it comes to. -/
inductive Performed (may : Answers) (c : Channel σ) :
    Call → History W σ → Option (CallResult × Channel σ) → Prop
  | unsettled {call : Call} {sizes : List Nat} {events : History W σ} (hsizes : call.sizes? = some sizes)
      (hread : Advanced may c sizes events none) : Performed may c call events none
  | read {sizes : List Nat} {events : History W σ} {progress : Progress} {c' : Channel σ}
      (hread : Advanced may c sizes events (some (.ok progress, c'))) :
      Performed may c (.read sizes) events
        (some (.read (.ok ⟨progress, c'.unreported⟩), { c' with unreported := none }))
  | readFailed {sizes : List Nat} {events : History W σ} {failure : ReadFailure} {c' : Channel σ}
      (hread : Advanced may c sizes events (some (.error failure, c'))) :
      Performed may c (.read sizes) events (some (.read (.error failure), c'))
  | readOctets {sizes : List Nat} {events : History W σ} {result : Except ReadFailure Progress}
      {c' : Channel σ} (hread : Advanced may c sizes events (some (result, c'))) :
      Performed may c (.readOctets sizes) events (some (.octets (result.map Progress.bytes), c'))
  | takeResolved :
      Performed may c .takeResolved [] (some (.resolved c.unreported, { c with unreported := none }))
  | close : Performed may c .close [] (some (.closed, c.close))

/-- What calls record, one after the other, and what they return, to a channel that starts with a history. -/
inductive Ran (may : Answers) (start : Channel σ) (before : History W σ) :
    List Call → List CallResult → Channel σ → History W σ → Prop
  | start : Ran may start before [] [] start before
  | call {calls : List Call} {results : List CallResult} {c c' : Channel σ} {history events : History W σ}
      {call : Call} {result : CallResult} (hran : Ran may start before calls results c history)
      (hcall : Performed may c call events (some (result, c'))) :
      Ran may start before (calls ++ [call]) (results ++ [result]) c' (events ++ history)

/-! ## What a read leaves -/

section Left

variable {may : Answers} {c c' : Channel σ} {sizes : List Nat}

/-- What holds of the channel that is left; of some channel on the way, if nothing is settled. -/
def Leaving {α : Type} (P : Channel σ → Prop) (done : Option (α × Channel σ)) : Prop :=
  match done with
  | some (_, c) => P c
  | none => ∃ c, P c

theorem Leaving.exists {α : Type} {P : Channel σ → Prop} {done : Option (α × Channel σ)}
    (h : Leaving P done) : ∃ c, P c := by
  rcases done with _ | ⟨result, c⟩
  · exact h
  · exact ⟨c, h⟩

theorem Lasts.course {P : Channel σ → Prop} (h : Lasts P) {events : History W σ}
    {done : Option (Except ReadFailure Progress × Channel σ)} (hcourse : Course may sizes c events done)
    (hc : P c) : Leaving P done := by
  induction hcourse with
  | unsettled => exact ⟨_, hc⟩
  | settled hturn => exact h.turned hturn hc
  | again hturn hrest ih => exact ih (h.turned hturn hc)

/-- **What lasts through the turns of a read lasts through the read.** -/
theorem Lasts.advance {P : Channel σ → Prop} (h : Lasts P) {events : History W σ}
    {done : Option (Except ReadFailure Progress × Channel σ)} (hread : Advanced may c sizes events done)
    (hc : P c) : Leaving P done := by
  cases hread with
  | broken hbroken => exact hc
  | closed hbroken hopen => exact hc
  | exhausted hbroken hopen hexhausted => exact h.close c hc
  | full hready hsizes => exact hc
  | reading hready hsizes hcourse => exact h.course hcourse hc

theorem Course.leftBy {events : History W σ} {done : Option (Except ReadFailure Progress × Channel σ)}
    {result : Except ReadFailure Progress} (hcourse : Course may sizes c events done) (hready : c.Ready)
    (hdone : done = some (result, c')) : LeftBy sizes result c' := by
  induction hcourse with
  | unsettled => cases hdone
  | settled hturn =>
      cases hdone
      exact hturn.leftBy hready.broken_eq rfl
  | again hturn hrest ih => exact ih (hturn.ready hready rfl) hdone

theorem Advanced.leftBy {events : History W σ} {done : Option (Except ReadFailure Progress × Channel σ)}
    {result : Except ReadFailure Progress} (hread : Advanced may c sizes events done)
    (hdone : done = some (result, c')) : LeftBy sizes result c' := by
  cases hread with
  | broken hbroken =>
      cases hdone
      exact .broken hbroken
  | closed hbroken hopen =>
      cases hdone
      exact .ended hopen hbroken
  | exhausted hbroken hopen hexhausted =>
      cases hdone
      exact .ended rfl hbroken
  | full hready hsizes =>
      cases hdone
      exact .octets (fun hroom => absurd hroom hsizes) hready.broken_eq
  | reading hready hsizes hcourse => exact hcourse.leftBy hready hdone

theorem lasts_request (request : ReadRequest) : Lasts fun c : Channel σ => c.request = request where
  settled c c' reported hc hsettle := by
    rw [(settleGeneration_eq hsettle).1]
    exact hc
  streaming _ _ hc := hc
  advanced _ _ _ hc := hc
  failed _ hc := hc
  brokenBy _ _ hc := hc
  close _ hc := hc

theorem Performed.request_eq {call : Call} {events : History W σ} {result : CallResult}
    (hcall : Performed may c call events (some (result, c'))) : c'.request = c.request := by
  have hlasts : Lasts fun other : Channel σ => other.request = c.request := lasts_request c.request
  cases hcall with
  | read hread => exact hlasts.advance hread rfl
  | readFailed hread => exact hlasts.advance hread rfl
  | readOctets hread => exact hlasts.advance hread rfl
  | takeResolved => rfl
  | close => rfl

theorem Ran.request_eq {start : Channel σ} {before history : History W σ} {calls : List Call}
    {results : List CallResult} (hran : Ran may start before calls results c history) :
    c.request = start.request := by
  induction hran with
  | start => rfl
  | call hran hcall ih => exact hcall.request_eq.trans ih

end Left

section Reads

variable {opener : Opener (StateM W) σ} {adviser : Adviser (StateM W)} {may : Answers}
  (h : adviser.Gives may)

include h

theorem after_rounds_course (limit : Nat) (c : Channel σ) (sizes : List Nat) (w : Watched W σ) :
    After (rounds opener.watched adviser.watched limit c sizes) w fun done w' =>
      ∃ events : History W σ, w'.1 = events ++ w.1 ∧ Course may sizes c events done := by
  induction limit generalizing c w with
  | zero => exact ⟨[], rfl, .unsettled⟩
  | succ limit ih =>
      unfold rounds
      refine After.bind (after_turn_turned h c sizes w) ?_
      intro turn w₁ hturned
      obtain ⟨events, hw₁, hturn⟩ := hturned
      cases turn with
      | settled result c' => exact ⟨events, hw₁, .settled hturn⟩
      | again c' =>
          refine (ih c' w₁).imp ?_
          intro done w₂ hrest
          obtain ⟨later, hw₂, hcourse⟩ := hrest
          refine ⟨later ++ events, ?_, .again hturn hcourse⟩
          rw [hw₂, hw₁, List.append_assoc]

theorem after_advance_advanced (limit : Nat) (c : Channel σ) (sizes : List Nat) (w : Watched W σ) :
    After (c.advance opener.watched adviser.watched limit sizes) w fun done w' =>
      ∃ events : History W σ, w'.1 = events ++ w.1 ∧ Advanced may c sizes events done := by
  unfold advance
  cases hbroken : c.broken with
  | some reason => exact ⟨[], rfl, .broken hbroken⟩
  | none =>
      cases hopen : c.isOpen with
      | false => exact ⟨[], rfl, .closed hbroken hopen⟩
      | true =>
          cases hexhausted : c.isExhausted with
          | true => exact ⟨[], rfl, .exhausted hbroken hopen hexhausted⟩
          | false =>
              have hready := ready_of_not_isExhausted hbroken hopen hexhausted
              cases hfull : sizes.all (· == 0) with
              | true =>
                  refine ⟨[], rfl, .full hready ?_⟩
                  intro hroom
                  obtain ⟨size, hsize, hpos⟩ := hroom
                  have hzero := List.all_eq_true.1 hfull size hsize
                  simp at hzero
                  omega
              | false =>
                  obtain ⟨size, hsize, hne⟩ := List.all_eq_false.1 hfull
                  have hpos : 0 < size := Nat.pos_of_ne_zero fun hzero => hne (beq_iff_eq.2 hzero)
                  refine (after_rounds_course h limit c sizes w).imp ?_
                  intro done w' hrounds
                  obtain ⟨events, hw', hcourse⟩ := hrounds
                  exact ⟨events, hw', .reading hready ⟨size, hsize, hpos⟩ hcourse⟩

/-- **Every call takes such a course.** -/
theorem after_perform_performed (limit : Nat) (c : Channel σ) (call : Call) (w : Watched W σ) :
    After (c.perform opener.watched adviser.watched limit call) w fun done w' =>
      ∃ events : History W σ, w'.1 = events ++ w.1 ∧ Performed may c call events done := by
  cases call with
  | read sizes =>
      simp only [perform, Channel.read, bind_assoc]
      refine After.bind (after_advance_advanced h limit c sizes w) ?_
      intro done w' hadvanced
      obtain ⟨events, hw', hread⟩ := hadvanced
      rcases done with _ | ⟨failure | progress, c'⟩
      · exact ⟨events, hw', .unsettled rfl hread⟩
      · exact ⟨events, hw', .readFailed hread⟩
      · exact ⟨events, hw', .read hread⟩
  | readOctets sizes =>
      simp only [perform, Channel.readOctets, bind_assoc]
      refine After.bind (after_advance_advanced h limit c sizes w) ?_
      intro done w' hadvanced
      obtain ⟨events, hw', hread⟩ := hadvanced
      rcases done with _ | ⟨failure | bs | _, c'⟩
      · exact ⟨events, hw', .unsettled rfl hread⟩
      · exact ⟨events, hw', .readOctets hread⟩
      · exact ⟨events, hw', .readOctets hread⟩
      · exact ⟨events, hw', .readOctets hread⟩
  | takeResolved => exact ⟨[], rfl, .takeResolved⟩
  | close => exact ⟨[], rfl, .close⟩

/-- Calls that go on with a run make a longer one. -/
theorem Ran.after_performEach {start : Channel σ} {before : History W σ} {called : List Call}
    {results : List CallResult} {c : Channel σ} {w : Watched W σ}
    (hran : Ran may start before called results c w.1) (limit : Nat) (calls : List Call) :
    After (c.performEach opener.watched adviser.watched limit calls) w fun ran w' =>
      ∀ last ∈ ran.2, Ran may start before (called ++ calls) (results ++ ran.1) last w'.1 := by
  induction calls generalizing called results c w with
  | nil =>
      intro last hlast
      obtain rfl := Option.some.inj hlast
      show Ran may start before (called ++ []) (results ++ []) c w.1
      simpa using hran
  | cons call calls ih =>
      unfold performEach
      refine After.bind (after_perform_performed h limit c call w) ?_
      intro done w₁ hperformed
      obtain ⟨events, hw₁, hcall⟩ := hperformed
      rcases done with _ | ⟨result, c₁⟩
      · intro last hlast
        cases hlast
      · have hmore : Ran may start before (called ++ [call]) (results ++ [result]) c₁ w₁.1 := by
          rw [hw₁]
          exact hran.call hcall
        refine After.bind (ih hmore) ?_
        intro ran w₂ hrest last hlast
        have hall := hrest last hlast
        simp only [List.append_assoc, List.singleton_append] at hall
        exact hall

/-- **Every run takes such a course**, as long as each of its reads is settled. -/
theorem after_performEach_ran (limit : Nat) (c : Channel σ) (calls : List Call) (w : Watched W σ) :
    After (c.performEach opener.watched adviser.watched limit calls) w fun ran w' =>
      ∀ last ∈ ran.2, Ran may c w.1 calls ran.1 last w'.1 :=
  Ran.after_performEach h .start limit calls

end Reads

end Channel

end SteadyFetch
