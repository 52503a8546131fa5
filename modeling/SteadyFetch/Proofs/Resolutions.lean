import SteadyFetch.Proofs.Questions

set_option autoImplicit false

/-! # When the resolved object is handed out

The object at the generation that is read is handed out once, by whichever call comes first to it
(`Channel.Owes`). Nothing else depends on it: two channels that differ in nothing but whether it was handed
out do the same (`Channel.Same`), and so it makes no difference but that one whether a channel is read with
its own reads or as a plain stream (`performEach_alike`). -/

namespace SteadyFetch

variable {W σ : Type}

namespace Channel

/-! ## What is handed out -/

/-- The resolved object that a call hands out. -/
def CallResult.handed? : CallResult → Option ObjectRef
  | .read (.ok outcome) => outcome.resolved
  | .resolved object => object
  | _ => none

/-- Whether what was handed out, and what is not yet, is the object at the generation that is known. -/
def Owes (handed : List ObjectRef) (c : Channel σ) : Prop :=
  handed ++ c.unreported.toList = (c.generation.map c.request.object.atGeneration).toList

variable {c c' : Channel σ} {history : History W σ} {may : Answers} {sizes : List Nat}
  {handed : List ObjectRef}

theorem owes_start (request : ReadRequest) : (start request : Channel σ).Owes [] := rfl

/-- A generation that is taken up is owed, and no other is taken up later. -/
theorem lasts_owes (handed : List ObjectRef) : Lasts fun c : Channel σ => c.Owes handed where
  settled c c' reported hc hsettle := by
    unfold settleGeneration at hsettle
    cases hgeneration : c.generation with
    | some pinned =>
        cases reported with
        | none =>
            simp only [hgeneration, Except.ok.injEq] at hsettle
            rwa [← hsettle]
        | some g =>
            simp only [hgeneration] at hsettle
            split at hsettle
            · rwa [← Except.ok.inj hsettle]
            · cases hsettle
    | none =>
        cases reported with
        | none =>
            simp only [hgeneration, Except.ok.injEq] at hsettle
            rwa [← hsettle]
        | some g =>
            simp only [hgeneration, Except.ok.injEq] at hsettle
            unfold Owes at hc
            simp only [hgeneration, Option.map_none, Option.toList_none, List.append_eq_nil_iff] at hc
            rw [← hsettle, hc.1]
            rfl
  streaming _ _ hc := hc
  advanced _ _ _ hc := hc
  failed _ hc := hc
  brokenBy _ _ hc := hc
  close _ hc := hc

theorem Owes.taken (h : c.Owes handed) :
    Channel.Owes (handed ++ c.unreported.toList) { c with unreported := none } := by
  unfold Owes at h ⊢
  rw [h]
  exact List.append_nil _

theorem Performed.owes {call : Call} {events : History W σ} {result : CallResult}
    (hcall : Performed may c call events (some (result, c'))) (h : c.Owes handed) :
    c'.Owes (handed ++ result.handed?.toList) := by
  have hnothing : ∀ {last : Channel σ}, last.Owes handed → last.Owes (handed ++ []) := by
    intro last hlast
    rwa [List.append_nil]
  have hlasts : Lasts fun c : Channel σ => c.Owes handed := lasts_owes handed
  cases hcall with
  | read hread => exact Owes.taken (hlasts.advance hread h)
  | readFailed hread => exact hnothing (hlasts.advance hread h)
  | readOctets hread => exact hnothing (hlasts.advance hread h)
  | takeResolved => exact h.taken
  | close => exact hnothing h

theorem Ran.owes {start : Channel σ} {before : History W σ} {calls : List Call} {results : List CallResult}
    (hran : Ran may start before calls results c history) (h : start.Owes []) :
    c.Owes (results.filterMap CallResult.handed?) := by
  induction hran with
  | start => exact h
  | @call calls results c c' history events call result hran hcall ih =>
      have hnow := hcall.owes ih
      rw [List.filterMap_append]
      cases hhanded : result.handed? with
      | none => simpa [hhanded] using hnow
      | some object => simpa [hhanded] using hnow

theorem Performed.unreported_eq {events : History W σ} {outcome : Outcome}
    (hcall : Performed may c (.read sizes) events (some (.read (.ok outcome), c'))) :
    c'.unreported = none := by
  cases hcall with
  | read hread => rfl

/-! ## Octets and what is handed out -/

/-- No octets come with a failed attempt and what is asked about it. -/
theorem Offered.octets_eq {attempt : Nat} {fault : Fault} {asked : History W σ} {allowed : Bool}
    (h : Offered may attempt fault asked allowed) {failed event : Event W σ} (hfailed : failed.octets = [])
    (hmem : event ∈ asked ++ [failed]) : event.octets = [] := by
  rcases List.mem_append.1 hmem with hadvice | hnow
  · exact (History.isAdvice_cases (fun other hother => (h.of_mem hother).1) hadvice).1
  · rwa [List.mem_singleton.1 hnow]

theorem ReadOnce.octets {stream : σ} {events : History W σ} {turn : Turn σ}
    (hread : ReadOnce may c stream sizes events turn) {event : Event W σ} (hmem : event ∈ events)
    (hoctets : event.octets ≠ []) : ∃ bs c', turn = .settled (.ok (.octets bs)) c' := by
  cases hread with
  | delivered hbs => exact ⟨_, _, rfl⟩
  | ended =>
      rw [List.mem_singleton.1 hmem] at hoctets
      exact absurd rfl hoctets
  | interrupted hkind =>
      rw [List.mem_singleton.1 hmem] at hoctets
      exact absurd rfl hoctets
  | failed hkind hasked => exact absurd (Offered.octets_eq hasked rfl hmem) hoctets

theorem Turned.octets {events : History W σ} {turn : Turn σ} (hturn : Turned may c sizes events turn)
    {event : Event W σ} (hmem : event ∈ events) (hoctets : event.octets ≠ []) :
    ∃ bs c', turn = .settled (.ok (.octets bs)) c' := by
  cases hturn with
  | reading hstream hread => exact hread.octets hmem hoctets
  | opening hstream hsettle hread =>
      rcases List.mem_append.1 hmem with hbefore | hnow
      · exact hread.octets hbefore hoctets
      · rw [List.mem_singleton.1 hnow] at hoctets
        exact absurd rfl hoctets
  | changed hstream hsettle =>
      rw [List.mem_singleton.1 hmem] at hoctets
      exact absurd rfl hoctets
  | gone hstream hgone =>
      rw [List.mem_singleton.1 hmem] at hoctets
      exact absurd rfl hoctets
  | refused hstream hgone hasked => exact absurd (Offered.octets_eq hasked rfl hmem) hoctets

theorem Course.octets {events : History W σ} {done : Option (Except ReadFailure Progress × Channel σ)}
    (hcourse : Course may sizes c events done) {event : Event W σ} (hmem : event ∈ events)
    (hoctets : event.octets ≠ []) : ∃ bs c', done = some (.ok (.octets bs), c') := by
  induction hcourse with
  | unsettled => cases hmem
  | settled hturn =>
      obtain ⟨bs, last, hturn⟩ := hturn.octets hmem hoctets
      cases hturn
      exact ⟨bs, _, rfl⟩
  | again hturn hrest ih =>
      rcases List.mem_append.1 hmem with hlater | hnow
      · exact ih hlater
      · obtain ⟨bs, c', hturn⟩ := hturn.octets hnow hoctets
        cases hturn

theorem Advanced.octets {events : History W σ} {done : Option (Except ReadFailure Progress × Channel σ)}
    (hread : Advanced may c sizes events done) {event : Event W σ} (hmem : event ∈ events)
    (hoctets : event.octets ≠ []) : ∃ bs c', done = some (.ok (.octets bs), c') := by
  cases hread with
  | broken hbroken => cases hmem
  | closed hbroken hopen => cases hmem
  | exhausted hbroken hopen hexhausted => cases hmem
  | full hready hsizes => cases hmem
  | reading hready hsizes hcourse => exact hcourse.octets hmem hoctets

theorem Performed.unreported_eq_of_octets {events : History W σ} {result : CallResult}
    (hcall : Performed may c (.read sizes) events (some (result, c'))) {event : Event W σ}
    (hmem : event ∈ events) (hoctets : event.octets ≠ []) : c'.unreported = none := by
  cases hcall with
  | read hread => rfl
  | readFailed hread =>
      obtain ⟨bs, last, hdone⟩ := hread.octets hmem hoctets
      cases hdone

/-- **A reader has the resolved object by the time it has octets of it**, if it uses nothing but the channel's
    own reads. -/
theorem Ran.handed_eq {start : Channel σ} {calls : List Call} {results : List CallResult}
    (hran : Ran may start ([] : History W σ) calls results c history) (hstep : start.InStep (W := W) [] none)
    (howes : start.Owes []) (hreads : ∀ call ∈ calls, ∃ sizes, call = .read sizes)
    {later earlier : History W σ} {event : Event W σ} {g : Int} (hsplit : history = later ++ event :: earlier)
    (hoctets : event.octets ≠ []) (hreported : earlier.reported? = some g) :
    results.filterMap CallResult.handed? = [start.request.object.atGeneration g] := by
  induction hran generalizing later with
  | start => simp at hsplit
  | @call calls results c c' history events call result hran hcall ih =>
      have hmore := hran.call hcall
      have hgeneration : c'.generation = some g := by
        rw [(hmore.inStep hstep).generation_eq, hsplit, ← List.singleton_append, ← List.append_assoc,
          History.reported?_append, hreported]
        rfl
      have hall := hmore.owes howes
      unfold Owes at hall
      rw [hgeneration, hmore.request_eq] at hall
      rcases History.append_eq_append_cons hsplit with ⟨between, rfl⟩ | ⟨between, -, hbefore⟩
      · -- the read that records the octets succeeds, so it leaves nothing to be handed out
        obtain ⟨sizes, rfl⟩ := hreads call (by simp)
        rw [hcall.unreported_eq_of_octets (by simp) hoctets] at hall
        simpa using hall
      · have hgiven := ih (fun call hmem => hreads call (List.mem_append_left _ hmem)) hbefore
        rw [List.filterMap_append, hgiven] at hall ⊢
        simp at hall
        simp [hall.1]

/-! ## Channels that differ in what is handed out -/

/-- Channels that differ in nothing but what is not handed out yet. -/
inductive Same (c : Channel σ) : Channel σ → Prop
  | mk (object : Option ObjectRef) : Same c { c with unreported := object }

namespace Same

theorem refl (c : Channel σ) : c.Same c := .mk c.unreported

variable (h : c.Same c')

include h

theorem stream_eq : c'.stream = c.stream := by cases h with | mk object => rfl

theorem isOpen_eq : c'.isOpen = c.isOpen := by cases h with | mk object => rfl

theorem generation_eq : c'.generation = c.generation := by cases h with | mk object => rfl

theorem broken_eq : c'.broken = c.broken := by cases h with | mk object => rfl

theorem isExhausted_eq : c'.isExhausted = c.isExhausted := by cases h with | mk object => rfl

theorem startingAt_eq : c'.request.startingAt c'.position = c.request.startingAt c.position := by
  cases h with | mk object => rfl

theorem resumptionFailure_eq (reason : ResumptionReason) :
    c'.resumptionFailure reason = c.resumptionFailure reason := by cases h with | mk object => rfl

theorem failures_eq : c'.failed.failures = c.failed.failures := by cases h with | mk object => rfl

theorem failed : c.failed.Same c'.failed := by cases h with | mk object => exact .mk object

theorem close : c.close.Same c'.close := by cases h with | mk object => exact .mk object

theorem brokenBy (reason : ResumptionReason) : (c.brokenBy reason).Same (c'.brokenBy reason) := by
  cases h with | mk object => exact .mk object

theorem streaming (stream : σ) : (c.streaming stream).Same (c'.streaming stream) := by
  cases h with | mk object => exact .mk object

theorem advanced (stream : σ) (bs : Bytes) : (c.advanced stream bs).Same (c'.advanced stream bs) := by
  cases h with | mk object => exact .mk object

theorem taken_left : Channel.Same { c with unreported := none } c' := by
  cases h with | mk object => exact .mk object

theorem taken : c.takeResolved.2.Same c'.takeResolved.2 := by cases h with | mk object => exact .mk none

theorem taken_eq : c'.takeResolved.2 = c.takeResolved.2 := by cases h with | mk object => rfl

theorem settleGeneration (reported : Option Int) :
    (∃ reason, c.settleGeneration reported = .error reason ∧ c'.settleGeneration reported = .error reason) ∨
      ∃ d d', c.settleGeneration reported = .ok d ∧ c'.settleGeneration reported = .ok d' ∧ d.Same d' := by
  unfold Channel.settleGeneration
  rw [h.generation_eq]
  cases c.generation with
  | none =>
      cases reported with
      | none => exact Or.inr ⟨c, c', rfl, rfl, h⟩
      | some g =>
          refine Or.inr ⟨_, _, rfl, rfl, ?_⟩
          cases h with
          | mk object => exact .mk _
  | some pinned =>
      cases reported with
      | none => exact Or.inr ⟨c, c', rfl, rfl, h⟩
      | some g =>
          by_cases hsame : pinned = g
          · simp only [hsame, if_true]
            exact Or.inr ⟨c, c', rfl, rfl, h⟩
          · simp only [hsame, if_false]
            exact Or.inl ⟨_, rfl, rfl⟩

end Same

/-- Turns that come to the same, with such channels. -/
inductive Turn.Same : Turn σ → Turn σ → Prop
  | settled {c c' : Channel σ} (result : Except ReadFailure Progress) (h : c.Same c') :
      Same (.settled result c) (.settled result c')
  | again {c c' : Channel σ} (h : c.Same c') : Same (.again c) (.again c')

/-- Results that are related, with channels that differ in nothing but what is not handed out yet. -/
inductive SameResult {α β : Type} (R : α → β → Prop) : Option (α × Channel σ) → Option (β × Channel σ) → Prop
  | unsettled : SameResult R none none
  | settled {a : α} {b : β} {c c' : Channel σ} (hresult : R a b) (h : c.Same c') :
      SameResult R (some (a, c)) (some (b, c'))

section Alike

variable {opener : Opener (StateM W) σ} {adviser : Adviser (StateM W)} (h : c.Same c')

include h

theorem recover_alike (fault : Fault) :
    Alike Turn.Same (c.recover adviser fault) (c'.recover adviser fault) := by
  rw [recover_eq_allows, recover_eq_allows, h.failures_eq]
  refine Alike.bind_left fun allowed => ?_
  cases allowed with
  | true => exact Alike.pure (.again h.failed)
  | false => exact Alike.pure (.settled _ h.failed)

theorem readStream_alike (stream : σ) (sizes : List Nat) :
    Alike Turn.Same (readStream opener adviser c stream sizes)
      (readStream opener adviser c' stream sizes) := by
  unfold readStream
  refine Alike.bind_left fun read => ?_
  obtain ⟨result, rest⟩ := read
  cases result with
  | ok bs =>
      cases bs with
      | nil => exact Alike.pure (.settled _ h.close)
      | cons b bs => exact Alike.pure (.settled _ (h.advanced rest (b :: bs)))
  | error fault =>
      by_cases hkind : fault.kind = .interrupted
      · simp only [hkind, if_true]
        exact Alike.pure (.again (h.streaming rest))
      · simp only [hkind, if_false]
        exact recover_alike h (.io fault)

theorem breakOff_same (reason : ResumptionReason) : Turn.Same (c.breakOff reason) (c'.breakOff reason) := by
  unfold breakOff
  rw [h.resumptionFailure_eq]
  exact .settled _ (h.brokenBy reason)

theorem turn_alike (sizes : List Nat) :
    Alike Turn.Same (c.turn opener adviser sizes) (c'.turn opener adviser sizes) := by
  unfold turn
  rw [h.stream_eq]
  cases c.stream with
  | some stream => exact readStream_alike h stream sizes
  | none =>
      simp only [openAndRead, h.startingAt_eq, h.generation_eq]
      refine Alike.bind_left fun result => ?_
      cases result with
      | error fault =>
          by_cases hgone : (c.generation.isSome && fault.isNotFound) = true
          · simp only [hgone, if_true]
            exact Alike.pure (breakOff_same h .notFound)
          · simp only [hgone]
            exact recover_alike h fault
      | ok opened =>
          rcases h.settleGeneration opened.generation with ⟨reason, hc, hc'⟩ | ⟨d, d', hc, hc', hsame⟩
          · simp only [hc, hc']
            exact Alike.pure (breakOff_same h reason)
          · simp only [hc, hc']
            exact readStream_alike hsame opened.stream sizes

theorem rounds_alike (limit : Nat) (sizes : List Nat) :
    Alike (SameResult Eq) (rounds opener adviser limit c sizes) (rounds opener adviser limit c' sizes) := by
  induction limit generalizing c c' with
  | zero => exact Alike.pure .unsettled
  | succ limit ih =>
      unfold rounds
      refine Alike.bind (turn_alike h sizes) fun turn turn' hturn => ?_
      cases hturn with
      | settled result hleft => exact Alike.pure (.settled rfl hleft)
      | again hleft => exact ih hleft

theorem advance_alike (limit : Nat) (sizes : List Nat) :
    Alike (SameResult Eq) (c.advance opener adviser limit sizes) (c'.advance opener adviser limit sizes) := by
  unfold advance
  rw [h.broken_eq, h.isOpen_eq, h.isExhausted_eq]
  cases c.broken with
  | some reason =>
      exact Alike.pure (.settled (congrArg Except.error (h.resumptionFailure_eq reason).symm) h)
  | none =>
      cases c.isOpen with
      | false => exact Alike.pure (.settled rfl h)
      | true =>
          cases c.isExhausted with
          | true => exact Alike.pure (.settled rfl h.close)
          | false =>
              cases hfull : sizes.all (· == 0) with
              | true => exact Alike.pure (.settled rfl h)
              | false => exact rounds_alike h limit sizes

theorem read_alike (limit : Nat) (sizes : List Nat) :
    Alike (SameResult fun outcome octets => outcome.map (fun o => o.progress.bytes) = octets)
      (c.read opener adviser limit sizes) (c'.readOctets opener adviser limit sizes) := by
  unfold Channel.read Channel.readOctets
  refine Alike.bind (advance_alike h limit sizes) fun done done' hdone => ?_
  cases hdone with
  | unsettled => exact Alike.pure .unsettled
  | @settled result result' last last' hresult hleft =>
      subst hresult
      rcases result with failure | bs | _
      · exact Alike.pure (.settled rfl hleft)
      · exact Alike.pure (.settled rfl hleft.taken_left)
      · exact Alike.pure (.settled rfl hleft.taken_left)

theorem readOctets_alike (limit : Nat) (sizes : List Nat) :
    Alike (SameResult Eq) (c.readOctets opener adviser limit sizes)
      (c'.readOctets opener adviser limit sizes) := by
  unfold Channel.readOctets
  refine Alike.bind (advance_alike h limit sizes) fun done done' hdone => ?_
  cases hdone with
  | unsettled => exact Alike.pure .unsettled
  | @settled result result' last last' hresult hleft =>
      subst hresult
      rcases result with failure | bs | _
      · exact Alike.pure (.settled rfl hleft)
      · exact Alike.pure (.settled rfl hleft)
      · exact Alike.pure (.settled rfl hleft)

end Alike

/-! ## Any calls -/

/-- The same call, with a read as of a plain stream. -/
def Call.plain : Call → Call
  | .read sizes => .readOctets sizes
  | call => call

/-- The octets or the failure of a read, if the call was one. -/
def CallResult.octets? (result : CallResult) : Option (Except ReadFailure Bytes) :=
  result.progress?.map (Except.map Progress.bytes)

section Calls

variable {opener : Opener (StateM W) σ} {adviser : Adviser (StateM W)}

theorem perform_alike (h : c.Same c') (limit : Nat) (call : Call) :
    Alike (SameResult fun result plain => result.octets? = plain.octets?)
      (c.perform opener adviser limit call) (c'.perform opener adviser limit call.plain) := by
  cases call with
  | read sizes =>
      unfold perform
      refine Alike.bind (read_alike h limit sizes) fun done done' hdone => ?_
      cases hdone with
      | unsettled => exact Alike.pure .unsettled
      | @settled outcome octets last last' hresult hleft =>
          subst hresult
          cases outcome with
          | error failure => exact Alike.pure (.settled rfl hleft)
          | ok outcome => exact Alike.pure (.settled rfl hleft)
  | readOctets sizes =>
      unfold perform
      refine Alike.bind (readOctets_alike h limit sizes) fun done done' hdone => ?_
      cases hdone with
      | unsettled => exact Alike.pure .unsettled
      | settled hresult hleft =>
          subst hresult
          exact Alike.pure (.settled rfl hleft)
  | takeResolved => exact Alike.pure (.settled rfl h.taken)
  | close => exact Alike.pure (.settled rfl h.close)

/-- Runs with the same octets and failures, and with channels at the end that differ in nothing but what is
    not handed out yet. -/
def SameRun (ran plain : List CallResult × Option (Channel σ)) : Prop :=
  plain.1.map CallResult.octets? = ran.1.map CallResult.octets? ∧
    plain.2.map (fun c => c.takeResolved.2) = ran.2.map (fun c => c.takeResolved.2)

/-- **Reading a plain stream makes no difference but to what is handed out.** -/
theorem performEach_alike (h : c.Same c') (limit : Nat) (calls : List Call) :
    Alike SameRun (c.performEach opener adviser limit calls)
      (c'.performEach opener adviser limit (calls.map Call.plain)) := by
  induction calls generalizing c c' with
  | nil => exact Alike.pure ⟨rfl, congrArg some h.taken_eq⟩
  | cons call calls ih =>
      unfold performEach
      refine Alike.bind (perform_alike h limit call) fun done done' hdone => ?_
      cases hdone with
      | unsettled => exact Alike.pure ⟨rfl, rfl⟩
      | @settled result plain last last' hresult hleft =>
          refine Alike.bind (ih hleft) fun ran ran' hrest => ?_
          obtain ⟨hresults, hlast⟩ := hrest
          refine Alike.pure ⟨?_, hlast⟩
          show plain.octets? :: ran'.1.map CallResult.octets? = result.octets? :: ran.1.map CallResult.octets?
          rw [hresult, hresults]

end Calls

/-- **The resolved object is handed out once.** Whatever opener and adviser answer and whatever calls are made,
    what was handed out and what could still be taken is together the request's object at the generation
    that was reported first, once it was: so it can be taken exactly as long as it was not handed out,
    whether calls failed or not. A channel's own read that succeeds leaves nothing, so whoever makes only
    such reads has it by the time there are octets that came after the report. With every read made as of a
    plain stream the same is asked for, with the same octets and failures, and the same channel is left,
    but for what is handed out. -/
theorem performEach_hands_out_once (opener : Opener (StateM W) σ) (adviser : Adviser (StateM W))
    (limit : Nat) (request : ReadRequest) (calls : List Call) (w : W) :
    After ((start request).performEach opener.watched adviser.watched limit calls)
      (([], w) : Watched W σ) fun ran w' =>
        (∀ c ∈ ran.2,
          ran.1.filterMap CallResult.handed? ++ c.takeResolved.1.toList =
            (w'.1.reported?.map request.object.atGeneration).toList ∧
          (∀ limit sizes, After (c.perform opener.watched adviser.watched limit (.read sizes)) w'
            fun done w'' => ∀ outcome c', done = some (.read (.ok outcome), c') → c'.takeResolved.1 = none ∧
              ran.1.filterMap CallResult.handed? ++ outcome.resolved.toList =
                (w''.1.reported?.map request.object.atGeneration).toList) ∧
          ((∀ call ∈ calls, ∃ sizes, call = .read sizes) →
            ∀ (later earlier : History W σ) event g, w'.1 = later ++ event :: earlier → event.octets ≠ [] →
              earlier.reported? = some g →
                ran.1.filterMap CallResult.handed? = [request.object.atGeneration g])) ∧
        After ((start request).performEach opener.watched adviser.watched limit (calls.map Call.plain))
          (([], w) : Watched W σ) fun plain w'' => w'' = w' ∧ SameRun ran plain := by
  refine After.and ?_ ?_
  · refine (after_performEach_ran adviser.gives_any limit (start request) calls ([], w)).imp ?_
    intro ran w' hran c hc
    have hran := hran c hc
    have hstep := hran.inStep (.start request)
    have howes := hran.owes (owes_start request)
    have hrequest : c.request = request := hran.request_eq
    refine ⟨?_, ?_, ?_⟩
    · rw [← hstep.generation_eq, ← hrequest]
      exact howes
    · intro limit sizes
      refine (after_perform_performed adviser.gives_any limit c (.read sizes) w').imp ?_
      intro done w'' hperformed outcome c' hdone
      obtain ⟨events, hw'', hcall⟩ := hperformed
      subst hdone
      have hleft : c'.InStep w''.1 none := by
        rw [hw'']
        exact hcall.inStep hstep
      have hnothing := hcall.unreported_eq
      have hall := hcall.owes howes
      unfold Owes at hall
      rw [hnothing, hleft.generation_eq, hcall.request_eq, hrequest, Option.toList_none,
        List.append_nil] at hall
      exact ⟨hnothing, hall⟩
    · intro hreads later earlier event g hsplit hoctets hreported
      exact hran.handed_eq (.start request) (owes_start request) hreads hsplit hoctets hreported
  · obtain ⟨hsame, hworld⟩ := performEach_alike (.refl (start request)) limit calls ([], w)
    exact ⟨hworld.symm, hsame⟩

end Channel

end SteadyFetch
