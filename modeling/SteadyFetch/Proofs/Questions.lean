import SteadyFetch.Proofs.Courses

set_option autoImplicit false

/-! # What an adviser is asked

Which question is due is told by the history alone (`History.due?`): a failed attempt is put as it came, with
the number of failures since octets were last delivered, and a fault of the protocol that was declined once
more, as the failure it becomes. A channel is in step with its history (`Channel.InStep`): it asks what is
due and nothing else (`performEach_asks_what_is_due`). What it does then goes by the answers
(`History.Heeded`). -/

namespace SteadyFetch

variable {W σ : Type}

/-! ## Failures -/

/-- The failure of a read, if it failed. -/
def failureOf? (result : Except ReadFailure Progress) : Option ReadFailure :=
  match result with
  | .error failure => some failure
  | .ok _ => none

/-- The failure that a call returns, if it is a read that failed. -/
def Channel.CallResult.failure? (result : CallResult) : Option ReadFailure := result.progress?.bind failureOf?

theorem Channel.failure?_octets (result : Except ReadFailure Progress) :
    CallResult.failure? (.octets (result.map Progress.bytes)) = failureOf? result := by
  cases result with
  | error failure => rfl
  | ok progress => rfl

namespace Event

/-- The question that was asked. -/
def question? : Event W σ → Option (Nat × Candidate)
  | .advised attempt candidate _ => some (attempt, candidate)
  | _ => none

/-- The fault that was decided on with an answer, and whether another attempt is made. -/
def verdict? : Event W σ → Option (Fault × Bool)
  | .advised _ (.raw fault) (some _) => some (fault, true)
  | .advised _ (.raw fault) none => if fault.isProtocol then none else some (fault, false)
  | .advised _ (.classified failure) answer => failure.source?.map (·, answer.isSome)
  | _ => none

end Event

namespace History

/-- Why the read cannot go on with its generation after the latest event, if it cannot: an open did not find
    the generation that was reported before, or found another one. -/
def resumption? : History W σ → Option ResumptionReason
  | .opened made :: earlier =>
    match reported? earlier, made.result with
    | none, _ => none
    | some _, .error fault => if fault.isNotFound then some .notFound else none
    | some g, .ok opened =>
      match opened.generation with
      | some other => if g = other then none else some (.generationChanged other)
      | none => none
  | _ => none

/-- The fault of the latest event, if it is an attempt that failed but does not keep the read from going
    on. -/
def fault? : History W σ → Option Fault
  | .opened made :: earlier =>
    match made.result with
    | .error fault => if (reported? earlier).isSome && fault.isNotFound then none else some fault
    | .ok _ => none
  | .read made :: _ =>
    match made.result with
    | .error fault => if fault.kind = .interrupted then none else some (.io fault)
    | .ok _ => none
  | _ => none

/-- How many attempts have failed since octets were last delivered. -/
def failuresInARow : History W σ → Nat
  | [] => 0
  | event :: earlier =>
    if event.octets = [] then failuresInARow earlier + (fault? (event :: earlier)).toList.length else 0

/-- The question that is due after the latest event. -/
def due? : History W σ → Option (Nat × Candidate)
  | .advised attempt (.raw fault) none :: _ =>
    if fault.isProtocol then some (attempt, .classified fault.readFailure) else none
  | .advised _ _ _ :: _ => none
  | history =>
    (fault? history).map fun fault => (min (failuresInARow history) Channel.maxFailures, .raw fault)

theorem isResumption_of_due? {history : History W σ} {attempt : Nat} {failure : ReadFailure}
    (h : history.due? = some (attempt, .classified failure)) : failure.isResumption = false := by
  have hfault : ∀ due : Option Fault, due.map (fun fault => (min history.failuresInARow Channel.maxFailures,
      Candidate.raw fault)) ≠ some (attempt, .classified failure) := by
    intro due
    cases due <;> simp
  cases history with
  | nil => exact absurd h (hfault none)
  | cons event earlier =>
      cases event with
      | opened made => exact absurd h (hfault _)
      | read made => exact absurd h (hfault _)
      | advised number candidate answer =>
          cases candidate with
          | classified other => cases h
          | raw fault =>
              cases answer with
              | some delay => cases h
              | none =>
                  rw [due?] at h
                  by_cases hprotocol : fault.isProtocol = true
                  · rw [if_pos hprotocol] at h
                    cases h
                    rw [Fault.readFailure, if_pos hprotocol]
                    rfl
                  · rw [if_neg hprotocol] at h
                    cases h

end History

/-! ## Answers -/

/-- Whether a call that records some events goes by the answers. It is not settled (`none`), or settled with a
    failure or without one. A fault that is allowed to be followed by another attempt is followed by an open,
    unless the call is not settled by then; with any other the call is over, and it fails with what becomes
    of that fault. The call fails in no other way, except that the read cannot be gone on with. -/
structure History.Heeded (events : History W σ) (ended : Option (Option ReadFailure)) : Prop where
  again : ∀ later event earlier fault, events = later ++ event :: earlier →
    event.verdict? = some (fault, true) →
      later = [] ∧ ended = none ∨ ∃ between made, later = between ++ [.opened made]
  declined : ∀ later event earlier fault, events = later ++ event :: earlier →
    event.verdict? = some (fault, false) → later = [] ∧ ended = some (some fault.readFailure)
  failed : ∀ failure, ended = some (some failure) → failure.isResumption = false →
    ∃ event earlier fault, events = event :: earlier ∧ event.verdict? = some (fault, false) ∧
      failure = if fault.isProtocol then .transport fault.widenedClass fault else .other fault

theorem History.append_eq_append_cons {later earlier after before : History W σ} {event : Event W σ}
    (h : later ++ earlier = after ++ event :: before) :
    (∃ between, later = after ++ event :: between) ∨
      ∃ between, after = later ++ between ∧ earlier = between ++ event :: before := by
  rcases List.append_eq_append_iff.1 h with ⟨between, hafter, hearlier⟩ | ⟨between, hlater, hrest⟩
  · exact Or.inr ⟨between, hafter, hearlier⟩
  · cases between with
    | nil =>
        rw [List.append_nil] at hlater
        exact Or.inr ⟨[], by rw [hlater, List.append_nil], hrest.symm⟩
    | cons other between =>
        obtain ⟨rfl, -⟩ := List.cons_eq_cons.1 hrest
        exact Or.inl ⟨between, hlater⟩

theorem History.Heeded.nil {ended : Option (Option ReadFailure)}
    (h : ∀ failure, ended = some (some failure) → failure.isResumption = true) :
    History.Heeded ([] : History W σ) ended where
  again later event earlier fault hevents _ := by simp at hevents
  declined later event earlier fault hevents _ := by simp at hevents
  failed failure hended hother := by
    rw [h failure hended] at hother
    cases hother

/-- Whether events come to an answer with the latest of them, if they come to one at all. -/
def History.Concludes (events : History W σ) (verdict : Option (Fault × Bool)) : Prop :=
  ∃ last others, events = last :: others ∧ last.verdict? = verdict ∧
    ∀ event ∈ others, event.verdict? = none

namespace History.Concludes

variable {events : History W σ} {verdict : Option (Fault × Bool)}

theorem of_single {event : Event W σ} (h : event.verdict? = none) : Concludes [event] none :=
  ⟨event, [], rfl, h, by simp⟩

theorem append (h : events.Concludes verdict) {event : Event W σ} (hevent : event.verdict? = none) :
    Concludes (events ++ [event]) verdict := by
  obtain ⟨last, others, rfl, hlast, hothers⟩ := h
  refine ⟨last, others ++ [event], rfl, hlast, fun other hmem => ?_⟩
  rcases List.mem_append.1 hmem with hbefore | hnow
  · exact hothers other hbefore
  · rwa [List.mem_singleton.1 hnow]

/-- The answer is the latest event. -/
theorem latest (h : events.Concludes verdict) {later earlier : History W σ} {event : Event W σ}
    {found : Fault × Bool} (hevents : events = later ++ event :: earlier)
    (hfound : event.verdict? = some found) : later = [] ∧ verdict = some found := by
  obtain ⟨last, others, rfl, hlast, hothers⟩ := h
  cases later with
  | nil =>
      obtain ⟨rfl, -⟩ := List.cons_eq_cons.1 hevents
      exact ⟨rfl, hlast.symm.trans hfound⟩
  | cons latest later =>
      obtain ⟨-, rfl⟩ := List.cons_eq_cons.1 hevents
      rw [hothers event (by simp)] at hfound
      cases hfound

end History.Concludes

theorem Offered.concludes {may : Answers} {attempt : Nat} {fault : Fault} {asked : History W σ}
    {allowed : Bool} (h : Offered may attempt fault asked allowed) :
    asked.Concludes (some (fault, allowed)) := by
  cases h with
  | allowed hraw => exact ⟨_, [], rfl, rfl, by simp⟩
  | declined hraw hother => exact ⟨_, [], rfl, by simp [Event.verdict?, hother], by simp⟩
  | twice hraw hprotocol hclassified =>
      refine ⟨_, _, rfl, ?_, by simp [Event.verdict?, hprotocol]⟩
      simp [Event.verdict?, Fault.readFailure, hprotocol, ReadFailure.source?]

namespace Channel

/-! ## Channels in step -/

/-- A channel that knows what its history tells of the generation, the failures in a row and whether the read
    can go on. All that was asked was due, and `due` is what is due now; nothing happened after an open that
    kept the read from going on. -/
structure InStep (c : Channel σ) (history : History W σ) (due : Option (Nat × Candidate)) : Prop where
  generation_eq : c.generation = history.reported?
  failures_eq : c.failures = min history.failuresInARow maxFailures
  broken_eq : c.broken = history.resumption?
  due_eq : history.due? = due
  asked : history.Throughout fun earlier event => event.question? = earlier.due?
  unbroken : history.Throughout fun earlier _ => earlier.resumption? = none

variable {c c' : Channel σ} {history : History W σ} {due : Option (Nat × Candidate)} {may : Answers}
  {sizes : List Nat}

namespace InStep

theorem start (request : ReadRequest) : (Channel.start request : Channel σ).InStep (W := W) [] none :=
  ⟨rfl, rfl, rfl, rfl, History.throughout_nil _, History.throughout_nil _⟩

/-- An open that keeps the read from going on is the latest event. -/
theorem eq_nil_of_resumption? (h : c.InStep history due) {later earlier : History W σ}
    (hsplit : history = later ++ earlier) (hresumption : earlier.resumption? ≠ none) : later = [] := by
  rcases List.eq_nil_or_concat later with hnil | ⟨others, event, rfl⟩
  · exact hnil
  · refine absurd (h.unbroken others event earlier ?_) hresumption
    rw [hsplit, List.concat_eq_append, List.append_assoc, List.singleton_append]

/-- One more event: it is a question exactly if one is due, and comes only as long as the read can go on. -/
theorem cons (h : c.InStep history due) (hbroken : c.broken = none) (event : Event W σ)
    (hquestion : event.question? = due) (hgeneration : c'.generation = c.generation.or event.reported?)
    (hfailures : c'.failures = min (History.failuresInARow (event :: history)) maxFailures)
    (hresumption : c'.broken = History.resumption? (event :: history)) :
    c'.InStep (event :: history) (History.due? (event :: history)) where
  generation_eq := by
    rw [hgeneration, h.generation_eq]
    rfl
  failures_eq := hfailures
  broken_eq := hresumption
  due_eq := rfl
  asked := h.asked.cons (hquestion.trans h.due_eq.symm)
  unbroken := h.unbroken.cons (h.broken_eq.symm.trans hbroken)

theorem congr (h : c.InStep history due) (hgeneration : c'.generation = c.generation)
    (hfailures : c'.failures = c.failures) (hbroken : c'.broken = c.broken) : c'.InStep history due :=
  ⟨hgeneration.trans h.generation_eq, hfailures.trans h.failures_eq, hbroken.trans h.broken_eq, h.due_eq,
    h.asked, h.unbroken⟩

/-- A question that is due was asked. -/
theorem advised {attempt : Nat} {candidate : Candidate} (h : c.InStep history (some (attempt, candidate)))
    (hbroken : c.broken = none) (answer : Option Span) :
    c.InStep (.advised attempt candidate answer :: history)
      (History.due? (.advised attempt candidate answer :: history)) := by
  refine h.cons hbroken _ rfl Option.or_none.symm ?_ hbroken
  rw [h.failures_eq]
  rfl

/-- Whatever is answered, nothing is due once all was asked about a fault. -/
theorem offered {attempt : Nat} {fault : Fault} {asked : History W σ} {allowed : Bool}
    (h : c.InStep history (some (attempt, .raw fault))) (hbroken : c.broken = none)
    (hoffered : Offered may attempt fault asked allowed) : c.InStep (asked ++ history) none := by
  cases hoffered with
  | @allowed delay hraw => exact h.advised hbroken (some delay)
  | declined hraw hother =>
      have hasked := h.advised hbroken none
      rwa [History.due?, hother] at hasked
  | @twice answer hraw hprotocol hclassified =>
      have hasked := h.advised hbroken none
      rw [History.due?, if_pos hprotocol] at hasked
      exact hasked.advised hbroken answer

/-- An event that is neither a question nor a failed attempt leaves nothing due. -/
theorem passed (h : c.InStep history none) (hbroken : c.broken = none) (event : Event W σ)
    (hquestion : event.question? = none) (hfault : History.fault? (event :: history) = none)
    (hgeneration : c'.generation = c.generation.or event.reported?)
    (hfailures : c'.failures = if event.octets = [] then c.failures else 0)
    (hresumption : c'.broken = History.resumption? (event :: history)) :
    c'.InStep (event :: history) none := by
  have hcount : c'.failures = min (History.failuresInARow (event :: history)) maxFailures := by
    rw [hfailures, h.failures_eq, History.failuresInARow, hfault]
    split
    · rfl
    · rfl
  have hstep := h.cons hbroken event hquestion hgeneration hcount hresumption
  have hdue : History.due? (event :: history) = none := by
    cases event with
    | advised attempt candidate answer => cases hquestion
    | opened made => simp [History.due?, hfault]
    | read made => simp [History.due?, hfault]
  rwa [hdue] at hstep

/-- A failed attempt is due to be put to the adviser. -/
theorem failed (h : c.InStep history none) (hbroken : c.broken = none) (event : Event W σ) {fault : Fault}
    (hquestion : event.question? = none) (hreported : event.reported? = none) (hoctets : event.octets = [])
    (hfault : History.fault? (event :: history) = some fault)
    (hresumption : History.resumption? (event :: history) = none) :
    c.failed.InStep (event :: history) (some (c.failed.failures, .raw fault)) := by
  have hcount : History.failuresInARow (event :: history) = history.failuresInARow + 1 := by
    simp [History.failuresInARow, hoctets, hfault]
  have hfailures : c.failed.failures = min (History.failuresInARow (event :: history)) maxFailures := by
    have hbefore := h.failures_eq
    show min (c.failures + 1) maxFailures = _
    rw [hcount]
    omega
  have hgeneration : c.failed.generation = c.generation.or event.reported? := by
    rw [hreported, Option.or_none]
    rfl
  have hstep := h.cons hbroken event hquestion hgeneration hfailures (hbroken.trans hresumption.symm)
  have hdue : History.due? (event :: history) = some (c.failed.failures, .raw fault) := by
    rw [hfailures]
    cases event with
    | advised attempt candidate answer => cases hquestion
    | opened made => simp [History.due?, hfault]
    | read made => simp [History.due?, hfault]
  rwa [hdue] at hstep

end InStep

theorem resumption?_openMade (hgeneration : c.generation = history.reported?) (w : W) (opened : Opened σ) :
    History.resumption? (.opened (c.openMade w (.ok opened)) :: history) =
      match c.settleGeneration opened.generation with
      | .ok _ => none
      | .error reason => some reason := by
  obtain ⟨stream, reported⟩ := opened
  simp only [History.resumption?, openMade, settleGeneration, ← hgeneration]
  cases c.generation with
  | none => cases reported <;> rfl
  | some pinned =>
      cases reported with
      | none => rfl
      | some g => by_cases hsame : pinned = g <;> simp [hsame]

theorem ReadOnce.inStep {stream : σ} {events : History W σ} {turn : Turn σ}
    (hread : ReadOnce may c stream sizes events turn) (h : c.InStep history none)
    (hbroken : c.broken = none) : turn.channel.InStep (events ++ history) none := by
  have hgeneration : c.generation = c.generation.or none := Option.or_none.symm
  cases hread with
  | @delivered bs rest hbs => exact h.passed hbroken _ rfl rfl hgeneration (if_neg hbs).symm hbroken
  | ended => exact h.passed hbroken _ rfl rfl hgeneration rfl hbroken
  | interrupted hkind => exact h.passed hbroken _ rfl (if_pos hkind) hgeneration rfl hbroken
  | @failed fault rest asked allowed hkind hasked =>
      have hfailed := h.failed hbroken (.read ⟨stream, sizes, .error fault, rest⟩) rfl rfl rfl (if_neg hkind)
        rfl
      rw [retried_channel, List.append_assoc]
      exact hfailed.offered hbroken hasked

theorem Turned.inStep {events : History W σ} {turn : Turn σ} (hturn : Turned may c sizes events turn)
    (h : c.InStep history none) (hbroken : c.broken = none) :
    turn.channel.InStep (events ++ history) none := by
  cases hturn with
  | reading hstream hread => exact hread.inStep h hbroken
  | @opening w opened c' events turn hstream hsettle hread =>
      have hresumption := resumption?_openMade h.generation_eq w opened
      rw [hsettle] at hresumption
      obtain ⟨hsame, hgeneration, -⟩ := settleGeneration_eq hsettle
      have hbroken' : c'.broken = none := by rw [hsame, hbroken]
      have hopened : c'.InStep (.opened (c.openMade w (.ok opened)) :: history) none := by
        refine h.passed hbroken _ rfl rfl hgeneration ?_ (hbroken'.trans hresumption.symm)
        rw [hsame]
        rfl
      rw [List.append_assoc]
      exact hread.inStep hopened hbroken'
  | @changed w opened reason hstream hsettle =>
      have hresumption := resumption?_openMade h.generation_eq w opened
      rw [hsettle] at hresumption
      have hgeneration := settleGeneration_error hsettle
      exact h.passed hbroken _ rfl rfl (show (c.breakOff reason).channel.generation = _ from hgeneration) rfl
        hresumption.symm
  | @gone w fault hstream hgone =>
      have hboth := hgone
      rw [h.generation_eq] at hboth
      obtain ⟨hknown, hfound⟩ := Bool.and_eq_true_iff.1 hboth
      obtain ⟨g, hg⟩ := Option.isSome_iff_exists.1 hknown
      refine h.passed hbroken _ rfl (if_pos hboth) Option.or_none.symm rfl ?_
      simp [History.resumption?, openMade, hg, hfound]
      rfl
  | @refused w fault asked allowed hstream hgone hasked =>
      have hboth := hgone
      rw [h.generation_eq] at hboth
      have hresumption : History.resumption? (.opened (c.openMade w (.error fault)) :: history) = none := by
        cases hreported : history.reported? with
        | none => simp [History.resumption?, hreported]
        | some g =>
            have hfound : fault.isNotFound = false := by simpa [hreported] using hboth
            simp [History.resumption?, openMade, hreported, hfound]
      have hfault : History.fault? (.opened (c.openMade w (.error fault)) :: history) = some fault := by
        simp only [History.fault?, openMade, hboth]
        rfl
      rw [retried_channel, List.append_assoc]
      exact (h.failed hbroken _ rfl rfl rfl hfault hresumption).offered hbroken hasked

theorem Course.inStep {events : History W σ} {done : Option (Except ReadFailure Progress × Channel σ)}
    (hcourse : Course may sizes c events done) (h : c.InStep history none) (hready : c.Ready) :
    Leaving (fun c' => c'.InStep (events ++ history) none) done := by
  induction hcourse generalizing history with
  | unsettled => exact ⟨_, h⟩
  | settled hturn => exact hturn.inStep h hready.broken_eq
  | again hturn hrest ih =>
      rw [List.append_assoc]
      exact ih (hturn.inStep h hready.broken_eq) (hturn.ready hready rfl)

theorem Advanced.inStep {events : History W σ} {done : Option (Except ReadFailure Progress × Channel σ)}
    (hread : Advanced may c sizes events done) (h : c.InStep history none) :
    Leaving (fun c' => c'.InStep (events ++ history) none) done := by
  cases hread with
  | broken hbroken => exact h
  | closed hbroken hopen => exact h
  | exhausted hbroken hopen hexhausted => exact h.congr rfl rfl rfl
  | full hready hsizes => exact h
  | reading hready hsizes hcourse => exact hcourse.inStep h hready

/-- **A channel stays in step whatever it is called for.** -/
theorem Performed.inStep {call : Call} {events : History W σ} {done : Option (CallResult × Channel σ)}
    (hcall : Performed may c call events done) (h : c.InStep history none) :
    Leaving (fun c' => c'.InStep (events ++ history) none) done := by
  cases hcall with
  | unsettled hsizes hread => exact (hread.inStep h).exists
  | read hread => exact InStep.congr (hread.inStep h) rfl rfl rfl
  | readFailed hread => exact hread.inStep h
  | readOctets hread => exact hread.inStep h
  | takeResolved => exact h.congr rfl rfl rfl
  | close => exact h.congr rfl rfl rfl

theorem Ran.inStep {start : Channel σ} {before : History W σ} {calls : List Call} {results : List CallResult}
    (hran : Ran may start before calls results c history) (h : start.InStep before none) :
    c.InStep history none := by
  induction hran with
  | start => exact h
  | call hran hcall ih => exact hcall.inStep ih

/-! ## Going by the answers -/

/-- What a turn comes to with an answer, or with none. -/
def Turn.GoesBy (turn : Turn σ) (verdict : Option (Fault × Bool)) : Prop :=
  match verdict with
  | some (fault, allowed) => ∃ c : Channel σ, turn = c.retried fault allowed
  | none => ∀ failure c, turn = .settled (.error failure) c → failure.isResumption = true

theorem isResumption_resumptionFailure (c : Channel σ) (reason : ResumptionReason) :
    (c.resumptionFailure reason).isResumption = true := by
  unfold resumptionFailure
  cases c.generation <;> rfl

theorem breakOff_goesBy (c : Channel σ) (reason : ResumptionReason) : (c.breakOff reason).GoesBy none := by
  intro failure c' hturn
  cases hturn
  exact isResumption_resumptionFailure c reason

theorem settled_goesBy (progress : Progress) (c : Channel σ) :
    (Turn.settled (.ok progress) c).GoesBy none := by
  intro failure c' hturn
  cases hturn

theorem ReadOnce.concludes {stream : σ} {events : History W σ} {turn : Turn σ}
    (hread : ReadOnce may c stream sizes events turn) :
    ∃ verdict, events.Concludes verdict ∧ turn.GoesBy verdict := by
  cases hread with
  | delivered hbs => exact ⟨none, .of_single rfl, settled_goesBy _ _⟩
  | ended => exact ⟨none, .of_single rfl, settled_goesBy _ _⟩
  | interrupted hkind =>
      refine ⟨none, .of_single rfl, ?_⟩
      intro failure c' hturn
      cases hturn
  | failed hkind hasked => exact ⟨_, hasked.concludes.append rfl, c, rfl⟩

theorem Turned.concludes {events : History W σ} {turn : Turn σ} (hturn : Turned may c sizes events turn) :
    ∃ verdict, events.Concludes verdict ∧ turn.GoesBy verdict := by
  cases hturn with
  | reading hstream hread => exact hread.concludes
  | opening hstream hsettle hread =>
      obtain ⟨verdict, hevents, hgoes⟩ := hread.concludes
      exact ⟨verdict, hevents.append rfl, hgoes⟩
  | changed hstream hsettle => exact ⟨none, .of_single rfl, breakOff_goesBy c _⟩
  | gone hstream hgone => exact ⟨none, .of_single rfl, breakOff_goesBy c _⟩
  | refused hstream hgone hasked => exact ⟨_, hasked.concludes.append rfl, c, rfl⟩

theorem Turned.opens {events : History W σ} {turn : Turn σ} (hturn : Turned may c sizes events turn)
    (hstream : c.stream = none) : ∃ between made, events = between ++ [.opened made] := by
  cases hturn with
  | reading hsome hread =>
      rw [hstream] at hsome
      cases hsome
  | opening hnone hsettle hread => exact ⟨_, _, rfl⟩
  | changed hnone hsettle => exact ⟨[], _, rfl⟩
  | gone hnone hgone => exact ⟨[], _, rfl⟩
  | refused hnone hgone hasked => exact ⟨_, _, rfl⟩

theorem Course.opens {events : History W σ} {done : Option (Except ReadFailure Progress × Channel σ)}
    (hcourse : Course may sizes c events done) (hstream : c.stream = none) :
    events = [] ∧ done = none ∨ ∃ between made, events = between ++ [.opened made] := by
  cases hcourse with
  | unsettled => exact Or.inl ⟨rfl, rfl⟩
  | settled hturn => exact Or.inr (hturn.opens hstream)
  | again hturn hrest =>
      obtain ⟨between, made, rfl⟩ := hturn.opens hstream
      exact Or.inr ⟨_, made, (List.append_assoc _ between _).symm⟩

/-- The failure with which turns are settled, if they are. -/
def endOf (done : Option (Except ReadFailure Progress × Channel σ)) : Option (Option ReadFailure) :=
  done.map fun settled => failureOf? settled.1

theorem heeded_of_settled {events : History W σ} {verdict : Option (Fault × Bool)}
    {result : Except ReadFailure Progress} (hevents : events.Concludes verdict)
    (hgoes : (Turn.settled result c).GoesBy verdict) : events.Heeded (some (failureOf? result)) where
  again later event earlier fault hsplit hfound := by
    obtain ⟨-, rfl⟩ := hevents.latest hsplit hfound
    obtain ⟨_, hturn⟩ := hgoes
    cases hturn
  declined later event earlier fault hsplit hfound := by
    obtain ⟨hlatest, rfl⟩ := hevents.latest hsplit hfound
    obtain ⟨_, hturn⟩ := hgoes
    cases hturn
    exact ⟨hlatest, rfl⟩
  failed failure hended hother := by
    cases result with
    | ok progress => cases hended
    | error failure =>
        cases hended
        cases verdict with
        | none =>
            rw [hgoes failure c rfl] at hother
            cases hother
        | some answer =>
            obtain ⟨fault, allowed⟩ := answer
            obtain ⟨_, hturn⟩ := hgoes
            obtain ⟨last, others, rfl, hlast, -⟩ := hevents
            cases allowed with
            | true => cases hturn
            | false =>
                cases hturn
                exact ⟨last, others, fault, rfl, hlast, rfl⟩

theorem heeded_of_again {events later : History W σ} {verdict : Option (Fault × Bool)}
    {ended : Option (Option ReadFailure)} (hevents : events.Concludes verdict)
    (hgoes : (Turn.again c).GoesBy verdict) (hlater : later.Heeded ended)
    (hopens : c.stream = none →
      later = [] ∧ ended = none ∨ ∃ between made, later = between ++ [.opened made]) :
    History.Heeded (later ++ events) ended := by
  have hallowed : ∀ fault allowed, verdict = some (fault, allowed) → allowed = true ∧ c.stream = none := by
    intro fault allowed hverdict
    subst hverdict
    obtain ⟨_, hturn⟩ := hgoes
    obtain ⟨hyes, rfl⟩ := retried_eq_again hturn.symm
    exact ⟨hyes, rfl⟩
  -- an answer stands in the later part, or is the latest event of the first one
  have hsplit : ∀ {after : History W σ} {event : Event W σ} {before : History W σ} {found : Fault × Bool},
      later ++ events = after ++ event :: before → event.verdict? = some found →
        (∃ between, later = after ++ event :: between) ∨ after = later ∧ verdict = some found := by
    intro after event before found heq hfound
    rcases History.append_eq_append_cons heq with hlater | ⟨between, rfl, hbefore⟩
    · exact Or.inl hlater
    · obtain ⟨rfl, hverdict⟩ := hevents.latest hbefore hfound
      exact Or.inr ⟨List.append_nil later, hverdict⟩
  refine ⟨?_, ?_, ?_⟩
  · intro after event before fault heq hfound
    rcases hsplit heq hfound with ⟨between, hbetween⟩ | ⟨rfl, hverdict⟩
    · exact hlater.again after event between fault hbetween hfound
    · exact hopens (hallowed fault true hverdict).2
  · intro after event before fault heq hfound
    rcases hsplit heq hfound with ⟨between, hbetween⟩ | ⟨rfl, hverdict⟩
    · exact hlater.declined after event between fault hbetween hfound
    · cases (hallowed fault false hverdict).1
  · intro failure hended hother
    obtain ⟨event, earlier, fault, rfl, hfound⟩ := hlater.failed failure hended hother
    exact ⟨event, earlier ++ events, fault, rfl, hfound⟩

theorem Course.heeded {events : History W σ} {done : Option (Except ReadFailure Progress × Channel σ)}
    (hcourse : Course may sizes c events done) : events.Heeded (endOf done) := by
  induction hcourse with
  | unsettled => exact .nil (by intro failure hended; cases hended)
  | settled hturn =>
      obtain ⟨verdict, hevents, hgoes⟩ := hturn.concludes
      exact heeded_of_settled hevents hgoes
  | again hturn hrest ih =>
      obtain ⟨verdict, hevents, hgoes⟩ := hturn.concludes
      refine heeded_of_again hevents hgoes ih fun hstream => ?_
      rcases hrest.opens hstream with ⟨hnone, rfl⟩ | hopened
      · exact Or.inl ⟨hnone, rfl⟩
      · exact Or.inr hopened

theorem Advanced.heeded {events : History W σ} {done : Option (Except ReadFailure Progress × Channel σ)}
    (hread : Advanced may c sizes events done) : events.Heeded (endOf done) := by
  cases hread with
  | broken hbroken =>
      refine .nil ?_
      intro failure hended
      cases hended
      exact isResumption_resumptionFailure c _
  | closed hbroken hopen => exact .nil (by intro failure hended; cases hended)
  | exhausted hbroken hopen hexhausted => exact .nil (by intro failure hended; cases hended)
  | full hready hsizes => exact .nil (by intro failure hended; cases hended)
  | reading hready hsizes hcourse => exact hcourse.heeded

theorem Performed.heeded {call : Call} {events : History W σ} {done : Option (CallResult × Channel σ)}
    (hcall : Performed may c call events done) :
    events.Heeded (done.map fun settled => settled.1.failure?) := by
  cases hcall with
  | unsettled hsizes hread => exact hread.heeded
  | read hread => exact hread.heeded
  | readFailed hread => exact hread.heeded
  | @readOctets sizes events result c' hread =>
      rw [Option.map_some, failure?_octets]
      exact hread.heeded
  | takeResolved => exact .nil (by intro failure hended; cases hended)
  | close => exact .nil (by intro failure hended; cases hended)

/-- **A channel asks about every failure, and about nothing else.** Whatever opener and adviser answer and
    whatever calls were made before, after each further call: every event of the history is a question
    exactly if one was due, and then it is that question, and none is left due. So the failure that is the
    `n`-th since octets were last delivered, by whichever call, is asked about as it came, as number `n`; and
    once more, as the failed read it becomes, exactly if that was declined and the fault is one of the
    protocol. What keeps the read from going on with its generation is followed by no question and no other
    event at all, and is no failure that an adviser is asked about. The call goes by the answers
    (`History.Heeded`). -/
theorem performEach_asks_what_is_due (opener : Opener (StateM W) σ) (adviser : Adviser (StateM W))
    (limit : Nat) (request : ReadRequest) (calls : List Call) (w : W) :
    After ((start request).performEach opener.watched adviser.watched limit calls)
      (([], w) : Watched W σ) fun ran w' => ∀ c ∈ ran.2, ∀ call,
        After (c.perform opener.watched adviser.watched limit call) w' fun done w'' =>
          (∀ later event (earlier : History W σ), w''.1 = later ++ event :: earlier →
            event.question? = earlier.due?) ∧
          w''.1.due? = none ∧
          (∀ later earlier : History W σ, w''.1 = later ++ earlier → earlier.resumption? ≠ none →
            later = []) ∧
          (∀ attempt failure answer, Event.advised attempt (.classified failure) answer ∈ w''.1 →
            failure.isResumption = false) ∧
          ∃ made : History W σ, w''.1 = made ++ w'.1 ∧
            made.Heeded (done.map fun settled => settled.1.failure?) := by
  refine (after_performEach_ran adviser.gives_any limit (start request) calls ([], w)).imp ?_
  intro ran w' hran c hc call
  refine (after_perform_performed adviser.gives_any limit c call w').imp ?_
  intro done w'' hperformed
  obtain ⟨made, hw'', hcall⟩ := hperformed
  obtain ⟨last, hlast⟩ := (hcall.inStep ((hran c hc).inStep (.start request))).exists
  rw [← hw''] at hlast
  refine ⟨hlast.asked, hlast.due_eq, fun later earlier => hlast.eq_nil_of_resumption?, ?_, made, hw'',
    hcall.heeded⟩
  intro attempt failure answer hmem
  obtain ⟨later, earlier, hsplit⟩ := List.append_of_mem hmem
  exact History.isResumption_of_due? (hlast.asked later _ earlier hsplit).symm

end Channel

end SteadyFetch
