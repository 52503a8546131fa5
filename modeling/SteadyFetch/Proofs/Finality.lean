import SteadyFetch.Proofs.Questions

set_option autoImplicit false

/-! # What a channel comes to for good

A read that cannot go on with its generation, and one that came to its end, leave a channel that has come to
a result for good (`Channel.Final`): whatever it is called for, every read comes to this result, and nothing
is asked of opener or adviser any more (`Performed.of_final`). The first of the two is for an open alone to
bring about, and the failure names what was found there (`History.brokenOff?`). -/

namespace SteadyFetch

variable {W σ : Type}

/-! ## Reads that cannot be gone on with -/

namespace History

/-- The failure that an open brought about, if it keeps the read of an object from going on. -/
def brokenOff? (object : ObjectRef) (history : History W σ) : Option ReadFailure :=
  history.resumption?.bind fun reason =>
    history.reported?.map fun g => .resumption (object.atGeneration g) reason

theorem exists_reported?_of_resumption? {history : History W σ} {reason : ResumptionReason}
    (h : history.resumption? = some reason) : ∃ g, history.reported? = some g := by
  cases history with
  | nil => cases h
  | cons event earlier =>
      cases event with
      | read made => cases h
      | advised attempt candidate answer => cases h
      | opened made =>
          cases hreported : reported? earlier with
          | none => simp [resumption?, hreported] at h
          | some g => exact ⟨g, by simp [reported?, hreported]⟩

end History

namespace Channel

/-- The failure of a channel that is broken. -/
def brokenFailure? (c : Channel σ) : Option ReadFailure := c.broken.map c.resumptionFailure

/-- The failure that a call returns, if it is a read that cannot be gone on with. -/
def CallResult.resumption? (result : CallResult) : Option ReadFailure :=
  result.failure?.filter ReadFailure.isResumption

variable {c c' : Channel σ} {history : History W σ} {due : Option (Nat × Candidate)} {may : Answers}
  {sizes : List Nat}

/-- A channel fails with what its history tells. -/
theorem InStep.brokenFailure?_eq (h : c.InStep history due) :
    c.brokenFailure? = history.brokenOff? c.request.object := by
  rw [brokenFailure?, History.brokenOff?, h.broken_eq]
  cases hresumption : history.resumption? with
  | none => rfl
  | some reason =>
      obtain ⟨g, hg⟩ := History.exists_reported?_of_resumption? hresumption
      have hgeneration := h.generation_eq.trans hg
      simp [resumptionFailure, hgeneration, hg]

theorem isResumption_readFailure (fault : Fault) : fault.readFailure.isResumption = false := by
  unfold Fault.readFailure
  split
  · rfl
  · rfl

/-- A read that cannot be gone on with leaves a channel that is broken, and no other read does. -/
theorem LeftBy.resumption?_eq {result : Except ReadFailure Progress} (h : LeftBy sizes result c) :
    (failureOf? result).filter ReadFailure.isResumption = c.brokenFailure? := by
  cases h with
  | octets hbs hbroken => simp [failureOf?, brokenFailure?, hbroken]
  | ended hclosed hbroken => simp [failureOf?, brokenFailure?, hbroken]
  | failed fault hbroken => simp [failureOf?, brokenFailure?, hbroken, isResumption_readFailure]
  | broken hbroken => simp [failureOf?, brokenFailure?, hbroken, isResumption_resumptionFailure]

theorem Performed.resumption?_eq {call : Call} {events : History W σ} {result : CallResult}
    (hcall : Performed may c call events (some (result, c'))) :
    result.resumption? = c'.brokenFailure? ∨ result.resumption? = none ∧ c'.broken = c.broken := by
  cases hcall with
  | read hread => exact Or.inl (hread.leftBy rfl).resumption?_eq
  | readFailed hread => exact Or.inl (hread.leftBy rfl).resumption?_eq
  | readOctets hread =>
      rw [CallResult.resumption?, failure?_octets]
      exact Or.inl (hread.leftBy rfl).resumption?_eq
  | takeResolved => exact Or.inr ⟨rfl, rfl⟩
  | close => exact Or.inr ⟨rfl, rfl⟩

theorem Ran.broken_eq {start : Channel σ} {before : History W σ} {calls : List Call}
    {results : List CallResult} (hran : Ran may start before calls results c history)
    (hstart : start.broken = none) (hresults : ∀ result ∈ results, result.resumption? = none) :
    c.broken = none := by
  induction hran with
  | start => exact hstart
  | @call calls results c c' history events call result hran hcall ih =>
      have hnow := hresults result (by simp)
      rcases hcall.resumption?_eq with hread | ⟨-, hsame⟩
      · rw [hnow] at hread
        exact Option.map_eq_none_iff.1 hread.symm
      · exact hsame.trans (ih fun other hmem => hresults other (List.mem_append_left _ hmem))

/-- Turns that are not settled do not keep the read from going on. -/
theorem Course.resumption?_eq {events : History W σ}
    {done : Option (Except ReadFailure Progress × Channel σ)} (hcourse : Course may sizes c events done)
    (hdone : done = none) (h : c.InStep history none) (hready : c.Ready) :
    History.resumption? (events ++ history) = none := by
  induction hcourse generalizing history with
  | unsettled => exact h.broken_eq.symm.trans hready.broken_eq
  | settled hturn => cases hdone
  | again hturn hrest ih =>
      rw [List.append_assoc]
      exact ih hdone (hturn.inStep h hready.broken_eq) (hturn.ready hready rfl)

theorem Advanced.resumption?_eq {events : History W σ}
    {done : Option (Except ReadFailure Progress × Channel σ)} (hread : Advanced may c sizes events done)
    (hdone : done = none) (h : c.InStep history none) :
    History.resumption? (events ++ history) = none := by
  cases hread with
  | broken hbroken => cases hdone
  | closed hbroken hopen => cases hdone
  | exhausted hbroken hopen hexhausted => cases hdone
  | full hready hsizes => cases hdone
  | reading hready hsizes hcourse => exact hcourse.resumption?_eq hdone h hready

/-- **A call fails in that way exactly if an open in it brought that about**, as long as no call before
    did. -/
theorem Performed.brokenOff?_eq {call : Call} {events : History W σ} {done : Option (CallResult × Channel σ)}
    (hcall : Performed may c call events done) (h : c.InStep history none) (hbroken : c.broken = none) :
    (done.bind fun settled => settled.1.resumption?) =
      History.brokenOff? c.request.object (events ++ history) := by
  rcases done with _ | ⟨result, c'⟩
  · cases hcall with
    | unsettled hsizes hread => simp [History.brokenOff?, hread.resumption?_eq rfl h]
  · have hleft : c'.InStep (events ++ history) none := hcall.inStep h
    have hfailure := hleft.brokenFailure?_eq
    rw [hcall.request_eq] at hfailure
    rw [← hfailure]
    rcases hcall.resumption?_eq with hread | ⟨hnone, hsame⟩
    · exact hread
    · rw [Option.bind_some, hnone, brokenFailure?, hsame, hbroken]
      rfl

/-! ## Results for good -/

/-- Whether a channel has come to a result for good: the failure of a channel that is broken, or the end. -/
def Final (c : Channel σ) (result : Except ReadFailure Progress) : Prop :=
  match c.broken with
  | some reason => result = .error (c.resumptionFailure reason)
  | none => c.isOpen = false ∧ result = .ok .endOfStream

/-- What a call comes to, if it is a read with this result. -/
def Call.comes? (result : Except ReadFailure Progress) : Call → Option (Except ReadFailure Progress)
  | .read _ => some result
  | .readOctets _ => some (result.map fun progress => .octets progress.bytes)
  | _ => none

/-- Whether every further call comes to a result without asking anything, and leaves the channel at its
    position and generation. -/
def StaysAt (opener : Opener (StateM W) σ) (adviser : Adviser (StateM W)) (c : Channel σ)
    (result : Except ReadFailure Progress) (w : Watched W σ) : Prop :=
  ∀ limit calls, After (c.performEach opener.watched adviser.watched limit calls) w fun ran w' =>
    w'.1 = w.1 ∧ ran.1.map CallResult.progress? = calls.map (·.comes? result) ∧
      ∃ last ∈ ran.2, last.position = c.position ∧ last.generation = c.generation

variable {result : Except ReadFailure Progress}

theorem Final.close (h : c.Final result) : c.close.Final result := by
  unfold Final at h ⊢
  have hbroken : c.close.broken = c.broken := rfl
  rw [hbroken]
  cases hcases : c.broken with
  | some reason =>
      rw [hcases] at h
      exact h
  | none =>
      rw [hcases] at h
      exact ⟨rfl, h.2⟩

theorem Final.not_ready (h : c.Final result) : ¬ c.Ready := by
  intro hready
  unfold Final at h
  rw [hready.broken_eq] at h
  have hclosed := h.1
  rw [hready.isOpen_eq] at hclosed
  cases hclosed

theorem Advanced.of_final {events : History W σ} {done : Option (Except ReadFailure Progress × Channel σ)}
    (hread : Advanced may c sizes events done) (h : c.Final result) :
    events = [] ∧ done = some (result, c) := by
  cases hread with
  | broken hbroken =>
      unfold Final at h
      rw [hbroken] at h
      rw [h]
      exact ⟨rfl, rfl⟩
  | closed hbroken hopen =>
      unfold Final at h
      rw [hbroken] at h
      rw [h.2]
      exact ⟨rfl, rfl⟩
  | exhausted hbroken hopen hexhausted =>
      unfold Final at h
      rw [hbroken] at h
      rw [h.1] at hopen
      cases hopen
  | full hready hsizes => exact absurd hready h.not_ready
  | reading hready hsizes hcourse => exact absurd hready h.not_ready

/-- **A channel that has come to a result for good asks nothing, and every read has that result.** -/
theorem Performed.of_final {call : Call} {events : History W σ} {done : Option (CallResult × Channel σ)}
    (hcall : Performed may c call events done) (h : c.Final result) :
    events = [] ∧ ∃ shown c', done = some (shown, c') ∧ shown.progress? = call.comes? result ∧
      c'.Final result ∧ c'.position = c.position ∧ c'.generation = c.generation := by
  cases hcall with
  | unsettled hsizes hread =>
      obtain ⟨-, hdone⟩ := hread.of_final h
      cases hdone
  | read hread =>
      obtain ⟨rfl, hdone⟩ := hread.of_final h
      cases hdone
      exact ⟨rfl, _, _, rfl, rfl, h, rfl, rfl⟩
  | readFailed hread =>
      obtain ⟨rfl, hdone⟩ := hread.of_final h
      cases hdone
      exact ⟨rfl, _, _, rfl, rfl, h, rfl, rfl⟩
  | readOctets hread =>
      obtain ⟨rfl, hdone⟩ := hread.of_final h
      cases hdone
      cases result with
      | error failure => exact ⟨rfl, _, _, rfl, rfl, h, rfl, rfl⟩
      | ok progress => exact ⟨rfl, _, _, rfl, rfl, h, rfl, rfl⟩
  | takeResolved => exact ⟨rfl, _, _, rfl, rfl, h, rfl, rfl⟩
  | close => exact ⟨rfl, _, _, rfl, rfl, h.close, rfl, rfl⟩

/-- So do any number of calls. -/
theorem Final.staysAt (h : c.Final result) (opener : Opener (StateM W) σ) (adviser : Adviser (StateM W))
    (w : Watched W σ) : c.StaysAt opener adviser result w := by
  intro limit calls
  induction calls generalizing c w with
  | nil => exact ⟨rfl, rfl, c, rfl, rfl, rfl⟩
  | cons call calls ih =>
      unfold performEach
      refine After.bind (after_perform_performed adviser.gives_any limit c call w) ?_
      intro done w₁ hperformed
      obtain ⟨events, hw₁, hcall⟩ := hperformed
      obtain ⟨rfl, shown, c₁, rfl, hshown, hfinal, hposition, hgeneration⟩ := hcall.of_final h
      refine After.bind (ih hfinal w₁) ?_
      intro ran w₂ hrest
      obtain ⟨hw₂, hresults, last, hlast, hposition', hgeneration'⟩ := hrest
      refine ⟨hw₂.trans hw₁, ?_, last, hlast, hposition'.trans hposition, hgeneration'.trans hgeneration⟩
      show shown.progress? :: ran.1.map CallResult.progress? = _
      rw [hshown, hresults]
      rfl

/-! ## Coming to a result -/

theorem final_of_brokenFailure? {failure : ReadFailure} (h : c.brokenFailure? = some failure) :
    c.Final (.error failure) := by
  obtain ⟨reason, hbroken, rfl⟩ := Option.map_eq_some_iff.1 h
  unfold Final
  rw [hbroken]

/-- Whether a call ends the reading with its result: it closes the channel, or finds the end. -/
def Call.Ends (call : Call) (result : CallResult) : Prop :=
  match call, result with
  | .close, _ => True
  | .read _, .read (.ok outcome) => outcome.progress = .endOfStream
  | .readOctets sizes, .octets (.ok bs) => bs = [] ∧ ∃ size ∈ sizes, 0 < size
  | _, _ => False

theorem LeftBy.isOpen_eq (h : LeftBy sizes (.ok .endOfStream) c) : c.isOpen = false := by
  cases h with
  | ended hclosed hbroken => exact hclosed

theorem Performed.isOpen_eq {call : Call} {events : History W σ} {result : CallResult}
    (hcall : Performed may c call events (some (result, c'))) (hends : call.Ends result) :
    c'.isOpen = false := by
  cases hcall with
  | @read sizes events progress c' hread =>
      cases progress with
      | octets bs => cases hends
      | endOfStream => exact (hread.leftBy rfl).isOpen_eq
  | readFailed hread => cases hends
  | @readOctets sizes events result c' hread =>
      rcases result with failure | bs | _
      · cases hends
      · obtain ⟨hnil, hroom⟩ := hends
        cases hread.leftBy rfl with
        | octets hbs hbroken => exact absurd hnil (hbs hroom)
      · exact (hread.leftBy rfl).isOpen_eq
  | takeResolved => cases hends
  | close => rfl

/-- **What a channel comes to, it comes to for good.** Whatever opener and adviser answer and whatever calls
    were made before, after each further call: an open that keeps the read from going on with its generation
    is the latest event of all, so nothing was asked about it. As long as no call has failed because of
    that, there was none, and then the call fails in that way exactly if there is one now, and the failure
    names the request's object at the generation that was reported first, and what was found instead. Once
    a call has failed in that way, all reads fail so; and if none has and the channel was closed, or a read
    found the end, all reads find the end. Nothing is opened any more then, and position and generation
    stay what they are. -/
theorem performEach_ends_for_good (opener : Opener (StateM W) σ) (adviser : Adviser (StateM W))
    (limit : Nat) (request : ReadRequest) (calls : List Call) (w : W) :
    After ((start request).performEach opener.watched adviser.watched limit calls)
      (([], w) : Watched W σ) fun ran w' => ∀ c ∈ ran.2, ∀ call,
        After (c.perform opener.watched adviser.watched limit call) w' fun done w'' =>
          (∀ later earlier : History W σ, w''.1 = later ++ earlier → earlier.resumption? ≠ none →
            later = []) ∧
          ((∀ result ∈ ran.1, result.resumption? = none) → w'.1.resumption? = none ∧
            (done.bind fun settled => settled.1.resumption?) = w''.1.brokenOff? request.object) ∧
          ∀ result c', done = some (result, c') →
            (∀ failure ∈ result.resumption?, w''.1.brokenOff? request.object = some failure ∧
              c'.StaysAt opener adviser (.error failure) w'') ∧
            ((∀ other ∈ ran.1 ++ [result], other.resumption? = none) → call.Ends result →
              c'.StaysAt opener adviser (.ok .endOfStream) w'') := by
  refine (after_performEach_ran adviser.gives_any limit (start request) calls ([], w)).imp ?_
  intro ran w' hran c hc call
  have hran := hran c hc
  have hstep := hran.inStep (.start request)
  have hrequest : c.request = request := hran.request_eq
  refine (after_perform_performed adviser.gives_any limit c call w').imp ?_
  intro done w'' hperformed
  obtain ⟨events, hw'', hcall⟩ := hperformed
  obtain ⟨last, hlast⟩ := (hcall.inStep hstep).exists
  refine ⟨?_, ?_, ?_⟩
  · rw [hw'']
    exact fun later earlier => hlast.eq_nil_of_resumption?
  · intro hresults
    have hbroken := hran.broken_eq rfl hresults
    rw [hw'', ← hrequest]
    exact ⟨hstep.broken_eq.symm.trans hbroken, hcall.brokenOff?_eq hstep hbroken⟩
  · intro result c' hdone
    subst hdone
    have hstep' : c'.InStep w''.1 none := by
      rw [hw'']
      exact hcall.inStep hstep
    refine ⟨?_, ?_⟩
    · intro failure hfailure
      rw [Option.mem_def] at hfailure
      rcases hcall.resumption?_eq with hread | ⟨hnone, -⟩
      · rw [hfailure] at hread
        have hbroken := hstep'.brokenFailure?_eq
        rw [hcall.request_eq, hrequest, ← hread] at hbroken
        exact ⟨hbroken.symm, (final_of_brokenFailure? hread.symm).staysAt opener adviser w''⟩
      · rw [hnone] at hfailure
        cases hfailure
    · intro hresults hends
      have hbroken' := (hran.call hcall).broken_eq rfl hresults
      have hfinal : c'.Final (.ok .endOfStream) := by
        unfold Final
        rw [hbroken']
        exact ⟨hcall.isOpen_eq hends, rfl⟩
      exact hfinal.staysAt opener adviser w''

end Channel

end SteadyFetch
