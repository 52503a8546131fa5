import SteadyFetch.Proofs.Attempts

set_option autoImplicit false

/-! # Bounds of reading by a policy

A read by a policy comes to an end, as long as streams are not interrupted for ever (`perform_terminates`),
and makes no more attempts than the failures in a row have left. So reading until there is nothing more opens
no more often than the policy has attempts for each octet, and once more (`Ran.opens_le_of_dropLast`). What a
policy makes sure of for a channel is stated once (`Bounded`), and holds after any calls. -/

namespace SteadyFetch

variable {W σ : Type}

/-! ## Reads come to an end -/

/-- The stream and the world after so many interrupted reads in a row; none if one of them is not
    interrupted. -/
def Opener.interruptedReads (opener : Opener (StateM W) σ) (sizes : List Nat) : Nat → σ → W → Option (σ × W)
  | 0, stream, w => some (stream, w)
  | reads + 1, stream, w =>
    match opener.read stream sizes w with
    | ((.error fault, rest), w') =>
      if fault.kind = .interrupted then interruptedReads opener sizes reads rest w' else none
    | _ => none

/-- Whether streams are interrupted only finitely often in a row. -/
def Opener.Yields (opener : Opener (StateM W) σ) : Prop :=
  ∀ sizes stream w, ∃ reads, opener.interruptedReads sizes reads stream w = none

namespace Channel

/-- Whether a read is settled within some number of turns, and then within any greater one. -/
def Terminates (opener : Opener (StateM W) σ) (adviser : Adviser (StateM W)) (sizes : List Nat)
    (c : Channel σ) (w : Watched W σ) : Prop :=
  ∃ enough, ∀ limit, enough ≤ limit →
    After (rounds opener.watched adviser.watched limit c sizes) w fun done _ => done.isSome = true

/-- Whether what comes after a turn is settled. -/
def TerminatesAfter (opener : Opener (StateM W) σ) (adviser : Adviser (StateM W)) (sizes : List Nat)
    (turn : Turn σ) (w : Watched W σ) : Prop :=
  ∀ c, turn = .again c → Terminates opener adviser sizes c w

section Termination

variable {opener : Opener (StateM W) σ} {adviser : Adviser (StateM W)} {c : Channel σ} {sizes : List Nat}
  {policy : RetryPolicy}

theorem terminates_of_turn {w : Watched W σ}
    (h : After (c.turn opener.watched adviser.watched sizes) w (TerminatesAfter opener adviser sizes)) :
    Terminates opener adviser sizes c w := by
  have hmore : ∀ enough, (∀ limit, enough ≤ limit → After (c.turn opener.watched adviser.watched sizes) w
      fun turn w' => ∀ c', turn = .again c' →
        After (rounds opener.watched adviser.watched limit c' sizes) w' fun done _ => done.isSome = true) →
      Terminates opener adviser sizes c w := by
    intro enough hrest
    refine ⟨enough + 1, fun limit hlimit => ?_⟩
    obtain ⟨limit, rfl⟩ := Nat.exists_eq_add_of_le' (Nat.le_trans (Nat.le_add_left 1 enough) hlimit)
    unfold rounds
    refine After.bind (hrest limit (Nat.le_of_succ_le_succ hlimit)) ?_
    intro turn w' hturn
    cases turn with
    | settled result c' => rfl
    | again c' => exact hturn c' rfl
  unfold After TerminatesAfter at h
  cases hturn : (c.turn opener.watched adviser.watched sizes w).1 with
  | settled result c' =>
      refine hmore 0 fun limit _ c' hagain => ?_
      rw [hturn] at hagain
      cases hagain
  | again c' =>
      obtain ⟨enough, hrest⟩ := h c' hturn
      refine hmore enough fun limit hlimit c'' hagain => ?_
      rw [hturn] at hagain
      cases hagain
      exact hrest limit hlimit

variable (hgives : adviser.Gives policy.answers)

include hgives

theorem after_recover_terminates (fault : Fault) (w : Watched W σ)
    (hfailed : c.failed.failures < policy.maxAttempts → ∀ w, Terminates opener adviser sizes c.failed w) :
    After (c.recover adviser.watched fault) w (TerminatesAfter opener adviser sizes) := by
  refine (after_recover_retried hgives c fault w).imp ?_
  intro turn w' hretried c' hagain
  obtain ⟨asked, allowed, -, hasked, rfl⟩ := hretried
  obtain ⟨hallowed, rfl⟩ := retried_eq_again hagain
  exact hfailed (hasked.lt_maxAttempts hallowed) w'

/-- Each interrupted read takes one from those that are left in a row. -/
theorem after_readStream_terminates {reads : Nat} {stream : σ} {w : Watched W σ}
    (hreads : opener.interruptedReads sizes reads stream w.2 = none)
    (hfailed : c.failed.failures < policy.maxAttempts → ∀ w, Terminates opener adviser sizes c.failed w) :
    After (readStream opener.watched adviser.watched c stream sizes) w
      (TerminatesAfter opener adviser sizes) := by
  induction reads generalizing c stream w with
  | zero => cases hreads
  | succ reads ih =>
      unfold readStream
      refine After.bind (opener.after_read_watched stream sizes w) ?_
      intro read w₁ hrecorded
      obtain ⟨result, rest⟩ := read
      obtain ⟨-, hread⟩ := hrecorded
      cases result with
      | ok bs =>
          intro c' hagain
          cases bs with
          | nil => cases hagain
          | cons b bs => cases hagain
      | error fault =>
          by_cases hkind : fault.kind = .interrupted
          · simp only [hkind, if_true]
            intro c' hagain
            cases hagain
            rw [Opener.interruptedReads, ← hread] at hreads
            simp only [hkind, if_true] at hreads
            exact terminates_of_turn (ih (c := c.streaming rest) hreads hfailed)
          · simp only [hkind, if_false]
            exact after_recover_terminates hgives (.io fault) w₁ hfailed

/-- **A read by a policy comes to an end**, whatever fails. -/
theorem terminates_of_yields (hyields : opener.Yields) (hm : policy.maxAttempts ≤ maxFailures)
    (sizes : List Nat) (c : Channel σ) (w : Watched W σ) : Terminates opener adviser sizes c w := by
  -- every failure that is followed by another attempt takes one from those that are left
  induction hleft : policy.maxAttempts - c.failures using Nat.strongRecOn generalizing c w with
  | ind left ih =>
      have hfailed : ∀ c' : Channel σ, c'.failures = c.failures →
          c'.failed.failures < policy.maxAttempts → ∀ w, Terminates opener adviser sizes c'.failed w := by
        intro c' hsame hlt w
        have hcount : c'.failed.failures = min (c'.failures + 1) maxFailures := rfl
        exact ih (policy.maxAttempts - c'.failed.failures) (by omega) c'.failed w rfl
      have hreading : ∀ (c' : Channel σ) (stream : σ) (w : Watched W σ), c'.failures = c.failures →
          After (readStream opener.watched adviser.watched c' stream sizes) w
            (TerminatesAfter opener adviser sizes) := by
        intro c' stream w hsame
        obtain ⟨reads, hreads⟩ := hyields sizes stream w.2
        exact after_readStream_terminates hgives hreads (hfailed c' hsame)
      refine terminates_of_turn ?_
      unfold turn
      cases hstream : c.stream with
      | some stream => exact hreading c stream w rfl
      | none =>
          unfold openAndRead
          refine After.bind (opener.after_openAt_watched _ _ w) ?_
          intro result w₁ hrecorded
          cases result with
          | error fault =>
              cases hgone : (c.generation.isSome && fault.isNotFound) with
              | true =>
                  simp only [hgone, if_true]
                  intro c' hagain
                  cases hagain
              | false =>
                  simp only [hgone, Bool.false_eq_true, if_false]
                  exact after_recover_terminates hgives fault w₁ (hfailed c rfl)
          | ok opened =>
              cases hsettle : c.settleGeneration opened.generation with
              | error reason =>
                  simp only [hsettle]
                  intro c' hagain
                  cases hagain
              | ok c' =>
                  simp only [hsettle]
                  refine hreading c' opened.stream w₁ ?_
                  rw [(settleGeneration_eq hsettle).1]

theorem advance_terminates (hyields : opener.Yields) (hm : policy.maxAttempts ≤ maxFailures)
    (sizes : List Nat) (c : Channel σ) (w : Watched W σ) :
    ∃ enough, ∀ limit, enough ≤ limit →
      After (c.advance opener.watched adviser.watched limit sizes) w fun done _ => done.isSome = true := by
  obtain ⟨enough, hterminates⟩ := terminates_of_yields hgives hyields hm sizes c w
  refine ⟨enough, fun limit hlimit => ?_⟩
  unfold advance
  split
  · rfl
  · split
    · rfl
    · split
      · rfl
      · split
        · rfl
        · exact hterminates limit hlimit

/-- **So does every call.** -/
theorem perform_terminates (hyields : opener.Yields) (hm : policy.maxAttempts ≤ maxFailures) (c : Channel σ)
    (w : Watched W σ) (call : Call) :
    ∃ enough, ∀ limit, enough ≤ limit →
      After (c.perform opener.watched adviser.watched limit call) w fun done _ => done.isSome = true := by
  cases call with
  | read sizes =>
      obtain ⟨enough, hterminates⟩ := advance_terminates hgives hyields hm sizes c w
      refine ⟨enough, fun limit hlimit => ?_⟩
      simp only [perform, Channel.read, bind_assoc]
      refine After.bind (hterminates limit hlimit) ?_
      intro done w' hdone
      rcases done with _ | ⟨failure | progress, c'⟩
      · cases hdone
      · rfl
      · rfl
  | readOctets sizes =>
      obtain ⟨enough, hterminates⟩ := advance_terminates hgives hyields hm sizes c w
      refine ⟨enough, fun limit hlimit => ?_⟩
      simp only [perform, Channel.readOctets, bind_assoc]
      refine After.bind (hterminates limit hlimit) ?_
      intro done w' hdone
      rcases done with _ | ⟨failure | bs | _, c'⟩
      · cases hdone
      · rfl
      · rfl
      · rfl
  | takeResolved => exact ⟨0, fun limit _ => rfl⟩
  | close => exact ⟨0, fun limit _ => rfl⟩

end Termination

/-! ## Reading on -/

/-- Whether a call is a read with room for octets. -/
def Call.HasRoom : Call → Prop
  | .read sizes => ∃ size ∈ sizes, 0 < size
  | .readOctets sizes => ∃ size ∈ sizes, 0 < size
  | _ => False

/-- Whether a read neither failed nor came to the end. -/
def CallResult.GoesOn : CallResult → Prop
  | .read (.ok outcome) => outcome.progress ≠ .endOfStream
  | .octets (.ok bs) => bs ≠ []
  | _ => False

theorem Performed.octetsOf_ne_nil {may : Answers} {c c' : Channel σ} {call : Call} {events : History W σ}
    {result : CallResult} (hcall : Performed may c call events (some (result, c'))) (hroom : call.HasRoom)
    (hgoes : result.GoesOn) : result.octetsOf ≠ [] := by
  cases hcall with
  | read hread =>
      cases hread.leftBy rfl with
      | octets hbs hbroken => exact hbs hroom
      | ended hclosed hbroken => exact absurd rfl hgoes
  | readFailed hread => cases hgoes
  | @readOctets sizes events result c' hread =>
      cases result with
      | error failure => cases hgoes
      | ok progress => exact hgoes
  | takeResolved => cases hroom
  | close => cases hroom

section Reading

variable {policy : RetryPolicy} {start c : Channel σ} {before history : History W σ} {calls : List Call}
  {results : List CallResult} (hm : policy.maxAttempts ≤ maxFailures)

include hm

theorem Performed.opens_le {call : Call} {events : History W σ} {done : Option (CallResult × Channel σ)}
    (hcall : Performed policy.answers c call events done) (h : c.InStep history none) :
    (events ++ history).opens ≤ history.opens + policy.allowed := by
  obtain ⟨opens, attempts, hcounts, hopens, -⟩ := hcall.within hm h
  have hleft : policy.left c.failures ≤ policy.allowed := by
    unfold RetryPolicy.left RetryPolicy.allowed
    omega
  rw [hcounts.opens_eq]
  omega

/-- Reads that go on open so many times for each octet, at most. -/
theorem Ran.opens_le (hran : Ran policy.answers start before calls results c history)
    (h : start.InStep before none) (hroom : ∀ call ∈ calls, call.HasRoom)
    (hgoes : ∀ result ∈ results, result.GoesOn) :
    history.opens ≤ before.opens + policy.allowed * ((results.map CallResult.octetsOf).flatten).length := by
  induction hran with
  | start => exact Nat.le_add_right _ _
  | @call calls results c c' history events call result hran hcall ih =>
      have hbefore := ih (fun call hmem => hroom call (List.mem_append_left _ hmem))
        (fun result hmem => hgoes result (List.mem_append_left _ hmem))
      have hnow := hcall.opens_le hm (hran.inStep h)
      have hpos : 0 < result.octetsOf.length := List.length_pos_iff.2
        (hcall.octetsOf_ne_nil (hroom call (by simp)) (hgoes result (by simp)))
      have hmore : policy.allowed ≤ policy.allowed * result.octetsOf.length := Nat.le_mul_of_pos_right _ hpos
      simp only [List.map_append, List.map_cons, List.map_nil, List.flatten_append, List.flatten_cons,
        List.flatten_nil, List.append_nil, List.length_append, Nat.mul_add]
      omega

theorem Ran.opens_le_of_dropLast (hran : Ran policy.answers start before calls results c history)
    (h : start.InStep before none) (hroom : ∀ call ∈ calls, call.HasRoom)
    (hgoes : ∀ result ∈ results.dropLast, result.GoesOn) :
    history.opens ≤
      before.opens + policy.allowed * (((results.map CallResult.octetsOf).flatten).length + 1) := by
  cases hran with
  | start => exact Nat.le_add_right _ _
  | @call calls results c₁ c' history events call result hran hcall =>
      rw [List.dropLast_concat] at hgoes
      have hbefore := hran.opens_le hm h (fun call hmem => hroom call (List.mem_append_left _ hmem)) hgoes
      have hnow := hcall.opens_le hm (hran.inStep h)
      simp only [List.map_append, List.flatten_append, List.length_append, Nat.mul_add, Nat.mul_one]
      omega

end Reading

/-! ## What a policy makes sure of -/

/-- What a policy makes sure of for a channel, whatever its opener does from now on. -/
structure Bounded (opener : Opener (StateM W) σ) (policy : RetryPolicy) (pause : Span → StateM W Unit)
    (c : Channel σ) (w : Watched W σ) : Prop where
  /-- The failures that are counted are those in a row. -/
  failures_eq : c.failures = min w.1.failuresInARow maxFailures
  /-- Every call is settled in the end. -/
  terminates : ∀ call, ∃ enough, ∀ limit, enough ≤ limit →
    After (c.perform opener.watched (policy.adviser pause).watched limit call) w fun done _ =>
      done.isSome = true
  /-- A call makes as many attempts as are left and as many opens, at most. -/
  within : ∀ limit call,
    After (c.perform opener.watched (policy.adviser pause).watched limit call) w fun _ w' =>
      w'.1.attempts ≤ w.1.attempts + policy.left c.failures ∧
        w'.1.opens ≤ w.1.opens + policy.left c.failures
  /-- A call that fails for a reason that may pass leaves a channel that counts as many failures in a row as
      the policy has attempts. -/
  usedUp : ∀ limit call,
    After (c.perform opener.watched (policy.adviser pause).watched limit call) w fun done w' =>
      ∀ result c' faultClass source, done = some (result, c') →
        result.failure? = some (.transport faultClass source) → faultClass.isTransient = true →
          policy.maxAttempts ≤ c'.failures ∧ policy.maxAttempts ≤ w'.1.failuresInARow
  /-- Reading with room until the first end or failure opens no more often than the policy allows for each
      octet, and once more. -/
  reading : ∀ limit calls, (∀ call ∈ calls, call.HasRoom) →
    After (c.performEach opener.watched (policy.adviser pause).watched limit calls) w fun ran w' =>
      ran.2.isSome = true → (∀ result ∈ ran.1.dropLast, result.GoesOn) →
        w'.1.opens ≤
          w.1.opens + policy.allowed * (((ran.1.map CallResult.octetsOf).flatten).length + 1)

theorem InStep.bounded {opener : Opener (StateM W) σ} {policy : RetryPolicy} {pause : Span → StateM W Unit}
    {c : Channel σ} {w : Watched W σ} (hm : policy.maxAttempts ≤ maxFailures) (hyields : opener.Yields)
    (h : c.InStep w.1 none) : c.Bounded opener policy pause w where
  failures_eq := h.failures_eq
  terminates := perform_terminates (policy.gives_answers pause) hyields hm c w
  within limit call := by
    refine (after_perform_performed (policy.gives_answers pause) limit c call w).imp ?_
    intro done w' hperformed
    obtain ⟨events, hw', hcall⟩ := hperformed
    obtain ⟨opens, attempts, hcounts, hopens, hattempts⟩ := hcall.within hm h
    rw [hw', hcounts.opens_eq, hcounts.attempts_eq]
    exact ⟨Nat.add_le_add_left hattempts _, Nat.add_le_add_left hopens _⟩
  usedUp limit call := by
    refine (after_perform_performed (policy.gives_answers pause) limit c call w).imp ?_
    intro done w' hperformed result c' faultClass source hdone hfailure htransient
    obtain ⟨events, hw', hcall⟩ := hperformed
    subst hdone
    have hmany := hcall.usedUp htransient hfailure
    have hleft : c'.InStep w'.1 none := by
      rw [hw']
      exact hcall.inStep h
    refine ⟨hmany, Nat.le_trans hmany ?_⟩
    rw [hleft.failures_eq]
    exact Nat.min_le_left _ _
  reading limit calls hroom := by
    refine (after_performEach_ran (policy.gives_answers pause) limit c calls w).imp ?_
    intro ran w' hran hsettled hgoes
    obtain ⟨last, hlast⟩ := Option.isSome_iff_exists.1 hsettled
    exact (hran last hlast).opens_le_of_dropLast hm h hroom hgoes

/-- **Reads by a policy are bounded.** Whatever calls were made before and whatever the opener does, as long as
    its streams are interrupted only finitely often in a row: every call is settled, after as many attempts
    as the failures in a row have left, one at least; one that fails for a reason that may pass has used
    them up; and reading on opens no more often than the policy allows for each octet, and once more. -/
theorem performEach_bounded {opener : Opener (StateM W) σ} {policy : RetryPolicy}
    (hm : policy.maxAttempts < Word.limit32) (hyields : opener.Yields) (pause : Span → StateM W Unit)
    (limit : Nat) (request : ReadRequest) (calls : List Call) (w : W) :
    After ((start request).performEach opener.watched (policy.adviser pause).watched limit calls)
      (([], w) : Watched W σ) fun ran w' => ∀ c ∈ ran.2, c.Bounded opener policy pause w' := by
  refine (after_performEach_ran (policy.gives_answers pause) limit (start request) calls ([], w)).imp ?_
  intro ran w' hran c hc
  exact ((hran c hc).inStep (.start request)).bounded (Nat.le_pred_of_lt hm) hyields

end Channel

/-- An opener of the octets of version seven that refuses as often as the world says. Its streams are
    interrupted twice, give octets once, and break: a stream is what it has left, and how often it can be
    read. -/
def Opener.faltering (version : Bytes) : Opener (StateM Nat) (Bytes × Nat) where
  openAt request _ := fun refusals =>
    if 0 < refusals then (.error (.io (.bare .connectionRefused)), refusals - 1)
    else (.ok ⟨(version.drop request.range.start, 3), some 7⟩, refusals)
  read stream sizes := fun refusals =>
    match stream with
    | (rest, 0) => ((.error (.bare .connectionReset), (rest, 0)), refusals)
    | (rest, 1) =>
      ((.ok (rest.take (sizes.foldr Nat.add 0)), (rest.drop (sizes.foldr Nat.add 0), 0)), refusals)
    | (rest, reads + 2) => ((.error (.bare .interrupted), (rest, reads + 1)), refusals)

theorem Opener.faltering_yields (version : Bytes) : (faltering version).Yields := by
  intro sizes stream refusals
  obtain ⟨rest, reads⟩ := stream
  refine ⟨reads + 1, ?_⟩
  induction reads with
  | zero => rfl
  | succ reads ih =>
      cases reads with
      | zero => rfl
      | succ reads => exact ih

/-- Two calls that are refused four times, and what the policy still makes sure of. -/
theorem Channel.performEach_of_faltering :
    let ran := (start ⟨⟨"bucket", "name", none⟩, {}, .onward 1⟩).performEach
      (Opener.faltering [10, 11, 12, 13]).watched
      ((RetryPolicy.immediate 3).adviser fun _ => pure ()).watched 9 [.read [2], .readOctets [2]] ([], 4)
    ran.1.2.map Channel.failures = some 4 ∧
      ∀ c ∈ ran.1.2, c.Bounded (Opener.faltering [10, 11, 12, 13]) (RetryPolicy.immediate 3)
        (fun _ => pure ()) ran.2 := by
  refine ⟨by decide, ?_⟩
  exact performEach_bounded (by decide) (Opener.faltering_yields [10, 11, 12, 13]) _ 9
    ⟨⟨"bucket", "name", none⟩, {}, .onward 1⟩ [.read [2], .readOctets [2]] 4

end SteadyFetch
