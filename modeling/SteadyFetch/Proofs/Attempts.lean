import SteadyFetch.Proofs.Draining
import SteadyFetch.Proofs.Questions

set_option autoImplicit false

/-! # How many attempts a policy allows

A read by a policy makes a bounded number of attempts, whatever the opener does (`Course.within`): each one
that is not the last fails and is allowed to be followed by another, which takes one from the failures that
are left. A failure that may pass is returned only once none is left (`Performed.usedUp`). -/

namespace SteadyFetch

variable {W σ : Type}

/-! ## Counting attempts -/

namespace History

/-- Whether the latest event is the end of an attempt: an open that leaves nothing to read from, or a read
    that was not interrupted. -/
def endsAttempt : History W σ → Bool
  | .opened made :: earlier =>
    (fault? (.opened made :: earlier)).isSome || (resumption? (.opened made :: earlier)).isSome
  | .read made :: _ =>
    match made.result with
    | .ok _ => true
    | .error fault => fault.kind != .interrupted
  | _ => false

/-- How many attempts to open and to read are over. -/
def attempts : History W σ → Nat
  | [] => 0
  | event :: earlier => attempts earlier + if endsAttempt (event :: earlier) then 1 else 0

end History

namespace Channel

variable {c c' : Channel σ} {history : History W σ} {may : Answers} {sizes : List Nat}

/-- What a later history counts more than an earlier one. -/
structure Counts (earlier later : History W σ) (opens attempts : Nat) : Prop where
  opens_eq : later.opens = earlier.opens + opens
  attempts_eq : later.attempts = earlier.attempts + attempts

theorem Counts.trans {earlier between later : History W σ} {opens attempts opens' attempts' : Nat}
    (h : Counts earlier between opens attempts) (h' : Counts between later opens' attempts') :
    Counts earlier later (opens + opens') (attempts + attempts') where
  opens_eq := by rw [h'.opens_eq, h.opens_eq, Nat.add_assoc]
  attempts_eq := by rw [h'.attempts_eq, h.attempts_eq, Nat.add_assoc]

theorem Counts.of_offered {attempt : Nat} {fault : Fault} {asked : History W σ} {allowed : Bool}
    (hasked : Offered may attempt fault asked allowed) (history : History W σ) :
    Counts history (asked ++ history) 0 0 := by
  cases hasked with
  | allowed hraw => exact ⟨by simp [Event.isOpen], rfl⟩
  | twice hraw hprotocol hclassified => exact ⟨by simp [Event.isOpen], rfl⟩
  | declined hraw hother => exact ⟨by simp [Event.isOpen], rfl⟩

theorem Counts.of_opened (made : OpenMade W σ) (history : History W σ) :
    Counts history (.opened made :: history) 1
      (if History.endsAttempt (.opened made :: history) then 1 else 0) :=
  ⟨by simp [Event.isOpen], rfl⟩

theorem Counts.of_read (made : ReadMade σ) (history : History W σ) :
    Counts history (.read made :: history) 0
      (if History.endsAttempt (.read made :: history) then 1 else 0) :=
  ⟨by simp [Event.isOpen], rfl⟩

/-- How many attempts are over with a turn: none if it goes on with its stream. -/
def Turn.attempts : Turn σ → Nat
  | .settled _ _ => 1
  | .again c => if c.stream.isSome then 0 else 1

theorem attempts_retried (c : Channel σ) (fault : Fault) (allowed : Bool) :
    (c.retried fault allowed).attempts = 1 := by
  cases allowed <;> rfl

theorem ReadOnce.counts {stream : σ} {events : History W σ} {turn : Turn σ}
    (hread : ReadOnce may c stream sizes events turn) (history : History W σ) :
    Counts history (events ++ history) 0 turn.attempts := by
  cases hread with
  | delivered hbs => exact Counts.of_read _ history
  | ended => exact Counts.of_read _ history
  | @interrupted fault rest hkind =>
      have hcounts := Counts.of_read ⟨stream, sizes, .error fault, rest⟩ history
      simpa [History.endsAttempt, hkind, Turn.attempts, streaming] using hcounts
  | @failed fault rest asked allowed hkind hasked =>
      have hcounts := Counts.of_read ⟨stream, sizes, .error fault, rest⟩ history
      rw [attempts_retried, List.append_assoc]
      simpa [History.endsAttempt, hkind] using hcounts.trans (Counts.of_offered hasked _)

/-- An open that fails is the end of an attempt, whether it keeps the read from going on or not. -/
theorem endsAttempt_error (made : OpenMade W σ) {fault : Fault} (h : made.result = .error fault)
    (history : History W σ) : History.endsAttempt (.opened made :: history) = true := by
  cases hreported : history.reported? with
  | none => simp [History.endsAttempt, History.fault?, h, hreported]
  | some g =>
      by_cases hgone : fault.isNotFound = true
      · simp [History.endsAttempt, History.resumption?, h, hreported, hgone]
      · simp [History.endsAttempt, History.fault?, h, hgone]

theorem Turned.counts {events : History W σ} {turn : Turn σ} (hturn : Turned may c sizes events turn)
    (h : c.InStep history none) :
    Counts history (events ++ history) (if c.stream.isSome then 0 else 1) turn.attempts := by
  cases hturn with
  | reading hstream hread =>
      rw [hstream]
      exact hread.counts history
  | @opening w opened c' events turn hstream hsettle hread =>
      have hresumption := resumption?_openMade h.generation_eq w opened
      simp only [hsettle] at hresumption
      have hfault : History.fault? (.opened (c.openMade w (.ok opened)) :: history) = none := rfl
      have hends : History.endsAttempt (.opened (c.openMade w (.ok opened)) :: history) = false := by
        rw [History.endsAttempt, hfault, hresumption]
        rfl
      have hopened := Counts.of_opened (c.openMade w (.ok opened)) history
      rw [hends] at hopened
      rw [hstream, List.append_assoc]
      simpa using hopened.trans (hread.counts _)
  | @changed w opened reason hstream hsettle =>
      have hresumption := resumption?_openMade h.generation_eq w opened
      simp only [hsettle] at hresumption
      have hends : History.endsAttempt (.opened (c.openMade w (.ok opened)) :: history) = true := by
        simp [History.endsAttempt, hresumption]
      have hopened := Counts.of_opened (c.openMade w (.ok opened)) history
      rw [hends] at hopened
      rw [hstream]
      exact hopened
  | @gone w fault hstream hgone =>
      have hopened := Counts.of_opened (c.openMade w (.error fault)) history
      rw [endsAttempt_error _ rfl] at hopened
      rw [hstream]
      exact hopened
  | @refused w fault asked allowed hstream hgone hasked =>
      have hopened := Counts.of_opened (c.openMade w (.error fault)) history
      rw [endsAttempt_error _ rfl] at hopened
      rw [hstream, attempts_retried, List.append_assoc]
      exact hopened.trans (Counts.of_offered hasked _)

end Channel

/-! ## What a failure takes from those that are left -/

/-- The attempts that are left after some failures in a row; one is always made. -/
def RetryPolicy.left (p : RetryPolicy) (failures : Nat) : Nat := max 1 (p.maxAttempts - failures)

section Offers

variable {policy : RetryPolicy} {attempt : Nat} {fault : Fault} {asked : History W σ} {allowed : Bool}

theorem Offered.lt_maxAttempts (h : Offered policy.answers attempt fault asked allowed)
    (hallowed : allowed = true) : attempt < policy.maxAttempts := by
  have hlt : ∀ {faultClass delay}, some delay = policy.decide attempt faultClass →
      attempt < policy.maxAttempts := by
    intro faultClass delay hdecide
    refine Nat.lt_of_not_le fun hmany => ?_
    rw [Channel.decide_of_maxAttempts_le hmany] at hdecide
    cases hdecide
  cases h with
  | allowed hraw => exact hlt hraw
  | twice hraw hprotocol hclassified =>
      obtain ⟨delay, rfl⟩ := Option.isSome_iff_exists.1 hallowed
      exact hlt hclassified
  | declined hraw hother => cases hallowed

/-- A fault that may pass is given up only for its number. -/
theorem Offered.maxAttempts_le (h : Offered policy.answers attempt fault asked allowed)
    (hdeclined : allowed = false) {faultClass : FaultClass} {source : Fault}
    (hfailure : fault.readFailure = .transport faultClass source)
    (htransient : faultClass.isTransient = true) : policy.maxAttempts ≤ attempt := by
  cases h with
  | allowed hraw => cases hdeclined
  | declined hraw hother => simp [Fault.readFailure, hother] at hfailure
  | twice hraw hprotocol hclassified =>
      rw [Option.isSome_eq_false_iff, Option.isNone_iff_eq_none] at hdeclined
      subst hdeclined
      refine Channel.maxAttempts_le_of_decide hclassified.symm ?_
      rw [hfailure]
      exact htransient

end Offers

namespace Channel

variable {c c' : Channel σ} {history : History W σ} {sizes : List Nat} {policy : RetryPolicy}

section Bounds

variable (hm : policy.maxAttempts ≤ maxFailures)

include hm

theorem retried_goesOn {fault : Fault} {asked : History W σ} {allowed : Bool}
    (hasked : Offered policy.answers c.failed.failures fault asked allowed)
    (hagain : c.retried fault allowed = .again c') :
    c'.stream = none ∧ c'.failures = c.failures + 1 ∧ c'.failures < policy.maxAttempts := by
  obtain ⟨hallowed, rfl⟩ := retried_eq_again hagain
  have hlt := hasked.lt_maxAttempts hallowed
  have hcount : c.failed.failures = min (c.failures + 1) maxFailures := rfl
  exact ⟨rfl, by omega, hlt⟩

/-- What a channel may have become after a turn that is not the last one: it has a stream, or one more failure
    and still an attempt left. -/
def GoesOnAs (policy : RetryPolicy) (c c' : Channel σ) : Prop :=
  c'.stream.isSome = true ∧ c'.failures = c.failures ∨
    c'.stream = none ∧ c'.failures = c.failures + 1 ∧ c'.failures < policy.maxAttempts

theorem ReadOnce.goesOn {stream : σ} {events : History W σ} {turn : Turn σ}
    (hread : ReadOnce policy.answers c stream sizes events turn) (hagain : turn = .again c') :
    c.GoesOnAs policy c' := by
  cases hread with
  | delivered hbs => cases hagain
  | ended => cases hagain
  | interrupted hkind =>
      cases hagain
      exact Or.inl ⟨rfl, rfl⟩
  | failed hkind hasked => exact Or.inr (retried_goesOn hm hasked hagain)

theorem Turned.goesOn {events : History W σ} {turn : Turn σ}
    (hturn : Turned policy.answers c sizes events turn) (hagain : turn = .again c') :
    c.GoesOnAs policy c' := by
  cases hturn with
  | reading hstream hread => exact hread.goesOn hm hagain
  | @opening w opened c₁ events turn hstream hsettle hread =>
      have hfailures : c₁.failures = c.failures := by rw [(settleGeneration_eq hsettle).1]
      have hafter := hread.goesOn hm hagain
      unfold GoesOnAs at hafter ⊢
      rwa [hfailures] at hafter
  | changed hstream hsettle => cases hagain
  | gone hstream hgone => cases hagain
  | refused hstream hgone hasked => exact Or.inr (retried_goesOn hm hasked hagain)

/-- **The turns of a read are as many attempts as are left, at most.** An open is made for each of them,
    except for the first one if a stream is under way. -/
theorem Course.within {events : History W σ} {done : Option (Except ReadFailure Progress × Channel σ)}
    (hcourse : Course policy.answers sizes c events done) (h : c.InStep history none) (hready : c.Ready) :
    ∃ opens attempts, Counts history (events ++ history) opens attempts ∧
      opens + (if c.stream.isSome then 1 else 0) ≤ policy.left c.failures ∧
      attempts ≤ policy.left c.failures := by
  induction hcourse generalizing history with
  | @unsettled c =>
      refine ⟨0, 0, ⟨rfl, rfl⟩, ?_, Nat.zero_le _⟩
      unfold RetryPolicy.left
      split
      · omega
      · omega
  | @settled c c' events result hturn =>
      refine ⟨_, _, hturn.counts h, ?_, ?_⟩
      · unfold RetryPolicy.left
        split
        · omega
        · omega
      · exact Nat.le_max_left _ _
  | @again c c' events later done hturn hrest ih =>
      obtain ⟨opens, attempts, hcounts, hopens, hattempts⟩ :=
        ih (hturn.inStep h hready.broken_eq) (hturn.ready hready rfl)
      rw [List.append_assoc]
      refine ⟨_, _, (hturn.counts h).trans hcounts, ?_, ?_⟩
      · rcases hturn.goesOn hm rfl with ⟨hstream, hfailures⟩ | ⟨hstream, hfailures, hleft⟩
        · rw [hstream, hfailures] at hopens
          simp only [if_true] at hopens
          split
          · omega
          · omega
        · unfold RetryPolicy.left at hopens ⊢
          split
          · omega
          · omega
      · rcases hturn.goesOn hm rfl with ⟨hstream, hfailures⟩ | ⟨hstream, hfailures, hleft⟩
        · rw [hfailures] at hattempts
          simpa [Turn.attempts, hstream] using hattempts
        · unfold RetryPolicy.left at hattempts ⊢
          simp only [Turn.attempts, hstream, Option.isSome_none, Bool.false_eq_true, if_false]
          omega

theorem Advanced.within {events : History W σ} {done : Option (Except ReadFailure Progress × Channel σ)}
    (hread : Advanced policy.answers c sizes events done) (h : c.InStep history none) :
    ∃ opens attempts, Counts history (events ++ history) opens attempts ∧
      opens ≤ policy.left c.failures ∧ attempts ≤ policy.left c.failures := by
  have hnothing : ∃ opens attempts, Counts history history opens attempts ∧
      opens ≤ policy.left c.failures ∧ attempts ≤ policy.left c.failures :=
    ⟨0, 0, ⟨rfl, rfl⟩, Nat.zero_le _, Nat.zero_le _⟩
  cases hread with
  | broken hbroken => exact hnothing
  | closed hbroken hopen => exact hnothing
  | exhausted hbroken hopen hexhausted => exact hnothing
  | full hready hsizes => exact hnothing
  | reading hready hsizes hcourse =>
      obtain ⟨opens, attempts, hcounts, hopens, hattempts⟩ := hcourse.within hm h hready
      exact ⟨opens, attempts, hcounts, Nat.le_trans (Nat.le_add_right _ _) hopens, hattempts⟩

/-- **A call makes as many attempts as are left, at most.** -/
theorem Performed.within {call : Call} {events : History W σ} {done : Option (CallResult × Channel σ)}
    (hcall : Performed policy.answers c call events done) (h : c.InStep history none) :
    ∃ opens attempts, Counts history (events ++ history) opens attempts ∧
      opens ≤ policy.left c.failures ∧ attempts ≤ policy.left c.failures := by
  cases hcall with
  | unsettled hsizes hread => exact hread.within hm h
  | read hread => exact hread.within hm h
  | readFailed hread => exact hread.within hm h
  | readOctets hread => exact hread.within hm h
  | takeResolved => exact ⟨0, 0, ⟨rfl, rfl⟩, Nat.zero_le _, Nat.zero_le _⟩
  | close => exact ⟨0, 0, ⟨rfl, rfl⟩, Nat.zero_le _, Nat.zero_le _⟩

end Bounds

/-! ## Failures that may pass -/

theorem resumptionFailure_ne_transport (c : Channel σ) (reason : ResumptionReason) (faultClass : FaultClass)
    (source : Fault) : c.resumptionFailure reason ≠ .transport faultClass source := by
  intro hfailure
  have hresumption := isResumption_resumptionFailure c reason
  rw [hfailure] at hresumption
  cases hresumption

section Transient

variable {faultClass : FaultClass} {source : Fault} (htransient : faultClass.isTransient = true)

include htransient

theorem retried_usedUp {fault : Fault} {asked : History W σ} {allowed : Bool}
    (hasked : Offered policy.answers c.failed.failures fault asked allowed)
    (hsettled : c.retried fault allowed = .settled (.error (.transport faultClass source)) c') :
    policy.maxAttempts ≤ c'.failures := by
  cases allowed with
  | true => cases hsettled
  | false =>
      obtain ⟨hfailure, rfl⟩ := Turn.settled.inj hsettled
      exact hasked.maxAttempts_le rfl (Except.error.inj hfailure) htransient

theorem ReadOnce.usedUp {stream : σ} {events : History W σ} {turn : Turn σ}
    (hread : ReadOnce policy.answers c stream sizes events turn)
    (hsettled : turn = .settled (.error (.transport faultClass source)) c') :
    policy.maxAttempts ≤ c'.failures := by
  cases hread with
  | delivered hbs => cases hsettled
  | ended => cases hsettled
  | interrupted hkind => cases hsettled
  | failed hkind hasked => exact retried_usedUp htransient hasked hsettled

/-- A turn fails for a reason that may pass only once no attempt is left. -/
theorem Turned.usedUp {events : History W σ} {turn : Turn σ}
    (hturn : Turned policy.answers c sizes events turn)
    (hsettled : turn = .settled (.error (.transport faultClass source)) c') :
    policy.maxAttempts ≤ c'.failures := by
  have hbroken : ∀ {reason : ResumptionReason},
      c.breakOff reason ≠ .settled (.error (.transport faultClass source)) c' := by
    intro reason hsettled
    obtain ⟨hfailure, -⟩ := Turn.settled.inj hsettled
    exact resumptionFailure_ne_transport c reason faultClass source (Except.error.inj hfailure)
  cases hturn with
  | reading hstream hread => exact hread.usedUp htransient hsettled
  | opening hstream hsettle hread => exact hread.usedUp htransient hsettled
  | changed hstream hsettle => exact absurd hsettled hbroken
  | gone hstream hgone => exact absurd hsettled hbroken
  | refused hstream hgone hasked => exact retried_usedUp htransient hasked hsettled

theorem Course.usedUp {events : History W σ} {done : Option (Except ReadFailure Progress × Channel σ)}
    (hcourse : Course policy.answers sizes c events done)
    (hdone : done = some (.error (.transport faultClass source), c')) : policy.maxAttempts ≤ c'.failures := by
  induction hcourse with
  | unsettled => cases hdone
  | settled hturn =>
      cases hdone
      exact hturn.usedUp htransient rfl
  | again hturn hrest ih => exact ih hdone

theorem Advanced.usedUp {events : History W σ} {done : Option (Except ReadFailure Progress × Channel σ)}
    (hread : Advanced policy.answers c sizes events done)
    (hdone : done = some (.error (.transport faultClass source), c')) : policy.maxAttempts ≤ c'.failures := by
  cases hread with
  | broken hbroken =>
      obtain ⟨hfailure, -⟩ := Prod.mk.inj (Option.some.inj hdone)
      exact absurd (Except.error.inj hfailure) (resumptionFailure_ne_transport c _ faultClass source)
  | closed hbroken hopen => cases hdone
  | exhausted hbroken hopen hexhausted => cases hdone
  | full hready hsizes => cases hdone
  | reading hready hsizes hcourse => exact hcourse.usedUp htransient hdone

/-- **A call fails for a reason that may pass only once no attempt is left.** -/
theorem Performed.usedUp {call : Call} {events : History W σ} {result : CallResult}
    (hcall : Performed policy.answers c call events (some (result, c')))
    (hfailure : result.failure? = some (.transport faultClass source)) :
    policy.maxAttempts ≤ c'.failures := by
  cases hcall with
  | read hread => cases hfailure
  | readFailed hread =>
      cases hfailure
      exact hread.usedUp htransient rfl
  | @readOctets sizes events result c' hread =>
      rw [failure?_octets] at hfailure
      cases result with
      | error failure =>
          cases hfailure
          exact hread.usedUp htransient rfl
      | ok progress => cases hfailure
  | takeResolved => cases hfailure
  | close => cases hfailure

end Transient

end Channel

end SteadyFetch
