import SteadyFetch.Proofs.Histories
import SteadyFetch.Rehearsal

set_option autoImplicit false

/-! # Interruptions

Reads from a stream may be interrupted any number of times before they give their result. A plan says by
which faults (`Plan`). It lies beside the world, where neither opener nor adviser sees it, and
`Opener.interrupted` follows it.

A turn first brings a stream under way (`prepare`), which no plan disturbs, and then reads from it. An
interrupted read ends the turn, and the next one finds the stream where the read left it. So the turns that
interruptions take come to the one turn without them (`after_readStream_planned`), and a run and its
interrupted counterpart go on side by side (`Withstands`). -/

namespace SteadyFetch

/-! ## Plans -/

/-- A fault that interrupts a read. -/
abbrev Interruption := { fault : IoFault // fault.kind = .interrupted }

/-- The interruptions of the reads to come, those of the next read first. -/
abbrev Plan := List (List Interruption)

/-- How many interruptions there are. -/
def Plan.count (plan : Plan) : Nat := plan.flatten.length

/-- A world with a plan. -/
abbrev Planned (W : Type) := Plan × W

variable {W σ α β : Type}

/-- Acts on the world and leaves the plan as it is. -/
def unplanned (x : StateM W α) : StateM (Planned W) α := fun w => ((x w.2).1, (w.1, (x w.2).2))

/-- An opener whose reads are interrupted by plan. A read that is interrupted leaves stream and world
    alone. -/
def Opener.interrupted (opener : Opener (StateM W) σ) : Opener (StateM (Planned W)) σ where
  openAt request pin := unplanned (opener.openAt request pin)
  read stream sizes := fun w =>
    match w.1.headD [] with
    | fault :: faults => ((.error fault.1, stream), (faults :: w.1.tail, w.2))
    | [] => ((opener.read stream sizes w.2).1, (w.1.tail, (opener.read stream sizes w.2).2))

/-- An adviser that leaves the plan as it is. -/
def Adviser.unplanned (adviser : Adviser (StateM W)) : Adviser (StateM (Planned W)) where
  advise attempt candidate := SteadyFetch.unplanned (adviser.advise attempt candidate)
  pause delay := SteadyFetch.unplanned (adviser.pause delay)

theorem Plan.count_eq (plan : Plan) : plan.count = (plan.headD []).length + Plan.count plan.tail := by
  cases plan with
  | nil => rfl
  | cons faults plan => simp [count]

/-! ## Side by side -/

theorem unplanned_apply (x : StateM W α) (w : Planned W) :
    unplanned x w = ((x w.2).1, (w.1, (x w.2).2)) := rfl

@[simp] theorem unplanned_pure (a : α) : unplanned (pure a : StateM W α) = pure a := rfl

@[simp] theorem unplanned_bind (x : StateM W α) (f : α → StateM W β) :
    unplanned (x >>= f) = unplanned x >>= fun a => unplanned (f a) := rfl

/-- Whether computations that are given some number of turns come to the same without a plan and with one:
    what is settled without interruptions is settled with them, given a turn more for each; and what is
    settled with them is settled without. -/
structure Withstands (plain : Nat → StateM W (Option α))
    (planned : Nat → StateM (Planned W) (Option α)) : Prop where
  interrupted : ∀ limit w a w', plain limit w = (some a, w') → ∀ (plan : Plan) more,
    limit + plan.count ≤ more →
      ∃ rest : Plan, rest.count ≤ plan.count ∧ planned more (plan, w) = (some a, (rest, w'))
  uninterrupted : ∀ limit plan w a w'', planned limit (plan, w) = (some a, w'') →
    plain limit w = (some a, w''.2)

namespace Withstands

theorem unplanned (x : StateM W (Option α)) :
    Withstands (fun _ => x) (fun _ => SteadyFetch.unplanned x) where
  interrupted _ w a w' h plan _ _ := ⟨plan, Nat.le_refl _, by rw [SteadyFetch.unplanned, h]⟩
  uninterrupted _ plan w a w'' h := by
    obtain ⟨hresult, hworld⟩ := Prod.mk.inj h
    rw [← hworld, ← hresult]
    rfl

theorem bind {x : Nat → StateM W (Option α)} {y : Nat → StateM (Planned W) (Option α)}
    {f : Nat → α → StateM W (Option β)} {g : Nat → α → StateM (Planned W) (Option β)}
    (h : Withstands x y) (hrest : ∀ a, Withstands (f · a) (g · a)) :
    Withstands (fun limit => x limit >>= fun done => done.elim (pure none) (f limit))
      (fun limit => y limit >>= fun done => done.elim (pure none) (g limit)) where
  interrupted := by
    intro limit w b w' hsettled plan more hmore
    rw [bind_apply] at hsettled
    cases hx : x limit w with
    | mk done w₁ =>
        rw [hx] at hsettled
        cases done with
        | none => cases hsettled
        | some a =>
            obtain ⟨rest, hrestle, hy⟩ := h.interrupted limit w a w₁ hx plan more hmore
            obtain ⟨rest', hle, hg⟩ := (hrest a).interrupted limit w₁ b w' hsettled rest more (by omega)
            refine ⟨rest', Nat.le_trans hle hrestle, ?_⟩
            rw [bind_apply, hy]
            exact hg
  uninterrupted := by
    intro limit plan w b w'' hsettled
    rw [bind_apply] at hsettled
    cases hy : y limit (plan, w) with
    | mk done w₁ =>
        rw [hy] at hsettled
        cases done with
        | none => cases hsettled
        | some a =>
            rw [bind_apply, h.uninterrupted limit plan w a w₁ hy]
            exact (hrest a).uninterrupted limit w₁.1 w₁.2 b w'' hsettled

theorem map {x : Nat → StateM W (Option α)} {y : Nat → StateM (Planned W) (Option α)}
    (h : Withstands x y) (f : α → β) :
    Withstands (fun limit => Option.map f <$> x limit) (fun limit => Option.map f <$> y limit) := by
  have hbind := h.bind (f := fun _ a => pure (some (f a))) (g := fun _ a => pure (some (f a)))
    fun a => .unplanned (pure (some (f a)))
  have hmap : ∀ {V : Type} (x : StateM V (Option α)),
      (x >>= fun done => done.elim (pure none) fun a => pure (some (f a))) = Option.map f <$> x := by
    intro V x
    rw [map_eq_pure_bind]
    refine bind_congr fun done => ?_
    cases done <;> rfl
  simpa only [hmap] using hbind

end Withstands

namespace Channel

section

variable {opener : Opener (StateM W) σ} {adviser : Adviser (StateM W)} {c : Channel σ} {sizes : List Nat}
  {done : Except ReadFailure Progress × Channel σ} {w w' : W}

/-- A read that is settled is settled in the same way with another turn to go. -/
theorem rounds_more {limit : Nat} (h : rounds opener adviser limit c sizes w = (some done, w')) :
    rounds opener adviser (limit + 1) c sizes w = (some done, w') := by
  induction limit generalizing c w with
  | zero => cases h
  | succ limit ih =>
      rw [rounds_succ, bind_apply] at h ⊢
      cases hturn : (c.turn opener adviser sizes w).1 with
      | settled result c' =>
          rw [hturn] at h
          exact h
      | again c' =>
          rw [hturn] at h
          exact ih h

theorem settle_more {limit : Nat} {turn : Turn σ}
    (h : settle opener adviser sizes limit turn w = (some done, w')) :
    settle opener adviser sizes (limit + 1) turn w = (some done, w') := by
  cases turn with
  | settled result c => exact h
  | again c => exact rounds_more h

theorem recover_unplanned (adviser : Adviser (StateM W)) (c : Channel σ) (fault : Fault) :
    c.recover adviser.unplanned fault = unplanned (c.recover adviser fault) := by
  unfold recover
  rw [unplanned_bind]
  refine bind_congr fun advice => ?_
  cases advice with
  | some delay => rfl
  | none =>
      by_cases hprotocol : fault.isProtocol = true
      · simp only [hprotocol, if_true, unplanned_bind]
        refine bind_congr fun advice => ?_
        cases advice <;> rfl
      · simp only [hprotocol]
        rfl

theorem prepare_unplanned (opener : Opener (StateM W) σ) (adviser : Adviser (StateM W)) (c : Channel σ) :
    c.prepare opener.interrupted adviser.unplanned = unplanned (c.prepare opener adviser) := by
  unfold prepare
  cases c.stream with
  | some stream => rfl
  | none =>
      simp only [unplanned_bind]
      refine bind_congr fun result => ?_
      cases result with
      | error fault =>
          by_cases hgone : (c.generation.isSome && fault.isNotFound) = true
          · simp only [hgone, if_true, unplanned_pure]
          · simp only [hgone, recover_unplanned]
            rfl
      | ok opened => cases hsettle : c.settleGeneration opened.generation <;> simp [hsettle]

theorem readStream_uninterrupted {plan : Plan} (hplan : plan.headD [] = []) (c : Channel σ) (stream : σ)
    (w : W) : readStream opener.interrupted adviser.unplanned c stream sizes (plan, w) =
      unplanned (readStream opener adviser c stream sizes) (plan.tail, w) := by
  have hread : opener.interrupted.read stream sizes (plan, w) =
      unplanned (opener.read stream sizes) (plan.tail, w) := by
    simp only [Opener.interrupted, hplan]
    rfl
  unfold readStream
  rw [bind_apply, hread, unplanned_bind, bind_apply]
  generalize unplanned (opener.read stream sizes) (plan.tail, w) = read
  obtain ⟨⟨result, rest⟩, w₁⟩ := read
  cases result with
  | ok bs => rfl
  | error fault =>
      by_cases hkind : fault.kind = .interrupted
      · simp only [hkind, if_true]
        rfl
      · simp only [hkind, if_false, recover_unplanned]

/-- A read that is interrupted leaves the stream under way for the next turn. -/
theorem readStream_interrupted {plan : Plan} {fault : Interruption} {faults : List Interruption}
    (hplan : plan.headD [] = fault :: faults) (c : Channel σ) (stream : σ) (w : W) :
    readStream opener.interrupted adviser.unplanned c stream sizes (plan, w) =
      (.again (c.streaming stream), (faults :: plan.tail, w)) := by
  unfold readStream
  rw [bind_apply]
  simp only [Opener.interrupted, hplan, fault.2, if_true]
  rfl

/-- The turns of a read that is interrupted by plan come to its one turn without interruptions. -/
theorem after_readStream_planned (limit : Nat) (plan : Plan) (c : Channel σ) (stream : σ) (w : W) :
    (readStream opener.interrupted adviser.unplanned c stream sizes >>=
        settle opener.interrupted adviser.unplanned sizes (limit + (plan.headD []).length)) (plan, w) =
      (unplanned (readStream opener adviser c stream sizes) >>=
        settle opener.interrupted adviser.unplanned sizes limit) (plan.tail, w) := by
  induction hplan : plan.headD [] generalizing plan c with
  | nil => rw [bind_apply, bind_apply, readStream_uninterrupted hplan, List.length_nil, Nat.add_zero]
  | cons fault faults ih =>
      have hrest := ih (faults :: plan.tail) (c.streaming stream) rfl
      rw [bind_apply, readStream_interrupted hplan, settle, List.length_cons, ← Nat.add_assoc, rounds_succ,
        turn_eq_prepare]
      exact hrest

/-- What is settled without interruptions is settled with them. -/
theorem rounds_interrupted {limit : Nat} (h : rounds opener adviser limit c sizes w = (some done, w'))
    {plan : Plan} {more : Nat} (hmore : limit + plan.count ≤ more) : ∃ rest : Plan, rest.count ≤ plan.count ∧
      rounds opener.interrupted adviser.unplanned more c sizes (plan, w) = (some done, (rest, w')) := by
  induction limit generalizing c w plan more with
  | zero => cases h
  | succ limit ih =>
      have hsettle : ∀ turn w (plan : Plan) more,
          settle opener adviser sizes limit turn w = (some done, w') → limit + plan.count ≤ more →
            ∃ rest : Plan, rest.count ≤ plan.count ∧
              settle opener.interrupted adviser.unplanned sizes more turn (plan, w) =
                (some done, (rest, w')) := by
        intro turn w plan more h hmore
        cases turn with
        | settled result c' =>
            cases h
            exact ⟨plan, Nat.le_refl _, rfl⟩
        | again c' => exact ih h hmore
      obtain ⟨more, rfl⟩ : ∃ more', more = more' + 1 := ⟨more - 1, by omega⟩
      rw [rounds_succ, turn_eq_prepare, bind_assoc, bind_apply] at h
      rw [rounds_succ, turn_eq_prepare, prepare_unplanned, bind_assoc, bind_apply, unplanned_apply]
      generalize c.prepare opener adviser w = prepared at h ⊢
      obtain ⟨turn | ⟨c', stream⟩, w₁⟩ := prepared
      · exact hsettle turn w₁ plan more h (by omega)
      · -- the interruptions of this read take as many turns, and the rest is left for later ones
        have hcount := plan.count_eq
        obtain ⟨k, rfl⟩ : ∃ k, more = k + (plan.headD []).length :=
          ⟨more - (plan.headD []).length, by omega⟩
        obtain ⟨rest, hle, hrest⟩ := hsettle _ _ plan.tail k h (by omega)
        refine ⟨rest, by omega, ?_⟩
        rw [← hrest]
        exact after_readStream_planned k plan c' stream w₁

/-- What is settled in spite of interruptions is settled without them. -/
theorem rounds_uninterrupted {limit : Nat} {plan : Plan} {w'' : Planned W}
    (h : rounds opener.interrupted adviser.unplanned limit c sizes (plan, w) = (some done, w'')) :
    rounds opener adviser limit c sizes w = (some done, w''.2) := by
  induction limit generalizing c w plan with
  | zero => cases h
  | succ limit ih =>
      have hsettle : ∀ {turn w} {plan : Plan},
          settle opener.interrupted adviser.unplanned sizes limit turn (plan, w) = (some done, w'') →
            settle opener adviser sizes limit turn w = (some done, w''.2) := by
        intro turn w plan h
        cases turn with
        | settled result c' =>
            cases h
            rfl
        | again c' => exact ih h
      rw [rounds_succ, turn_eq_prepare, bind_assoc, bind_apply]
      rw [rounds_succ, turn_eq_prepare, prepare_unplanned, bind_assoc, bind_apply, unplanned_apply] at h
      generalize c.prepare opener adviser w = prepared at h ⊢
      obtain ⟨turn | ⟨c', stream⟩, w₁⟩ := prepared
      · exact hsettle h
      · rw [readPrepared, bind_apply] at h
        cases hplan : plan.headD [] with
        | nil =>
            rw [readStream_uninterrupted hplan] at h
            exact hsettle h
        | cons fault faults =>
            rw [readStream_interrupted hplan] at h
            -- the next turn without interruptions reads what this one would have read
            have hnext := ih h
            cases limit with
            | zero => cases hnext
            | succ limit =>
                rw [rounds_succ, turn_eq_prepare] at hnext
                exact settle_more hnext

theorem rounds_withstands (opener : Opener (StateM W) σ) (adviser : Adviser (StateM W)) (c : Channel σ)
    (sizes : List Nat) : Withstands (fun limit => rounds opener adviser limit c sizes)
      (fun limit => rounds opener.interrupted adviser.unplanned limit c sizes) :=
  ⟨fun _ _ _ _ h _ _ hmore => rounds_interrupted h hmore, fun _ _ _ _ _ h => rounds_uninterrupted h⟩

theorem advance_withstands (opener : Opener (StateM W) σ) (adviser : Adviser (StateM W)) (c : Channel σ)
    (sizes : List Nat) : Withstands (fun limit => c.advance opener adviser limit sizes)
      (fun limit => c.advance opener.interrupted adviser.unplanned limit sizes) := by
  unfold advance
  cases c.broken with
  | some reason => exact .unplanned (pure _)
  | none =>
      cases c.isOpen with
      | false => exact .unplanned (pure _)
      | true =>
          cases c.isExhausted with
          | true => exact .unplanned (pure _)
          | false =>
              cases sizes.all (· == 0) with
              | true => exact .unplanned (pure _)
              | false => exact rounds_withstands opener adviser c sizes

/-- What a call returns for a read that is settled. -/
def Call.returned (call : Call) (settled : Except ReadFailure Progress × Channel σ) :
    CallResult × Channel σ :=
  match call, settled with
  | .readOctets _, (.error failure, c) => (.octets (.error failure), c)
  | .readOctets _, (.ok (.octets bs), c) => (.octets (.ok bs), c)
  | .readOctets _, (.ok .endOfStream, c) => (.octets (.ok []), c)
  | _, (.error failure, c) => (.read (.error failure), c)
  | _, (.ok progress, c) => (.read (.ok ⟨progress, c.unreported⟩), c.takeResolved.2)

theorem perform_withstands (opener : Opener (StateM W) σ) (adviser : Adviser (StateM W)) (c : Channel σ)
    (call : Call) : Withstands (fun limit => c.perform opener adviser limit call)
      (fun limit => c.perform opener.interrupted adviser.unplanned limit call) := by
  -- a call that reads returns what became of the read
  have hread : ∀ {V : Type} (opener : Opener (StateM V) σ) (adviser : Adviser (StateM V)) limit sizes,
      c.perform opener adviser limit (.read sizes) =
        Option.map (Call.returned (.read sizes)) <$> c.advance opener adviser limit sizes := by
    intro V opener adviser limit sizes
    simp only [perform, Channel.read, bind_assoc, map_eq_pure_bind]
    refine bind_congr fun done => ?_
    rcases done with _ | ⟨failure | progress, c'⟩ <;> rfl
  have hoctets : ∀ {V : Type} (opener : Opener (StateM V) σ) (adviser : Adviser (StateM V)) limit sizes,
      c.perform opener adviser limit (.readOctets sizes) =
        Option.map (Call.returned (.readOctets sizes)) <$> c.advance opener adviser limit sizes := by
    intro V opener adviser limit sizes
    simp only [perform, readOctets, bind_assoc, map_eq_pure_bind]
    refine bind_congr fun done => ?_
    rcases done with _ | ⟨failure | bs | _, c'⟩ <;> rfl
  cases call with
  | read sizes =>
      simp only [hread]
      exact (advance_withstands opener adviser c sizes).map _
  | readOctets sizes =>
      simp only [hoctets]
      exact (advance_withstands opener adviser c sizes).map _
  | takeResolved => exact .unplanned (pure _)
  | close => exact .unplanned (pure _)

end

/-! ## Any calls -/

/-- What calls returned, and the channel after them, if all of them were settled. -/
def allSettled (ran : List CallResult × Option (Channel σ)) : Option (List CallResult × Channel σ) :=
  ran.2.map (Prod.mk ran.1)

theorem allSettled_performEach_cons {m : Type → Type} [Monad m] [LawfulMonad m] (opener : Opener m σ)
    (adviser : Adviser m) (limit : Nat) (c : Channel σ) (call : Call) (calls : List Call) :
    allSettled <$> c.performEach opener adviser limit (call :: calls) =
      c.perform opener adviser limit call >>= fun done => done.elim (pure none) fun settled =>
        Option.map (fun ran => (settled.1 :: ran.1, ran.2)) <$>
          (allSettled <$> settled.2.performEach opener adviser limit calls) := by
  simp only [performEach, map_eq_pure_bind, bind_assoc]
  refine bind_congr fun done => ?_
  rcases done with _ | ⟨result, c'⟩
  · simp [allSettled]
  · simp only [Option.elim_some, bind_assoc, pure_bind]
    refine bind_congr fun ran => ?_
    rcases ran with ⟨results, _ | last⟩ <;> rfl

theorem performEach_withstands (opener : Opener (StateM W) σ) (adviser : Adviser (StateM W))
    (c : Channel σ) (calls : List Call) :
    Withstands (fun limit => allSettled <$> c.performEach opener adviser limit calls)
      (fun limit => allSettled <$> c.performEach opener.interrupted adviser.unplanned limit calls) := by
  induction calls generalizing c with
  | nil => exact .unplanned (pure _)
  | cons call calls ih =>
      simp only [allSettled_performEach_cons]
      exact (perform_withstands opener adviser c call).bind fun settled => (ih settled.2).map _

theorem map_allSettled_apply {V : Type} (x : StateM V (List CallResult × Option (Channel σ))) (w w' : V)
    (results : List CallResult) (last : Channel σ) :
    (allSettled <$> x) w = (some (results, last), w') ↔ x w = ((results, some last), w') := by
  show (allSettled (x w).1, (x w).2) = _ ↔ _
  obtain ⟨⟨results', last?⟩, w''⟩ := x w
  constructor
  · intro h
    obtain ⟨hran, rfl⟩ := Prod.mk.inj h
    obtain ⟨last', hlast, hsame⟩ := Option.map_eq_some_iff.1 hran
    obtain ⟨rfl, rfl⟩ := Prod.mk.inj hsame
    obtain rfl : last? = some last' := hlast
    rfl
  · intro h
    obtain ⟨hran, rfl⟩ := Prod.mk.inj h
    obtain ⟨rfl, rfl⟩ := Prod.mk.inj hran
    rfl

/-- **Interruptions cannot be seen.** Whatever opener and adviser answer and whatever calls are made to
    whatever channel: if all of them are settled, they are settled as well if reads of streams are
    interrupted before they give their results, each any number of times, with one turn more for each
    interruption; and what is settled in spite of interruptions is settled without them. The calls return
    the same in both runs, and leave the same channel behind, which has asked for the same opens, reads and
    advice and was answered the same. -/
theorem performEach_interrupted (opener : Opener (StateM W) σ) (adviser : Adviser (StateM W))
    (c : Channel σ) (calls : List Call) (plan : Plan) (w : Watched W σ) (limit : Nat)
    (results : List CallResult) (last : Channel σ) (w' : Watched W σ) :
    (c.performEach opener.watched adviser.watched limit calls w = ((results, some last), w') →
      ∃ rest : Plan,
        c.performEach opener.watched.interrupted adviser.watched.unplanned (limit + plan.count) calls
          (plan, w) = ((results, some last), (rest, w'))) ∧
    ∀ rest : Plan,
      c.performEach opener.watched.interrupted adviser.watched.unplanned limit calls (plan, w) =
          ((results, some last), (rest, w')) →
        c.performEach opener.watched adviser.watched limit calls w = ((results, some last), w') := by
  have hwithstands := performEach_withstands opener.watched adviser.watched c calls
  constructor
  · intro h
    obtain ⟨rest, -, hrest⟩ := hwithstands.interrupted limit w (results, last) w'
      ((map_allSettled_apply _ w w' results last).2 h) plan (limit + plan.count) (Nat.le_refl _)
    exact ⟨rest, (map_allSettled_apply _ (plan, w) (rest, w') results last).1 hrest⟩
  · intro rest h
    have hplain := hwithstands.uninterrupted limit plan w (results, last) (rest, w')
      ((map_allSettled_apply _ (plan, w) (rest, w') results last).2 h)
    exact (map_allSettled_apply _ w w' results last).1 hplain

/-- A stream that breaks after an octet, and one that gives the rest. -/
def rehearsalOfBreak : Rehearsal where
  script :=
    [⟨none, some 7, some 1, some (.bare .connectionReset), 0, none, false, false⟩,
      ⟨none, some 7, none, none, 0, none, false, false⟩]
  advice := .policy (.immediate 2)

/-- Three reads in two turns each, with the first read of a stream interrupted once, the one that breaks it
    twice, and the one that finds the end once more. -/
theorem performEach_interrupted_rehearsalOfBreak :
    let calls : List Call := [.read [2], .read [2], .read [2]]
    let interruption : Interruption := ⟨.bare .interrupted, rfl⟩
    let plan : Plan := [[interruption], [interruption, interruption], [], [interruption]]
    let channel : Channel ScriptedStream := start ⟨⟨"b", "o", none⟩, {}, .all⟩
    let w : Watched Rehearsal ScriptedStream := ([], rehearsalOfBreak)
    let plain := channel.performEach (Rehearsal.opener [1, 2, 3]).watched Rehearsal.adviser.watched 2 calls w
    (plain.1.1.map CallResult.octetsOf = [[1], [2, 3], []] ∧ plain.1.2.isSome = true) ∧
      ∃ rest : Plan, channel.performEach (Rehearsal.opener [1, 2, 3]).watched.interrupted
        Rehearsal.adviser.watched.unplanned (2 + plan.count) calls (plan, w) = (plain.1, (rest, plain.2)) := by
  intro calls interruption plan channel w plain
  have hplain : plain.1.1.map CallResult.octetsOf = [[1], [2, 3], []] ∧ plain.1.2.isSome = true := by
    decide +kernel
  have hran : channel.performEach (Rehearsal.opener [1, 2, 3]).watched Rehearsal.adviser.watched 2 calls w =
      plain := rfl
  clear_value plain
  obtain ⟨⟨results, last?⟩, w'⟩ := plain
  obtain ⟨last, rfl⟩ := Option.isSome_iff_exists.1 hplain.2
  obtain ⟨rest, hrest⟩ := (performEach_interrupted _ _ channel calls plan w 2 results last w').1 hran
  exact ⟨hplain, rest, hrest⟩

end Channel

end SteadyFetch
