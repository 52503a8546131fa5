import SteadyFetch.Channel.Drain
import SteadyFetch.Proofs.Delivery

set_option autoImplicit false

/-! # Invariants of channels

What a channel does to opener and adviser is a matter of few steps: it opens at its position, it reads
from the stream under way, it asks whether to try again. A claim about a channel and the world is an
`Invariant`; it is `Kept` if each of these steps keeps it. From that it follows through turns and reads
(`after_advance`), and for any list of calls to a channel (`after_performEach`), whatever opener and
adviser are. -/

namespace SteadyFetch

namespace Channel

variable {W σ : Type}

/-! ## What one step makes of a channel -/

/-- The channel once it cannot go on. -/
def brokenBy (c : Channel σ) (reason : ResumptionReason) : Channel σ :=
  { c with stream := none, broken := some reason }

/-- The channel with a stream under way. -/
def streaming (c : Channel σ) (stream : σ) : Channel σ := { c with stream := some stream }

/-- The channel after octets were delivered. -/
def advanced (c : Channel σ) (stream : σ) (bs : Bytes) : Channel σ :=
  { c with stream := some stream, position := c.position + bs.length, failures := 0 }

/-- The channel after a turn. -/
def Turn.channel : Turn σ → Channel σ
  | .settled _ c => c
  | .again c => c

/-- Whether the channel would go on reading. -/
structure Ready (c : Channel σ) : Prop where
  isOpen_eq : c.isOpen = true
  broken_eq : c.broken = none
  room : ∀ stop ∈ c.request.range.stop?, c.position < stop

/-- Taking up a generation changes nothing but what is known of it, and that agrees with what was
    reported. -/
theorem settleGeneration_eq {c c' : Channel σ} {reported : Option Int}
    (h : c.settleGeneration reported = .ok c') :
    c' = { c with generation := c'.generation, unreported := c'.unreported } ∧
      c'.generation = c.generation.or reported ∧ ∀ g ∈ reported, c'.generation = some g := by
  unfold settleGeneration at h
  cases hgeneration : c.generation with
  | none =>
      cases reported with
      | none =>
          simp only [hgeneration, Except.ok.injEq] at h
          subst h
          exact ⟨rfl, hgeneration, nofun⟩
      | some g =>
          simp only [hgeneration, Except.ok.injEq] at h
          subst h
          exact ⟨rfl, rfl, fun _ hg => hg⟩
  | some pinned =>
      cases reported with
      | none =>
          simp only [hgeneration, Except.ok.injEq] at h
          subst h
          exact ⟨rfl, hgeneration, nofun⟩
      | some g =>
          simp only [hgeneration] at h
          split at h
          · next hsame =>
            obtain rfl := Except.ok.inj h
            exact ⟨rfl, hgeneration, fun _ hg => hgeneration.trans (hsame ▸ hg)⟩
          · cases h

/-- Only a channel that knows a generation breaks over another one, and it learns nothing from that. -/
theorem settleGeneration_error {c : Channel σ} {reported : Option Int} {reason : ResumptionReason}
    (h : c.settleGeneration reported = .error reason) : c.generation = c.generation.or reported := by
  cases hgeneration : c.generation with
  | some pinned => rfl
  | none => cases reported <;> simp [settleGeneration, hgeneration] at h

/-! ## The parts of a turn -/

/-- Brings a stream under way, the one there is or a new one; what came of the turn if that fails. -/
def prepare {m : Type → Type} [Monad m] (opener : Opener m σ) (adviser : Adviser m) (c : Channel σ) :
    m (Except (Turn σ) (Channel σ × σ)) :=
  match c.stream with
  | some stream => return .ok (c, stream)
  | none => do
    match ← opener.openAt (c.request.startingAt c.position) c.generation with
    | .error fault =>
      if c.generation.isSome && fault.isNotFound then return .error (c.breakOff .notFound)
      else return .error (← recover adviser c fault)
    | .ok opened =>
      match c.settleGeneration opened.generation with
      | .error reason => return .error (c.breakOff reason)
      | .ok c => return .ok (c, opened.stream)

/-- Reads from the stream that was brought under way, if one was. -/
def readPrepared {m : Type → Type} [Monad m] (opener : Opener m σ) (adviser : Adviser m)
    (sizes : List Nat) : Except (Turn σ) (Channel σ × σ) → m (Turn σ)
  | .error turn => return turn
  | .ok (c, stream) => readStream opener adviser c stream sizes

/-- What is left of a read after a turn. -/
def settle {m : Type → Type} [Monad m] (opener : Opener m σ) (adviser : Adviser m) (sizes : List Nat)
    (limit : Nat) : Turn σ → m (Option (Except ReadFailure Progress × Channel σ))
  | .settled result c => return some (result, c)
  | .again c => rounds opener adviser limit c sizes

section

variable {m : Type → Type} [Monad m] (opener : Opener m σ) (adviser : Adviser m) (c : Channel σ)
  (sizes : List Nat)

theorem turn_eq_prepare [LawfulMonad m] : c.turn opener adviser sizes =
    c.prepare opener adviser >>= readPrepared opener adviser sizes := by
  unfold turn prepare
  cases c.stream with
  | some stream => simp [readPrepared]
  | none =>
      simp only [openAndRead, bind_assoc]
      refine bind_congr fun result => ?_
      cases result with
      | error fault =>
          by_cases hgone : (c.generation.isSome && fault.isNotFound) = true <;> simp [hgone, readPrepared]
      | ok opened =>
          cases hsettle : c.settleGeneration opened.generation <;> simp [hsettle, readPrepared]

theorem rounds_succ (limit : Nat) : rounds opener adviser (limit + 1) c sizes =
    c.turn opener adviser sizes >>= settle opener adviser sizes limit := by
  unfold rounds
  refine bind_congr fun turn => ?_
  cases turn <;> rfl

end

/-! ## Invariants -/

/-- A claim about a channel that has delivered `got` and the world it is read in: what holds between
    any two steps (`Holds`), and what holds while it is open whether a fault ends the read
    (`Faulted`). -/
structure Invariant (W σ : Type) where
  Holds : Bytes → Channel σ → W → Prop
  Faulted : Fault → Bytes → Channel σ → W → Prop

/-- Each step of a channel that would go on reading keeps the invariant. -/
structure Invariant.Kept (inv : Invariant W σ) (opener : Opener (StateM W) σ)
    (adviser : Adviser (StateM W)) : Prop where
  openAt : ∀ got c w, inv.Holds got c w → c.Ready → c.stream = none →
    After (opener.openAt (c.request.startingAt c.position) c.generation) w fun result w' =>
      match result with
      | .ok opened =>
        match c.settleGeneration opened.generation with
        | .ok c' => inv.Holds got (c'.streaming opened.stream) w'
        | .error reason => inv.Holds got (c.brokenBy reason) w'
      | .error fault =>
        if c.generation.isSome && fault.isNotFound then inv.Holds got (c.brokenBy .notFound) w'
        else inv.Faulted fault got c.failed w'
  read : ∀ got c w stream sizes, inv.Holds got c w → c.Ready → c.stream = some stream →
    (∃ size ∈ sizes, 0 < size) →
    After (opener.read stream sizes) w fun result w' =>
      match result with
      | (.ok bs, stream) =>
        if bs = [] then inv.Holds got c.close w' else inv.Holds (got ++ bs) (c.advanced stream bs) w'
      | (.error fault, stream) =>
        if fault.kind = .interrupted then inv.Holds got (c.streaming stream) w'
        else inv.Faulted (.io fault) got c.failed w'
  allows : ∀ got c w fault, inv.Faulted fault got c w →
    After (adviser.allows c.failures fault) w fun allowed w' =>
      if allowed then inv.Holds got c w' else inv.Faulted fault got c w'
  exhausted : ∀ got c w, inv.Holds got c w → c.isOpen = true → c.broken = none →
    c.isExhausted = true → inv.Holds got c.close w
  handed : ∀ got c w, inv.Holds got c w → inv.Holds got { c with unreported := none } w

/-- What holds after a read of a channel that has delivered `got` before: octets were added to them, or
    the channel was closed at its end, and it is not broken; a failure says that it is, or is what became
    of a fault. -/
def Invariant.Reads (inv : Invariant W σ) (got : Bytes) (result : Except ReadFailure Progress)
    (c : Channel σ) (w : W) : Prop :=
  match result with
  | .ok (.octets bs) => inv.Holds (got ++ bs) c w ∧ c.broken = none
  | .ok .endOfStream => inv.Holds got c w ∧ c.isOpen = false ∧ c.broken = none
  | .error failure =>
    (∃ reason, inv.Holds got c w ∧ c.broken = some reason ∧ failure = c.resumptionFailure reason) ∨
      ∃ fault, inv.Faulted fault got c w ∧ failure = fault.readFailure

/-- What holds after a turn. -/
def Invariant.Turns (inv : Invariant W σ) (got : Bytes) (turn : Turn σ) (w : W) : Prop :=
  match turn with
  | .settled result c => inv.Reads got result c w
  | .again c => inv.Holds got c w ∧ c.Ready

variable {inv : Invariant W σ} {opener : Opener (StateM W) σ} {adviser : Adviser (StateM W)}
  {c : Channel σ} {w : W} {got : Bytes} {sizes : List Nat}

namespace Invariant

/-- A fault settles the read, or the attempt is made again. -/
theorem Kept.after_recover (hk : inv.Kept opener adviser) {fault : Fault}
    (h : inv.Faulted fault got c.failed w) (hready : c.Ready) :
    After (c.recover adviser fault) w (inv.Turns got) := by
  rw [recover_eq_allows]
  refine After.bind (hk.allows got c.failed w fault h) ?_
  intro allowed w' hallowed
  cases allowed with
  | true => exact ⟨hallowed, hready.isOpen_eq, hready.broken_eq, hready.room⟩
  | false => exact Or.inr ⟨fault, hallowed, rfl⟩

theorem Kept.after_readStream (hk : inv.Kept opener adviser) {stream : σ}
    (h : inv.Holds got (c.streaming stream) w) (hready : c.Ready) (hsizes : ∃ size ∈ sizes, 0 < size) :
    After (readStream opener adviser c stream sizes) w (inv.Turns got) := by
  have hstreaming : (c.streaming stream).Ready := ⟨hready.isOpen_eq, hready.broken_eq, hready.room⟩
  unfold readStream
  refine After.bind (hk.read got _ w stream sizes h hstreaming rfl hsizes) ?_
  rintro ⟨result, stream'⟩ w' hread
  cases result with
  | ok bs =>
      simp only at hread ⊢
      unfold deliver
      by_cases hempty : bs = []
      · rw [if_pos hempty] at hread
        rw [if_pos (List.isEmpty_iff.2 hempty)]
        exact ⟨hread, rfl, hready.broken_eq⟩
      · rw [if_neg hempty] at hread
        rw [if_neg (fun he => hempty (List.isEmpty_iff.1 he))]
        exact ⟨hread, hready.broken_eq⟩
  | error fault =>
      by_cases hkind : fault.kind = .interrupted
      · simp only [hkind, if_true] at hread ⊢
        exact ⟨hread, hready.isOpen_eq, hready.broken_eq, hready.room⟩
      · simp only [hkind, if_false] at hread ⊢
        exact hk.after_recover hread hready

theorem Kept.after_openAndRead (hk : inv.Kept opener adviser) (h : inv.Holds got c w)
    (hready : c.Ready) (hstream : c.stream = none) (hsizes : ∃ size ∈ sizes, 0 < size) :
    After (openAndRead opener adviser c sizes) w (inv.Turns got) := by
  unfold openAndRead
  refine After.bind (hk.openAt got c w h hready hstream) ?_
  intro result w' hopened
  cases result with
  | error fault =>
      by_cases hgone : (c.generation.isSome && fault.isNotFound) = true
      · simp only [hgone, if_true] at hopened ⊢
        exact Or.inl ⟨.notFound, hopened, rfl, rfl⟩
      · simp only [hgone] at hopened ⊢
        exact hk.after_recover hopened hready
  | ok opened =>
      cases hsettle : c.settleGeneration opened.generation with
      | error reason =>
          simp only [hsettle] at hopened ⊢
          exact Or.inl ⟨reason, hopened, rfl, rfl⟩
      | ok c' =>
          simp only [hsettle] at hopened ⊢
          refine hk.after_readStream hopened ?_ hsizes
          rw [(settleGeneration_eq hsettle).1]
          exact ⟨hready.isOpen_eq, hready.broken_eq, hready.room⟩

theorem Kept.after_turn (hk : inv.Kept opener adviser) (h : inv.Holds got c w) (hready : c.Ready)
    (hsizes : ∃ size ∈ sizes, 0 < size) :
    After (c.turn opener adviser sizes) w (inv.Turns got) := by
  unfold turn
  cases hstream : c.stream with
  | some stream =>
      refine hk.after_readStream ?_ hready hsizes
      rwa [streaming, ← hstream]
  | none => exact hk.after_openAndRead h hready hstream hsizes

/-- What holds after a read; one that is not settled leaves some channel behind. -/
def Advances (inv : Invariant W σ) (got : Bytes)
    (read : Option (Except ReadFailure Progress × Channel σ)) (w : W) : Prop :=
  match read with
  | some (result, c) => inv.Reads got result c w
  | none => ∃ c, inv.Holds got c w

theorem Kept.after_rounds (hk : inv.Kept opener adviser) (limit : Nat) (h : inv.Holds got c w)
    (hready : c.Ready) (hsizes : ∃ size ∈ sizes, 0 < size) :
    After (rounds opener adviser limit c sizes) w (inv.Advances got) := by
  induction limit generalizing c w with
  | zero => exact ⟨c, h⟩
  | succ limit ih =>
      unfold rounds
      refine After.bind (hk.after_turn h hready hsizes) ?_
      intro turn w' hturn
      cases turn with
      | settled result c' => exact hturn
      | again c' => exact ih hturn.1 hturn.2

/-- **A read keeps every invariant that its steps keep.** -/
theorem Kept.after_advance (hk : inv.Kept opener adviser) (limit : Nat) (h : inv.Holds got c w)
    (sizes : List Nat) : After (c.advance opener adviser limit sizes) w (inv.Advances got) := by
  unfold advance
  cases hbroken : c.broken with
  | some reason => exact Or.inl ⟨reason, h, hbroken, rfl⟩
  | none =>
      by_cases hopen : c.isOpen = true
      · by_cases hexhausted : c.isExhausted = true
        · simp only [hopen, hexhausted, Bool.not_true, Bool.false_eq_true, if_false, if_true]
          exact ⟨hk.exhausted got c w h hopen hbroken hexhausted, rfl, hbroken⟩
        · by_cases hfull : sizes.all (· == 0) = true
          · simp only [hopen, hexhausted, hfull, Bool.not_true, Bool.false_eq_true, if_false, if_true]
            refine ⟨?_, hbroken⟩
            rwa [List.append_nil]
          · simp only [hopen, hexhausted, hfull, Bool.not_true, Bool.false_eq_true, if_false]
            refine hk.after_rounds limit h ⟨hopen, hbroken, fun stop hstop => ?_⟩ ?_
            · rw [Option.mem_def] at hstop
              simpa [isExhausted, hstop] using hexhausted
            · obtain ⟨size, hsize, hne⟩ := List.all_eq_false.1 (Bool.eq_false_iff.2 hfull)
              exact ⟨size, hsize, Nat.pos_of_ne_zero fun hzero => hne (beq_iff_eq.2 hzero)⟩
      · rw [Bool.not_eq_true] at hopen
        simp only [hopen, Bool.not_false, if_true]
        exact ⟨h, hopen, hbroken⟩

theorem Kept.after_read (hk : inv.Kept opener adviser) (limit : Nat) (h : inv.Holds got c w)
    (sizes : List Nat) :
    After (c.read opener adviser limit sizes) w fun read w' =>
      match read with
      | some (result, c') => inv.Reads got (result.map Outcome.progress) c' w'
      | none => ∃ c', inv.Holds got c' w' := by
  unfold Channel.read
  refine After.bind (hk.after_advance limit h sizes) ?_
  rintro read w' hread
  rcases read with _ | ⟨failure | progress, c'⟩
  · exact hread
  · exact hread
  · cases progress with
    | octets bs => exact ⟨hk.handed _ c' w' hread.1, hread.2⟩
    | endOfStream => exact ⟨hk.handed _ c' w' hread.1, hread.2⟩

theorem Kept.after_readOctets (hk : inv.Kept opener adviser) (limit : Nat) (h : inv.Holds got c w)
    (sizes : List Nat) :
    After (c.readOctets opener adviser limit sizes) w fun read w' =>
      match read with
      | some (result, c') => inv.Reads got (result.map Progress.octets) c' w'
      | none => ∃ c', inv.Holds got c' w' := by
  unfold Channel.readOctets
  refine After.bind (hk.after_advance limit h sizes) ?_
  rintro read w' hread
  rcases read with _ | ⟨failure | bs | _, c'⟩
  · exact hread
  · exact hread
  · exact hread
  · refine ⟨?_, hread.2.2⟩
    rw [List.append_nil]
    exact hread.1

end Invariant

/-! ## Any calls -/

/-- A call to a channel. -/
inductive Call where
  /-- Reads into destinations of the given sizes. -/
  | read (sizes : List Nat)
  /-- The same, as a plain stream. -/
  | readOctets (sizes : List Nat)
  | takeResolved
  | close
  deriving DecidableEq, Repr

/-- What a call returns. -/
inductive CallResult where
  | read (result : Except ReadFailure Outcome)
  | octets (result : Except ReadFailure Bytes)
  | resolved (object : Option ObjectRef)
  | closed

/-- What came of a read, if the call was one. -/
def CallResult.progress? : CallResult → Option (Except ReadFailure Progress)
  | .read result => some (result.map Outcome.progress)
  | .octets result => some (result.map .octets)
  | _ => none

/-- The octets that a call delivers. -/
def CallResult.octetsOf (result : CallResult) : Bytes := result.progress?.elim [] deliveredBy

/-- Makes a call: what it returns and the channel after it; none for a read that is not settled. -/
def perform {m : Type → Type} [Monad m] (opener : Opener m σ) (adviser : Adviser m) (limit : Nat)
    (c : Channel σ) (call : Call) : m (Option (CallResult × Channel σ)) := do
  match call with
  | .read sizes =>
    match ← c.read opener adviser limit sizes with
    | none => return none
    | some (result, c) => return some (.read result, c)
  | .readOctets sizes =>
    match ← c.readOctets opener adviser limit sizes with
    | none => return none
    | some (result, c) => return some (.octets result, c)
  | .takeResolved =>
    let (object, c) := c.takeResolved
    return some (.resolved object, c)
  | .close => return some (.closed, c.close)

/-- Makes one call after the other: what they return, and the channel after the last one, unless a read
    is not settled, which ends it. -/
def performEach {m : Type → Type} [Monad m] (opener : Opener m σ) (adviser : Adviser m) (limit : Nat)
    (c : Channel σ) : List Call → m (List CallResult × Option (Channel σ))
  | [] => return ([], some c)
  | call :: calls => do
    match ← c.perform opener adviser limit call with
    | none => return ([], none)
    | some (result, c) =>
      let (results, last) ← c.performEach opener adviser limit calls
      return (result :: results, last)

namespace Invariant

/-- An invariant that outlasts failed reads and, in the form for a channel that was closed, `close`. -/
structure Outlasts (inv : Bool → Invariant W σ) (opener : Opener (StateM W) σ)
    (adviser : Adviser (StateM W)) : Prop where
  kept : ∀ closed, (inv closed).Kept opener adviser
  resumed : ∀ closed fault got c w, (inv closed).Faulted fault got c w → (inv closed).Holds got c w
  close : ∀ closed got c w, (inv closed).Holds got c w → (inv true).Holds got c.close w

variable {closed : Bool}

/-- What was delivered before and by a read is what was delivered after it. -/
theorem Reads.holds {result : Except ReadFailure Progress} (h : inv.Reads got result c w)
    (hresumed : ∀ fault got c w, inv.Faulted fault got c w → inv.Holds got c w) :
    inv.Holds (got ++ deliveredBy result) c w := by
  have hnil : got ++ [] = got := List.append_nil got
  rcases result with failure | bs | _
  · show inv.Holds (got ++ []) c w
    rw [hnil]
    rcases h with ⟨_, h, -⟩ | ⟨fault, h, -⟩
    · exact h
    · exact hresumed fault got c w h
  · exact h.1
  · show inv.Holds (got ++ []) c w
    rw [hnil]
    exact h.1

/-- What a call makes of a channel; `close` may turn the invariant into another one. -/
theorem Kept.after_perform (hk : inv.Kept opener adviser) {inv' : Invariant W σ}
    (hclose : ∀ got c w, inv.Holds got c w → inv'.Holds got c.close w) (limit : Nat)
    (h : inv.Holds got c w) (call : Call) :
    After (c.perform opener adviser limit call) w fun done w' =>
      match done with
      | none => ∃ c', inv.Holds got c' w'
      | some (result, c') =>
        match result.progress? with
        | some progress => inv.Reads got progress c' w'
        | none => (if call = .close then inv' else inv).Holds got c' w' := by
  cases call with
  | read sizes =>
      unfold perform
      refine After.bind (hk.after_read limit h sizes) ?_
      rintro read w' hread
      rcases read with _ | ⟨result, c'⟩
      · exact hread
      · exact hread
  | readOctets sizes =>
      unfold perform
      refine After.bind (hk.after_readOctets limit h sizes) ?_
      rintro read w' hread
      rcases read with _ | ⟨result, c'⟩
      · exact hread
      · exact hread
  | takeResolved => exact hk.handed got c w h
  | close => exact hclose got c w h

/-- **Any calls keep an invariant that outlasts them**, in the form for a closed channel only once it was
    closed. -/
theorem Outlasts.after_performEach {inv : Bool → Invariant W σ} (ho : Outlasts inv opener adviser)
    (limit : Nat) (h : (inv closed).Holds got c w) (calls : List Call) :
    After (c.performEach opener adviser limit calls) w fun ran w' => ∃ closed' c',
      (inv closed').Holds (got ++ (ran.1.map CallResult.octetsOf).flatten) c' w' ∧
        (closed' = true → closed = true ∨ .close ∈ calls) ∧ ∀ last ∈ ran.2, last = c' := by
  induction calls generalizing closed c w got with
  | nil =>
      refine ⟨closed, c, ?_, Or.inl, by rintro _ ⟨⟩; rfl⟩
      show (inv closed).Holds (got ++ []) c w
      rwa [List.append_nil]
  | cons call calls ih =>
      unfold performEach
      refine After.bind ((ho.kept closed).after_perform (ho.close closed) limit h call) ?_
      rintro done w₁ hdone
      rcases done with _ | ⟨result, c₁⟩
      · obtain ⟨c', hc'⟩ := hdone
        refine ⟨closed, c', ?_, Or.inl, by rintro _ ⟨⟩⟩
        show (inv closed).Holds (got ++ []) c' w₁
        rwa [List.append_nil]
      · have hnext : ∃ next, (inv next).Holds (got ++ result.octetsOf) c₁ w₁ ∧
            (next = true → closed = true ∨ call = .close) := by
          unfold CallResult.octetsOf
          cases hprogress : result.progress? with
          | some progress =>
              simp only [hprogress] at hdone
              exact ⟨closed, hdone.holds (ho.resumed closed), Or.inl⟩
          | none =>
              simp only [hprogress] at hdone
              rw [Option.elim_none, List.append_nil]
              by_cases hcall : call = .close
              · rw [if_pos hcall] at hdone
                exact ⟨true, hdone, fun _ => Or.inr hcall⟩
              · rw [if_neg hcall] at hdone
                exact ⟨closed, hdone, Or.inl⟩
        obtain ⟨next, hholds, hnext⟩ := hnext
        refine After.bind (ih hholds) ?_
        rintro ⟨results, last⟩ w₂ ⟨closed', c', hholds, hclosed, hlast⟩
        refine ⟨closed', c', ?_, fun htrue => ?_, hlast⟩
        · rw [List.append_assoc] at hholds
          exact hholds
        · rcases hclosed htrue with hbefore | hmem
          · rcases hnext hbefore with hbefore | rfl
            · exact Or.inl hbefore
            · exact Or.inr List.mem_cons_self
          · exact Or.inr (List.mem_cons_of_mem _ hmem)

end Invariant

end Channel

end SteadyFetch
