import SteadyFetch.Channel
import SteadyFetch.Proofs.Delivery

set_option autoImplicit false

/-! # Reading to the end

A channel that retries by a policy comes to the end of what it reads, unless as many attempts in a row
fail as the policy allows. What counts as an attempt in a row is not left to the channel: `noted` keeps
a log of what streams do, and `WearsOut` looks at that log alone.

The argument follows the failures. As long as nothing is delivered, every turn that is not the last one
adds a failed attempt to the log, and the channel counts no more failures than stand there; so it gives
up, or runs out of turns, only when the log has enough of them. -/

namespace SteadyFetch

/-! ## Reading into given destinations -/

/-- Reads into one list of destinations after the other until the end or a failure; none if there are
    not enough of them, or a read is never settled. -/
def Channel.drainInto {m : Type → Type} {σ : Type} [Monad m] (opener : Opener m σ)
    (adviser : Adviser m) (limit : Nat) :
    List (List Nat) → Channel σ → m (Option (Bytes × Option ReadFailure × Channel σ))
  | [], _ => return none
  | sizes :: destinations, c => do
    match ← c.read opener adviser limit sizes with
    | none => return none
    | some (.error failure, c) => return some ([], some failure, c)
    | some (.ok outcome, c) =>
      match outcome.progress with
      | .endOfStream => return some ([], none, c)
      | .octets bs =>
        match ← drainInto opener adviser limit destinations c with
        | none => return none
        | some (rest, failure, c) => return some (bs ++ rest, failure, c)

/-! ## A log of attempts -/

/-- What came of an attempt to open or to read. -/
inductive Mark where
  | failed
  | delivered
  deriving DecidableEq, Repr

/-- A world with a log, the latest mark first. -/
abbrev Noted (W : Type) := List Mark × W

variable {W σ : Type}

/-- Acts on the world and leaves the log as it is. -/
def unnoted {α : Type} (x : StateM W α) : StateM (Noted W) α :=
  fun w => ((x w.2).1, (w.1, (x w.2).2))

/-- The mark of an open: one that succeeds is not over yet. -/
def marksOfOpen (result : Except Fault (Opened σ)) : List Mark :=
  match result with
  | .ok _ => []
  | .error _ => [.failed]

/-- The mark of a read; neither an end nor an interruption leaves one. -/
def marksOfRead (result : Except IoFault Bytes) : List Mark :=
  match result with
  | .ok [] => []
  | .ok (_ :: _) => [.delivered]
  | .error fault => if fault.kind = .interrupted then [] else [.failed]

/-- An opener that keeps a log of what it does. -/
def Opener.noted (opener : Opener (StateM W) σ) : Opener (StateM (Noted W)) σ where
  openAt request pin := fun w =>
    let (result, w') := opener.openAt request pin w.2
    (result, (marksOfOpen result ++ w.1, w'))
  read stream sizes := fun w =>
    let (result, w') := opener.read stream sizes w.2
    (result, (marksOfRead result.1 ++ w.1, w'))

/-- Whether at some time so many attempts in a row failed, without an octet delivered in between. -/
def WearsOut (attempts : Nat) (log : List Mark) : Prop :=
  List.replicate attempts Mark.failed <:+: log

/-- The attempts that a policy allows; the first one is always made. -/
def RetryPolicy.allowed (p : RetryPolicy) : Nat := max 1 p.maxAttempts

/-! ## Openers of one version -/

/-- The octets before the end of a range. -/
def ByteRange.before (r : ByteRange) (content : Bytes) : Bytes :=
  match r.stop? with
  | some stop => content.take stop
  | none => content

/-- A fault that may pass: worth another attempt, and not that the object is gone. -/
def Passing (fault : Fault) : Prop :=
  fault.faultClass.isTransient = true ∧ fault.isNotFound = false

/-- An opener that only ever serves one version, and only fails for reasons that may pass. Streams hold
    what is asked for, `At` from an offset on, and end only at the end of it. -/
structure Steady (content : Bytes) (live : Int) (At : σ → Nat → Prop) (request : ReadRequest)
    (opener : Opener (StateM W) σ) : Prop where
  openAt : ∀ offset pin w, offset ≤ (request.range.before content).length →
    (∀ stop ∈ request.range.stop?, offset < stop) → (pin = none ∨ pin = some live) →
    After (opener.openAt (request.startingAt offset) pin) w fun result _ =>
      match result with
      | .ok opened => opened.generation = some live ∧ At opened.stream offset
      | .error fault => Passing fault
  read : ∀ stream offset sizes w, At stream offset → (∃ size ∈ sizes, 0 < size) →
    After (opener.read stream sizes) w fun result _ =>
      match result with
      | (.ok bs, stream) =>
        bs <+: (request.range.before content).drop offset ∧
          (bs = [] → (request.range.before content).drop offset = []) ∧ At stream (offset + bs.length)
      | (.error fault, _) => fault.kind ≠ .interrupted ∧ Passing (.io fault)

namespace Channel

/-! ## Turns -/

/-- A channel on its way: it stands within what is to be read, at the version there is, and has counted
    at most `count` failures, which are the latest marks of the log. -/
structure UnderWay (content : Bytes) (live : Int) (At : σ → Nat → Prop) (request : ReadRequest)
    (c : Channel σ) (log : List Mark) (count : Nat) : Prop where
  request_eq : c.request = request
  position_le : c.position ≤ (request.range.before content).length
  isOpen_eq : c.isOpen = true
  broken_eq : c.broken = none
  generation_eq : c.generation = none ∨ c.generation = some live
  at_position : ∀ stream ∈ c.stream, At stream c.position ∧ c.generation = some live
  failures_le : c.failures ≤ count
  log_eq : List.replicate count Mark.failed <+: log

/-- What can come of a read that began where `c` stands: octets that are next, the end if there are
    none, or a failure after too many attempts. -/
def Comes (content : Bytes) (live : Int) (At : σ → Nat → Prop) (request : ReadRequest)
    (attempts : Nat) (c : Channel σ) (log : List Mark) (result : Except ReadFailure Progress)
    (c' : Channel σ) : Prop :=
  match result with
  | .ok (.octets bs) => bs ≠ [] ∧ bs <+: (request.range.before content).drop c.position ∧
      c'.position = c.position + bs.length ∧ ∃ count, UnderWay content live At request c' log count
  | .ok .endOfStream => (request.range.before content).drop c.position = []
  | .error _ => WearsOut attempts log

/-- What holds after a turn: the read has come to something, or one more attempt has failed. -/
def TurnComes (content : Bytes) (live : Int) (At : σ → Nat → Prop) (request : ReadRequest)
    (attempts : Nat) (c : Channel σ) (count : Nat) (turn : Turn σ) (log : List Mark) : Prop :=
  match turn with
  | .settled result c' => Comes content live At request attempts c log result c'
  | .again c' =>
    c'.position = c.position ∧ UnderWay content live At request c' log (count + 1)

variable {content : Bytes} {live : Int} {At : σ → Nat → Prop} {request : ReadRequest}
  {opener : Opener (StateM W) σ} {policy : RetryPolicy} {pause : Span → StateM W Unit}
  {c : Channel σ} {log : List Mark} {w : W} {count : Nat}

theorem underWay_start (h : request.range.start ≤ (request.range.before content).length) :
    UnderWay content live At request (start request) log 0 :=
  ⟨rfl, h, rfl, rfl, Or.inl rfl, by simp [start], Nat.le_refl 0, List.nil_prefix⟩

theorem wearsOut_of_isPrefix {attempts count : Nat} (h : List.replicate count Mark.failed <+: log)
    (hle : attempts ≤ count) : WearsOut attempts log :=
  ((List.prefix_replicate_iff.2 ⟨by simpa using hle, by simp⟩).trans h).isInfix

/-- A policy declines a fault that may pass only after too many attempts, and then declines anything. -/
theorem maxAttempts_le_of_decide {attempt : Nat} {faultClass : FaultClass}
    (h : policy.decide attempt faultClass = none) (htransient : faultClass.isTransient = true) :
    policy.maxAttempts ≤ attempt := by
  unfold RetryPolicy.decide at h
  split at h
  · next hstop =>
    rcases hstop with hstop | hstop
    · exact hstop
    · rw [htransient] at hstop
      cases hstop
  · cases h

theorem decide_of_maxAttempts_le {attempt : Nat} (h : policy.maxAttempts ≤ attempt)
    (faultClass : FaultClass) : policy.decide attempt faultClass = none := by
  rw [RetryPolicy.decide, if_pos (Or.inl h)]

/-- A failed attempt that was noted is made again, unless there were too many. -/
theorem after_recover_policy (h : UnderWay content live At request c log count) {fault : Fault}
    (hfault : Passing fault) :
    After (c.recover (policy.adviser fun delay => unnoted (pause delay)) fault)
      ((.failed :: log, w) : Noted W) fun turn w' =>
        TurnComes content live At request policy.allowed c count turn w'.1 := by
  have hlog : List.replicate (count + 1) Mark.failed <+: .failed :: log := by
    rw [List.replicate_succ, List.cons_prefix_cons]
    exact ⟨rfl, h.log_eq⟩
  have hcount : min (c.failures + 1) maxFailures ≤ count + 1 :=
    Nat.le_trans (Nat.min_le_left _ _) (Nat.succ_le_succ h.failures_le)
  unfold recover
  simp only [RetryPolicy.adviser]
  cases hadvice : policy.decide (min (c.failures + 1) maxFailures) fault.faultClass with
  | some delay =>
      show After (pure (policy.decide (min (c.failures + 1) maxFailures) fault.faultClass) >>= _) _ _
      rw [hadvice]
      refine ⟨rfl, h.request_eq, h.position_le, h.isOpen_eq, h.broken_eq, h.generation_eq, ?_, hcount,
        hlog⟩
      rintro stream ⟨⟩
  | none =>
      -- a passing fault is only declined for its number, and that many failures stand in the log
      have hmany := maxAttempts_le_of_decide hadvice hfault.1
      have hworn : WearsOut policy.allowed (.failed :: log) := by
        refine wearsOut_of_isPrefix hlog ?_
        unfold RetryPolicy.allowed
        omega
      simp only [Candidate.faultClass, decide_of_maxAttempts_le hmany]
      by_cases hprotocol : fault.isProtocol = true
      · simp only [hprotocol, if_true]
        exact hworn
      · simp only [hprotocol]
        exact hworn

theorem after_readStream_noted (hs : Steady content live At request opener)
    (h : UnderWay content live At request c log count) {stream : σ} (hat : At stream c.position)
    (hg : c.generation = some live) {sizes : List Nat} (hsizes : ∃ size ∈ sizes, 0 < size) :
    After (readStream opener.noted (policy.adviser fun delay => unnoted (pause delay)) c stream sizes)
      ((log, w) : Noted W) fun turn w' =>
        TurnComes content live At request policy.allowed c count turn w'.1 := by
  unfold readStream
  refine After.bind (P := fun result w' => w'.1 = marksOfRead result.1 ++ log ∧
    match result with
    | (.ok bs, stream) =>
      bs <+: (request.range.before content).drop c.position ∧
        (bs = [] → (request.range.before content).drop c.position = []) ∧
        At stream (c.position + bs.length)
    | (.error fault, _) => fault.kind ≠ .interrupted ∧ Passing (.io fault))
    ⟨rfl, hs.read stream c.position sizes w hat hsizes⟩ ?_
  rintro ⟨result, stream'⟩ ⟨log', w'⟩ ⟨hlog, hresult⟩
  cases result with
  | ok bs =>
      obtain ⟨hbs, hend, hat'⟩ := hresult
      cases bs with
      | nil => exact hend rfl
      | cons b bs =>
          refine ⟨List.cons_ne_nil b bs, hbs, rfl, 0, h.request_eq, ?_, h.isOpen_eq, h.broken_eq,
            Or.inr hg, ?_, Nat.le_refl 0, List.nil_prefix⟩
          · have hlength := hbs.length_le
            rw [List.length_drop] at hlength
            have hpos : 0 < (b :: bs).length := Nat.succ_pos _
            show c.position + (b :: bs).length ≤ _
            omega
          · rintro _ ⟨⟩
            exact ⟨hat', hg⟩
  | error fault =>
      obtain ⟨hkind, hpassing⟩ := hresult
      simp only [marksOfRead, hkind, if_false, List.singleton_append] at hlog ⊢
      subst hlog
      exact after_recover_policy h hpassing

/-- Opening anew finds the version there is. -/
theorem after_openAndRead_noted (hs : Steady content live At request opener)
    (h : UnderWay content live At request c log count) (hstream : c.stream = none)
    (hroom : ∀ stop ∈ request.range.stop?, c.position < stop) {sizes : List Nat}
    (hsizes : ∃ size ∈ sizes, 0 < size) :
    After (openAndRead opener.noted (policy.adviser fun delay => unnoted (pause delay)) c sizes)
      ((log, w) : Noted W) fun turn w' =>
        TurnComes content live At request policy.allowed c count turn w'.1 := by
  unfold openAndRead
  rw [h.request_eq]
  refine After.bind (P := fun result w' => w'.1 = marksOfOpen result ++ log ∧
    match result with
    | .ok opened => opened.generation = some live ∧ At opened.stream c.position
    | .error fault => Passing fault)
    ⟨rfl, hs.openAt c.position c.generation w h.position_le hroom h.generation_eq⟩ ?_
  rintro result ⟨log', w'⟩ ⟨hlog, hresult⟩
  cases result with
  | error fault =>
      simp only [marksOfOpen, List.singleton_append] at hlog
      subst hlog
      -- a passing fault is never that the generation is gone
      simp only [hresult.2, Bool.and_false, Bool.false_eq_true, if_false]
      exact after_recover_policy h hresult
  | ok opened =>
      obtain ⟨hgeneration, hat⟩ := hresult
      simp only [marksOfOpen, List.nil_append] at hlog
      subst hlog
      simp only [hgeneration]
      rcases h.generation_eq with hnone | hsome
      · simp only [settleGeneration, hnone]
        have hnow : UnderWay content live At request { c with
            generation := some live
            unreported := some (c.request.object.atGeneration live) } log' count :=
          ⟨h.request_eq, h.position_le, h.isOpen_eq, h.broken_eq, Or.inr rfl, by simp [hstream],
            h.failures_le, h.log_eq⟩
        exact after_readStream_noted hs hnow hat rfl hsizes
      · simp only [settleGeneration, hsome, if_true]
        exact after_readStream_noted hs h hat hsome hsizes

theorem after_turn_noted (hs : Steady content live At request opener)
    (h : UnderWay content live At request c log count)
    (hroom : ∀ stop ∈ request.range.stop?, c.position < stop) {sizes : List Nat}
    (hsizes : ∃ size ∈ sizes, 0 < size) :
    After (c.turn opener.noted (policy.adviser fun delay => unnoted (pause delay)) sizes)
      ((log, w) : Noted W) fun turn w' =>
        TurnComes content live At request policy.allowed c count turn w'.1 := by
  unfold turn
  cases hstream : c.stream with
  | some stream =>
      obtain ⟨hat, hg⟩ := h.at_position stream hstream
      exact after_readStream_noted hs h hat hg hsizes
  | none => exact after_openAndRead_noted hs h hstream hroom hsizes

/-! ## Reads -/

/-- What holds after a read that began where `c` stands: it has come to something, or too many attempts
    have failed. -/
def ReadComes {α : Type} (content : Bytes) (live : Int) (At : σ → Nat → Prop) (request : ReadRequest)
    (attempts : Nat) (c : Channel σ) (progress : α → Except ReadFailure Progress)
    (read : Option (α × Channel σ)) (log : List Mark) : Prop :=
  match read with
  | some (result, c') => Comes content live At request attempts c log (progress result) c'
  | none => WearsOut attempts log

theorem after_rounds_noted (hs : Steady content live At request opener) (limit : Nat)
    (h : UnderWay content live At request c log count) (hlimit : policy.allowed ≤ count + limit)
    (hroom : ∀ stop ∈ request.range.stop?, c.position < stop) {sizes : List Nat}
    (hsizes : ∃ size ∈ sizes, 0 < size) :
    After (rounds opener.noted (policy.adviser fun delay => unnoted (pause delay)) limit c sizes)
      ((log, w) : Noted W) fun read w' =>
        ReadComes content live At request policy.allowed c id read w'.1 := by
  -- turns left and failures counted make up for each other
  induction limit generalizing c log w count with
  | zero => exact wearsOut_of_isPrefix h.log_eq hlimit
  | succ limit ih =>
      unfold rounds
      refine After.bind (after_turn_noted hs h hroom hsizes) ?_
      rintro turn ⟨log', w'⟩ hturn
      cases turn with
      | settled result c' => exact hturn
      | again c' =>
          obtain ⟨hposition, h'⟩ := hturn
          have hrest := ih (w := w') h' (by omega) (by rwa [hposition])
          refine hrest.imp ?_
          intro read w'' hread
          unfold ReadComes Comes at hread ⊢
          rwa [hposition] at hread

theorem drop_before_of_stop_le {stop : Nat} (h : request.range.stop? = some stop)
    (hle : stop ≤ c.position) : (request.range.before content).drop c.position = [] := by
  rw [ByteRange.before, h]
  exact List.drop_of_length_le (Nat.le_trans (List.length_take_le _ _) hle)

theorem after_advance_noted (hs : Steady content live At request opener) {limit : Nat}
    (hlimit : policy.allowed ≤ limit) (h : UnderWay content live At request c log count)
    {sizes : List Nat} (hsizes : ∃ size ∈ sizes, 0 < size) :
    After (c.advance opener.noted (policy.adviser fun delay => unnoted (pause delay)) limit sizes)
      ((log, w) : Noted W) fun read w' =>
        ReadComes content live At request policy.allowed c id read w'.1 := by
  have hall : (sizes.all (· == 0)) = false := by
    obtain ⟨size, hsize, hpos⟩ := hsizes
    exact List.all_eq_false.2 ⟨size, hsize, fun hzero => by
      rw [beq_iff_eq] at hzero
      omega⟩
  unfold advance
  simp only [h.broken_eq, h.isOpen_eq, Bool.not_true, Bool.false_eq_true, if_false, hall]
  by_cases hexhausted : c.isExhausted = true
  · simp only [hexhausted, if_true]
    unfold isExhausted at hexhausted
    rw [h.request_eq] at hexhausted
    split at hexhausted
    · next stop hstop => exact drop_before_of_stop_le hstop (of_decide_eq_true hexhausted)
    · exact absurd hexhausted (by decide)
  · simp only [hexhausted]
    refine after_rounds_noted hs limit h (Nat.le_trans hlimit (Nat.le_add_left _ _)) ?_ hsizes
    intro stop hstop
    rw [Option.mem_def] at hstop
    simp only [isExhausted, h.request_eq, hstop, decide_eq_true_eq] at hexhausted
    omega

theorem after_read_noted (hs : Steady content live At request opener) {limit : Nat}
    (hlimit : policy.allowed ≤ limit) (h : UnderWay content live At request c log count)
    {sizes : List Nat} (hsizes : ∃ size ∈ sizes, 0 < size) :
    After (c.read opener.noted (policy.adviser fun delay => unnoted (pause delay)) limit sizes)
      ((log, w) : Noted W) fun read w' => ReadComes content live At request policy.allowed c
        (Except.map Outcome.progress) read w'.1 := by
  unfold Channel.read
  refine After.bind (after_advance_noted hs hlimit h hsizes) ?_
  rintro read ⟨log', w'⟩ hread
  rcases read with _ | ⟨result, c'⟩
  · exact hread
  · cases result with
    | error failure => exact hread
    | ok progress =>
        cases progress with
        | endOfStream => exact hread
        | octets bs =>
            obtain ⟨hne, hbs, hposition, count', h'⟩ := hread
            exact ⟨hne, hbs, hposition, count', h'.request_eq, h'.position_le, h'.isOpen_eq, h'.broken_eq,
              h'.generation_eq, h'.at_position, h'.failures_le, h'.log_eq⟩

/-! ## Reading to the end -/

/-- **Reading goes on to the end.** Into more destinations than there are octets left, each with room,
    all of them are read, up to the end, unless too many attempts in a row failed. -/
theorem after_drainInto (hs : Steady content live At request opener) {limit : Nat}
    (hlimit : policy.allowed ≤ limit) (h : UnderWay content live At request c log count)
    (destinations : List (List Nat)) (hsizes : ∀ sizes ∈ destinations, ∃ size ∈ sizes, 0 < size)
    (hmany : ((request.range.before content).drop c.position).length < destinations.length) :
    After (drainInto opener.noted (policy.adviser fun delay => unnoted (pause delay)) limit
      destinations c) ((log, w) : Noted W) fun result w' =>
        WearsOut policy.allowed w'.1 ∨
          ∃ last, result = some ((request.range.before content).drop c.position, none, last) := by
  induction destinations generalizing c log w count with
  | nil => exact absurd hmany (Nat.not_lt_zero _)
  | cons sizes destinations ih =>
      unfold drainInto
      refine After.bind (after_read_noted hs hlimit h (hsizes sizes List.mem_cons_self)) ?_
      rintro read ⟨log', w'⟩ hread
      rcases read with _ | ⟨result, c'⟩
      · exact Or.inl hread
      · rcases result with failure | ⟨progress, resolved⟩
        · exact Or.inl hread
        · cases progress with
          | endOfStream =>
              refine Or.inr ⟨c', ?_⟩
              rw [show (request.range.before content).drop c.position = [] from hread]
              rfl
          | octets bs =>
              obtain ⟨hne, ⟨rest, hrest⟩, hposition, count', h'⟩ := hread
              have hleft : (request.range.before content).drop c'.position = rest := by
                rw [hposition, ← List.drop_drop, ← hrest, List.drop_left]
              have hpos : 0 < bs.length := List.length_pos_iff.2 hne
              -- every read that delivers uses up one destination and at least one octet
              have hshort : ((request.range.before content).drop c'.position).length
                  < destinations.length := by
                rw [hleft]
                rw [← hrest, List.length_append, List.length_cons] at hmany
                omega
              refine After.bind (ih (w := w') h' (fun other hother =>
                hsizes other (List.mem_cons_of_mem _ hother)) hshort) ?_
              rintro drained w'' (hworn | ⟨last, rfl⟩)
              · refine Or.inl ?_
                rcases drained with _ | ⟨others, failure, last⟩
                · exact hworn
                · exact hworn
              · refine Or.inr ⟨last, ?_⟩
                rw [hleft, ← hrest]
                rfl

end Channel

end SteadyFetch
