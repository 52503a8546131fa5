import SteadyFetch.Channel
import SteadyFetch.Proofs.After

set_option autoImplicit false

/-! # What a channel delivers

A channel reads from one stream after the other, and each of them starts where the one before broke
off. `Delivered` ties together what was delivered so far, the position, the generation the channel has
taken up and the stream under way; every turn keeps it, whatever opener and adviser make of it, and so
does every list of reads.

All that is asked of the opener is that a stream holds what was opened: the octets of one version,
from the offset asked for on. It may fail any open and break any stream, and it may serve another
version than the one it was asked for, as long as it says so. -/

namespace SteadyFetch

/-! ## Reading on -/

namespace Channel

/-- Reads with one list of destinations after the other: what came of each read, and the channel after
    the last one. A read that is never settled ends the reading. -/
def readEach {m : Type → Type} {σ : Type} [Monad m] (opener : Opener m σ) (adviser : Adviser m)
    (limit : Nat) (c : Channel σ) :
    List (List Nat) → m (List (Except ReadFailure Outcome) × Channel σ)
  | [] => return ([], c)
  | sizes :: rest => do
    match ← c.read opener adviser limit sizes with
    | none => return ([], c)
    | some (result, c) =>
      let (results, c) ← c.readEach opener adviser limit rest
      return (result :: results, c)

end Channel

/-- The octets that were delivered. -/
def Progress.bytes : Progress → Bytes
  | .octets bs => bs
  | .endOfStream => []

/-- The octets that came out of a read; a failed one delivers nothing. -/
def deliveredBy (result : Except ReadFailure Progress) : Bytes :=
  match result with
  | .ok progress => progress.bytes
  | .error _ => []

/-- The octets that came out of reads, in order. -/
def octetsOf (results : List (Except ReadFailure Outcome)) : Bytes :=
  (results.map fun result => deliveredBy (result.map Outcome.progress)).flatten

@[simp] theorem octetsOf_nil : octetsOf [] = [] := rfl

@[simp] theorem octetsOf_cons (result : Except ReadFailure Outcome)
    (results : List (Except ReadFailure Outcome)) :
    octetsOf (result :: results) = deliveredBy (result.map Outcome.progress) ++ octetsOf results :=
  rfl

/-! ## Where a moved request starts -/

theorem ByteRange.start_startingAt {r : ByteRange} {n : Nat} (h : ∀ stop ∈ r.stop?, n ≤ stop) :
    (r.startingAt n).start = n := by
  unfold startingAt
  split
  · next stop hstop => exact Nat.min_eq_left (h stop hstop)
  · rfl

theorem ReadRequest.start_startingAt {r : ReadRequest} {n : Nat}
    (h : ∀ stop ∈ r.range.stop?, n ≤ stop) : (r.startingAt n).range.start = n := by
  unfold startingAt rebased?
  by_cases hn : n = r.range.start
  · rw [if_pos hn]
    exact hn.symm
  · rw [if_neg hn]
    exact ByteRange.start_startingAt h

/-- A request that is moved stays one for the same object with the same options and end. -/
theorem ReadRequest.startingAt_eq (r : ReadRequest) (start : Nat) :
    (r.startingAt start).object = r.object ∧ (r.startingAt start).options = r.options ∧
      (r.startingAt start).range.stop? = r.range.stop? := by
  unfold startingAt rebased?
  by_cases h : start = r.range.start
  · rw [if_pos h]
    exact ⟨rfl, rfl, rfl⟩
  · rw [if_neg h]
    exact ⟨rfl, rfl, ByteRange.stop?_startingAt r.range start⟩

/-! ## A stretch that grows -/

/-- Octets that follow a stretch in place make it longer. -/
theorem Bytes.extract_append {content got bs : Bytes} {start : Nat}
    (hgot : got = content.extract start (start + got.length))
    (hbs : bs <+: content.drop (start + got.length)) :
    got ++ bs = content.extract start (start + got.length + bs.length) := by
  rw [List.prefix_iff_eq_take] at hbs
  rw [List.extract_eq_take_drop, Nat.add_sub_cancel_left] at hgot
  rw [List.extract_eq_take_drop, Nat.add_assoc, Nat.add_sub_cancel_left, List.take_add, List.drop_drop,
    ← hgot, ← hbs]

/-! ## Openers that serve versions -/

variable {W σ : Type}

/-- Whether an open with the given pin that reports `reported` has told that it serves the generation
    `g`: by naming it, or without a word if it is the pinned one, or if there is nothing of it to serve
    from the offset on. -/
def Tells (content : Int → Bytes) (pin : Option Int) (start : Nat) (reported : Option Int) (g : Int) :
    Prop :=
  reported = some g ∨ reported = none ∧ (pin = some g ∨ pin = none ∧ (content g).length ≤ start)

/-- The versions of an object, and where streams stand in them. -/
structure Supply (W σ : Type) where
  /-- The octets of a version. -/
  content : Int → Bytes
  /-- Which versions a request may be given. -/
  Known : Int → Prop
  /-- Whether a stream of a version may end at an offset. -/
  Ends : Int → Nat → Prop
  /-- What holds of the world all the time. -/
  Inv : W → Prop
  /-- Whether, in a world, a stream holds a version from an offset on. -/
  At : W → σ → Int → Nat → Prop

/-- An opener and an adviser for reads of one request: the streams that are opened hold the octets of
    one known version each, from where the request starts on, and it is told of which. -/
structure Serves (supply : Supply W σ) (request : ReadRequest) (opener : Opener (StateM W) σ)
    (adviser : Adviser (StateM W)) : Prop where
  openAt : ∀ start pin w, supply.Inv w → (∀ g ∈ pin, supply.Known g) →
    After (opener.openAt (request.startingAt start) pin) w fun result w' => supply.Inv w' ∧
      ∀ opened, result = .ok opened → ∃ g, supply.Known g ∧
        Tells supply.content pin (request.startingAt start).range.start opened.generation g ∧
          supply.At w' opened.stream g (request.startingAt start).range.start
  read : ∀ w stream g offset sizes, supply.Inv w → supply.At w stream g offset →
    After (opener.read stream sizes) w fun result w' => supply.Inv w' ∧
      (∀ bs, result.1 = .ok bs →
        bs <+: (supply.content g).drop offset ∧ supply.At w' result.2 g (offset + bs.length)) ∧
      (result.1 = .ok [] → (∃ size ∈ sizes, 0 < size) → supply.Ends g offset) ∧
      (∀ fault, result.1 = .error fault → fault.kind = .interrupted →
        supply.At w' result.2 g offset)
  advise : ∀ attempt candidate w, supply.Inv w →
    After (adviser.advise attempt candidate) w fun _ w' => supply.Inv w'
  pause : ∀ delay w, supply.Inv w → After (adviser.pause delay) w fun _ w' => supply.Inv w'

/-! ## Asking for another attempt -/

/-- Whether another attempt is allowed after a fault; if it is, the delay before it has passed. A fault
    of the protocol that is declined is put to the adviser again, as the failure it becomes. -/
def Adviser.allows {m : Type → Type} [Monad m] (adviser : Adviser m) (attempt : Nat) (fault : Fault) :
    m Bool := do
  match ← adviser.advise attempt (.raw fault) with
  | some delay =>
    adviser.pause delay
    return true
  | none =>
    if fault.isProtocol then
      match ← adviser.advise attempt (.classified fault.readFailure) with
      | some delay =>
        adviser.pause delay
        return true
      | none => return false
    else return false

/-- What advice and waiting keep, is kept. -/
theorem Adviser.after_allows {adviser : Adviser (StateM W)} {P : W → Prop}
    (hadvise : ∀ attempt candidate w, P w → After (adviser.advise attempt candidate) w fun _ w' => P w')
    (hpause : ∀ delay w, P w → After (adviser.pause delay) w fun _ w' => P w')
    (attempt : Nat) (fault : Fault) {w : W} (h : P w) :
    After (adviser.allows attempt fault) w fun _ w' => P w' := by
  unfold allows
  refine After.bind (hadvise _ _ w h) ?_
  intro answer w₁ h₁
  cases answer with
  | some delay => exact After.bind (hpause delay w₁ h₁) fun _ _ h₂ => h₂
  | none =>
      by_cases hprotocol : fault.isProtocol = true
      · simp only [hprotocol, if_true]
        refine After.bind (hadvise _ _ w₁ h₁) ?_
        intro answer w₂ h₂
        cases answer with
        | some delay => exact After.bind (hpause delay w₂ h₂) fun _ _ h₃ => h₃
        | none => exact h₂
      · simp only [hprotocol]
        exact h₁

namespace Channel

/-- The channel after a failed attempt. -/
def failed (c : Channel σ) : Channel σ :=
  { c with stream := none, failures := min (c.failures + 1) maxFailures }

/-- A failed attempt is made again if the adviser allows it. -/
theorem recover_eq_allows {m : Type → Type} [Monad m] [LawfulMonad m] (adviser : Adviser m)
    (c : Channel σ) (fault : Fault) :
    c.recover adviser fault = do
      if ← adviser.allows c.failed.failures fault then return .again c.failed
      else return .settled (.error fault.readFailure) c.failed := by
  unfold recover Adviser.allows
  rw [bind_assoc]
  refine bind_congr fun advice => ?_
  cases advice with
  | some delay => simp [failed]
  | none =>
      by_cases hprotocol : fault.isProtocol = true
      · simp only [hprotocol, if_true, bind_assoc]
        refine bind_congr fun advice => ?_
        cases advice <;> simp [failed]
      · simp [hprotocol, failed]

/-! ## One turn -/

/-- Whether the channel reads the version `g`: it has taken it up, or it knows of none yet and there is
    nothing of it left to read. -/
def Reads (content : Int → Bytes) (c : Channel σ) (g : Int) : Prop :=
  c.generation = some g ∨ c.generation = none ∧ (content g).length ≤ c.position

/-- A channel for the request that has delivered `got`: octets of the generation it has taken up, from
    the start of the request to its position. The stream under way, if there is one, goes on from
    there; if no generation is known yet, it has nothing to give. The object at that generation is still
    to be handed out, unless it is the one that was `handed` out before. -/
structure Delivered (supply : Supply W σ) (request : ReadRequest) (handed : Option ObjectRef)
    (c : Channel σ) (w : W) (got : Bytes) : Prop where
  request_eq : c.request = request
  position_eq : c.position = request.range.start + got.length
  known : ∀ g ∈ c.generation, supply.Known g
  resolved_eq : (c.unreported <|> handed) = c.generation.map request.object.atGeneration
  got_eq : got = [] ∨
    ∃ g, c.generation = some g ∧ got = (supply.content g).extract request.range.start c.position
  at_position : ∀ stream ∈ c.stream, ∃ g, supply.At w stream g c.position ∧ c.Reads supply.content g

/-- Whether the channel has come to an end: that of its range, or that of a stream. -/
def Finished (supply : Supply W σ) (c : Channel σ) : Prop :=
  (∃ stop ∈ c.request.range.stop?, stop ≤ c.position) ∨
    ∃ g, c.Reads supply.content g ∧ supply.Ends g c.position

/-- The end is only reported of a channel that has come to it; otherwise the channel stays open. -/
def Settles (supply : Supply W σ) (result : Except ReadFailure Progress) (c : Channel σ) : Prop :=
  match result with
  | .ok .endOfStream => Finished supply c
  | _ => c.isOpen = true

/-- What holds after a turn of a channel that is open and has delivered `got`. -/
def TurnDelivered (supply : Supply W σ) (request : ReadRequest) (handed : Option ObjectRef)
    (got : Bytes) (turn : Turn σ) (w : W) : Prop :=
  match turn with
  | .settled result c =>
    Delivered supply request handed c w (got ++ deliveredBy result) ∧ Settles supply result c
  | .again c => Delivered supply request handed c w got ∧ c.isOpen = true

variable {supply : Supply W σ} {request : ReadRequest} {opener : Opener (StateM W) σ}
  {adviser : Adviser (StateM W)} {handed : Option ObjectRef} {c : Channel σ} {w : W} {got : Bytes}

theorem delivered_start : Delivered supply request none (start request) w [] :=
  ⟨rfl, rfl, by simp [start], rfl, Or.inl rfl, by simp [start]⟩

/-- What has been delivered says nothing of the world once there is no stream. -/
theorem Delivered.of_stream_none {c' : Channel σ} {w' : W} (h : Delivered supply request handed c w got)
    (hrequest : c'.request = c.request) (hposition : c'.position = c.position)
    (hgeneration : c'.generation = c.generation) (hunreported : c'.unreported = c.unreported)
    (hstream : c'.stream = none) : Delivered supply request handed c' w' got := by
  refine ⟨hrequest.trans h.request_eq, hposition.trans h.position_eq, ?_, ?_, ?_, by simp [hstream]⟩
  · rw [hgeneration]
    exact h.known
  · rw [hgeneration, hunreported]
    exact h.resolved_eq
  · rw [hgeneration, hposition]
    exact h.got_eq

/-- A generation that is known is known to be the one all that was delivered is of. -/
theorem Delivered.got_of_generation {g : Int} (h : Delivered supply request handed c w got)
    (hg : c.generation = some g) :
    got = (supply.content g).extract request.range.start (request.range.start + got.length) := by
  rcases h.got_eq with rfl | ⟨g', hg', hgot⟩
  · simp [List.extract_eq_take_drop]
  · rw [hg, Option.some.injEq] at hg'
    subst hg'
    rwa [← h.position_eq]

/-- Taking in what a stream gave: it continues what was delivered. -/
theorem Delivered.deliver {stream : σ} {w' : W} {bs : Bytes} {g : Int}
    (h : Delivered supply request handed c w got) (hopen : c.isOpen = true) (hg : c.Reads supply.content g)
    (hbs : bs <+: (supply.content g).drop c.position) (hends : bs = [] → supply.Ends g c.position)
    (hat : supply.At w' stream g (c.position + bs.length)) :
    TurnDelivered supply request handed got (c.deliver stream bs) w' := by
  unfold Channel.deliver
  by_cases hempty : bs = []
  · rw [if_pos (List.isEmpty_iff.2 hempty)]
    refine ⟨?_, Or.inr ⟨g, hg, hends hempty⟩⟩
    show Delivered supply request handed c.close w' (got ++ [])
    rw [List.append_nil]
    exact h.of_stream_none rfl rfl rfl rfl rfl
  · rw [if_neg (fun he => hempty (List.isEmpty_iff.1 he))]
    -- the stream gave something, so its version reaches beyond the position
    have hknown : c.generation = some g := by
      rcases hg with hg | ⟨-, hlength⟩
      · exact hg
      · rw [List.drop_of_length_le hlength] at hbs
        exact absurd (List.prefix_nil.1 hbs) hempty
    have hposition := h.position_eq
    refine ⟨⟨h.request_eq, ?_, h.known, h.resolved_eq, Or.inr ⟨g, hknown, ?_⟩, ?_⟩, hopen⟩
    · show c.position + bs.length = request.range.start + (got ++ bs).length
      rw [List.length_append]
      omega
    · show got ++ bs = (supply.content g).extract request.range.start (c.position + bs.length)
      rw [hposition] at hbs ⊢
      exact Bytes.extract_append (h.got_of_generation hknown) hbs
    · intro other hother
      obtain rfl : stream = other := by simpa using hother
      exact ⟨g, hat, Or.inl hknown⟩

/-- Taking up a generation that is told keeps what was delivered, and the stream that comes with it is
    of the generation taken up. -/
theorem Delivered.settleGeneration {c' : Channel σ} {reported : Option Int} {g : Int} {start : Nat}
    (h : Delivered supply request handed c w got) (hstream : c.stream = none)
    (hsettle : c.settleGeneration reported = .ok c') (hg : supply.Known g)
    (htells : Tells supply.content c.generation start reported g) :
    Delivered supply request handed c' w got ∧ c'.position = c.position ∧ c'.isOpen = c.isOpen ∧
      (c'.generation = some g ∨ c'.generation = none ∧ (supply.content g).length ≤ start) := by
  have hgot := h.got_eq
  have hresolved := h.resolved_eq
  unfold Channel.settleGeneration at hsettle
  unfold Tells at htells
  cases hgeneration : c.generation with
  | none =>
      rw [hgeneration] at hsettle htells hgot hresolved
      -- nothing can have been delivered of a generation not yet known
      have hnil : got = [] := by
        rcases hgot with hnil | ⟨_, hnone, -⟩
        · exact hnil
        · exact absurd hnone (by simp)
      cases reported with
      | none =>
          simp only [Except.ok.injEq] at hsettle
          subst hsettle
          refine ⟨h, rfl, rfl, Or.inr ⟨hgeneration, ?_⟩⟩
          simpa using htells
      | some observed =>
          simp only [Except.ok.injEq] at hsettle
          subst hsettle
          obtain rfl : observed = g := by simpa using htells
          refine ⟨⟨h.request_eq, h.position_eq, ?_, ?_, Or.inl hnil, by simp [hstream]⟩, rfl, rfl,
            Or.inl rfl⟩
          · rintro _ ⟨⟩
            exact hg
          · show some (c.request.object.atGeneration observed) = _
            rw [h.request_eq]
            rfl
  | some pinned =>
      rw [hgeneration] at hsettle htells
      cases reported with
      | none =>
          simp only [Except.ok.injEq] at hsettle
          subst hsettle
          refine ⟨h, rfl, rfl, Or.inl ?_⟩
          rw [hgeneration]
          simpa using htells
      | some observed =>
          obtain rfl : observed = g := by simpa using htells
          by_cases hsame : pinned = observed
          · simp only [if_pos hsame, Except.ok.injEq] at hsettle
            subst hsettle
            exact ⟨h, rfl, rfl, Or.inl (by rw [hgeneration, hsame])⟩
          · simp [if_neg hsame] at hsettle

theorem after_recover (hs : Serves supply request opener adviser) (hw : supply.Inv w)
    (h : Delivered supply request handed c w got) (hopen : c.isOpen = true) (fault : Fault) :
    After (c.recover adviser fault) w fun turn w' =>
      supply.Inv w' ∧ TurnDelivered supply request handed got turn w' := by
  have hdropped : ∀ w' : W, Delivered supply request handed c.failed w' got :=
    fun w' => h.of_stream_none rfl rfl rfl rfl rfl
  have hfailed : ∀ w' : W, Delivered supply request handed c.failed w' (got ++ []) := by
    intro w'
    rw [List.append_nil]
    exact hdropped w'
  rw [recover_eq_allows]
  refine After.bind (Adviser.after_allows hs.advise hs.pause c.failed.failures fault hw) ?_
  intro allowed w' hw'
  cases allowed with
  | true => exact ⟨hw', hdropped w', hopen⟩
  | false => exact ⟨hw', hfailed w', hopen⟩

/-- Reading from a stream continues what was delivered. -/
theorem after_readStream (hs : Serves supply request opener adviser) (hw : supply.Inv w)
    (h : Delivered supply request handed c w got) (hopen : c.isOpen = true) {stream : σ} {g : Int}
    (hat : supply.At w stream g c.position) (hg : c.Reads supply.content g) {sizes : List Nat}
    (hsizes : ∃ size ∈ sizes, 0 < size) :
    After (readStream opener adviser c stream sizes) w fun turn w' =>
      supply.Inv w' ∧ TurnDelivered supply request handed got turn w' := by
  unfold readStream
  refine After.bind (hs.read w stream g c.position sizes hw hat) ?_
  rintro ⟨result, stream'⟩ w₁ ⟨hw₁, hok, hends, hinterrupted⟩
  cases result with
  | ok bs =>
      obtain ⟨hbs, hat'⟩ := hok bs rfl
      exact ⟨hw₁, h.deliver hopen hg hbs (fun hempty => hends (by rw [hempty]) hsizes) hat'⟩
  | error fault =>
      by_cases hkind : fault.kind = .interrupted
      · simp only [hkind, if_true]
        refine ⟨hw₁, ⟨h.request_eq, h.position_eq, h.known, h.resolved_eq, h.got_eq, ?_⟩, hopen⟩
        intro other hother
        obtain rfl : stream' = other := by simpa using hother
        exact ⟨g, hinterrupted fault rfl hkind, hg⟩
      · simp only [hkind, if_false]
        have hdropped : Delivered supply request handed { c with stream := none } w₁ got :=
          h.of_stream_none rfl rfl rfl rfl rfl
        exact after_recover hs hw₁ hdropped hopen (.io fault)

/-- A channel that is opened anew goes on at its position, which lies within the range. -/
theorem after_openAndRead (hs : Serves supply request opener adviser) (hw : supply.Inv w)
    (h : Delivered supply request handed c w got) (hopen : c.isOpen = true) (hstream : c.stream = none)
    (hroom : ∀ stop ∈ request.range.stop?, c.position ≤ stop) {sizes : List Nat}
    (hsizes : ∃ size ∈ sizes, 0 < size) :
    After (openAndRead opener adviser c sizes) w fun turn w' =>
      supply.Inv w' ∧ TurnDelivered supply request handed got turn w' := by
  have hbroken : ∀ (reason : ResumptionReason) (w' : W),
      TurnDelivered supply request handed got (c.breakOff reason) w' := by
    intro reason w'
    refine ⟨?_, hopen⟩
    show Delivered supply request handed _ w' (got ++ [])
    rw [List.append_nil]
    exact h.of_stream_none rfl rfl rfl rfl rfl
  have hstart := ReadRequest.start_startingAt hroom
  unfold openAndRead
  rw [h.request_eq]
  refine After.bind (hs.openAt c.position c.generation w hw h.known) ?_
  rintro result w₁ ⟨hw₁, hopened⟩
  cases result with
  | error fault =>
      by_cases hgone : (c.generation.isSome && fault.isNotFound) = true
      · simp only [hgone, if_true]
        exact ⟨hw₁, hbroken .notFound w₁⟩
      · simp only [hgone]
        exact after_recover hs hw₁ (h.of_stream_none rfl rfl rfl rfl hstream) hopen fault
  | ok opened =>
      obtain ⟨g, hknown, htells, hat⟩ := hopened opened rfl
      rw [hstart] at htells hat
      cases hsettle : c.settleGeneration opened.generation with
      | error reason =>
          simp only [hsettle]
          exact ⟨hw₁, hbroken reason w₁⟩
      | ok c' =>
          simp only [hsettle]
          have hnow : Delivered supply request handed c w₁ got := h.of_stream_none rfl rfl rfl rfl hstream
          obtain ⟨h', hposition, hkeeps, hg⟩ := hnow.settleGeneration hstream hsettle hknown htells
          rw [← hposition] at hat hg
          exact after_readStream hs hw₁ h' (hkeeps.trans hopen) hat hg hsizes

theorem after_turn (hs : Serves supply request opener adviser) (hw : supply.Inv w)
    (h : Delivered supply request handed c w got) (hopen : c.isOpen = true)
    (hroom : ∀ stop ∈ request.range.stop?, c.position ≤ stop) {sizes : List Nat}
    (hsizes : ∃ size ∈ sizes, 0 < size) :
    After (c.turn opener adviser sizes) w fun turn w' =>
      supply.Inv w' ∧ TurnDelivered supply request handed got turn w' := by
  unfold turn
  cases hstream : c.stream with
  | some stream =>
      obtain ⟨g, hat, hg⟩ := h.at_position stream hstream
      exact after_readStream hs hw h hopen hat hg hsizes
  | none => exact after_openAndRead hs hw h hopen hstream hroom hsizes

/-! ## Whole reads -/

/-- What holds after a read of a channel that has delivered `got` before, if the read is settled. -/
def ReadDelivered (supply : Supply W σ) (request : ReadRequest) (handed : Option ObjectRef)
    (got : Bytes) (wasOpen : Bool) (read : Option (Except ReadFailure Progress × Channel σ)) (w : W) :
    Prop :=
  ∀ result c, read = some (result, c) →
    Delivered supply request handed c w (got ++ deliveredBy result) ∧
      (wasOpen = true → Settles supply result c)

/-- The turns of a read deliver nothing before the last one, so all of them open at one position. -/
theorem after_rounds (hs : Serves supply request opener adviser) (limit : Nat)
    (hw : supply.Inv w) (h : Delivered supply request handed c w got) (hopen : c.isOpen = true)
    (hroom : ∀ stop ∈ request.range.stop?, c.position ≤ stop) {sizes : List Nat}
    (hsizes : ∃ size ∈ sizes, 0 < size) :
    After (rounds opener adviser limit c sizes) w fun read w' =>
      supply.Inv w' ∧ ReadDelivered supply request handed got true read w' := by
  -- a turn that is not the last keeps `Delivered` with nothing added
  induction limit generalizing c w with
  | zero => exact ⟨hw, by rintro _ _ ⟨⟩⟩
  | succ limit ih =>
      unfold rounds
      refine After.bind (after_turn hs hw h hopen hroom hsizes) ?_
      rintro turn w₁ ⟨hw₁, hturn⟩
      cases turn with
      | settled result c' =>
          refine ⟨hw₁, ?_⟩
          rintro _ _ ⟨⟩
          exact ⟨hturn.1, fun _ => hturn.2⟩
      | again c' =>
          refine ih hw₁ hturn.1 hturn.2 ?_
          rw [hturn.1.position_eq, ← h.position_eq]
          exact hroom

theorem after_advance (hs : Serves supply request opener adviser) (limit : Nat)
    (hw : supply.Inv w) (h : Delivered supply request handed c w got) (sizes : List Nat) :
    After (c.advance opener adviser limit sizes) w fun read w' =>
      supply.Inv w' ∧ ReadDelivered supply request handed got c.isOpen read w' := by
  -- without a turn nothing is delivered
  have hidle : ∀ (result : Except ReadFailure Progress) (c' : Channel σ), deliveredBy result = [] →
      Delivered supply request handed c' w got → (c.isOpen = true → Settles supply result c') →
      ReadDelivered supply request handed got c.isOpen (some (result, c')) w := by
    rintro result c' hnone hc' hsettles _ _ ⟨⟩
    rw [hnone, List.append_nil]
    exact ⟨hc', hsettles⟩
  unfold advance
  cases hbroken : c.broken with
  | some reason => exact ⟨hw, hidle _ _ rfl h id⟩
  | none =>
      by_cases hopen : c.isOpen = true
      · by_cases hexhausted : c.isExhausted = true
        · simp only [hopen, hexhausted, Bool.not_true, Bool.false_eq_true, if_false, if_true]
          rw [hopen] at hidle
          refine ⟨hw, hidle _ _ rfl (h.of_stream_none rfl rfl rfl rfl rfl) fun _ => Or.inl ?_⟩
          unfold isExhausted at hexhausted
          split at hexhausted
          · next stop hstop => exact ⟨stop, hstop, of_decide_eq_true hexhausted⟩
          · exact absurd hexhausted (by decide)
        · by_cases hsizes : sizes.all (· == 0) = true
          · simp only [hopen, hexhausted, hsizes, Bool.not_true, Bool.false_eq_true, if_false, if_true]
            rw [hopen] at hidle
            exact ⟨hw, hidle _ _ rfl h fun _ => hopen⟩
          · simp only [hopen, hexhausted, hsizes, Bool.not_true, Bool.false_eq_true, if_false]
            refine after_rounds hs limit hw h hopen ?_ ?_
            · intro stop hstop
              rw [← h.request_eq, Option.mem_def] at hstop
              simp only [isExhausted, hstop, decide_eq_true_eq] at hexhausted
              omega
            · obtain ⟨size, hsize, hne⟩ := List.all_eq_false.1 (Bool.eq_false_iff.2 hsizes)
              exact ⟨size, hsize, Nat.pos_of_ne_zero fun hzero => hne (beq_iff_eq.2 hzero)⟩
      · rw [Bool.not_eq_true] at hopen
        simp only [hopen, Bool.not_false, if_true]
        rw [hopen] at hidle
        exact ⟨hw, hidle _ _ rfl h fun htrue => absurd htrue (by decide)⟩

/-- What a read hands out: the resolved object, if it is still to be handed out. -/
def handedBy (result : Except ReadFailure Outcome) : Option ObjectRef :=
  match result with
  | .ok outcome => outcome.resolved
  | .error _ => none

/-- A read that is over: it continues what was delivered, and a success hands out what is resolved. -/
structure Returned (supply : Supply W σ) (request : ReadRequest) (handed : Option ObjectRef)
    (got : Bytes) (wasOpen : Bool) (result : Except ReadFailure Outcome) (c : Channel σ) (w : W) :
    Prop where
  delivered : Delivered supply request (handedBy result <|> handed) c w
    (got ++ deliveredBy (result.map Outcome.progress))
  settles : wasOpen = true → Settles supply (result.map Outcome.progress) c
  unreported_eq : ∀ outcome, result = .ok outcome → c.unreported = none

theorem after_read (hs : Serves supply request opener adviser) (limit : Nat) (hw : supply.Inv w)
    (h : Delivered supply request handed c w got) (sizes : List Nat) :
    After (c.read opener adviser limit sizes) w fun read w' => supply.Inv w' ∧
      ∀ result c', read = some (result, c') →
        Returned supply request handed got c.isOpen result c' w' := by
  unfold Channel.read
  refine After.bind (after_advance hs limit hw h sizes) ?_
  rintro read w₁ ⟨hw₁, hread⟩
  rcases read with _ | ⟨result, c'⟩
  · exact ⟨hw₁, by rintro _ _ ⟨⟩⟩
  · obtain ⟨hc', hsettles⟩ := hread result c' rfl
    cases result with
    | error failure =>
        refine ⟨hw₁, ?_⟩
        rintro _ _ ⟨⟩
        exact ⟨hc', hsettles, by rintro _ ⟨⟩⟩
    | ok progress =>
        refine ⟨hw₁, ?_⟩
        rintro _ _ ⟨⟩
        refine ⟨⟨hc'.request_eq, hc'.position_eq, hc'.known, ?_, hc'.got_eq, hc'.at_position⟩,
          fun hopen => ?_, fun _ _ => rfl⟩
        · exact (Option.none_or).trans hc'.resolved_eq
        · have hprogress := hsettles hopen
          cases progress with
          | octets bs => exact hprogress
          | endOfStream => exact hprogress

/-- What is known of a channel, whatever became of the world since, that has delivered `got`. -/
def HasDelivered (content : Int → Bytes) (request : ReadRequest) (got : Bytes) (c : Channel σ) :
    Prop :=
  c.position = request.range.start + got.length ∧
    (got = [] ∨
      ∃ g, c.generation = some g ∧ got = (content g).extract request.range.start c.position)

/-- What reads deliver, one after the other, continues what was delivered before them. -/
theorem after_readEach (hs : Serves supply request opener adviser) (limit : Nat) (hw : supply.Inv w)
    (h : Delivered supply request handed c w got) (destinations : List (List Nat)) :
    After (c.readEach opener adviser limit destinations) w fun result w' => supply.Inv w' ∧
      HasDelivered supply.content request (got ++ octetsOf result.1) result.2 := by
  induction destinations generalizing c w got handed with
  | nil =>
      refine ⟨hw, ?_⟩
      show HasDelivered supply.content request (got ++ []) c
      rw [List.append_nil]
      exact ⟨h.position_eq, h.got_eq⟩
  | cons sizes destinations ih =>
      unfold readEach
      refine After.bind (after_read hs limit hw h sizes) ?_
      rintro read w₁ ⟨hw₁, hread⟩
      rcases read with _ | ⟨result, c'⟩
      · refine ⟨hw₁, ?_⟩
        show HasDelivered supply.content request (got ++ []) c
        rw [List.append_nil]
        exact ⟨h.position_eq, h.got_eq⟩
      · refine After.bind (ih hw₁ (hread result c' rfl).delivered) ?_
        rintro ⟨results, last⟩ w₂ hrest
        rw [List.append_assoc] at hrest
        exact hrest

end Channel

/-! ## Openers that say which version they serve -/

/-- An opener that is truthful about versions: every open that succeeds reports the generation it
    serves, or nothing if it serves the one it was given, and the stream holds the octets of that
    version from the start of the request on. A stream may end or fail wherever it likes; a read that
    was only interrupted took nothing from it. Nothing is promised of when an open succeeds, nor that
    the given generation is the one served. -/
structure Opener.Truthful (content : Int → Bytes) (At : W → σ → Int → Nat → Prop)
    (opener : Opener (StateM W) σ) : Prop where
  openAt : ∀ request pin w, After (opener.openAt request pin) w fun result w' =>
    ∀ opened, result = .ok opened → ∃ g,
      (opened.generation = some g ∨ opened.generation = none ∧ pin = some g) ∧
        At w' opened.stream g request.range.start
  read : ∀ w stream g offset sizes, At w stream g offset →
    After (opener.read stream sizes) w fun result w' =>
      (∀ bs, result.1 = .ok bs →
        bs <+: (content g).drop offset ∧ At w' result.2 g (offset + bs.length)) ∧
      (∀ fault, result.1 = .error fault → fault.kind = .interrupted → At w' result.2 g offset)

theorem Opener.Truthful.serves {content : Int → Bytes} {At : W → σ → Int → Nat → Prop}
    {opener : Opener (StateM W) σ} (h : opener.Truthful content At) (request : ReadRequest)
    (adviser : Adviser (StateM W)) :
    Serves ⟨content, fun _ => True, fun _ _ => True, fun _ => True, At⟩ request opener adviser where
  openAt start pin w _ _ := by
    refine (h.openAt _ pin w).imp ?_
    intro result w' hresult
    refine ⟨trivial, fun opened hopened => ?_⟩
    obtain ⟨g, hg, hat⟩ := hresult opened hopened
    exact ⟨g, trivial, hg.imp_right fun hpin => ⟨hpin.1, Or.inl hpin.2⟩, hat⟩
  read w stream g offset sizes _ hat :=
    (h.read w stream g offset sizes hat).imp fun _ _ hresult =>
      ⟨trivial, hresult.1, fun _ _ => trivial, hresult.2⟩
  advise _ _ _ _ := trivial
  pause _ _ _ := trivial

/-- **A channel delivers one version, without a gap and without a repetition.** Whatever is read, with
    whichever destinations, and however often streams break, opens fail and other versions are served:
    the octets of all reads together are those of the generation the channel has taken up, from the
    start of the request to its position. -/
theorem Channel.readEach_delivers_one_version {content : Int → Bytes}
    {At : W → σ → Int → Nat → Prop} {opener : Opener (StateM W) σ}
    (h : opener.Truthful content At) (adviser : Adviser (StateM W)) (limit : Nat)
    (request : ReadRequest) (destinations : List (List Nat)) (w : W) :
    After ((start request).readEach opener adviser limit destinations) w fun result _ =>
      result.2.position = request.range.start + (octetsOf result.1).length ∧
        match result.2.generation with
        | some g => octetsOf result.1 = (content g).extract request.range.start result.2.position
        | none => octetsOf result.1 = [] := by
  refine (after_readEach (h.serves request adviser) limit trivial delivered_start destinations).imp ?_
  rintro ⟨results, c⟩ w' ⟨-, hposition, hgot⟩
  simp only [List.nil_append] at hposition hgot ⊢
  refine ⟨hposition, ?_⟩
  cases hgeneration : c.generation with
  | none =>
      rcases hgot with hnil | ⟨g, hg, -⟩
      · exact hnil
      · rw [hgeneration] at hg
        cases hg
  | some g =>
      show octetsOf results = (content g).extract request.range.start c.position
      rcases hgot with hnil | ⟨g', hg', hgot⟩
      · rw [hposition, hnil, List.extract_eq_take_drop, List.length_nil, Nat.add_zero, Nat.sub_self,
          List.take_zero]
      · rw [hgeneration, Option.some.injEq] at hg'
        rwa [hg']

/-- An opener of the octets of version seven whose streams break after every read that gives any: a
    stream is what it has left, and whether it still works. -/
def Opener.brittle (version : Bytes) : Opener (StateM Unit) (Bytes × Bool) where
  openAt request _ := pure (.ok ⟨(version.drop request.range.start, true), some 7⟩)
  read stream sizes :=
    if stream.2 then
      pure (.ok (stream.1.take (sizes.foldr Nat.add 0)), (stream.1.drop (sizes.foldr Nat.add 0), false))
    else pure (.error (.bare .connectionReset), stream)

theorem Opener.brittle_truthful (version : Bytes) :
    (brittle version).Truthful (fun _ => version)
      fun _ stream _ offset => stream.1 = version.drop offset where
  openAt := by
    rintro request pin w _ ⟨⟩
    exact ⟨7, Or.inl rfl, rfl⟩
  read := by
    rintro w ⟨rest, works⟩ g offset sizes rfl
    cases works with
    | true =>
        refine ⟨?_, by rintro _ ⟨⟩⟩
        rintro _ ⟨⟩
        refine ⟨List.take_prefix _ _, ?_⟩
        show (version.drop offset).drop (sizes.foldr Nat.add 0) = version.drop (offset + _)
        rw [List.drop_drop, List.length_take, List.length_drop]
        rcases Nat.le_total (sizes.foldr Nat.add 0) (version.length - offset) with hle | hle
        · rw [Nat.min_eq_left hle]
        · rw [Nat.min_eq_right hle, List.drop_of_length_le (by omega), List.drop_of_length_le (by omega)]
    | false =>
        refine ⟨by rintro _ ⟨⟩, ?_⟩
        rintro _ ⟨⟩ hkind
        cases hkind

/-- Streams that break after every read deliver all the same. -/
theorem Channel.readEach_of_brittle :
    let reads := (start ⟨⟨"bucket", "name", none⟩, {}, .onward 1⟩).readEach
      (Opener.brittle [10, 11, 12, 13]) ((RetryPolicy.immediate 2).adviser fun _ => pure ()) 3
      [[2], [1, 1], [5]]
    (reads ()).1.2.generation = some 7 ∧ octetsOf (reads ()).1.1 = [11, 12, 13] ∧
      After reads () fun result _ =>
        result.2.position = 1 + (octetsOf result.1).length ∧
          match result.2.generation with
          | some _ => octetsOf result.1 = List.extract [10, 11, 12, 13] 1 result.2.position
          | none => octetsOf result.1 = [] := by
  refine ⟨by decide, by decide, ?_⟩
  exact readEach_delivers_one_version (Opener.brittle_truthful [10, 11, 12, 13]) _ 3
    ⟨⟨"bucket", "name", none⟩, {}, .onward 1⟩ [[2], [1, 1], [5]] ()

end SteadyFetch
