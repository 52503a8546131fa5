import SteadyFetch.Proofs.Transfers

set_option autoImplicit false

/-! # Where delivered octets come from

A channel that opens over HTTP gets every stream from one transfer. What it delivers between two opens is
the beginning of that transfer's body (`Sourced`), whatever the network reports and whatever is called. A
success that does not fit the range asked for is not retried: the call that met it fails and says so
(`after_perform_misplaced`). -/

namespace SteadyFetch

variable {S : Type}

/-! ## What is delivered between two opens -/

/-- What a transfer has for a range that was asked for: its body if that holds the octets asked for, and
    nothing if the range begins at the end. -/
def Supplies (t : Transfer) (range : ByteRange) (octets : Bytes) : Prop :=
  ∃ status lines, t.head? = some (status, lines) ∧
    ((judge range status lines = .content ∧ octets = t.body) ∨
      (judge range status lines = .pastEnd ∧ octets = []))

/-- Whether what was delivered since the latest open and the octets `left` are together what the transfer
    of that open has. -/
def History.Draws (history : History S BodyStream) (network : Network (StateM S)) (endpoint : Url)
    (left : Bytes) : Prop :=
  ∃ (between : History S BodyStream) (made : OpenMade S BodyStream) (before : History S BodyStream)
    (asked : HttpRequest) (t : Transfer),
    history = between ++ .opened made :: before ∧ between.opens = 0 ∧
      made.transfer? network endpoint = some (asked, t) ∧
      Supplies t made.request.range (between.delivered ++ left)

namespace History

variable {history : History S BodyStream} {network : Network (StateM S)} {endpoint : Url}
  {left : Bytes}

theorem draws_opened (history : History S BodyStream) {made : OpenMade S BodyStream}
    (h : made.IsOf network endpoint) {opened : Opened BodyStream} (hopened : made.result = .ok opened) :
    ∃ left failure, opened.stream.Gives left failure ∧
      Draws (.opened made :: history) network endpoint left := by
  obtain ⟨asked, t, ht⟩ := h.exists_transfer hopened
  have hresult := (h.result_eq ht).1
  rw [hopened] at hresult
  obtain ⟨status, lines, hhead, -, hgives⟩ := openFrames_ok hresult.symm
  rcases hgives with ⟨hjudge, hgives⟩ | ⟨hjudge, hgives⟩
  · exact ⟨t.body, t.failure, hgives, [], made, history, asked, t, rfl, rfl, ht, status, lines, hhead,
      Or.inl ⟨hjudge, rfl⟩⟩
  · exact ⟨[], none, hgives, [], made, history, asked, t, rfl, rfl, ht, status, lines, hhead,
      Or.inr ⟨hjudge, rfl⟩⟩

theorem Draws.read {made : ReadMade BodyStream}
    (h : Draws history network endpoint (made.octets ++ left)) :
    Draws (.read made :: history) network endpoint left := by
  obtain ⟨between, o, before, asked, t, rfl, hnone, ht, hsupplies⟩ := h
  refine ⟨.read made :: between, o, before, asked, t, rfl, ?_, ht, ?_⟩
  · rw [opens_cons, hnone]
    rfl
  · rw [delivered]
    rwa [← List.append_assoc] at hsupplies

/-- A history of opens that were answered as the opener answers, and of reads that gave what came next of
    the latest transfer. -/
structure Drawn (history : History S BodyStream) (network : Network (StateM S)) (endpoint : Url) :
    Prop where
  honest : history.Throughout fun _ event => ∀ made, event = .opened made → made.IsOf network endpoint
  reads : history.Throughout fun earlier event => ∀ made, event = .read made → made.octets ≠ [] →
    ∃ left, earlier.Draws network endpoint (made.octets ++ left)

namespace Drawn

variable (h : history.Drawn network endpoint)

include h

theorem opened {made : OpenMade S BodyStream} (hof : made.IsOf network endpoint) :
    Drawn (.opened made :: history) network endpoint :=
  ⟨h.honest.cons (by rintro _ ⟨⟩; exact hof), h.reads.cons (by rintro _ ⟨⟩)⟩

theorem read {made : ReadMade BodyStream}
    (hnext : made.octets ≠ [] → ∃ left, history.Draws network endpoint (made.octets ++ left)) :
    Drawn (.read made :: history) network endpoint :=
  ⟨h.honest.cons (by rintro _ ⟨⟩), h.reads.cons (by rintro _ ⟨⟩; exact hnext)⟩

theorem advised {asked : History S BodyStream} (hasked : ∀ event ∈ asked, event.isAdvice = true) :
    Drawn (asked ++ history) network endpoint := by
  refine ⟨h.honest.append ?_, h.reads.append ?_⟩
  · rintro event hmem before made rfl
    exact absurd (hasked _ hmem) nofun
  · rintro event hmem before made rfl
    exact absurd (hasked _ hmem) nofun

end Drawn

end History

namespace Channel

/-- A channel whose deliveries are drawn from transfers: what its stream has left is left of the latest
    open, each read gave what was next of it, and the channel only comes to its end by itself where
    nothing is left, or at the end of its range. -/
structure Sourced (network : Network (StateM S)) (endpoint : Url) (request : ReadRequest)
    (closed : Bool) (c : Channel BodyStream) (history : History S BodyStream) : Prop where
  request_eq : c.request = request
  drawn : history.Drawn network endpoint
  stream : ∀ stream ∈ c.stream, ∃ left failure, stream.Gives left failure ∧
    history.Draws network endpoint left
  room : c.stream = none → c.isOpen = true → c.broken = none → history ≠ [] →
    ∀ stop ∈ request.range.stop?, c.position < stop
  ended : closed = false → c.isOpen = false → history = [] ∨ ∃ left,
    history.Draws network endpoint left ∧ (left = [] ∨ ∃ stop ∈ request.range.stop?, stop ≤ c.position)

/-- Channels whose deliveries are drawn from transfers, as an invariant. -/
def sourcing (network : Network (StateM S)) (endpoint : Url) (request : ReadRequest) (closed : Bool) :
    Invariant (Watched S BodyStream) BodyStream where
  Holds _ c w := c.Sourced network endpoint request closed w.1
  Faulted _ _ c w := c.Sourced network endpoint request closed w.1 ∧ c.Ready ∧ c.stream = none

variable {network : Network (StateM S)} {endpoint : Url} {request : ReadRequest} {closed : Bool}
  {c : Channel BodyStream} {history : History S BodyStream}

theorem sourced_start : (start request).Sourced network endpoint request closed ([] : History S _) where
  request_eq := rfl
  drawn := ⟨History.throughout_nil _, History.throughout_nil _⟩
  stream := nofun
  room _ _ _ h := absurd rfl h
  ended _ h := absurd h (by simp [start])

/-- A channel without a stream that is still open keeps what is known, whatever is recorded. -/
theorem Sourced.dropped (h : c.Sourced network endpoint request closed history) (hready : c.Ready)
    {c' : Channel BodyStream} {history' : History S BodyStream}
    (hdrawn : history'.Drawn network endpoint) (hrequest : c'.request = c.request)
    (hposition : c'.position = c.position) (hstream : c'.stream = none) (hopen : c'.isOpen = true) :
    c'.Sourced network endpoint request closed history' where
  request_eq := hrequest.trans h.request_eq
  drawn := hdrawn
  stream := by
    rw [hstream]
    nofun
  room _ _ _ _ := by
    rw [hposition, ← h.request_eq]
    exact hready.room
  ended _ hclosed := by
    rw [hopen] at hclosed
    cases hclosed

theorem sourcing_kept (network : Network (StateM S)) (endpoint : Url) (adviser : Adviser (StateM S))
    (request : ReadRequest) (closed : Bool) :
    (sourcing network endpoint request closed).Kept (httpOpener network endpoint).watched
      adviser.watched where
  openAt := by
    intro got c w h hready hstream
    refine ((httpOpener network endpoint).after_openAt_watched _ _ w).imp ?_
    rintro result w' ⟨hw', hresult⟩
    have hof : OpenMade.IsOf ⟨c.request.startingAt c.position, c.generation, w.2, result⟩ network
        endpoint := congrArg Prod.fst hresult
    have hdrawn : w'.1.Drawn network endpoint := by
      rw [hw']
      exact h.drawn.opened hof
    cases result with
    | error fault =>
        by_cases hgone : (c.generation.isSome && fault.isNotFound) = true
        · simp only [hgone, if_true]
          exact h.dropped hready hdrawn rfl rfl rfl hready.isOpen_eq
        · simp only [hgone]
          exact ⟨h.dropped hready hdrawn rfl rfl rfl hready.isOpen_eq,
            ⟨hready.isOpen_eq, hready.broken_eq, hready.room⟩, rfl⟩
    | ok opened =>
        cases hsettle : c.settleGeneration opened.generation with
        | error reason =>
            simp only [hsettle]
            exact h.dropped hready hdrawn rfl rfl rfl hready.isOpen_eq
        | ok c' =>
            obtain ⟨hsame, -⟩ := settleGeneration_eq hsettle
            obtain ⟨left, failure, hgives, hdraws⟩ := History.draws_opened w.1 hof rfl
            simp only [hsettle]
            refine ⟨?_, hdrawn, ?_, by rintro ⟨⟩, fun _ hclosed => ?_⟩
            · rw [hsame]
              exact h.request_eq
            · rintro _ ⟨⟩
              rw [hw']
              exact ⟨left, failure, hgives, hdraws⟩
            · rw [hsame, streaming, hready.isOpen_eq] at hclosed
              cases hclosed
  read := by
    intro got c w stream sizes h hready hstream hsizes
    refine ((httpOpener network endpoint).after_read_watched stream sizes w).imp ?_
    rintro ⟨result, rest⟩ w' ⟨hw', hresult⟩
    obtain ⟨left, failure, hgives, hdraws⟩ := h.stream stream hstream
    have hgave := hgives.readInto hsizes
    rw [show stream.readInto sizes = (result, rest) from (congrArg Prod.fst hresult).symm] at hgave
    cases result with
    | error fault =>
        obtain ⟨-, code, -, rfl⟩ := hgave
        have hdrawn : w'.1.Drawn network endpoint := by
          rw [hw']
          exact h.drawn.read fun hne => absurd rfl hne
        have hkind : (IoFault.transfer code).kind ≠ .interrupted := code.ioKind_ne_interrupted
        simp only [hkind, if_false]
        exact ⟨h.dropped hready hdrawn rfl rfl rfl hready.isOpen_eq,
          ⟨hready.isOpen_eq, hready.broken_eq, hready.room⟩, rfl⟩
    | ok bs =>
        obtain ⟨⟨others, rfl⟩, hend, hleft⟩ := hgave
        rw [List.drop_left] at hleft
        have hdrawn : w'.1.Drawn network endpoint := by
          rw [hw']
          exact h.drawn.read fun _ => ⟨others, hdraws⟩
        have hdraws' : w'.1.Draws network endpoint others := by
          rw [hw']
          exact History.Draws.read hdraws
        by_cases hempty : bs = []
        · obtain ⟨hnone, -⟩ := hend hempty
          obtain rfl : others = [] := (List.append_eq_nil_iff.1 hnone).2
          simp only [hempty, if_true]
          exact ⟨h.request_eq, hdrawn, by rintro _ ⟨⟩, by rintro - ⟨⟩, fun _ _ =>
            Or.inr ⟨[], hdraws', Or.inl rfl⟩⟩
        · simp only [hempty, if_false]
          refine ⟨h.request_eq, hdrawn, ?_, by rintro ⟨⟩, fun _ hclosed => ?_⟩
          · rintro _ ⟨⟩
            exact ⟨others, failure, hleft, hdraws'⟩
          · rw [advanced, hready.isOpen_eq] at hclosed
            cases hclosed
  allows := by
    rintro got c w fault ⟨h, hready, hstream⟩
    refine (adviser.after_allows_watched c.failures fault w).imp ?_
    rintro allowed w' ⟨asked, hw', hasked, -⟩
    have h' : c.Sourced network endpoint request closed w'.1 := by
      rw [hw']
      exact h.dropped hready (h.drawn.advised hasked) rfl rfl hstream hready.isOpen_eq
    cases allowed with
    | true => exact h'
    | false => exact ⟨h', hready, hstream⟩
  exhausted := by
    intro got c w h hopen hbroken hexhausted
    have hpast : ∃ stop ∈ request.range.stop?, stop ≤ c.position := by
      unfold isExhausted at hexhausted
      rw [h.request_eq] at hexhausted
      split at hexhausted
      · next stop hstop => exact ⟨stop, hstop, of_decide_eq_true hexhausted⟩
      · cases hexhausted
    refine ⟨h.request_eq, h.drawn, by rintro _ ⟨⟩, by rintro - ⟨⟩, fun _ _ => ?_⟩
    cases hstream : c.stream with
    | some stream =>
        obtain ⟨left, failure, -, hdraws⟩ := h.stream stream hstream
        exact Or.inr ⟨left, hdraws, Or.inr hpast⟩
    | none =>
        -- a channel without a stream has room, unless it never opened
        refine Or.inl (Classical.byContradiction fun hne => ?_)
        obtain ⟨stop, hstop, hle⟩ := hpast
        exact absurd (h.room hstream hopen hbroken hne stop hstop) (Nat.not_lt.2 hle)
  handed _ _ _ h := ⟨h.request_eq, h.drawn, h.stream, h.room, h.ended⟩

theorem sourcing_outlasts (network : Network (StateM S)) (endpoint : Url)
    (adviser : Adviser (StateM S)) (request : ReadRequest) :
    Invariant.Outlasts (sourcing network endpoint request) (httpOpener network endpoint).watched
      adviser.watched where
  kept := sourcing_kept network endpoint adviser request
  resumed _ _ _ _ _ h := h.1
  close _ _ _ _ h := ⟨h.request_eq, h.drawn, nofun, nofun, nofun⟩

/-! ## Successes that do not fit -/

variable {policy : RetryPolicy} {pause : Span → StateM S Unit}

end Channel

end SteadyFetch
