import SteadyFetch.Proofs.ChangingService
import SteadyFetch.Proofs.Transfers

set_option autoImplicit false

/-! # Which responses a channel delivers

A network may report any responses, and each of them may name any generation. `Network.recorded` keeps a
transcript of what it reports, beside whatever else there is. A channel that is not broken has delivered
the beginning of the body of each response that was final, one after the other (`Channel.Pieced`), and all
of these that name a generation name the one that was named first. -/

namespace SteadyFetch

variable {S : Type}

/-! ## Transcripts -/

/-- What a network has reported: the transfers that are over, the latest first, and, while redirects are
    followed, what was reported on the way and how many more may follow. -/
structure Transcript where
  transfers : List Transfer
  before : List TransferEvent
  left : Nat

namespace Transcript

/-- No request is under way. -/
def idle (transfers : List Transfer) : Transcript := ⟨transfers, [], Network.maxRedirects⟩

/-- A transfer is over. -/
def finish (r : Transcript) (t : Transfer) : Transcript := idle (t :: r.transfers)

/-- Takes up a response to a request for a target. -/
def take (r : Transcript) (target : Target) (response : Wire.Response) : Transcript :=
  let events := r.before ++ response.events
  match response.redirect with
  | none => r.finish ⟨events, response.failure, response.status⟩
  | some location =>
    match r.left with
    | 0 => r.finish ⟨events, some .tooManyRedirects, response.status⟩
    | left + 1 =>
      match target.redirected location with
      | .error code => r.finish ⟨events, some code, response.status⟩
      | .ok _ => ⟨r.transfers, events, left⟩

end Transcript

/-- A network that keeps a transcript of what it reports. -/
def Network.recorded (network : Network (StateM S)) : Network (StateM (Transcript × S)) where
  exchange request := fun w =>
    let (reception, s) := network.exchange request w.2
    (reception, (w.1.take request.target (Wire.read reception), s))

/-- Acts beside a transcript. -/
def offRecord {α : Type} (x : StateM S α) : StateM (Transcript × S) α :=
  fun w => ((x w.2).1, (w.1, (x w.2).2))

/-- Following redirects where a transcript is kept: the transfer ends up in it, and `note`, which takes down
    the requests that transfers begin with, has the first request and none of those that follow. -/
theorem Network.after_follow_noted {W A : Type} {network : Network (StateM W)} (view : W → Transcript)
    (note : W → A) (add : HttpRequest → A → A)
    (hexchange : ∀ request w, After (network.exchange request) w fun reception w' =>
      view w' = (view w).take request.target (Wire.read reception) ∧
        note w' = if (view w).left = maxRedirects then add request (note w) else note w)
    (headers : List (String × String)) {left : Nat} (hmost : left ≤ maxRedirects) (target : Target) (w : W)
    (hleft : (view w).left = left) :
    After (network.follow headers (view w).before left target) w fun t w' =>
      view w' = (view w).finish t ∧
        note w' = if left = maxRedirects then add ⟨target, headers⟩ (note w) else note w := by
  induction left generalizing target w with
  | zero =>
      unfold follow
      refine After.bind (hexchange ⟨target, headers⟩ w) ?_
      rintro reception w₁ ⟨hw₁, hnote⟩
      rw [hleft] at hnote
      unfold Transcript.take at hw₁
      cases hredirect : (Wire.read reception).redirect with
      | none =>
          simp only [hredirect] at hw₁ ⊢
          exact ⟨hw₁, hnote⟩
      | some location =>
          simp only [hredirect, hleft] at hw₁ ⊢
          exact ⟨hw₁, hnote⟩
  | succ left ih =>
      unfold follow
      refine After.bind (hexchange ⟨target, headers⟩ w) ?_
      rintro reception w₁ ⟨hw₁, hnote⟩
      rw [hleft] at hnote
      unfold Transcript.take at hw₁
      cases hredirect : (Wire.read reception).redirect with
      | none =>
          simp only [hredirect] at hw₁ ⊢
          exact ⟨hw₁, hnote⟩
      | some location =>
          simp only [hredirect, hleft] at hw₁ ⊢
          cases hnext : target.redirected location with
          | error code =>
              simp only [hnext] at hw₁ ⊢
              exact ⟨hw₁, hnote⟩
          | ok next =>
              simp only [hnext] at hw₁ ⊢
              have hrest := ih (by omega) next w₁ (by rw [hw₁])
              rw [if_neg (show left ≠ maxRedirects by omega), hnote, hw₁] at hrest
              exact hrest

theorem Network.after_follow_recorded (network : Network (StateM S)) (headers : List (String × String))
    (target : Target) (w : Transcript × S) (hleft : w.1.left = maxRedirects) :
    After (network.recorded.follow headers w.1.before maxRedirects target) w fun t w' =>
      w'.1 = w.1.finish t :=
  (after_follow_noted Prod.fst (fun _ => ()) (fun _ _ => ()) (fun _ _ => ⟨rfl, rfl⟩) headers
    (Nat.le_refl _) target w hleft).imp fun _ _ => And.left

theorem Network.after_fetch_recorded (network : Network (StateM S)) (request : HttpRequest)
    {w : Transcript × S} {transfers : List Transfer} (h : w.1 = .idle transfers) :
    After (network.recorded.fetch request) w fun t w' => w'.1 = .idle (t :: transfers) := by
  have hfollow := network.after_follow_recorded request.headers request.target w (by rw [h]; rfl)
  rw [h] at hfollow
  exact hfollow

/-! ## Final responses -/

namespace Transfer

/-- Whether a transfer brought a response that is not worth another attempt, be it a success or not. -/
def isFinal (t : Transfer) : Bool :=
  match t.head? with
  | some (status, _) => !(FaultClass.ofStatus status).isTransient
  | none => false

/-- The generation that a response names. -/
def generation? (t : Transfer) : Option Int := t.head?.bind fun head => generationOf? head.2

end Transfer

/-- Whether a policy may allow another attempt after a fault. -/
def Fault.MayPass (fault : Fault) : Prop :=
  fault.faultClass.isTransient = true ∨ fault.readFailure.faultClass.isTransient = true

section Opening

variable {range : ByteRange} {t : Transfer}

theorem isFinal_of_openFrames_ok {opened : Opened BodyStream}
    (h : openFrames range t.frames = .ok opened) :
    t.isFinal = true ∧ opened.generation = t.generation? ∧
      ∃ left failure, opened.stream.Gives left failure ∧ left <+: t.body := by
  obtain ⟨status, lines, hhead, hgeneration, hgives⟩ := openFrames_ok h
  have hlow : status ≤ 299 ∨ status = 416 :=
    hgives.imp (fun h => status_of_judge_eq_content h.1) fun h => (of_judge_eq_pastEnd h.1).1
  refine ⟨?_, by rw [Transfer.generation?, hhead]; exact hgeneration, ?_⟩
  · have hclass : FaultClass.ofStatus status = .other := FaultClass.ofStatus_eq_other hlow
    simp [Transfer.isFinal, hhead, hclass, FaultClass.isTransient]
  · rcases hgives with ⟨-, hgives⟩ | ⟨-, hgives⟩
    · exact ⟨t.body, t.failure, hgives, List.prefix_rfl⟩
    · exact ⟨[], none, hgives, List.nil_prefix⟩

theorem isFinal_of_openFrames_error {fault : Fault} (h : openFrames range t.frames = .error fault)
    (hpass : fault.MayPass) : t.isFinal = false := by
  rcases t.frames_shape with ⟨code, hframes⟩ | ⟨status, lines, chunks, hframes⟩
  · rw [Transfer.isFinal, Transfer.head?, hframes]
  · have hstatus : ∃ message, fault = .status status message := by
      rw [hframes, openFrames] at h
      split at h
      · cases h
      · cases h
      · exact ⟨_, (Except.error.inj h).symm⟩
      · exact ⟨_, (Except.error.inj h).symm⟩
    obtain ⟨message, rfl⟩ := hstatus
    have htransient : (FaultClass.ofStatus status).isTransient = true := by
      rw [Fault.MayPass, Fault.readFailure_status] at hpass
      exact hpass.elim id id
    rw [Transfer.isFinal, Transfer.head?, hframes]
    simp [htransient]

end Opening

/-! ## Pieces of responses -/

/-- A channel that has delivered the beginning of each of some responses, given the latest first: its
    stream goes on with the latest one, and what it knows of the generation is what the first of them to
    name one named, which no other contradicts. -/
structure Channel.Pieced (c : Channel BodyStream) (got : Bytes) (responses : List Transfer) : Prop where
  pieces : ∃ pieces : List Bytes, got = pieces.reverse.flatten ∧
    List.Forall₂ (fun piece (t : Transfer) => piece <+: t.body) pieces responses ∧
    ∀ stream ∈ c.stream, ∃ piece older t others left failure, pieces = piece :: older ∧
      responses = t :: others ∧ stream.Gives left failure ∧ piece ++ left <+: t.body
  generation_eq : c.generation = responses.reverse.findSome? Transfer.generation?
  agrees : ∀ t ∈ responses, ∀ g ∈ t.generation?, c.generation = some g

namespace Channel.Pieced

variable {c : Channel BodyStream} {got : Bytes} {responses : List Transfer}

theorem start (request : ReadRequest) : (Channel.start request).Pieced [] [] where
  pieces := ⟨[], rfl, .nil, nofun⟩
  generation_eq := rfl
  agrees := nofun

theorem dropped (h : c.Pieced got responses) {c' : Channel BodyStream}
    (hgeneration : c'.generation = c.generation) (hstream : c'.stream = none) :
    c'.Pieced got responses where
  pieces := by
    obtain ⟨pieces, hgot, hpieces, -⟩ := h.pieces
    refine ⟨pieces, hgot, hpieces, ?_⟩
    rw [hstream]
    nofun
  generation_eq := hgeneration.trans h.generation_eq
  agrees := by
    rw [hgeneration]
    exact h.agrees

theorem opened (h : c.Pieced got responses) {range : ByteRange} {t : Transfer}
    {opened : Opened BodyStream} (hopened : openFrames range t.frames = .ok opened)
    {c' : Channel BodyStream} (hsettle : c.settleGeneration opened.generation = .ok c') :
    (c'.streaming opened.stream).Pieced got (t :: responses) := by
  obtain ⟨-, hreported, left, failure, hgives, hleft⟩ := isFinal_of_openFrames_ok hopened
  obtain ⟨-, hgeneration, hagrees⟩ := settleGeneration_eq hsettle
  rw [hreported] at hgeneration hagrees
  refine ⟨?_, ?_, ?_⟩
  · obtain ⟨pieces, hgot, hpieces, -⟩ := h.pieces
    refine ⟨[] :: pieces, ?_, .cons List.nil_prefix hpieces, ?_⟩
    · rw [hgot, List.reverse_cons, List.flatten_append, List.flatten_singleton, List.append_nil]
    · rintro _ ⟨⟩
      exact ⟨[], pieces, t, responses, left, failure, rfl, rfl, hgives, hleft⟩
  · show c'.generation = _
    rw [hgeneration, h.generation_eq, List.reverse_cons, List.findSome?_append, List.findSome?_singleton]
  · intro other hmem g hg
    show c'.generation = some g
    rcases List.mem_cons.1 hmem with rfl | hmem
    · exact hagrees g hg
    · rw [hgeneration, h.agrees other hmem g hg]
      rfl

theorem read (h : c.Pieced got responses) {stream rest : BodyStream} (hstream : c.stream = some stream)
    {sizes : List Nat} (hsizes : ∃ size ∈ sizes, 0 < size) {bs : Bytes}
    (hread : stream.readInto sizes = (.ok bs, rest)) :
    (c.advanced rest bs).Pieced (got ++ bs) responses := by
  obtain ⟨pieces, hgot, hpieces, hlive⟩ := h.pieces
  obtain ⟨piece, older, t, others, left, failure, rfl, rfl, hgives, hleft⟩ := hlive stream hstream
  have hgave := hgives.readInto hsizes
  rw [hread] at hgave
  obtain ⟨⟨next, rfl⟩, -, hrest⟩ := hgave
  rw [List.drop_left] at hrest
  rw [← List.append_assoc] at hleft
  refine ⟨⟨(piece ++ bs) :: older, ?_, ?_, ?_⟩, h.generation_eq, h.agrees⟩
  · rw [hgot, List.reverse_cons, List.reverse_cons, List.flatten_append, List.flatten_append,
      List.flatten_singleton, List.flatten_singleton, List.append_assoc]
  · cases hpieces with
    | cons _ hothers => exact .cons ((List.prefix_append _ _).trans hleft) hothers
  · rintro _ ⟨⟩
    exact ⟨piece ++ bs, older, t, others, next, failure, rfl, rfl, hrest, hleft⟩

end Channel.Pieced

namespace Channel

variable {network : Network (StateM S)} {endpoint : Url} {policy : RetryPolicy}
  {pause : Span → StateM S Unit} {tree : FileTree} {c : Channel BodyStream} {got : Bytes}
  {responses : List Transfer}

/-- What a channel has delivered is the beginning of each final response of the transcript. -/
def PiecesOf (c : Channel BodyStream) (got : Bytes) (r : Transcript) : Prop :=
  ∃ transfers, r = .idle transfers ∧ c.Pieced got (transfers.filter Transfer.isFinal)

theorem PiecesOf.dropped {r : Transcript} (h : c.PiecesOf got r) {c' : Channel BodyStream}
    (hgeneration : c'.generation = c.generation) (hstream : c'.stream = none) : c'.PiecesOf got r := by
  obtain ⟨transfers, hr, hpieced⟩ := h
  exact ⟨transfers, hr, hpieced.dropped hgeneration hstream⟩

/-- What a policy is asked beside the files: it only allows another attempt after a fault that may pass,
    and keeps what waiting keeps. -/
theorem after_allows_policy {R : Type} (policy : RetryPolicy) {pause : Span → StateM R Unit} {P : R → Prop}
    (hpause : ∀ delay r, P r → After (pause delay) r fun _ r' => P r') (attempt : Nat) (fault : Fault)
    {w : Site R} (h : P w.rest) :
    After ((policy.adviser fun delay => Site.onRest (pause delay)).allows attempt fault) w
      fun allowed w' => w'.tree = w.tree ∧ P w'.rest ∧ (allowed = true → fault.MayPass) := by
  rw [RetryPolicy.allows_eq]
  unfold RetryPolicy.look
  cases hdelay : policy.decide attempt fault.readFailure.faultClass with
  | none => exact ⟨rfl, h, nofun⟩
  | some delay =>
      have htransient : fault.readFailure.faultClass.isTransient = true := by
        rw [RetryPolicy.decide_eq] at hdelay
        split at hdelay
        · next hallowed => exact hallowed.1
        · cases hdelay
      exact ⟨rfl, hpause delay _ h, fun _ => Or.inr htransient⟩

/-- A relation of what a channel has delivered to what there is beside the files, such that whatever the
    channel does keeps it. A fetch has to keep it where the response is taken up and where the fault of the
    response may pass, since the channel ends otherwise. -/
structure Traces {R : Type} (network : Network (StateM R)) (endpoint : Url) (pause : Span → StateM R Unit)
    (Of : Channel BodyStream → Bytes → R → Prop) : Prop where
  dropped : ∀ {c c' : Channel BodyStream} {got r}, Of c got r → c'.request = c.request →
    c'.generation = c.generation → c'.stream = none → Of c' got r
  handed : ∀ {c : Channel BodyStream} {got r}, Of c got r → Of { c with unreported := none } got r
  fetched : ∀ {c : Channel BodyStream} {got r asked}, Of c got r →
    mediaRequest endpoint (c.request.startingAt c.position) c.generation = .ok asked →
    After (network.fetch asked) r fun t r' =>
      match openFrames (c.request.startingAt c.position).range t.frames with
      | .ok opened => ∀ c', c.settleGeneration opened.generation = .ok c' →
          Of (c'.streaming opened.stream) got r'
      | .error fault => fault.MayPass → Of c got r'
  read : ∀ {c : Channel BodyStream} {got r stream sizes}, Of c got r → c.stream = some stream →
    (∃ size ∈ sizes, 0 < size) →
    match stream.readInto sizes with
    | (.ok bs, rest) => Of (c.advanced rest bs) (got ++ bs) r
    | (.error fault, _) => fault.kind ≠ .interrupted
  paused : ∀ {c : Channel BodyStream} {got r} delay, Of c got r → After (pause delay) r fun _ r' => Of c got r'

/-- What is traced, as an invariant: a channel that is broken may have left out a response, and so may one
    at a fault that does not pass. -/
def tracing {R : Type} (Of : Channel BodyStream → Bytes → R → Prop) (tree : FileTree) :
    Invariant (Site R) BodyStream where
  Holds got c w := w.tree = tree ∧ (c.broken = none → Of c got w.rest)
  Faulted fault got c w := w.tree = tree ∧ (fault.MayPass → Of c got w.rest)

theorem Traces.kept {R : Type} {network : Network (StateM R)} {endpoint : Url}
    {pause : Span → StateM R Unit} {Of : Channel BodyStream → Bytes → R → Prop}
    (h : Traces network endpoint pause Of) (policy : RetryPolicy) (tree : FileTree) :
    (tracing Of tree).Kept (httpOpener (Site.network network) endpoint)
      (policy.adviser fun delay => Site.onRest (pause delay)) where
  openAt := by
    rintro got c w ⟨htree, hof⟩ hready hstream
    have hof := hof hready.broken_eq
    unfold httpOpener
    cases hasked : mediaRequest endpoint (c.request.startingAt c.position) c.generation with
    | error fault =>
        simp only [hasked, After.pure_iff]
        split
        · exact ⟨htree, by rintro ⟨⟩⟩
        · exact ⟨htree, fun _ => h.dropped hof rfl rfl rfl⟩
    | ok asked =>
        simp only [hasked, Site.fetch_network]
        refine After.bind (Site.after_onRest (h.fetched hof hasked)) ?_
        rintro t w₁ ⟨htree₁, hfetched⟩
        rw [After.pure_iff]
        cases hopened : openFrames (c.request.startingAt c.position).range t.frames with
        | error fault =>
            simp only [hopened] at hfetched ⊢
            split
            · exact ⟨htree₁.trans htree, by rintro ⟨⟩⟩
            · exact ⟨htree₁.trans htree, fun hpass => h.dropped (hfetched hpass) rfl rfl rfl⟩
        | ok opened =>
            simp only [hopened] at hfetched ⊢
            cases hsettle : c.settleGeneration opened.generation with
            | error reason => exact ⟨htree₁.trans htree, by rintro ⟨⟩⟩
            | ok c' => exact ⟨htree₁.trans htree, fun _ => hfetched c' hsettle⟩
  read := by
    rintro got c w stream sizes ⟨htree, hof⟩ hready hstream hsizes
    have hof := hof hready.broken_eq
    have hread := h.read hof hstream hsizes
    unfold httpOpener
    rw [After.pure_iff]
    cases hgiven : stream.readInto sizes with
    | mk result rest =>
        rw [hgiven] at hread
        cases result with
        | ok bs =>
            simp only
            split
            · exact ⟨htree, fun _ => h.dropped hof rfl rfl rfl⟩
            · exact ⟨htree, fun _ => hread⟩
        | error fault =>
            simp only
            rw [if_neg hread]
            exact ⟨htree, fun _ => h.dropped hof rfl rfl rfl⟩
  allows := by
    rintro got c w fault ⟨htree, hof⟩
    refine (after_allows_policy policy (P := fun r => fault.MayPass → Of c got r)
      (fun delay r hr => fun hpass => h.paused delay (hr hpass)) c.failures fault hof).imp ?_
    rintro allowed w' ⟨htree', hof', hpass⟩
    cases allowed with
    | true => exact ⟨htree'.trans htree, fun _ => hof' (hpass rfl)⟩
    | false => exact ⟨htree'.trans htree, hof'⟩
  exhausted := by
    rintro got c w ⟨htree, hof⟩ - hbroken -
    exact ⟨htree, fun _ => h.dropped (hof hbroken) rfl rfl rfl⟩
  handed := by
    rintro got c w ⟨htree, hof⟩
    exact ⟨htree, fun hbroken => h.handed (hof hbroken)⟩

/-- What a read that succeeds delivers is traced. -/
theorem Traces.after_read {R : Type} {network : Network (StateM R)} {pause : Span → StateM R Unit}
    {Of : Channel BodyStream → Bytes → R → Prop} (h : Traces network endpoint pause Of)
    (policy : RetryPolicy) (limit : Nat) {w : Site R} (hof : Of c got w.rest) (sizes : List Nat) :
    After (c.read (httpOpener (Site.network network) endpoint)
      (policy.adviser fun delay => Site.onRest (pause delay)) limit sizes) w fun read w' =>
      ∀ outcome c', read = some (.ok outcome, c') →
        w'.tree = w.tree ∧ c'.broken = none ∧ Of c' (got ++ outcome.progress.bytes) w'.rest := by
  have hholds : (tracing Of w.tree).Holds got c w := ⟨rfl, fun _ => hof⟩
  refine ((h.kept policy w.tree).after_read limit hholds sizes).imp ?_
  rintro _ w' hread ⟨progress, resolved⟩ c' rfl
  cases progress with
  | octets bs =>
      obtain ⟨⟨htree, htraced⟩, hunbroken⟩ := hread
      exact ⟨htree, hunbroken, htraced hunbroken⟩
  | endOfStream =>
      obtain ⟨⟨htree, htraced⟩, -, hunbroken⟩ := hread
      rw [show got ++ Progress.endOfStream.bytes = got from List.append_nil got]
      exact ⟨htree, hunbroken, htraced hunbroken⟩

/-- A stream that goes on with a response is not interrupted. -/
theorem Pieced.not_interrupted (h : c.Pieced got responses) {stream rest : BodyStream}
    (hstream : c.stream = some stream) {sizes : List Nat} (hsizes : ∃ size ∈ sizes, 0 < size)
    {fault : IoFault} (hread : stream.readInto sizes = (.error fault, rest)) : fault.kind ≠ .interrupted := by
  obtain ⟨_, -, -, hlive⟩ := h.pieces
  obtain ⟨_, _, _, _, _, _, -, -, hgives, -⟩ := hlive stream hstream
  have hgave := hgives.readInto hsizes
  rw [hread] at hgave
  obtain ⟨-, code, -, rfl⟩ := hgave
  exact code.ioKind_ne_interrupted

theorem traces_piecesOf (network : Network (StateM S)) (endpoint : Url) (pause : Span → StateM S Unit) :
    Traces network.recorded endpoint (fun delay => offRecord (pause delay))
      fun c got (r : Transcript × S) => c.PiecesOf got r.1 where
  dropped h _ hgeneration hstream := h.dropped hgeneration hstream
  handed := by
    rintro c got r ⟨transfers, hr, hpieced⟩
    exact ⟨transfers, hr, hpieced.pieces, hpieced.generation_eq, hpieced.agrees⟩
  fetched := by
    rintro c got r asked ⟨transfers, hr, hpieced⟩ -
    refine (network.after_fetch_recorded asked hr).imp ?_
    intro t r' hr'
    cases hopened : openFrames (c.request.startingAt c.position).range t.frames with
    | error fault =>
        refine fun hpass => ⟨_, hr', ?_⟩
        rw [List.filter_cons, isFinal_of_openFrames_error hopened hpass]
        exact hpieced
    | ok opened =>
        refine fun c' hsettle => ⟨_, hr', ?_⟩
        rw [List.filter_cons, if_pos (isFinal_of_openFrames_ok hopened).1]
        exact hpieced.opened hopened hsettle
  read := by
    rintro c got r stream sizes ⟨transfers, hr, hpieced⟩ hstream hsizes
    cases hread : stream.readInto sizes with
    | mk result rest =>
        cases result with
        | ok bs => exact ⟨transfers, hr, hpieced.read hstream hsizes hread⟩
        | error fault => exact hpieced.not_interrupted hstream hsizes hread
  paused _ h := h

end Channel

end SteadyFetch
