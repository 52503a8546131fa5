import SteadyFetch.Proofs.Footprint

set_option autoImplicit false

/-! # Which requests the responses were for

A transcript tells what a network reported; a ledger tells besides which request each transfer began with
(`Network.ledgered`). So octets can be traced to responses for one generation of one object
(`Fetched.Received`): the request asked for the object, and the response names the generation, or names
none and the request asked for it. What a channel has delivered is accounted for by the ledger
(`Channel.Accounted`): each response that it took up was asked for at the generation that an earlier one
was the first to name. -/

namespace SteadyFetch

variable {S : Type}

/-! ## Ledgers -/

/-- A transfer that is over, and the request that it began with. -/
structure Fetched where
  request : HttpRequest
  transfer : Transfer

namespace Fetched

/-- The generation that the response names. -/
def generation? (e : Fetched) : Option Int := e.transfer.generation?

theorem range_of_generation? {e : Fetched} {g : Int} (h : e.generation? = some g) :
    -(Word.limit63 : Int) ≤ g ∧ g < Word.limit63 := by
  obtain ⟨head, -, hhead⟩ := Option.bind_eq_some_iff.1 h
  obtain ⟨line, -, hline⟩ := List.exists_of_findSome?_eq_some hhead
  obtain ⟨header, -, hheader⟩ := Option.bind_eq_some_iff.1 hline
  split at hheader
  · exact Numeral.range_of_i64? hheader
  · cases hheader

/-- Whether the transfer brought a response that is not worth another attempt. -/
def isFinal (e : Fetched) : Bool := e.transfer.isFinal

/-- Whether a response was for a generation of an object: its request asked for the object, and it names the
    generation, or names none where the request asked for the generation. -/
def IsOf (e : Fetched) (object : ObjectRef) : Prop :=
  ∃ endpoint asked pin g, mediaRequest endpoint asked pin = .ok e.request ∧
    asked.object.bucket = object.bucket ∧ asked.object.name = object.name ∧ object.generation = some g ∧
      (e.generation? = some g ∨ e.generation? = none ∧ (asked.object.generation <|> pin) = some g)

/-- A response that names no generation was for one that its request asked for. -/
theorem IsOf.generations_ne_nil {e : Fetched} {object : ObjectRef} (h : e.IsOf object)
    (hunnamed : e.generation? = none) : e.request.generations ≠ [] := by
  obtain ⟨endpoint, asked, pin, g, hrequest, -, -, -, hnamed | ⟨-, hasked⟩⟩ := h
  · rw [hunnamed] at hnamed
    cases hnamed
  · rw [ReadRequest.generations_mediaRequest hrequest, hasked]
    simp

/-- Whether all of some octets were received in responses for a generation of an object. -/
def Received (fetched : List Fetched) (object : ObjectRef) (held : Bytes) : Prop :=
  ∃ pieces : List (Bytes × Fetched), held = (pieces.map Prod.fst).flatten ∧
    ∀ p ∈ pieces, p.2 ∈ fetched ∧ p.1 <+: p.2.transfer.body ∧ p.2.IsOf object

/-- The generation that was named first in responses, which are given the latest first. -/
def named? (responses : List Fetched) : Option Int := responses.reverse.findSome? generation?

theorem named?_map (responses : List Fetched) :
    (responses.map transfer).reverse.findSome? Transfer.generation? = named? responses := by
  rw [named?, ← List.map_reverse, List.findSome?_map]
  rfl

namespace Received

variable {fetched more : List Fetched} {object : ObjectRef} {held bs : Bytes}

theorem nil : Received fetched object [] := ⟨[], rfl, by simp⟩

theorem append (h : Received fetched object held) (h' : Received fetched object bs) :
    Received fetched object (held ++ bs) := by
  obtain ⟨pieces, rfl, hpieces⟩ := h
  obtain ⟨others, rfl, hothers⟩ := h'
  refine ⟨pieces ++ others, by rw [List.map_append, List.flatten_append], fun p hp => ?_⟩
  exact (List.mem_append.1 hp).elim (hpieces p) (hothers p)

/-- Octets can only have been received for an object at a generation. -/
theorem exists_generation (h : Received fetched object held) (hne : held ≠ []) :
    ∃ g, object.generation = some g := by
  obtain ⟨pieces, rfl, hpieces⟩ := h
  cases pieces with
  | nil => exact absurd rfl hne
  | cons p pieces =>
      obtain ⟨-, -, _, _, _, g, -, -, -, hg, -⟩ := hpieces p List.mem_cons_self
      exact ⟨g, hg⟩

theorem exists_of_mem (h : Received fetched object held) {b : UInt8} (hb : b ∈ held) :
    ∃ e ∈ fetched, b ∈ e.transfer.body ∧ e.IsOf object := by
  obtain ⟨pieces, rfl, hpieces⟩ := h
  obtain ⟨piece, hpiece, hb⟩ := List.mem_flatten.1 hb
  obtain ⟨p, hp, rfl⟩ := List.mem_map.1 hpiece
  obtain ⟨hmem, hinit, hof⟩ := hpieces p hp
  exact ⟨p.2, hmem, hinit.subset hb, hof⟩

theorem mono (h : Received fetched object held) (hmore : ∀ e ∈ fetched, e ∈ more) :
    Received more object held := by
  obtain ⟨pieces, rfl, hpieces⟩ := h
  exact ⟨pieces, rfl, fun p hp => ⟨hmore _ (hpieces p hp).1, (hpieces p hp).2⟩⟩

theorem of_pieces {pieces : List Bytes} {responses : List Fetched}
    (h : List.Forall₂ (fun piece (e : Fetched) => piece <+: e.transfer.body) pieces responses)
    (hof : ∀ e ∈ responses, e ∈ fetched ∧ e.IsOf object) :
    Received fetched object pieces.reverse.flatten := by
  induction h with
  | nil => exact nil
  | @cons piece e pieces responses hpiece _ ih =>
      obtain ⟨⟨hmem, hisOf⟩, hothers⟩ := List.forall_mem_cons.1 hof
      rw [List.reverse_cons, List.flatten_append]
      exact (ih hothers).append ⟨[(piece, e)], rfl, by simpa using ⟨hmem, hpiece, hisOf⟩⟩

end Received

end Fetched

/-- What a network has reported, and the requests that its transfers began with, the latest first. -/
structure Ledger where
  requests : List HttpRequest
  transcript : Transcript

namespace Ledger

/-- The transfers that are over, the latest first. -/
def fetched (l : Ledger) : List Fetched := List.zipWith Fetched.mk l.requests l.transcript.transfers

/-- No request is under way. -/
def idle (fetched : List Fetched) : Ledger :=
  ⟨fetched.map Fetched.request, .idle (fetched.map Fetched.transfer)⟩

@[simp] theorem fetched_idle (fetched : List Fetched) : (idle fetched).fetched = fetched := by
  induction fetched with
  | nil => rfl
  | cons e fetched ih => exact congrArg (e :: ·) ih

/-- Takes up a response to a request; where nothing was under way, a transfer begins with it. -/
def take (l : Ledger) (request : HttpRequest) (response : Wire.Response) : Ledger where
  requests := if l.transcript.left = Network.maxRedirects then request :: l.requests else l.requests
  transcript := l.transcript.take request.target response

/-- The final responses since an earlier time, in order. -/
def since (l earlier : Ledger) : List Fetched :=
  ((l.fetched.take (l.fetched.length - earlier.fetched.length)).filter Fetched.isFinal).reverse

@[simp] theorem since_idle (new start : List Fetched) :
    (idle (new ++ start)).since (idle start) = (new.filter Fetched.isFinal).reverse := by
  rw [since, fetched_idle, fetched_idle, List.length_append, Nat.add_sub_cancel, List.take_left]

/-- Acts beside a ledger. -/
def aside {α : Type} (x : StateM S α) : StateM (Ledger × S) α :=
  fun w => ((x w.2).1, (w.1, (x w.2).2))

end Ledger

/-- A network that keeps a ledger. -/
def Network.ledgered (network : Network (StateM S)) : Network (StateM (Ledger × S)) where
  exchange request := fun w =>
    let (reception, s) := network.exchange request w.2
    (reception, (w.1.take request (Wire.read reception), s))

/-- Every fetch leaves its request and its transfer in the ledger. -/
theorem Network.after_fetch_ledgered (network : Network (StateM S)) (request : HttpRequest)
    {w : Ledger × S} {fetched : List Fetched} (h : w.1 = .idle fetched) :
    After (network.ledgered.fetch request) w fun t w' => w'.1 = .idle (⟨request, t⟩ :: fetched) := by
  have hexchange : ∀ request w, After (network.ledgered.exchange request) w fun reception w' =>
      w'.1.transcript = w.1.transcript.take request.target (Wire.read reception) ∧
        w'.1.requests =
          if w.1.transcript.left = maxRedirects then request :: w.1.requests else w.1.requests :=
    fun _ _ => ⟨rfl, rfl⟩
  have hfollow := after_follow_noted (fun w => w.1.transcript) (fun w => w.1.requests) List.cons hexchange
    request.headers (Nat.le_refl _) request.target w (by rw [h]; rfl)
  rw [h, if_pos rfl] at hfollow
  refine hfollow.imp ?_
  rintro t ⟨⟨requests, transcript⟩, s⟩ ⟨htranscript, hrequests⟩
  simp only at htranscript hrequests
  rw [htranscript, hrequests]
  rfl

namespace Channel

/-! ## What a read learns -/

section Learns

variable {σ : Type} {c c' c'' : Channel σ}

/-- What a read may learn: the generation, and then the object at that generation is to be handed out. -/
def Learns (c c' : Channel σ) : Prop :=
  c'.request = c.request ∧ (c'.generation = c.generation ∧ c'.unreported = c.unreported ∨
    c.generation = none ∧ ∃ g, c'.generation = some g ∧
      c'.unreported = some (c.request.object.atGeneration g))

theorem Learns.of_eq (hrequest : c'.request = c.request) (hgeneration : c'.generation = c.generation)
    (hunreported : c'.unreported = c.unreported) : Learns c c' :=
  ⟨hrequest, Or.inl ⟨hgeneration, hunreported⟩⟩

theorem Learns.trans (h : Learns c c') (h' : Learns c' c'') : Learns c c'' := by
  obtain ⟨hrequest, hlearnt⟩ := h
  obtain ⟨hrequest', hlearnt'⟩ := h'
  refine ⟨hrequest'.trans hrequest, ?_⟩
  rcases hlearnt with ⟨hgeneration, hunreported⟩ | ⟨hnone, g, hg, hobject⟩
  · rcases hlearnt' with ⟨hgeneration', hunreported'⟩ | ⟨hnone', g, hg, hobject⟩
    · exact Or.inl ⟨hgeneration'.trans hgeneration, hunreported'.trans hunreported⟩
    · exact Or.inr ⟨hgeneration.symm.trans hnone', g, hg, hrequest ▸ hobject⟩
  · rcases hlearnt' with ⟨hgeneration', hunreported'⟩ | ⟨hnone', -⟩
    · exact Or.inr ⟨hnone, g, hgeneration'.trans hg, hunreported'.trans hobject⟩
    · rw [hg] at hnone'
      cases hnone'

theorem learns_settleGeneration {reported : Option Int} (h : c.settleGeneration reported = .ok c') :
    Learns c c' := by
  unfold settleGeneration at h
  cases hgeneration : c.generation with
  | none =>
      cases reported with
      | none =>
          simp only [hgeneration, Except.ok.injEq] at h
          exact h ▸ .of_eq rfl rfl rfl
      | some g =>
          simp only [hgeneration, Except.ok.injEq] at h
          subst h
          exact ⟨rfl, Or.inr ⟨hgeneration, g, rfl, rfl⟩⟩
  | some pinned =>
      cases reported with
      | none =>
          simp only [hgeneration, Except.ok.injEq] at h
          exact h ▸ .of_eq rfl rfl rfl
      | some g =>
          simp only [hgeneration] at h
          split at h
          · exact Except.ok.inj h ▸ .of_eq rfl rfl rfl
          · cases h

variable {W : Type} (opener : Opener (StateM W) σ) (adviser : Adviser (StateM W)) (w : W)

theorem after_recover_learns (c : Channel σ) (fault : Fault) :
    After (c.recover adviser fault) w fun turn _ => Learns c turn.channel := by
  rw [recover_eq_allows]
  refine After.bind (P := fun _ _ => True) trivial ?_
  rintro (_ | _) w' -
  · exact .of_eq rfl rfl rfl
  · exact .of_eq rfl rfl rfl

theorem after_readStream_learns (c : Channel σ) (stream : σ) (sizes : List Nat) :
    After (readStream opener adviser c stream sizes) w fun turn _ => Learns c turn.channel := by
  unfold readStream
  refine After.bind (P := fun _ _ => True) trivial ?_
  rintro ⟨fault | bs, rest⟩ w' -
  · by_cases hkind : fault.kind = .interrupted
    · simp only [hkind, if_true]
      exact .of_eq rfl rfl rfl
    · simp only [hkind, if_false]
      exact after_recover_learns adviser w' c _
  · rw [After.pure_iff, deliver]
    split
    · exact .of_eq rfl rfl rfl
    · exact .of_eq rfl rfl rfl

theorem after_turn_learns (c : Channel σ) (sizes : List Nat) :
    After (c.turn opener adviser sizes) w fun turn _ => Learns c turn.channel := by
  unfold turn
  cases c.stream with
  | some stream => exact after_readStream_learns opener adviser w c stream sizes
  | none =>
      unfold openAndRead
      refine After.bind (P := fun _ _ => True) trivial ?_
      rintro (fault | opened) w' -
      · by_cases hgone : (c.generation.isSome && fault.isNotFound) = true
        · simp only [hgone, if_true]
          exact .of_eq rfl rfl rfl
        · simp only [hgone]
          exact after_recover_learns adviser w' c fault
      · cases hsettle : c.settleGeneration opened.generation with
        | error reason =>
            simp only [hsettle]
            exact .of_eq rfl rfl rfl
        | ok settled =>
            simp only [hsettle]
            exact (after_readStream_learns opener adviser w' settled opened.stream sizes).imp
              fun _ _ => (learns_settleGeneration hsettle).trans

theorem after_rounds_learns (limit : Nat) (c : Channel σ) (sizes : List Nat) :
    After (rounds opener adviser limit c sizes) w fun read _ => ∀ settled ∈ read, Learns c settled.2 := by
  induction limit generalizing c w with
  | zero => rintro _ ⟨⟩
  | succ limit ih =>
      unfold rounds
      refine After.bind (after_turn_learns opener adviser w c sizes) ?_
      rintro (⟨result, c'⟩ | c') w' hlearnt
      · rintro _ ⟨⟩
        exact hlearnt
      · exact (ih w' c').imp fun _ _ hrest settled hsettled => hlearnt.trans (hrest settled hsettled)

theorem after_advance_learns (limit : Nat) (c : Channel σ) (sizes : List Nat) :
    After (c.advance opener adviser limit sizes) w fun read _ => ∀ settled ∈ read, Learns c settled.2 := by
  unfold advance
  cases c.broken with
  | some reason =>
      rintro _ ⟨⟩
      exact .of_eq rfl rfl rfl
  | none =>
      simp only
      split_ifs
      · rintro _ ⟨⟩
        exact .of_eq rfl rfl rfl
      · rintro _ ⟨⟩
        exact .of_eq rfl rfl rfl
      · rintro _ ⟨⟩
        exact .of_eq rfl rfl rfl
      · exact after_rounds_learns opener adviser w limit c sizes

/-- A read that succeeds hands out what it has learnt, if everything was handed out before. -/
theorem after_read_hands_out (limit : Nat) (hunreported : c.unreported = none) (sizes : List Nat) :
    After (c.read opener adviser limit sizes) w fun read _ =>
      ∀ outcome c', read = some (.ok outcome, c') → c'.request = c.request ∧ c'.unreported = none ∧
        (c'.generation = c.generation ∧ outcome.resolved = none ∨
          c.generation = none ∧ ∃ g, c'.generation = some g ∧
            outcome.resolved = some (c.request.object.atGeneration g)) := by
  unfold Channel.read
  refine After.bind (after_advance_learns opener adviser w limit c sizes) ?_
  rintro (_ | ⟨failure | progress, c'⟩) w' hlearnt
  · rintro _ _ ⟨⟩
  · rintro _ _ ⟨⟩
  · rintro _ _ ⟨⟩
    obtain ⟨hrequest, hknown⟩ := hlearnt _ rfl
    rw [hunreported] at hknown
    exact ⟨hrequest, rfl, hknown⟩

end Learns

/-! ## Channels that are accounted for -/

/-- Whether responses, given the latest first, were asked for as a channel asks: for the object, at the
    generation that was named first until then. -/
def Asked (endpoint : Url) (request : ReadRequest) : List Fetched → Prop
  | [] => True
  | e :: older =>
    (∃ start, mediaRequest endpoint (request.startingAt start) (Fetched.named? older) = .ok e.request) ∧
      Asked endpoint request older

theorem Asked.exists_of_mem {endpoint : Url} {request : ReadRequest} {responses : List Fetched}
    (h : Asked endpoint request responses) {e : Fetched} (he : e ∈ responses) :
    ∃ older start, e :: older <:+ responses ∧
      mediaRequest endpoint (request.startingAt start) (Fetched.named? older) = .ok e.request := by
  induction responses with
  | nil => cases he
  | cons last older ih =>
      obtain ⟨⟨start, hlast⟩, holder⟩ := h
      rcases List.mem_cons.1 he with rfl | he
      · exact ⟨older, start, List.suffix_rfl, hlast⟩
      · obtain ⟨before, start, hsuffix, hasked⟩ := ih holder he
        exact ⟨before, start, hsuffix.trans (List.suffix_cons last older), hasked⟩

/-- A channel that has delivered the beginning of each of some responses, given the latest first, which were
    asked for as it asks. -/
structure Accounted (endpoint : Url) (c : Channel BodyStream) (got : Bytes) (responses : List Fetched) :
    Prop where
  pieced : c.Pieced got (responses.map Fetched.transfer)
  asked : Asked endpoint c.request responses

namespace Accounted

variable {endpoint : Url} {c : Channel BodyStream} {got : Bytes} {responses : List Fetched}

theorem start (endpoint : Url) (request : ReadRequest) :
    (Channel.start request).Accounted endpoint [] [] :=
  ⟨.start request, trivial⟩

theorem generation_eq (h : c.Accounted endpoint got responses) : c.generation = Fetched.named? responses :=
  h.pieced.generation_eq.trans (Fetched.named?_map responses)

theorem range_of_generation (h : c.Accounted endpoint got responses) {g : Int} (hg : c.generation = some g) :
    -(Word.limit63 : Int) ≤ g ∧ g < Word.limit63 := by
  obtain ⟨e, -, he⟩ := List.exists_of_findSome?_eq_some (h.generation_eq.symm.trans hg)
  exact Fetched.range_of_generation? he

theorem agrees (h : c.Accounted endpoint got responses) {e : Fetched} (he : e ∈ responses) {g : Int}
    (hg : e.generation? = some g) : c.generation = some g :=
  h.pieced.agrees _ (List.mem_map_of_mem he) g hg

theorem eq_nil_of_nil (h : c.Accounted endpoint got []) : got = [] := by
  obtain ⟨pieces, rfl, hpieces, -⟩ := h.pieced.pieces
  cases hpieces
  rfl

/-- What was delivered was received in responses of a generation, if they all are. -/
theorem received (h : c.Accounted endpoint got responses) {fetched : List Fetched} {object : ObjectRef}
    (hof : ∀ e ∈ responses, e ∈ fetched ∧ e.IsOf object) : Fetched.Received fetched object got := by
  obtain ⟨pieces, rfl, hpieces, -⟩ := h.pieced.pieces
  have hbodies : List.Forall₂ (fun piece (e : Fetched) => piece <+: e.transfer.body) pieces responses :=
    (List.forall₂_map_right_iff (R := fun piece (t : Transfer) => piece <+: t.body)).1 hpieces
  exact .of_pieces hbodies hof

theorem opened (h : c.Accounted endpoint got responses) {asked : HttpRequest} {t : Transfer}
    (hasked : mediaRequest endpoint (c.request.startingAt c.position) c.generation = .ok asked)
    {opened : Opened BodyStream}
    (hopened : openFrames (c.request.startingAt c.position).range t.frames = .ok opened)
    {c' : Channel BodyStream} (hsettle : c.settleGeneration opened.generation = .ok c') :
    (c'.streaming opened.stream).Accounted endpoint got (⟨asked, t⟩ :: responses) where
  pieced := h.pieced.opened hopened hsettle
  asked := by
    have hrequest : c'.request = c.request := by rw [(settleGeneration_eq hsettle).1]
    rw [streaming, hrequest]
    exact ⟨⟨c.position, h.generation_eq ▸ hasked⟩, h.asked⟩

end Accounted

variable (network : Network (StateM S)) (endpoint : Url) (pause : Span → StateM S Unit)

/-- What a channel delivers is accounted for by what the ledger has besides an earlier part. -/
theorem traces_accounted (start : List Fetched) :
    Traces network.ledgered endpoint (fun delay => Ledger.aside (pause delay))
      fun c got (r : Ledger × S) => ∃ new, r.1 = .idle (new ++ start) ∧
        c.Accounted endpoint got (new.filter Fetched.isFinal) where
  dropped := by
    rintro c c' got r ⟨new, hr, haccounted⟩ hrequest hgeneration hstream
    exact ⟨new, hr, haccounted.pieced.dropped hgeneration hstream, hrequest ▸ haccounted.asked⟩
  handed := by
    rintro c got r ⟨new, hr, ⟨hpieces, hgeneration, hagrees⟩, hasked⟩
    exact ⟨new, hr, ⟨hpieces, hgeneration, hagrees⟩, hasked⟩
  fetched := by
    rintro c got r asked ⟨new, hr, haccounted⟩ hasked
    refine (network.after_fetch_ledgered asked hr).imp ?_
    intro t r' hr'
    have hfinal : Fetched.isFinal ⟨asked, t⟩ = t.isFinal := rfl
    cases hopened : openFrames (c.request.startingAt c.position).range t.frames with
    | error fault =>
        refine fun hpass => ⟨⟨asked, t⟩ :: new, hr', ?_⟩
        rw [List.filter_cons, hfinal, isFinal_of_openFrames_error hopened hpass]
        exact haccounted
    | ok opened =>
        refine fun c' hsettle => ⟨⟨asked, t⟩ :: new, hr', ?_⟩
        rw [List.filter_cons, hfinal, if_pos (isFinal_of_openFrames_ok hopened).1]
        exact haccounted.opened hasked hopened hsettle
  read := by
    rintro c got r stream sizes ⟨new, hr, haccounted⟩ hstream hsizes
    cases hread : stream.readInto sizes with
    | mk result rest =>
        cases result with
        | ok bs => exact ⟨new, hr, haccounted.pieced.read hstream hsizes hread, haccounted.asked⟩
        | error fault => exact haccounted.pieced.not_interrupted hstream hsizes hread
  paused _ h := h

/-- However a read ends, it leaves the files alone, and adds to the ledger. -/
theorem after_read_adds (policy : RetryPolicy) (limit : Nat) (c : Channel BodyStream) (sizes : List Nat)
    {start : List Fetched} {w : Site (Ledger × S)} (h : w.rest.1 = .idle start) :
    After (c.read (httpOpener (Site.network network.ledgered) endpoint)
      (policy.adviser fun delay => Site.onRest (Ledger.aside (pause delay))) limit sizes) w
      fun _ w' => w'.tree = w.tree ∧ ∃ new, w'.rest.1 = .idle (new ++ start) := by
  have hkept : (Invariant.ofWorld fun w' : Site (Ledger × S) =>
      w'.tree = w.tree ∧ ∃ new, w'.rest.1 = .idle (new ++ start)).Kept
      (httpOpener (Site.network network.ledgered) endpoint)
      (policy.adviser fun delay => Site.onRest (Ledger.aside (pause delay))) := by
    refine Invariant.ofWorld_kept ?_ (fun _ _ _ h => h) (fun _ _ _ h => h) (fun _ _ h => h)
    rintro request pin w' ⟨htree, new, hnew⟩
    unfold httpOpener
    cases hasked : mediaRequest endpoint request pin with
    | error fault =>
        simp only [hasked, After.pure_iff]
        exact ⟨htree, new, hnew⟩
    | ok asked =>
        simp only [hasked, Site.fetch_network]
        refine After.bind (Site.after_onRest (network.after_fetch_ledgered asked hnew)) ?_
        rintro t w'' ⟨htree', hfetched⟩
        exact ⟨htree'.trans htree, ⟨asked, t⟩ :: new, hfetched⟩
  exact hkept.after_read_ofWorld limit ⟨rfl, [], h⟩ sizes

end Channel

end SteadyFetch
