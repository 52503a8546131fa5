import SteadyFetch.Proofs.Endings

set_option autoImplicit false

/-! # Which version a channel goes on with

The generation that a channel asks for is the one that was reported first, by whichever open. What was
delivered first came from one open (`History.source?`), and that one may have reported none. Every stream
that a channel reads is that of its latest open and agrees with what was reported first (`GoesOn`), so all
of it is one version as long as the first octets came with a generation or were asked for by one
(`performEach_keeps_version`). Otherwise a later open may be of any version, and its octets are appended all
the same (`performEach_switches_version`). -/

namespace SteadyFetch

variable {W σ : Type}

/-! ## Opens and the octets that came from them -/

/-- The version that a stream is known to be of: the one that was reported, or else the one that was asked
    for. -/
def OpenMade.version? (made : OpenMade W σ) : Option Int := made.reported?.or made.pin

namespace History

/-- The latest open. -/
def lastOpen? : History W σ → Option (OpenMade W σ)
  | [] => none
  | .opened made :: _ => some made
  | _ :: earlier => lastOpen? earlier

/-- What is left of the stream that was read or opened last. -/
def stream? : History W σ → Option σ
  | [] => none
  | .opened made :: _ => made.result.toOption.map Opened.stream
  | .read made :: _ => some made.rest
  | .advised _ _ _ :: earlier => stream? earlier

/-- The open that the first octet delivered came from. -/
def source? : History W σ → Option (OpenMade W σ)
  | [] => none
  | event :: earlier => (source? earlier).or (if event.octets = [] then none else lastOpen? earlier)

theorem reported?_of_append {later earlier : History W σ} {g : Int} (h : reported? earlier = some g) :
    reported? (later ++ earlier) = some g := by
  rw [reported?_append, h]
  rfl

/-- Octets that were delivered first stay the first ones. -/
theorem source?_of_append {later earlier : History W σ} {source : OpenMade W σ}
    (h : source? earlier = some source) : source? (later ++ earlier) = some source := by
  induction later with
  | nil => exact h
  | cons event later ih =>
      rw [List.cons_append, source?, ih]
      rfl

theorem exists_of_lastOpen? {history : History W σ} {origin : OpenMade W σ}
    (h : history.lastOpen? = some origin) :
    ∃ between before : History W σ, history = between ++ .opened origin :: before := by
  induction history with
  | nil => cases h
  | cons event history ih =>
      cases event with
      | opened made =>
          obtain rfl := Option.some.inj h
          exact ⟨[], history, rfl⟩
      | read made =>
          obtain ⟨between, before, hsplit⟩ := ih h
          exact ⟨.read made :: between, before, congrArg _ hsplit⟩
      | advised attempt candidate answer =>
          obtain ⟨between, before, hsplit⟩ := ih h
          exact ⟨.advised attempt candidate answer :: between, before, congrArg _ hsplit⟩

theorem exists_of_source? {history : History W σ} {source : OpenMade W σ}
    (h : history.source? = some source) :
    ∃ (later : History W σ) (first : ReadMade σ) (earlier : History W σ),
      history = later ++ .read first :: earlier ∧ first.octets ≠ [] ∧
        earlier.lastOpen? = some source := by
  induction history with
  | nil => cases h
  | cons event history ih =>
      rw [source?, Option.or_eq_some_iff] at h
      rcases h with hbefore | ⟨-, hnow⟩
      · obtain ⟨later, first, earlier, hsplit, hfirst⟩ := ih hbefore
        exact ⟨event :: later, first, earlier, congrArg _ hsplit, hfirst⟩
      · by_cases hempty : event.octets = []
        · rw [if_pos hempty] at hnow
          cases hnow
        · rw [if_neg hempty] at hnow
          cases event with
          | opened made => exact absurd rfl hempty
          | read made => exact ⟨[], made, history, rfl, hempty, hnow⟩
          | advised attempt candidate answer => exact absurd rfl hempty

/-- Whether a stream is what is left of that of the latest open, which agrees with the generation that was
    reported first. -/
def UnderWay (history : History W σ) (stream : σ) : Prop :=
  history.stream? = some stream ∧ ∃ origin, history.lastOpen? = some origin ∧
    ∀ named ∈ origin.reported?, history.reported? = some named

/-- Whether each read goes on with the stream that is under way. -/
def GoesOn (history : History W σ) : Prop :=
  history.Throughout fun earlier event => ∀ made, event = .read made → earlier.UnderWay made.stream

variable {history : History W σ}

theorem UnderWay.read {stream : σ} (h : history.UnderWay stream) (made : ReadMade σ) :
    UnderWay (.read made :: history) made.rest := by
  obtain ⟨-, origin, horigin, hagrees⟩ := h
  refine ⟨rfl, origin, horigin, fun named hnamed => ?_⟩
  rw [reported?, hagrees named hnamed]
  rfl

theorem UnderWay.advised {stream : σ} (h : history.UnderWay stream) {asked : History W σ}
    (hasked : ∀ event ∈ asked, event.isAdvice = true) : UnderWay (asked ++ history) stream := by
  have hrest : stream? (asked ++ history) = stream? history ∧
      lastOpen? (asked ++ history) = lastOpen? history := by
    induction asked with
    | nil => exact ⟨rfl, rfl⟩
    | cons event asked ih =>
        have hadvice := hasked event List.mem_cons_self
        cases event with
        | opened made => cases hadvice
        | read made => cases hadvice
        | advised attempt candidate answer =>
            exact ih fun other hother => hasked other (List.mem_cons_of_mem _ hother)
  rw [UnderWay, hrest.1, hrest.2, reported?_advised hasked]
  exact h

namespace GoesOn

theorem exists_source? (h : history.GoesOn) (hdelivered : history.delivered ≠ []) :
    ∃ source, history.source? = some source := by
  induction history with
  | nil => exact absurd rfl hdelivered
  | cons event history ih =>
      have hbefore : GoesOn history := Throughout.of_append (show Throughout _ ([event] ++ history) from h)
      rw [source?]
      cases hsource : source? history with
      | some source => exact ⟨source, rfl⟩
      | none =>
          have hnone : delivered history = [] := by
            by_contra hne
            obtain ⟨source, hsome⟩ := ih hbefore hne
            rw [hsource] at hsome
            cases hsome
          rw [delivered, hnone, List.nil_append] at hdelivered
          rw [if_neg hdelivered]
          cases event with
          | opened made => exact absurd rfl hdelivered
          | advised attempt candidate answer => exact absurd rfl hdelivered
          | read made =>
              obtain ⟨-, origin, horigin, -⟩ := h [] (.read made) history rfl made rfl
              exact ⟨origin, horigin⟩

/-- The version that the first octets are known to be of is the one that was reported first. -/
theorem reported?_of_version? (h : history.GoesOn)
    (hpins : history.Throughout fun earlier event => ∀ made, event = .opened made →
      made.pin = earlier.reported?)
    {source : OpenMade W σ} (hsource : history.source? = some source) {g : Int}
    (hg : source.version? = some g) : history.reported? = some g := by
  obtain ⟨later, first, earlier, hsplit, -, hlast⟩ := exists_of_source? hsource
  rw [OpenMade.version?, Option.or_eq_some_iff] at hg
  rcases hg with hreported | ⟨-, hpin⟩
  · obtain ⟨-, origin, horigin, hagrees⟩ := h later (.read first) earlier hsplit first rfl
    rw [hlast] at horigin
    obtain rfl := Option.some.inj horigin
    rw [hsplit, List.append_cons]
    exact reported?_of_append (hagrees g hreported)
  · obtain ⟨between, before, rfl⟩ := exists_of_lastOpen? hlast
    have hopened : history = (later ++ .read first :: between) ++ .opened source :: before := by
      rw [hsplit, List.append_assoc, List.cons_append]
    rw [hpins _ (.opened source) before hopened source rfl] at hpin
    rw [hopened, List.append_cons]
    exact reported?_of_append hpin

end GoesOn

end History

namespace Channel

/-! ## What a channel reads -/

/-- A channel that knows the generation that was reported first and reads the stream that is under way. -/
structure Agreeing (c : Channel σ) (history : History W σ) : Prop where
  generation_eq : c.generation = history.reported?
  live : ∀ stream ∈ c.stream, history.UnderWay stream
  goesOn : history.GoesOn

/-- Channels that agree with their history, as an invariant, whether they were closed or not. -/
def agreeing (W σ : Type) (_ : Bool) : Invariant (Watched W σ) σ where
  Holds _ c w := c.Agreeing w.1
  Faulted _ _ c w := c.Agreeing w.1

variable {c c' : Channel σ} {history : History W σ}

namespace Agreeing

theorem advised (h : c.Agreeing history) {asked : History W σ}
    (hasked : ∀ event ∈ asked, event.isAdvice = true) : c.Agreeing (asked ++ history) where
  generation_eq := h.generation_eq.trans (History.reported?_advised hasked history).symm
  live := fun stream hstream => (h.live stream hstream).advised hasked
  goesOn := h.goesOn.append fun event hmem before made hread => by
    rw [hread] at hmem
    exact absurd (hasked _ hmem) nofun

/-- A channel that has no stream after it opened. -/
theorem afterOpen (h : c.Agreeing history) (made : OpenMade W σ) (hstream : c'.stream = none)
    (hgeneration : c'.generation = c.generation.or made.reported?) :
    c'.Agreeing (.opened made :: history) := by
  refine ⟨?_, fun stream hsome => ?_, h.goesOn.cons (by rintro _ ⟨⟩)⟩
  · rw [hgeneration, h.generation_eq]
    rfl
  · rw [hstream] at hsome
    cases hsome

theorem afterOpened (h : c.Agreeing history) {opened : Opened σ}
    (hsettle : c.settleGeneration opened.generation = .ok c') (request : ReadRequest) (w : W) :
    (c'.streaming opened.stream).Agreeing
      (.opened ⟨request, c.generation, w, .ok opened⟩ :: history) := by
  obtain ⟨-, hgeneration, hagrees⟩ := settleGeneration_eq hsettle
  have hreported : c'.generation =
      History.reported? (.opened ⟨request, c.generation, w, .ok opened⟩ :: history) := by
    rw [hgeneration, h.generation_eq]
    rfl
  refine ⟨hreported, fun stream hstream => ?_, h.goesOn.cons (by rintro _ ⟨⟩)⟩
  obtain rfl := Option.some.inj hstream
  exact ⟨rfl, _, rfl, fun named hnamed => hreported ▸ hagrees named hnamed⟩

theorem afterRead (h : c.Agreeing history) (made : ReadMade σ) (hstream : c.stream = some made.stream)
    (hgeneration : c'.generation = c.generation) (hrest : ∀ stream ∈ c'.stream, stream = made.rest) :
    c'.Agreeing (.read made :: history) := by
  have hunderWay := h.live made.stream hstream
  refine ⟨?_, fun stream hsome => ?_, h.goesOn.cons ?_⟩
  · rw [hgeneration, h.generation_eq]
    exact Option.or_none.symm
  · rw [hrest stream hsome]
    exact hunderWay.read made
  · rintro _ ⟨⟩
    exact hunderWay

theorem kept (h : c.Agreeing history) (hgeneration : c'.generation = c.generation)
    (hstream : ∀ stream ∈ c'.stream, c.stream = some stream) : c'.Agreeing history :=
  ⟨hgeneration.trans h.generation_eq, fun stream hsome => h.live stream (hstream stream hsome), h.goesOn⟩

end Agreeing

/-- **Channels agree with their history**, whatever opener and adviser answer. -/
theorem agreeing_kept (opener : Opener (StateM W) σ) (adviser : Adviser (StateM W)) (closed : Bool) :
    (agreeing W σ closed).Kept opener.watched adviser.watched where
  openAt := by
    intro got c w h hready hstream
    refine (opener.after_openAt_watched _ _ w).imp ?_
    intro result w' hrecorded
    cases result with
    | error fault =>
        have hgeneration : c.generation = c.generation.or none := Option.or_none.symm
        simp only [agreeing, hrecorded.1]
        split
        · exact h.afterOpen _ rfl hgeneration
        · exact h.afterOpen _ rfl hgeneration
    | ok opened =>
        cases hsettle : c.settleGeneration opened.generation with
        | error reason =>
            have hgeneration := settleGeneration_error hsettle
            simp only [hsettle, agreeing, hrecorded.1]
            exact h.afterOpen _ rfl hgeneration
        | ok c' =>
            simp only [hsettle, agreeing, hrecorded.1]
            exact h.afterOpened hsettle _ w.2
  read := by
    intro got c w stream sizes h hready hstream hsizes
    refine (opener.after_read_watched stream sizes w).imp ?_
    rintro ⟨result, rest⟩ w' ⟨hw', -⟩
    have hafter : ∀ c' : Channel σ, c'.generation = c.generation → (∀ stream ∈ c'.stream, stream = rest) →
        c'.Agreeing w'.1 := by
      intro c' hgeneration hrest
      rw [hw']
      exact h.afterRead ⟨stream, sizes, result, rest⟩ hstream hgeneration hrest
    cases result with
    | ok bs =>
        by_cases hempty : bs = []
        · simp only [hempty, if_true]
          exact hafter c.close rfl nofun
        · simp only [hempty, if_false]
          exact hafter (c.advanced rest bs) rfl (by rintro _ ⟨⟩; rfl)
    | error fault =>
        by_cases hkind : fault.kind = .interrupted
        · simp only [hkind, if_true]
          exact hafter (c.streaming rest) rfl (by rintro _ ⟨⟩; rfl)
        · simp only [hkind, if_false]
          exact hafter c.failed rfl nofun
  allows := by
    intro got c w fault h
    refine (adviser.after_allows_watched c.failures fault w).imp ?_
    rintro allowed w' ⟨asked, hw', hasked, -⟩
    have hafter : c.Agreeing w'.1 := by
      rw [hw']
      exact h.advised hasked
    cases allowed with
    | true => exact hafter
    | false => exact hafter
  exhausted got c w h _ _ _ := h.kept rfl nofun
  handed got c w h := h.kept rfl fun _ hstream => hstream

theorem agreeing_outlasts (opener : Opener (StateM W) σ) (adviser : Adviser (StateM W)) :
    Invariant.Outlasts (agreeing W σ) opener.watched adviser.watched where
  kept := agreeing_kept opener adviser
  resumed _ _ _ _ _ h := h
  close _ _ _ _ h := h.kept rfl nofun

/-- **What was delivered is one version, if the first of it is known to be of any.** Whatever opener and
    adviser answer and whatever calls are made: the octets returned come, in order, from streams that were
    the latest ones when they were read. If the open that the first octets came from reported a generation,
    or else asked for one, then every open after them asks for it, and no octets come from a stream that was
    reported to be of another one. -/
theorem performEach_keeps_version (opener : Opener (StateM W) σ) (adviser : Adviser (StateM W))
    (limit : Nat) (request : ReadRequest) (calls : List Call) (w : W) :
    After ((start request).performEach opener.watched adviser.watched limit calls)
      (([], w) : Watched W σ) fun ran w' =>
        w'.1.delivered = (ran.1.map CallResult.octetsOf).flatten ∧
        (w'.1.delivered ≠ [] → ∃ source, w'.1.source? = some source ∧
          (∀ later made (earlier : History W σ), w'.1 = later ++ .opened made :: earlier →
            earlier.delivered ≠ [] → ∀ g ∈ source.version?, made.pin = some g) ∧
          ∀ later made (earlier : History W σ), w'.1 = later ++ .read made :: earlier →
            earlier.stream? = some made.stream ∧ ∃ origin, earlier.lastOpen? = some origin ∧
              ∀ g ∈ source.version?, ∀ named ∈ origin.reported?, named = g) := by
  have hfollowed : (following W request false).Holds [] (start request : Channel σ) ([], w) :=
    followed_start
  have hagreeing : (agreeing W σ false).Holds [] (start request : Channel σ) ([], w) :=
    ⟨rfl, nofun, History.throughout_nil _⟩
  refine (((following_outlasts opener adviser request).after_performEach limit hfollowed calls).and
    ((agreeing_outlasts opener adviser).after_performEach limit hagreeing calls)).imp ?_
  rintro ran w' ⟨⟨_, _, hf, -⟩, ⟨_, _, ha, -⟩⟩
  have hpins : w'.1.Throughout fun earlier event => ∀ made, event = .opened made →
      made.pin = earlier.reported? :=
    hf.continues.imp fun _ _ hmade made hopened => (hmade made hopened).pin_eq
  refine ⟨hf.delivered_eq, fun hdelivered => ?_⟩
  obtain ⟨source, hsource⟩ := ha.goesOn.exists_source? hdelivered
  refine ⟨source, hsource, ?_, ?_⟩
  · intro later made earlier hsplit hbefore g hg
    rw [hpins later (.opened made) earlier hsplit made rfl]
    have hgoesOn := ha.goesOn
    rw [hsplit, List.append_cons] at hgoesOn hpins hsource
    -- the source of what was delivered by then is the source of all
    obtain ⟨first, hfirst⟩ := History.GoesOn.exists_source? hgoesOn.of_append hbefore
    obtain rfl := Option.some.inj (hsource.symm.trans (History.source?_of_append hfirst))
    exact History.GoesOn.reported?_of_version? hgoesOn.of_append hpins.of_append hfirst hg
  · intro later made earlier hsplit
    obtain ⟨hstream, origin, horigin, hagrees⟩ := ha.goesOn later (.read made) earlier hsplit made rfl
    refine ⟨hstream, origin, horigin, fun g hg named hnamed => ?_⟩
    have hfirst := ha.goesOn.reported?_of_version? hpins hsource hg
    have hthis : w'.1.reported? = some named := by
      rw [hsplit, List.append_cons]
      exact History.reported?_of_append (hagrees named hnamed)
    exact Option.some.inj (hthis.symm.trans hfirst)

end Channel

/-- A service that sends two octets of four, of which it reports no generation, before the transfer breaks,
    and then the others as generation 7. -/
def Network.switching : List String :=
  ["HTTP/1.1 200 OK\r\nContent-Length: 4\r\n\r\nab",
    "HTTP/1.1 206 Partial Content\r\nx-goog-generation: 7\r\nContent-Range: bytes 2-3/4\r\n\r\nCD"]

/-- **Octets of another version are appended to those that came without a generation**: nothing is asked of
    the second open but that it goes on, and what it reports is taken up as if it were the first. -/
theorem Channel.performEach_switches_version :
    let request : ReadRequest := ⟨⟨"b", "o", none⟩, {}, .all⟩
    let ran := (start request).performEach (httpOpener Network.scripted sampleEndpoint).watched
      ((RetryPolicy.immediate 3).adviser fun _ => pure ()).watched 3 [.read [8], .read [8]]
      (([], Network.switching) : Watched (List String) BodyStream)
    let opens := ran.2.1.filterMap fun event =>
      match event with
      | .opened made => some (made.request.range.start, made.pin, made.reported?)
      | _ => none
    (ran.1.1.map CallResult.octetsOf) = [Utf8.encode "ab", Utf8.encode "CD"] ∧
      ran.2.1.source?.map (·.version?) = some none ∧
      opens = [(2, none, some 7), (0, none, none)] ∧ ran.1.2.map (·.broken) = some none := by
  decide +kernel

end SteadyFetch
