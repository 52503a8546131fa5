import SteadyFetch.Proofs.Ledgers

set_option autoImplicit false

/-! # What markers say of part files

A part file is emptied without its marker, and the marker is only written once a response names its
generation. So octets of responses that name none can lie beside a marker of an earlier run. They do not
where responses are timely (`Download.Timely`): the generation that is named first is the one asked for, if
one is, and it is named at once, unless the marker that is there is of what is asked for.

`Download.Describing` is what a run keeps while it copies. The marker beside the part file is the one that
was there before, until a generation is known, and from then on the one that was saved for it. -/

namespace SteadyFetch

/-! ## Markers and what is asked for -/

/-- The marker of a path, if one is there and reads as such. -/
def FileTree.marker? (t : FileTree) (path : String) : Option ResumeMarker := do
  ResumeMarker.parse? (← Utf8.decode? (← t.octetsAt? (markerPath path)))

theorem FileTree.marker?_eq_some_iff {t : FileTree} {path : String} {marker : ResumeMarker} :
    t.marker? path = some marker ↔ t.Marks path marker := by
  simp only [marker?, Marks, Option.bind_eq_bind, Option.bind_eq_some_iff]
  constructor
  · rintro ⟨raw, hraw, text, htext, hmarker⟩
    exact ⟨raw, text, hraw, htext, hmarker⟩
  · rintro ⟨raw, text, hraw, htext, hmarker⟩
    exact ⟨raw, hraw, text, htext, hmarker⟩

theorem FileTree.marker?_congr {t t' : FileTree} {path : String}
    (h : t'.octetsAt? (markerPath path) = t.octetsAt? (markerPath path)) :
    t'.marker? path = t.marker? path := by
  rw [marker?, marker?, h]

/-- The object that a run asks for where a marker is or none: a run that goes on takes the generation from
    the marker, if its arguments name none. -/
def DownloadArgs.wanted (args : DownloadArgs) (marker : Option ResumeMarker) : ObjectRef :=
  { args.objectRef with
    generation := args.generation <|> if args.resume then marker.bind (·.object.generation) else none }

theorem DownloadArgs.wanted_of_admits {args : DownloadArgs} (hresume : args.resume = true)
    {marker : ResumeMarker} (hadmits : marker.admits args.objectRef = true) {g : Int}
    (hg : marker.object.generation = some g) : args.wanted (some marker) = marker.object := by
  obtain ⟨⟨bucket, name, generation⟩⟩ := marker
  obtain rfl : generation = some g := hg
  simp only [ResumeMarker.admits, DownloadArgs.objectRef, Bool.and_eq_true, beq_iff_eq] at hadmits
  obtain ⟨⟨rfl, rfl⟩, hsame⟩ := hadmits
  cases hgeneration : args.generation with
  | none => simp [wanted, objectRef, hresume, hgeneration]
  | some asked =>
      rw [hgeneration] at hsame
      obtain rfl : g = asked := by simpa using hsame
      simp [wanted, objectRef, hgeneration]

namespace Download

/-- Final responses, in order, that let the marker be told by them: the generation that is named first is
    the one that is asked for, if one is; and the first response names one, unless the marker that is there
    is of what is asked for and, where no generation is asked for, there is no marker and none is named. -/
structure Timely (object : ObjectRef) (marker : Option ResumeMarker) (responses : List Fetched) : Prop where
  as_asked : ∀ named ∈ responses.findSome? Fetched.generation?, ∀ asked ∈ object.generation, named = asked
  at_once : ∀ first ∈ responses.head?, first.generation? = none →
    (∀ found ∈ marker, found.object = object) ∧
      (object.generation = none → marker = none ∧ responses.findSome? Fetched.generation? = none)

instance (object : ObjectRef) (marker : Option ResumeMarker) (responses : List Fetched) :
    Decidable (Timely object marker responses) :=
  decidable_of_iff
    ((∀ named ∈ responses.findSome? Fetched.generation?, ∀ asked ∈ object.generation, named = asked) ∧
      ∀ first ∈ responses.head?, first.generation? = none →
        (∀ found ∈ marker, found.object = object) ∧
          (object.generation = none → marker = none ∧ responses.findSome? Fetched.generation? = none))
    ⟨fun h => ⟨h.1, h.2⟩, fun h => ⟨h.as_asked, h.at_once⟩⟩

theorem Timely.of_append {object : ObjectRef} {marker : Option ResumeMarker}
    {responses more : List Fetched} (h : Timely object marker (responses ++ more)) :
    Timely object marker responses where
  as_asked named hnamed := h.as_asked named <| by
    rw [Option.mem_def] at hnamed ⊢
    rw [List.findSome?_append, hnamed]
    rfl
  at_once first hfirst hnone := by
    have hhead : first ∈ (responses ++ more).head? := by
      rw [Option.mem_def] at hfirst ⊢
      rw [List.head?_append, hfirst]
      rfl
    obtain ⟨hmarker, hunasked⟩ := h.at_once first hhead hnone
    refine ⟨hmarker, fun hgeneration => ?_⟩
    obtain ⟨hno, hunnamed⟩ := hunasked hgeneration
    rw [List.findSome?_append, Option.or_eq_none_iff] at hunnamed
    exact ⟨hno, hunnamed.1⟩

/-- Where no generation is asked for, a response that names none comes after one that does, if there is
    any. -/
theorem Timely.named?_of_unasked {object : ObjectRef} {marker : Option ResumeMarker}
    {responses : List Fetched} (h : Timely object marker responses.reverse)
    (hobject : object.generation = none) {g : Int} (hg : Fetched.named? responses = some g) {e : Fetched}
    {older : List Fetched} (hsuffix : e :: older <:+ responses) (hunnamed : e.generation? = none) :
    Fetched.named? older = some g := by
  obtain ⟨later, rfl⟩ := hsuffix
  have hsplit : (later ++ e :: older).reverse = older.reverse ++ e :: later.reverse := by simp
  have hnames : ∀ first ∈ (older.reverse ++ e :: later.reverse).head?, first.generation? ≠ none := by
    intro first hfirst hnone
    rw [Fetched.named?, ((h.at_once first (hsplit ▸ hfirst) hnone).2 hobject).2] at hg
    cases hg
  rw [Fetched.named?, hsplit] at hg
  rw [Fetched.named?]
  cases holder : older.reverse with
  | nil =>
      rw [holder] at hnames
      exact absurd hunnamed (hnames e rfl)
  | cons first rest =>
      rw [holder] at hnames hg
      obtain ⟨named, hnamed⟩ := Option.ne_none_iff_exists'.1 (hnames first rfl)
      rw [List.cons_append, List.findSome?_cons, hnamed] at hg
      rw [List.findSome?_cons, hnamed]
      exact hg

variable {S : Type}

/-- Whether all octets of a part file were received in responses for the generation that its marker
    names. -/
def Described (path : String) (w : Site (Ledger × S)) : Prop :=
  ∀ held marker, w.tree.octetsAt? (partPath path) = some held → w.tree.marker? path = some marker →
    Fetched.Received w.rest.1.fetched marker.object held

/-- What a part file holds when a run opens it: nothing, or octets that the marker describes, and then that
    is of what is asked for. -/
def Begins (object : ObjectRef) (start : List Fetched) (marker : Option ResumeMarker) (held : Bytes) :
    Prop :=
  held = [] ∨ marker = some ⟨object⟩ ∧ Fetched.Received start object held

/-- A run that copies: its part file holds what was held before and what the channel has delivered, and the
    marker beside it names the generation, if it is known. -/
structure Describing (path : String) (object : ObjectRef) (start : List Fetched)
    (marker : Option ResumeMarker) (held : Bytes) (endpoint : Url) (new : List Fetched) (got : Bytes)
    (s : State OpenFile) (w : Site (Ledger × S)) : Prop where
  holds : s.part.Holds path (held ++ got) w.tree
  ledger_eq : w.rest.1 = .idle (new ++ start)
  accounted : s.channel.Accounted endpoint got (new.filter Fetched.isFinal)
  object_eq : s.channel.request.object = object
  unbroken : s.channel.broken = none
  handed : s.channel.unreported = none
  marker_eq : w.tree.marker? path
    = (s.channel.generation.map fun g => ResumeMarker.mk (object.atGeneration g)).or marker

namespace Describing

variable {path : String} {object : ObjectRef} {start new : List Fetched} {marker : Option ResumeMarker}
  {held got : Bytes} {endpoint : Url} {s : State OpenFile} {w : Site (Ledger × S)}

theorem fetched_eq (h : Describing path object start marker held endpoint new got s w) :
    w.rest.1.fetched = new ++ start := by
  rw [h.ledger_eq, Ledger.fetched_idle]

/-- What was delivered was received for a generation if the responses that name none were asked for it. -/
theorem received_got (h : Describing path object start marker held endpoint new got s w) {g : Int}
    (hnamed : ∀ e ∈ new.filter Fetched.isFinal, ∀ named ∈ e.generation?, named = g)
    (hasked : ∀ e older, e :: older <:+ new.filter Fetched.isFinal → e.generation? = none →
      (object.generation <|> Fetched.named? older) = some g) :
    Fetched.Received w.rest.1.fetched (object.atGeneration g) got := by
  refine h.accounted.received fun e he => ⟨?_, ?_⟩
  · rw [h.fetched_eq]
    exact List.mem_append_left start (List.mem_filter.1 he).1
  · obtain ⟨older, offset, hsuffix, hrequest⟩ := h.accounted.asked.exists_of_mem he
    have hobject := (s.channel.request.startingAt_eq offset).1.trans h.object_eq
    refine ⟨endpoint, _, _, g, hrequest, by rw [hobject]; rfl, by rw [hobject]; rfl, rfl, ?_⟩
    cases hgeneration : e.generation? with
    | some named => exact Or.inl (congrArg some (hnamed e he named hgeneration))
    | none =>
        rw [hobject]
        exact Or.inr ⟨rfl, hasked e older hsuffix hgeneration⟩

theorem received_held (h : Describing path object start marker held endpoint new got s w)
    (hbegins : Begins object start marker held) {g : Int}
    (hasked : ∀ asked ∈ object.generation, asked = g) :
    Fetched.Received w.rest.1.fetched (object.atGeneration g) held := by
  rcases hbegins with rfl | ⟨-, hreceived⟩
  · exact .nil
  · by_cases hne : held = []
    · rw [hne]
      exact .nil
    · obtain ⟨asked, hgeneration⟩ := hreceived.exists_generation hne
      have hsame : object.atGeneration g = object := by
        rw [← hasked asked hgeneration, ObjectRef.atGeneration, ← hgeneration]
      rw [hsame, h.fetched_eq]
      exact hreceived.mono fun e he => List.mem_append_right new he

/-- Once a generation is known, everything in the part file was received for it. -/
theorem received_of_named (h : Describing path object start marker held endpoint new got s w)
    (hbegins : Begins object start marker held)
    (htimely : Timely object marker (new.filter Fetched.isFinal).reverse) {g : Int}
    (hg : s.channel.generation = some g) :
    Fetched.Received w.rest.1.fetched (object.atGeneration g) (held ++ got) := by
  have hfirst : Fetched.named? (new.filter Fetched.isFinal) = some g := h.accounted.generation_eq ▸ hg
  have hasked : ∀ asked ∈ object.generation, asked = g :=
    fun asked hasked => (htimely.as_asked g hfirst asked hasked).symm
  refine (h.received_held hbegins hasked).append (h.received_got ?_ ?_)
  · intro e he named hnamed
    have hagrees := (h.accounted.agrees he hnamed).symm.trans hg
    exact Option.some.inj hagrees
  · intro e older hsuffix hunnamed
    cases hobject : object.generation with
    | some asked => exact congrArg some (hasked asked hobject)
    | none => exact htimely.named?_of_unasked hobject hfirst hsuffix hunnamed

/-- As long as none is known, the marker that was there before is of what everything was received for. -/
theorem received_of_unnamed (h : Describing path object start marker held endpoint new got s w)
    (hbegins : Begins object start marker held)
    (htimely : Timely object marker (new.filter Fetched.isFinal).reverse)
    (hunknown : s.channel.generation = none) {found : ResumeMarker} (hfound : marker = some found) :
    Fetched.Received w.rest.1.fetched found.object (held ++ got) := by
  have hunnamed : ∀ e ∈ new.filter Fetched.isFinal, e.generation? = none := by
    intro e he
    cases hnamed : e.generation? with
    | none => rfl
    | some named =>
        rw [h.accounted.agrees he hnamed] at hunknown
        cases hunknown
  cases hfinal : (new.filter Fetched.isFinal).reverse with
  | nil =>
      -- nothing was read, so what is there is what the run began with
      have hnone : new.filter Fetched.isFinal = [] := List.reverse_eq_nil_iff.1 hfinal
      have hgot : got = [] := (hnone ▸ h.accounted).eq_nil_of_nil
      rw [hgot, List.append_nil]
      rcases hbegins with rfl | ⟨hsame, hreceived⟩
      · exact .nil
      · obtain rfl := Option.some.inj (hfound.symm.trans hsame)
        rw [h.fetched_eq]
        exact hreceived.mono fun e he => List.mem_append_right new he
  | cons first rest =>
      have hmem : first ∈ new.filter Fetched.isFinal := by
        rw [← List.mem_reverse, hfinal]
        exact List.mem_cons_self
      have hhead : first ∈ (new.filter Fetched.isFinal).reverse.head? := by
        rw [hfinal]
        rfl
      obtain ⟨hfoundOf, hunasked⟩ := htimely.at_once first hhead (hunnamed first hmem)
      cases hobject : object.generation with
      | none =>
          rw [(hunasked hobject).1] at hfound
          cases hfound
      | some g =>
          have hsame : found.object = object.atGeneration g := by
            rw [hfoundOf found hfound, ObjectRef.atGeneration, ← hobject]
          rw [hsame]
          refine (h.received_held hbegins ?_).append (h.received_got ?_ ?_)
          · intro asked hasked
            rw [hobject] at hasked
            exact (Option.some.inj hasked).symm
          · intro e he named hnamed
            rw [hunnamed e he] at hnamed
            cases hnamed
          · intro e older _ _
            rw [hobject]
            rfl

/-- **While responses are timely, the marker describes the part file.** -/
theorem described (h : Describing path object start marker held endpoint new got s w)
    (hbegins : Begins object start marker held)
    (htimely : Timely object marker (new.filter Fetched.isFinal).reverse) : Described path w := by
  intro octets found hpart hfound
  rw [h.holds.octetsAt?_eq, Option.some.injEq] at hpart
  rw [h.marker_eq] at hfound
  rw [← hpart]
  cases hgeneration : s.channel.generation with
  | some g =>
      rw [hgeneration] at hfound
      obtain rfl := Option.some.inj hfound
      exact h.received_of_named hbegins htimely hgeneration
  | none =>
      rw [hgeneration] at hfound
      exact h.received_of_unnamed hbegins htimely hgeneration hfound

/-- A run begins to copy. -/
theorem begin {request : ReadRequest} {part : PartFile OpenFile} (endpoint : Url)
    (hholds : part.Holds path held w.tree) (hledger : w.rest.1 = .idle start)
    (hobject : request.object = object) :
    Describing path object start (w.tree.marker? path) held endpoint [] [] ⟨.start request, part⟩ w where
  holds := by rwa [List.append_nil]
  ledger_eq := hledger
  accounted := .start endpoint request
  object_eq := hobject
  unbroken := rfl
  handed := rfl
  marker_eq := rfl

end Describing

section Copying

variable {path : String} {object : ObjectRef} {start new : List Fetched} {marker : Option ResumeMarker}
  {held got : Bytes} {endpoint : Url} {s : State OpenFile} {w : Site (Ledger × S)}

/-- Taking up what a read gave saves the marker for what it handed out, and leaves the marker that is there
    if it handed out nothing. -/
theorem after_takeUp_marks {R : Type} {w : Site R} {held : Bytes}
    (hholds : s.part.Holds path held w.tree) (outcome : Outcome)
    (hrange : ∀ found ∈ outcome.resolved, ∀ g ∈ found.generation,
      -(Word.limit63 : Int) ≤ g ∧ g < Word.limit63) :
    After (takeUp Site.files path s outcome) w fun result w' =>
      match result with
      | .error _ => w'.tree = w.tree
      | .ok _ => w'.tree.marker? path = (outcome.resolved.map ResumeMarker.mk).or (w.tree.marker? path) := by
  obtain ⟨progress, resolved⟩ := outcome
  unfold takeUp
  refine After.bind (after_saveResolved hrange) ?_
  intro result w₁ hsaved
  cases result with
  | error e => exact hsaved
  | ok _ =>
      obtain ⟨htouches, hidle, hmarks⟩ := hsaved
      have hmarker : w₁.tree.marker? path = (resolved.map ResumeMarker.mk).or (w.tree.marker? path) := by
        cases resolved with
        | none =>
            rw [hidle rfl]
            rfl
        | some found =>
            rw [FileTree.marker?_eq_some_iff.2 (hmarks found rfl)]
            rfl
      cases progress with
      | endOfStream => exact hmarker
      | octets bs =>
          refine After.bind (Site.after_write_all (hholds.of_touches_marker htouches) bs) ?_
          rintro ⟨result, part⟩ w₂ ⟨hok, htouches₂, -⟩
          obtain rfl : result = .ok () := hok
          exact (FileTree.marker?_congr htouches₂.fileAt?_marker.2).trans hmarker

/-- Taking up what a read gave goes on with what describes the part file. -/
theorem after_takeUp_describes (h : Describing path object start marker held endpoint new got s w)
    {c : Channel BodyStream} {outcome : Outcome} {new' : List Fetched} {w₁ : Site (Ledger × S)}
    (htree : w₁.tree = w.tree) (hledger : w₁.rest.1 = .idle (new' ++ start))
    (haccounted : c.Accounted endpoint (got ++ outcome.progress.bytes) (new'.filter Fetched.isFinal))
    (hrequest : c.request = s.channel.request) (hunbroken : c.broken = none) (hhanded : c.unreported = none)
    (hresolved : c.generation = s.channel.generation ∧ outcome.resolved = none ∨
      s.channel.generation = none ∧ ∃ g, c.generation = some g ∧
        outcome.resolved = some (object.atGeneration g)) :
    After (takeUp Site.files path { s with channel := c } outcome) w₁ fun result w' => w'.rest = w₁.rest ∧
      match result with
      | .error _ => w'.tree = w₁.tree
      | .ok next => Describing path object start marker held endpoint new' (got ++ outcome.progress.bytes)
          (next.getD { s with channel := c }) w' := by
  have hrange : ∀ found ∈ outcome.resolved, ∀ g ∈ found.generation,
      -(Word.limit63 : Int) ≤ g ∧ g < Word.limit63 := by
    rintro found hfound g hg
    rcases hresolved with ⟨-, hnone⟩ | ⟨-, named, hnamed, hsome⟩
    · rw [Option.mem_def.1 hfound] at hnone
      cases hnone
    · obtain rfl := Option.some.inj ((Option.mem_def.1 hfound).symm.trans hsome)
      obtain rfl := Option.some.inj (Option.mem_def.1 hg)
      exact haccounted.range_of_generation hnamed
  have hholds : ({ s with channel := c } : State OpenFile).part.Holds path (held ++ got) w₁.tree :=
    htree ▸ h.holds
  refine ((after_takeUp_holds hholds outcome).and
    ((after_takeUp_marks hholds outcome hrange).and (spares_takeUp outcome w₁))).imp ?_
  rintro result w₂ ⟨⟨-, htaken⟩, hmarks, hrest⟩
  refine ⟨hrest, ?_⟩
  cases result with
  | error e => exact hmarks
  | ok next =>
      obtain ⟨hchannel, hholds'⟩ := htaken next rfl
      have hmarker : w₂.tree.marker? path
          = (c.generation.map fun g => ResumeMarker.mk (object.atGeneration g)).or marker := by
        rcases hresolved with ⟨hgeneration, hnone⟩ | ⟨-, g, hg, hsome⟩
        · rw [hmarks, hnone, htree, h.marker_eq, hgeneration]
          rfl
        · rw [hmarks, hsome, hg]
          rfl
      rw [List.append_assoc] at hholds'
      refine ⟨hholds', hrest ▸ hledger, ?_, ?_, ?_, ?_, ?_⟩ <;> rw [hchannel]
      · exact haccounted
      · exact hrequest ▸ h.object_eq
      · exact hunbroken
      · exact hhanded
      · exact hmarker

/-- What a run leaves behind: it has added to the ledger, and if its responses are timely, the marker
    describes the part file. -/
structure LeavesDescribed (path : String) (object : ObjectRef) (marker : Option ResumeMarker)
    (start : List Fetched) (w : Site (Ledger × S)) : Prop where
  described : ∃ new, w.rest.1 = .idle (new ++ start) ∧
    (Timely object marker (new.filter Fetched.isFinal).reverse → Described path w)

/-- Responses that come later do not change what is described, as long as the files stay as they are. -/
theorem LeavesDescribed.of_adds (h : LeavesDescribed path object marker start w) {fetched : List Fetched}
    (hfetched : w.rest.1 = .idle fetched) {w' : Site (Ledger × S)} (htree : w'.tree = w.tree)
    (hadds : ∃ more, w'.rest.1 = .idle (more ++ fetched)) :
    LeavesDescribed path object marker start w' := by
  obtain ⟨new, hledger, hdescribed⟩ := h
  obtain ⟨more, hmore⟩ := hadds
  have hsame : fetched = new ++ start := by
    rw [← Ledger.fetched_idle fetched, ← hfetched, hledger, Ledger.fetched_idle]
  refine ⟨more ++ new, by rw [hmore, hsame, List.append_assoc], fun htimely => ?_⟩
  rw [List.filter_append, List.reverse_append] at htimely
  intro held found hpart hfound
  rw [htree] at hpart hfound
  refine (hdescribed htimely.of_append held found hpart hfound).mono fun e he => ?_
  rw [hfetched, Ledger.fetched_idle] at he
  rw [hmore, Ledger.fetched_idle]
  exact List.mem_append_right more he

theorem LeavesDescribed.of_eq (h : LeavesDescribed path object marker start w) {w' : Site (Ledger × S)}
    (htree : w'.tree = w.tree) (hrest : w'.rest = w.rest) :
    LeavesDescribed path object marker start w' := by
  obtain ⟨tree, rest⟩ := w'
  obtain rfl : tree = w.tree := htree
  obtain rfl : rest = w.rest := hrest
  exact h

theorem Describing.leaves (h : Describing path object start marker held endpoint new got s w)
    (hbegins : Begins object start marker held) : LeavesDescribed path object marker start w :=
  ⟨new, h.ledger_eq, h.described hbegins⟩

variable {network : Network (StateM S)} {pause : Span → StateM S Unit}

/-- However copying ends, the marker describes the part file if responses are timely. -/
theorem after_copy_describes (hbegins : Begins object start marker held) (policy : RetryPolicy)
    (limit reads : Nat) (h : Describing path object start marker held endpoint new got s w) :
    After (copy (siteContext network.ledgered (fun delay => Ledger.aside (pause delay)) limit)
      (httpOpener (Site.network network.ledgered) endpoint)
      (policy.adviser fun delay => Site.onRest (Ledger.aside (pause delay))) path reads s) w
      fun result w' => LeavesDescribed path object marker start w' ∧ ∀ s', result = some (.ok s') →
        ∃ held', s'.part.Holds path held' w'.tree := by
  induction reads generalizing s got new w with
  | zero =>
      refine ⟨h.leaves hbegins, ?_⟩
      rintro _ ⟨⟩
  | succ reads ih =>
      unfold copy
      refine After.bind (((Channel.traces_accounted network endpoint pause start).after_read policy limit
        ⟨new, h.ledger_eq, h.accounted⟩ [bufferSize]).and
        ((Channel.after_read_adds network endpoint pause policy limit s.channel [bufferSize]
          h.ledger_eq).and (Channel.after_read_hands_out _ _ w limit h.handed [bufferSize]))) ?_
      rintro read w₁ ⟨hread, ⟨htree, hadds⟩, hhands⟩
      have hleaves := (h.leaves hbegins).of_adds h.ledger_eq htree hadds
      rcases read with _ | ⟨_ | outcome, c⟩
      · refine ⟨hleaves, ?_⟩
        rintro _ ⟨⟩
      · refine ⟨hleaves, ?_⟩
        rintro _ ⟨⟩
      · obtain ⟨-, hunbroken, new', hledger, haccounted⟩ := hread outcome c rfl
        obtain ⟨hrequest, hhanded, hresolved⟩ := hhands outcome c rfl
        rw [h.object_eq] at hresolved
        refine After.bind (after_takeUp_describes h htree hledger haccounted hrequest hunbroken hhanded
          hresolved) ?_
        rintro (e | _ | s') w₂ ⟨hrest, htaken⟩
        · refine ⟨hleaves.of_eq htaken hrest, ?_⟩
          rintro _ ⟨⟩
        · refine ⟨htaken.leaves hbegins, ?_⟩
          rintro _ ⟨⟩
          exact ⟨_, htaken.holds⟩
        · exact ih htaken

/-- Moving the part file into place leaves it as it was, or none. -/
theorem after_conclude_describes (limit resumedFrom : Nat)
    (h : LeavesDescribed path object marker start w) {held' : Bytes}
    (hholds : s.part.Holds path held' w.tree) :
    After (conclude (siteContext network.ledgered (fun delay => Ledger.aside (pause delay)) limit) path
      resumedFrom s) w fun _ w' => LeavesDescribed path object marker start w' := by
  have hfinish : After (finish Site.files path s.part) w fun _ w' =>
      LeavesDescribed path object marker start w' := by
    rw [finish_site]
    refine After.bind ((Site.after_finalize hholds).and (Site.Spares.finalize path s.part w)) ?_
    rintro result w₁ ⟨⟨-, hmoved⟩, hrest⟩
    have hkept : w₁.tree = w.tree ∨ (w₁.tree.resolve (partPath path)).isOk = false := by
      cases result with
      | error e => exact hmoved
      | ok _ => exact Or.inr hmoved.2.1
    have hleaves : LeavesDescribed path object marker start w₁ := by
      rcases hkept with htree | hgone
      · exact h.of_eq htree hrest
      · obtain ⟨new, hledger, -⟩ := h.described
        refine ⟨new, by rw [hrest, hledger], fun _ octets found hpart => ?_⟩
        rw [FileTree.octetsAt?_of_isOk_resolve hgone] at hpart
        cases hpart
    cases result with
    | error e => exact hleaves
    | ok _ => exact hleaves
  unfold conclude
  refine After.bind hfinish ?_
  intro result w₁ hleaves
  cases result with
  | error e => exact hleaves
  | ok _ =>
      refine After.bind ((Site.readsKeep w₁).checksum rfl limit path) ?_
      rintro result w₂ rfl
      rcases result with _ | e | checksum
      · exact hleaves
      · exact hleaves
      · exact hleaves

end Copying

/-! ## Whole runs -/

section Runs

variable {network : Network (StateM S)} {pause : Span → StateM S Unit} {path : String}
  {w : Site (Ledger × S)}

/-- What a run goes on with once its part file is open. -/
def OpensFor (path : String) (object : ObjectRef) (start : List Fetched)
    (result : Option (Except DownloadError (Prepared OpenFile))) (t t' : FileTree) : Prop :=
  match result with
  | some (.ok prepared) => prepared.1 = object ∧ t.Touches [partPath path] t' ∧
      ∃ held, prepared.2.Holds path held t' ∧ Begins object start (t.marker? path) held
  | _ => t' = t

/-- On a disk that grants everything nothing has changed where opening failed. -/
theorem OpensFor.of_part {object : ObjectRef} {start : List Fetched} {held : Bytes → Prop}
    {result : Except DownloadError (Prepared OpenFile)} {t t' : FileTree}
    (h : OpensPart (S := Ledger × S) (pure .granted) path held result t t')
    (hheld : ∀ bs, held bs → Begins object start (t.marker? path) bs)
    (hobject : ∀ prepared, result = .ok prepared → prepared.1 = object) :
    OpensFor path object start (some result) t t' := by
  cases result with
  | error e => exact h.resolve_right fun hrefused => hrefused.2.1 Site.grants_granted
  | ok prepared =>
      obtain ⟨htouches, bs, hholds, hbs⟩ := h
      exact ⟨hobject prepared rfl, htouches, bs, hholds, hheld bs hbs⟩

theorem after_prepareFresh_object {R : Type} (object : ObjectRef) (w : Site R) :
    After (prepareFresh Site.files path object) w fun result _ =>
      ∀ prepared, result = .ok prepared → prepared.1 = object := by
  unfold prepareFresh
  refine After.bind (P := fun _ _ => True) trivial ?_
  rintro (e | part) w' -
  · rintro _ ⟨⟩
  · rintro _ ⟨⟩
    rfl

theorem after_prepareResumed_object {R : Type} (object : ObjectRef) (marker : ResumeMarker) (w : Site R) :
    After (prepareResumed Site.files path object marker) w fun result _ =>
      ∀ prepared, result = .ok prepared →
        prepared.1 = { object with generation := object.generation <|> marker.object.generation } := by
  unfold prepareResumed
  by_cases hadmits : marker.admits object = true
  · simp only [hadmits, if_true]
    refine After.bind (P := fun _ _ => True) trivial ?_
    rintro (e | part) w' -
    · rintro _ ⟨⟩
    · rintro _ ⟨⟩
      rfl
  · simp only [hadmits]
    rintro _ ⟨⟩

theorem after_prepareFresh_describes (object : ObjectRef) (start : List Fetched) :
    After (prepareFresh Site.files path object) w fun result w' =>
      OpensFor path object start (some result) w.tree w'.tree := by
  refine ((after_prepareFresh_opens object).and (after_prepareFresh_object object w)).imp ?_
  rintro result w' ⟨hopens, hobject⟩
  exact .of_part hopens (fun _ => Or.inl) hobject

/-- What is there may be gone on with for an object that its marker admits: if there are octets, they were
    received for a generation, which the marker names. -/
theorem Described.begins (hdescribed : Described path w) {start : List Fetched}
    (hledger : w.rest.1 = .idle start) {args : DownloadArgs} (hresume : args.resume = true)
    {marker : ResumeMarker} (hmarker : w.tree.marker? path = some marker)
    (hadmits : marker.admits args.objectRef = true) :
    Begins (args.wanted (some marker)) start (some marker) ((w.tree.octetsAt? (partPath path)).getD []) := by
  cases hpart : w.tree.octetsAt? (partPath path) with
  | none => exact Or.inl rfl
  | some held =>
      by_cases hne : held = []
      · exact Or.inl hne
      · have hreceived := hdescribed held marker hpart hmarker
        obtain ⟨g, hg⟩ := hreceived.exists_generation hne
        rw [hledger, Ledger.fetched_idle] at hreceived
        rw [DownloadArgs.wanted_of_admits hresume hadmits hg]
        exact Or.inr ⟨rfl, hreceived⟩

theorem after_prepareResumed_describes {start : List Fetched}
    (hledger : w.rest.1 = .idle start) (hdescribed : Described path w) {args : DownloadArgs}
    (hresume : args.resume = true) {marker : ResumeMarker} (hmarker : w.tree.marker? path = some marker) :
    After (prepareResumed Site.files path args.objectRef marker) w fun result w' =>
      OpensFor path (args.wanted (some marker)) start (some result) w.tree w'.tree := by
  refine ((after_prepareResumed_opens args.objectRef marker).and
    (after_prepareResumed_object args.objectRef marker w)).imp ?_
  rintro result w' ⟨⟨hopens, hrefused⟩, hobject⟩
  by_cases hadmits : marker.admits args.objectRef = true
  · refine .of_part hopens ?_ fun prepared hprepared => (hobject prepared hprepared).trans ?_
    · rintro bs rfl
      rw [hmarker]
      exact hdescribed.begins hledger hresume hmarker hadmits
    · simp [DownloadArgs.wanted, DownloadArgs.objectRef, hresume]
  · obtain ⟨rfl, htree⟩ := hrefused (by simpa using hadmits)
    exact htree

theorem after_prepare_describes {start : List Fetched}
    (hledger : w.rest.1 = .idle start) (hdescribed : Described path w) (limit : Nat) (args : DownloadArgs) :
    After (prepare Site.files limit path args.objectRef args.resume) w fun result w' =>
      OpensFor path (args.wanted (w.tree.marker? path)) start result w.tree w'.tree := by
  unfold prepare
  cases hresume : args.resume with
  | false =>
      have hwanted : args.wanted (w.tree.marker? path) = args.objectRef := by
        simp [DownloadArgs.wanted, DownloadArgs.objectRef, hresume]
      rw [hwanted]
      exact after_prepareFresh_describes args.objectRef start
  | true =>
      refine After.bind (Site.after_load limit path) ?_
      rintro result w₁ ⟨rfl, hloaded⟩
      rcases result with _ | e | _ | marker
      · rfl
      · rfl
      · have hnone : w₁.tree.marker? path = none := by
          rw [FileTree.marker?, hloaded]
          rfl
        have hwanted : args.wanted (w₁.tree.marker? path) = args.objectRef := by
          simp [DownloadArgs.wanted, DownloadArgs.objectRef, hnone]
        rw [hwanted]
        exact after_prepareFresh_describes args.objectRef start
      · have hmarker := FileTree.marker?_eq_some_iff.2 hloaded
        rw [hmarker]
        exact after_prepareResumed_describes hledger hdescribed hresume hmarker

theorem Begins.leaves {object : ObjectRef} {start : List Fetched} {held : Bytes} {part : PartFile OpenFile}
    (h : Begins object start (w.tree.marker? path) held)
    (hholds : part.Holds path held w.tree) (hledger : w.rest.1 = .idle start) :
    LeavesDescribed path object (w.tree.marker? path) start w := by
  refine ⟨[], hledger, fun _ octets found hpart hfound => ?_⟩
  rw [hholds.octetsAt?_eq, Option.some.injEq] at hpart
  rw [← hpart, hledger, Ledger.fetched_idle]
  rcases h with rfl | ⟨hmarker, hreceived⟩
  · exact .nil
  · obtain rfl := Option.some.inj (hfound.symm.trans hmarker)
    exact hreceived

theorem after_transfer_describes {object : ObjectRef} {start : List Fetched} {held : Bytes}
    {part : PartFile OpenFile} (hledger : w.rest.1 = .idle start)
    (hholds : part.Holds path held w.tree) (hbegins : Begins object start (w.tree.marker? path) held)
    (limit : Nat) (config : Config) (options : ReadOptions) :
    After (transfer (siteContext network.ledgered (fun delay => Ledger.aside (pause delay)) limit) config
      options path (object, part)) w
      fun _ w' => LeavesDescribed path object (w.tree.marker? path) start w' := by
  have hunchanged := hbegins.leaves hholds hledger
  unfold transfer
  simp only
  cases config.endpointUrl with
  | error e => exact hunchanged
  | ok endpoint =>
      cases config.retrySettings.policy? with
      | none => exact hunchanged
      | some policy =>
          have hbegin : Describing path object start (w.tree.marker? path) held endpoint [] []
              ⟨.start ⟨object, options, .onward part.length⟩, part⟩ w :=
            .begin endpoint hholds hledger rfl
          refine After.bind (after_copy_describes hbegins policy limit limit hbegin) ?_
          rintro result w₁ ⟨hleaves, hcopied⟩
          rcases result with _ | e | s
          · exact hleaves
          · exact hleaves
          · obtain ⟨_, hholds'⟩ := hcopied s rfl
            exact after_conclude_describes limit part.length hleaves hholds'

/-- One run, from files that are described: what it leaves is described if its responses are timely. -/
theorem after_run_describes {start : List Fetched} (hledger : w.rest.1 = .idle start)
    (hdescribed : Described path w) (limit : Nat) (config : Config) {args : DownloadArgs}
    (hpath : args.destination = .ok path) :
    After (run (siteContext network.ledgered (fun delay => Ledger.aside (pause delay)) limit) config args) w
      fun _ w' => LeavesDescribed path (args.wanted (w.tree.marker? path)) (w.tree.marker? path) start w' := by
  have hunchanged : LeavesDescribed path (args.wanted (w.tree.marker? path)) (w.tree.marker? path) start w :=
    ⟨[], hledger, fun _ => hdescribed⟩
  unfold run
  simp only [hpath]
  refine After.bind ((after_prepare_describes hledger hdescribed limit args).and
    (spares_prepare limit args.objectRef args.resume w)) ?_
  intro result w₁ ⟨hopens, hrest⟩
  rcases result with _ | e | ⟨object, part⟩
  · exact hunchanged.of_eq hopens hrest
  · exact hunchanged.of_eq hopens hrest
  · obtain ⟨rfl, htouches, held, hholds, hbegins⟩ := hopens
    have hmarker : w₁.tree.marker? path = w.tree.marker? path :=
      FileTree.marker?_congr htouches.fileAt?_marker.2
    rw [← hmarker] at hbegins ⊢
    exact after_transfer_describes (hrest ▸ hledger) hholds hbegins limit config args.options

/-- Whether the responses of each of some runs, one after the other, are timely. -/
def EachTimely (network : Network (StateM S)) (pause : Span → StateM S Unit) (path : String) :
    List Run → Site (Ledger × S) → Prop
  | [], _ => True
  | r :: rest, w =>
    let w' := (run (siteContext network.ledgered (fun delay => Ledger.aside (pause delay)) r.limit) r.config
      r.args w).2
    Timely (r.args.wanted (w.tree.marker? path)) (w.tree.marker? path) (w'.rest.1.since w.rest.1) ∧
      EachTimely network pause path rest w'

instance decidableEachTimely (network : Network (StateM S)) (pause : Span → StateM S Unit) (path : String) :
    (runs : List Run) → (w : Site (Ledger × S)) → Decidable (EachTimely network pause path runs w)
  | [], _ => .isTrue trivial
  | _ :: rest, _ => @instDecidableAnd _ _ _ (decidableEachTimely network pause path rest _)

theorem runEach_described {start : List Fetched} (hledger : w.rest.1 = .idle start)
    (hdescribed : Described path w) (runs : List Run)
    (hruns : ∀ r ∈ runs, r.args.destination = .ok path) (htimely : EachTimely network pause path runs w) :
    ∀ ran ∈ runEach network.ledgered (fun delay => Ledger.aside (pause delay)) runs w,
      Described path ran.2 := by
  -- every run starts from what the one before it left described
  induction runs generalizing w start with
  | nil => simp [runEach]
  | cons r rest ih =>
      obtain ⟨hr, hrest⟩ := List.forall_mem_cons.1 hruns
      obtain ⟨hfirst, hlater⟩ := htimely
      have hran : After (run (siteContext network.ledgered (fun delay => Ledger.aside (pause delay)) r.limit)
          r.config r.args) w fun _ w' => LeavesDescribed path _ _ start w' :=
        after_run_describes hledger hdescribed r.limit r.config hr
      obtain ⟨new, hledger', hdescribes⟩ := hran
      rw [hledger', hledger, Ledger.since_idle] at hfirst
      have hdescribed' := hdescribes hfirst
      exact List.forall_mem_cons.2 ⟨hdescribed', ih hledger' hdescribed' hrest hlater⟩

/-- **A marker describes the part file beside it where responses are timely.** Objects are downloaded to a
    path by one run after the other, with arguments and settings of their own, from a service that may
    leave the generation out, and each run may end in any way. After every run, all octets that are in the
    part file beside a marker were received in responses to requests for the object that the marker names,
    and these name its generation, or name none and were asked for it; as long as in each run the
    generation that is named first is the one asked for, if one is, and the first response names it, unless
    the marker that the run finds is of what it asks for. -/
theorem runEach_describes (network : Network (StateM S)) (pause : Span → StateM S Unit) (path : String)
    (runs : List Run) (hruns : ∀ r ∈ runs, r.args.destination = .ok path) (tree : FileTree)
    (hfresh : ∀ name number, tree.entry? name ≠ some (.file number)) (s : S)
    (htimely : EachTimely network pause path runs ⟨tree, (.idle [], s)⟩) :
    ∀ ran ∈ runEach network.ledgered (fun delay => Ledger.aside (pause delay)) runs
        ⟨tree, (.idle [], s)⟩,
      ∀ held marker, ran.2.tree.octetsAt? (partPath path) = some held →
        ran.2.tree.marker? path = some marker →
          Fetched.Received ran.2.rest.1.fetched marker.object held := by
  have hledger : (Ledger.idle [], s).1 = .idle [] := rfl
  refine runEach_described hledger ?_ runs hruns htimely
  intro held marker hpart
  rw [FileTree.octetsAt?_of_no_files hfresh] at hpart
  cases hpart

end Runs

end Download

/-- A run that makes one attempt, from the start or going on with what is there. -/
def Download.singleRun (object : String) (resume : Bool) : Download.Run where
  config := { Config.default with retry := some ⟨1, .ofDecimal false 0 0, 0⟩ }
  args := { bucket := "b", object := object, output := some "f", resume := resume }
  limit := 3

/-- A service that names the generation in its first response only; every response breaks off. -/
def Network.namedOnce : List String :=
  ["HTTP/1.1 200 OK\r\nx-goog-generation: 5\r\nContent-Length: 4\r\n\r\nAB",
    "HTTP/1.1 206 Partial Content\r\nContent-Range: bytes 2-3/4\r\nContent-Length: 2\r\n\r\nC"]

/-- A download goes on with a response that names no generation: it was asked for the one of the marker. -/
theorem Download.runEach_describes_resumed :
    let runs := [singleRun "o" false, singleRun "o" true]
    let start : Site (Ledger × List String) := ⟨.empty, (.idle [], Network.namedOnce)⟩
    let rans := runEach Network.scripted.ledgered (fun _ => Ledger.aside (pure ())) runs start
    EachTimely Network.scripted (fun _ => pure ()) "f" runs start ∧
      rans.map (fun ran => (ran.2.tree.octetsAt? (partPath "f"), ran.2.tree.marker? "f"))
        = [(some (Utf8.encode "AB"), some ⟨⟨"b", "o", some 5⟩⟩),
          (some (Utf8.encode "ABC"), some ⟨⟨"b", "o", some 5⟩⟩)] ∧
      ∀ ran ∈ rans, ∀ held marker, ran.2.tree.octetsAt? (partPath "f") = some held →
        ran.2.tree.marker? "f" = some marker →
          Fetched.Received ran.2.rest.1.fetched marker.object held := by
  intro runs start rans
  -- evaluated together, the runs are evaluated once
  obtain ⟨htimely, hrans⟩ : EachTimely Network.scripted (fun _ => pure ()) "f" runs start ∧
      rans.map (fun ran => (ran.2.tree.octetsAt? (partPath "f"), ran.2.tree.marker? "f"))
        = [(some (Utf8.encode "AB"), some ⟨⟨"b", "o", some 5⟩⟩),
          (some (Utf8.encode "ABC"), some ⟨⟨"b", "o", some 5⟩⟩)] := by decide +kernel
  refine ⟨htimely, hrans, ?_⟩
  exact runEach_describes Network.scripted (fun _ => pure ()) "f" runs (by decide) .empty
    FileTree.entry?_empty_ne_file Network.namedOnce htimely

/-- A service that names the generation of one object, and then none of another one; both responses break
    off. -/
def Network.namesOne : List String :=
  ["HTTP/1.1 200 OK\r\nx-goog-generation: 5\r\nContent-Length: 4\r\n\r\nAB",
    "HTTP/1.1 200 OK\r\nContent-Length: 4\r\n\r\nWX"]

/-- Octets of one object lie beside the marker of another one: the part file was emptied for a new download,
    and the marker was not removed. -/
theorem Download.runEach_mismarks :
    let rans := runEach Network.scripted.ledgered (fun _ => Ledger.aside (pure ()))
      [singleRun "o" false, singleRun "p" false] ⟨.empty, (.idle [], Network.namesOne)⟩
    ∃ ran, rans[1]? = some ran ∧
      ran.2.tree.octetsAt? (partPath "f") = some (Utf8.encode "WX") ∧
      ran.2.tree.marker? "f" = some ⟨⟨"b", "o", some 5⟩⟩ ∧
      ran.2.rest.1.fetched.map (fun e => (String.ofList e.request.target.requestText, e.generation?,
          e.transfer.body))
        = [("/storage/v1/b/b/o/p?alt=media", none, Utf8.encode "WX"),
          ("/storage/v1/b/b/o/o?alt=media", some 5, Utf8.encode "AB")] ∧
      ¬Fetched.Received ran.2.rest.1.fetched ⟨"b", "o", some 5⟩ (Utf8.encode "WX") := by
  intro rans
  have hlast : ∀ ran ∈ rans[1]?, ran.2.tree.octetsAt? (partPath "f") = some (Utf8.encode "WX") ∧
      ran.2.tree.marker? "f" = some ⟨⟨"b", "o", some 5⟩⟩ ∧
      ran.2.rest.1.fetched.map (fun e => (String.ofList e.request.target.requestText, e.generation?,
          e.transfer.body))
        = [("/storage/v1/b/b/o/p?alt=media", none, Utf8.encode "WX"),
          ("/storage/v1/b/b/o/o?alt=media", some 5, Utf8.encode "AB")] ∧
      ∀ e ∈ ran.2.rest.1.fetched, 0x57 ∈ e.transfer.body →
        e.generation? = none ∧ e.request.generations = [] := by decide +kernel
  obtain ⟨hpart, hmarker, hfetched, hunasked⟩ := hlast _ rfl
  refine ⟨_, rfl, hpart, hmarker, hfetched, fun hreceived => ?_⟩
  obtain ⟨e, he, hb, hof⟩ := hreceived.exists_of_mem (b := 0x57) (by decide +kernel)
  obtain ⟨hunnamed, hnone⟩ := hunasked e he hb
  exact hof.generations_ne_nil hunnamed hnone

end SteadyFetch
