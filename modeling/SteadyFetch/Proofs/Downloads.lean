import SteadyFetch.Command.Download
import SteadyFetch.Proofs.ChangingService
import SteadyFetch.Proofs.ServiceDraining

set_option autoImplicit false

/-! # Downloads, one run after the other

The files of a site outlive the runs of a program, and the service may hold another version by the next
run. What every run leaves behind and the next one relies on is `Kept`: octets in a part file are the
first octets of the generation that the marker names. A run keeps it at every step, since it saves the
marker before it writes, and it only goes on with octets of the generation it stays on. What a run moves
into place is then one version as a whole. -/

namespace SteadyFetch

/-! ## What is kept between runs -/

/-- The octets of a part file are the first ones of a generation that its marker names. -/
def FileTree.Marked (t : FileTree) (content : Int → Bytes) (bucket name path : String) (held : Bytes) :
    Prop :=
  held = [] ∨ ∃ g, t.Marks path ⟨⟨bucket, name, some g⟩⟩ ∧ held <+: content g

/-- What runs leave behind at a path: octets in the part file are marked. -/
structure FileTree.Kept (t : FileTree) (content : Int → Bytes) (bucket name path : String) : Prop where
  marked : ∀ held, t.octetsAt? (partPath path) = some held → t.Marked content bucket name path held

/-- A path has the octets of one version, and neither part file nor marker are left. -/
structure FileTree.Completed (t : FileTree) (content : Int → Bytes) (path : String)
    (summary : DownloadSummary) : Prop where
  whole : ∃ g, t.octetsAt? path = some (content g) ∧ ∀ named ∈ summary.generation, named = g
  part_gone : (t.resolve (partPath path)).isOk = false
  marker_gone : (t.resolve (markerPath path)).isOk = false

namespace FileTree

variable {t t' : FileTree} {content : Int → Bytes} {bucket name path : String} {held : Bytes}

theorem Marks.of_octetsAt?_eq {marker : ResumeMarker} (h : t.Marks path marker)
    (heq : t'.octetsAt? (markerPath path) = t.octetsAt? (markerPath path)) : t'.Marks path marker := by
  obtain ⟨raw, text, hraw, hrest⟩ := h
  exact ⟨raw, text, heq.trans hraw, hrest⟩

theorem Marked.of_octetsAt?_eq (h : t.Marked content bucket name path held)
    (heq : t'.octetsAt? (markerPath path) = t.octetsAt? (markerPath path)) :
    t'.Marked content bucket name path held := by
  rcases h with hnil | ⟨g, hmarks, hinit⟩
  · exact Or.inl hnil
  · exact Or.inr ⟨g, hmarks.of_octetsAt?_eq heq, hinit⟩

theorem Marked.of_append {bs : Bytes} (h : t.Marked content bucket name path (held ++ bs)) :
    t.Marked content bucket name path held := by
  rcases h with hnil | ⟨g, hmarks, hinit⟩
  · exact Or.inl (List.append_eq_nil_iff.1 hnil).1
  · exact Or.inr ⟨g, hmarks, (List.prefix_append held bs).trans hinit⟩

theorem Kept.of_part_gone (hgone : (t.resolve (partPath path)).isOk = false) :
    t.Kept content bucket name path := by
  refine ⟨fun held hheld => ?_⟩
  rw [octetsAt?_of_isOk_resolve hgone] at hheld
  cases hheld

theorem Kept.of_no_files (h : ∀ name number, t.entry? name ≠ some (.file number)) :
    t.Kept content bucket name path := by
  refine ⟨fun held hheld => ?_⟩
  rw [octetsAt?_of_no_files h] at hheld
  cases hheld

end FileTree

namespace PartFile.Holds

variable {part : PartFile OpenFile} {content : Int → Bytes} {bucket name path : String} {held : Bytes}
  {t t' : FileTree}

/-- A part file that is open is marked if what it holds is. -/
theorem kept (h : part.Holds path held t)
    (hmarked : t.Marked content bucket name path held) : t.Kept content bucket name path := by
  refine ⟨fun other hother => ?_⟩
  rw [h.octetsAt?_eq, Option.some.injEq] at hother
  rwa [← hother]

end PartFile.Holds

/-! ## A read that goes on -/

/-- A request for the rest of an object of which some octets are held: the object names their
    generation, if there are any. -/
structure ReadRequest.Resumes (request : ReadRequest) (content : Int → Bytes) (bucket name : String)
    (before : Bytes) : Prop where
  range_eq : request.range = .onward before.length
  bucket_eq : request.object.bucket = bucket
  name_eq : request.object.name = name
  before_eq : before = [] ∨ ∃ g, request.object.generation = some g ∧ before <+: content g

namespace ReadRequest.Resumes

variable {S : Type} {request : ReadRequest} {content : Int → Bytes} {bucket name path : String}
  {before got : Bytes} {t tree : FileTree} {handed : Option ObjectRef} {c : Channel BodyStream}
  {w : Site S}

theorem before_isPrefix (h : request.Resumes content bucket name before) {g : Int}
    (hg : request.object.MayBe g) : before <+: content g := by
  rcases h.before_eq with rfl | ⟨named, hnamed, hinit⟩
  · exact List.nil_prefix
  · rwa [hg.eq_of_named hnamed] at hinit

theorem start_eq (h : request.Resumes content bucket name before) :
    request.range.start = before.length := by
  rw [h.range_eq]
  rfl

/-- What was held and what was read are together the first octets of the generation taken up. -/
theorem isPrefix_of_delivered (h : request.Resumes content bucket name before)
    (hdelivered : Channel.Delivered (.ofVersions content request.object tree) request handed c w got)
    {g : Int} (hg : c.generation = some g) : before ++ got <+: content g := by
  have hinit := h.before_isPrefix (hdelivered.known g hg)
  have hgot := hdelivered.got_of_generation hg
  rw [h.start_eq, List.extract_eq_take_drop, Nat.add_sub_cancel_left] at hgot
  have hwhole : before ++ got = (content g).take (before.length + got.length) := by
    rw [List.take_add, ← List.prefix_iff_eq_take.1 hinit]
    exact congrArg (before ++ ·) hgot
  rw [hwhole]
  exact List.take_prefix _ _

/-- What is held after a read is marked, if the marker was saved for what was handed out. -/
theorem marked_of_delivered (h : request.Resumes content bucket name before)
    (hdelivered : Channel.Delivered (.ofVersions content request.object tree) request handed c w got)
    (hunreported : c.unreported = none) (hmarks : ∀ object ∈ handed, t.Marks path ⟨object⟩)
    (hbefore : handed = none → t.Marked content bucket name path before) :
    t.Marked content bucket name path (before ++ got) := by
  have hresolved := hdelivered.resolved_eq
  rw [hunreported, Option.orElse_eq_orElse, Option.orElse_none] at hresolved
  cases hgeneration : c.generation with
  | none =>
      -- nothing is delivered before a generation is known
      rw [hgeneration] at hresolved
      rcases hdelivered.got_eq with rfl | ⟨g, hg, -⟩
      · rw [List.append_nil]
        exact hbefore hresolved
      · rw [hgeneration] at hg
        cases hg
  | some g =>
      rw [hgeneration] at hresolved
      refine Or.inr ⟨g, ?_, h.isPrefix_of_delivered hdelivered hgeneration⟩
      have hmarked := hmarks _ hresolved
      rwa [ObjectRef.atGeneration, h.bucket_eq, h.name_eq] at hmarked

theorem whole_of_finished (h : request.Resumes content bucket name before)
    (hdelivered : Channel.Delivered (.ofVersions content request.object tree) request handed c w got)
    (hfinished : Channel.Finished (Supply.ofVersions (S := S) content request.object tree) c) :
    ∃ g, before ++ got = content g ∧ ∀ named ∈ c.generation, named = g := by
  have hposition := hdelivered.position_eq
  rw [h.start_eq] at hposition
  rcases hfinished with ⟨stop, hstop, -⟩ | ⟨g, hreads, hmay, hend⟩
  · rw [hdelivered.request_eq, h.range_eq] at hstop
    cases hstop
  · rw [hposition] at hend
    rcases hreads with hgeneration | ⟨hgeneration, -⟩
    · refine ⟨g, ?_, fun named hnamed => ?_⟩
      · refine (h.isPrefix_of_delivered hdelivered hgeneration).eq_of_length_le ?_
        rwa [List.length_append]
      · rw [hgeneration] at hnamed
        exact (Option.some.inj hnamed).symm
    · rcases hdelivered.got_eq with rfl | ⟨other, hother, -⟩
      · refine ⟨g, ?_, by simp [hgeneration]⟩
        rw [List.append_nil]
        exact (h.before_isPrefix hmay).eq_of_length_le hend
      · rw [hgeneration] at hother
        cases hother

end ReadRequest.Resumes

theorem Channel.Delivered.withTree {S : Type} {content : Int → Bytes} {object : ObjectRef}
    {t : FileTree} {request : ReadRequest} {handed : Option ObjectRef} {c : Channel BodyStream}
    {w : Site S} {got : Bytes}
    (h : Channel.Delivered (.ofVersions content object t) request handed c w got) (t' : FileTree)
    (w' : Site S) : Channel.Delivered (.ofVersions content object t') request handed c w' got :=
  ⟨h.request_eq, h.position_eq, h.known, h.resolved_eq, h.got_eq, h.at_position⟩

/-! ## Copying -/

namespace Download

variable {S : Type} {network : Network (StateM S)} {pause : Span → StateM S Unit}
  {content : Int → Bytes} {bucket name path : String} {request : ReadRequest} {before got : Bytes}
  {handed : Option ObjectRef} {s : State OpenFile} {w : Site S}

/-- What downloads at a site work with: its files, and a disk, a network and a clock that are part of the
    rest. -/
def siteContextOn (disk : StateM S DiskAnswer) (network : Network (StateM S)) (pause : Span → StateM S Unit)
    (limit : Nat) : DownloadContext (StateM (Site S)) OpenFile where
  files := Site.filesOn disk
  network := Site.network network
  pause delay := Site.onRest (pause delay)
  limit := limit

/-- The same on a disk that grants everything. -/
abbrev siteContext (network : Network (StateM S)) (pause : Span → StateM S Unit) (limit : Nat) :
    DownloadContext (StateM (Site S)) OpenFile :=
  siteContextOn (pure .granted) network pause limit

/-- A download under way: the part file holds what was held before and what was read since, and the
    marker was saved for all that was handed out. -/
structure Copying (content : Int → Bytes) (bucket name path : String) (request : ReadRequest)
    (before : Bytes) (handed : Option ObjectRef) (s : State OpenFile) (got : Bytes) (w : Site S) :
    Prop where
  holds : s.part.Holds path (before ++ got) w.tree
  marked : w.tree.Marked content bucket name path (before ++ got)
  handed_marked : ∀ object ∈ handed, w.tree.Marks path ⟨object⟩
  delivered : Channel.Delivered (.ofVersions content request.object w.tree) request handed s.channel w got
  isOpen : s.channel.isOpen = true

theorem Copying.of_tree_eq (h : Copying content bucket name path request before handed s got w)
    {w' : Site S} (htree : w'.tree = w.tree) :
    Copying content bucket name path request before handed s got w' where
  holds := htree ▸ h.holds
  marked := htree ▸ h.marked
  handed_marked := htree ▸ h.handed_marked
  delivered := h.delivered.withTree w'.tree w'
  isOpen := h.isOpen

/-- A download begins with what is held already. -/
theorem Copying.start {part : PartFile OpenFile} (h : w.tree.Kept content bucket name path)
    (hholds : part.Holds path before w.tree) :
    Copying content bucket name path request before none ⟨.start request, part⟩ [] w where
  holds := by rwa [List.append_nil]
  marked := by
    rw [List.append_nil]
    exact h.marked before hholds.octetsAt?_eq
  handed_marked := by rintro _ ⟨⟩
  delivered := Channel.delivered_start
  isOpen := rfl

theorem Copying.kept (h : Copying content bucket name path request before handed s got w) :
    w.tree.Kept content bucket name path :=
  h.holds.kept h.marked

/-- What is left behind by a step of a download, and what it comes to if it succeeds. -/
def CopyKept (content : Int → Bytes) (bucket name path : String)
    (result : Option (Except DownloadError (State OpenFile))) (w : Site S) : Prop :=
  w.tree.Kept content bucket name path ∧ ∀ s, result = some (.ok s) →
    ∃ g, s.part.Holds path (content g) w.tree ∧ ∀ named ∈ s.channel.generation, named = g

/-- Saving the marker for what a read hands out. -/
theorem after_saveResolved {resolved : Option ObjectRef}
    (hrange : ∀ object ∈ resolved, ∀ g ∈ object.generation,
      -(Word.limit63 : Int) ≤ g ∧ g < Word.limit63) :
    After (saveResolved Site.files path resolved) w fun result w' =>
      match result with
      | .error _ => w'.tree = w.tree
      | .ok () => w.tree.Touches [markerPath path] w'.tree ∧ (resolved = none → w'.tree = w.tree) ∧
          ∀ object ∈ resolved, w'.tree.Marks path ⟨object⟩ := by
  unfold saveResolved
  cases resolved with
  | none => exact ⟨.refl, fun _ => rfl, by rintro _ ⟨⟩⟩
  | some object =>
      refine After.bind (Site.after_save object path (hrange object rfl)) ?_
      intro result w₁ hsaved
      cases result with
      | error e => exact hsaved
      | ok _ =>
          refine ⟨hsaved.1, by rintro ⟨⟩, ?_⟩
          rintro _ ⟨⟩
          exact hsaved.2

/-- What is handed out is the object at a generation it may be of. -/
theorem mayBe_of_handed {tree : FileTree} {c : Channel BodyStream}
    (h : Channel.Delivered (.ofVersions content request.object tree) request handed c w got)
    (hunreported : c.unreported = none) {object : ObjectRef} (hobject : object ∈ handed) :
    ∃ g, object = request.object.atGeneration g ∧ request.object.MayBe g := by
  have hresolved := h.resolved_eq
  rw [hunreported, Option.orElse_eq_orElse, Option.orElse_none, Option.mem_def.1 hobject] at hresolved
  obtain ⟨g, hg, hat⟩ := Option.map_eq_some_iff.1 hresolved.symm
  exact ⟨g, hat.symm, h.known g hg⟩

/-- Once the marker is saved for what a read handed out, what the part file will hold is marked. -/
theorem after_saveResolved_of_read (hresumes : request.Resumes content bucket name before)
    (h : Copying content bucket name path request before handed s got w) {resolved : Option ObjectRef}
    {c : Channel BodyStream} {bs : Bytes}
    (hdelivered : Channel.Delivered (.ofVersions content request.object w.tree) request
      (resolved <|> handed) c w (got ++ bs)) (hunreported : c.unreported = none) :
    After (saveResolved Site.files path resolved) w fun result w' =>
      match result with
      | .error _ => w'.tree = w.tree
      | .ok () => s.part.Holds path (before ++ got) w'.tree ∧
          (∀ object ∈ (resolved <|> handed), w'.tree.Marks path ⟨object⟩) ∧
            w'.tree.Marked content bucket name path (before ++ (got ++ bs)) := by
  have hrange : ∀ object ∈ resolved, ∀ g ∈ object.generation,
      -(Word.limit63 : Int) ≤ g ∧ g < Word.limit63 := by
    rintro object ⟨⟩ g hg
    obtain ⟨named, rfl, hmay⟩ := mayBe_of_handed hdelivered hunreported rfl
    obtain rfl := Option.some.inj (Option.mem_def.1 hg)
    exact hmay.2
  refine (after_saveResolved hrange).imp ?_
  intro result w₁ hsaved
  cases result with
  | error e => exact hsaved
  | ok _ =>
      obtain ⟨htouches, hidle, hsaves⟩ := hsaved
      -- what was handed out before has its marker already, and a read hands out once
      have hmarks : ∀ object ∈ (resolved <|> handed), w₁.tree.Marks path ⟨object⟩ := by
        intro object hobject
        cases resolved with
        | none =>
            rw [hidle rfl]
            exact h.handed_marked object hobject
        | some _ => exact hsaves object hobject
      refine ⟨h.holds.of_touches_marker htouches, hmarks, ?_⟩
      refine hresumes.marked_of_delivered hdelivered hunreported hmarks fun hnone => ?_
      have hresolved : resolved = none := by
        cases resolved with
        | none => rfl
        | some _ => cases hnone
      rw [hidle hresolved]
      exact h.marked.of_append

/-- Taking up what a read gave: the marker is there before anything is written. -/
theorem after_takeUp (hresumes : request.Resumes content bucket name before)
    (h : Copying content bucket name path request before handed s got w) {outcome : Outcome}
    {c : Channel BodyStream}
    (hread : Channel.Returned (.ofVersions content request.object w.tree) request handed got true
      (.ok outcome) c w) :
    After (takeUp Site.files path { s with channel := c } outcome) w fun result w' =>
      match result with
      | .error _ => w'.tree.Kept content bucket name path
      | .ok none => CopyKept content bucket name path (some (.ok { s with channel := c })) w'
      | .ok (some s') => Copying content bucket name path request before (outcome.resolved <|> handed)
          s' (got ++ outcome.progress.bytes) w' := by
  obtain ⟨progress, resolved⟩ := outcome
  have hdelivered : Channel.Delivered (.ofVersions content request.object w.tree) request
      (resolved <|> handed) c w (got ++ progress.bytes) := hread.delivered
  have hsettles : Channel.Settles (.ofVersions content request.object w.tree) (.ok progress) c :=
    hread.settles rfl
  have hunreported := hread.unreported_eq _ rfl
  unfold takeUp
  refine After.bind (after_saveResolved_of_read hresumes h hdelivered hunreported) ?_
  intro result w₁ hsaved
  cases result with
  | error e =>
      -- nothing is written without a marker
      rw [After.pure_iff, hsaved]
      exact h.kept
  | ok _ =>
      obtain ⟨hholds, hmarks, hmarked⟩ := hsaved
      cases progress with
      | endOfStream =>
          obtain ⟨g, hwhole, hnamed⟩ := hresumes.whole_of_finished hdelivered hsettles
          have hnothing : got ++ Progress.endOfStream.bytes = got := List.append_nil got
          rw [hnothing] at hmarked hwhole
          refine ⟨hholds.kept hmarked, ?_⟩
          rintro _ ⟨⟩
          exact ⟨g, hwhole ▸ hholds, hnamed⟩
      | octets bs =>
          refine After.bind (Site.after_write_all hholds bs) ?_
          rintro ⟨result, part⟩ w₂ ⟨hok, htouches, hholds'⟩
          obtain rfl : result = .ok () := hok
          have hmarker := htouches.fileAt?_marker.2
          rw [List.append_assoc] at hholds'
          exact {
            holds := hholds'
            marked := hmarked.of_octetsAt?_eq hmarker
            handed_marked := fun object hobject => (hmarks object hobject).of_octetsAt?_eq hmarker
            delivered := hdelivered.withTree w₂.tree w₂
            isOpen := hsettles }

/-- Copying keeps what is to be kept, wherever it ends, and ends well with a whole version. -/
theorem after_copy (limit : Nat) {opener : Opener (StateM (Site S)) BodyStream}
    {adviser : Adviser (StateM (Site S))}
    (hserves : ∀ t, Serves (.ofVersions content request.object t) request opener adviser)
    (hresumes : request.Resumes content bucket name before) (reads : Nat)
    (h : Copying content bucket name path request before handed s got w) :
    After (copy (siteContext network pause limit) opener adviser path reads s) w
      (CopyKept content bucket name path) := by
  -- `Copying` is the invariant: a read touches no file, and taking up what it gave restores it
  induction reads generalizing s got handed w with
  | zero => exact ⟨h.kept, by rintro _ ⟨⟩⟩
  | succ reads ih =>
      unfold copy
      refine After.bind (Channel.after_read (hserves w.tree) limit rfl h.delivered [bufferSize]) ?_
      rintro read w₁ ⟨htree, hread⟩
      have hnow : Copying content bucket name path request before handed s got w₁ := h.of_tree_eq htree
      rcases read with _ | ⟨_ | outcome, c⟩
      · exact ⟨hnow.kept, by rintro _ ⟨⟩⟩
      · exact ⟨hnow.kept, by rintro _ ⟨⟩⟩
      · have hreturned := hread _ _ rfl
        have htree : w₁.tree = w.tree := htree
        rw [h.isOpen, ← htree] at hreturned
        refine After.bind (after_takeUp hresumes hnow hreturned) ?_
        intro result w₂ htaken
        rcases result with e | _ | s'
        · exact ⟨htaken, by rintro _ ⟨⟩⟩
        · exact htaken
        · exact ih htaken

/-! ## From the part file to the destination -/

/-- What a run that is over has left behind: what is to be kept, and after a success a whole version. -/
def RunKept (content : Int → Bytes) (bucket name path : String)
    (result : Option (Except DownloadError DownloadSummary)) (t : FileTree) : Prop :=
  t.Kept content bucket name path ∧ ∀ summary, result = some (.ok summary) →
    t.Completed content path summary

/-- Opening the part file: what it holds is marked, and the object names its generation. -/
def PrepareKept (content : Int → Bytes) (bucket name path : String)
    (result : Option (Except DownloadError (Prepared OpenFile))) (w : Site S) : Prop :=
  w.tree.Kept content bucket name path ∧ ∀ object part, result = some (.ok (object, part)) →
    ∃ before, part.Holds path before w.tree ∧ ∀ options,
      ReadRequest.Resumes ⟨object, options, .onward before.length⟩ content bucket name before

theorem after_prepareFresh (h : w.tree.Kept content bucket name path) (generation : Option Int) :
    After (prepareFresh Site.files path ⟨bucket, name, generation⟩) w fun result w' =>
      PrepareKept content bucket name path (some result) w' := by
  unfold prepareFresh
  refine After.bind (Site.after_create path) ?_
  intro result w₁ hcreated
  cases result with
  | error e =>
      rw [After.pure_iff, PrepareKept, hcreated]
      exact ⟨h, by rintro _ _ ⟨⟩⟩
  | ok part =>
      obtain ⟨htouches, hholds⟩ := hcreated
      refine ⟨hholds.kept (Or.inl rfl), ?_⟩
      rintro _ _ ⟨⟩
      exact ⟨[], hholds, fun _ => ⟨rfl, rfl, rfl, Or.inl rfl⟩⟩

theorem after_prepareResumed (h : w.tree.Kept content bucket name path) (generation : Option Int)
    {marker : ResumeMarker} (hmarker : w.tree.Marks path marker) :
    After (prepareResumed Site.files path ⟨bucket, name, generation⟩ marker) w fun result w' =>
      PrepareKept content bucket name path (some result) w' := by
  unfold prepareResumed
  by_cases hadmits : marker.admits ⟨bucket, name, generation⟩ = true
  · simp only [hadmits, if_true]
    refine After.bind (Site.after_resume path) ?_
    intro result w₁ hresumed
    cases result with
    | error e =>
        rw [After.pure_iff, PrepareKept, hresumed.resolve_right fun hrefused => hrefused.2.1 Site.grants_granted]
        exact ⟨h, by rintro _ _ ⟨⟩⟩
    | ok part =>
        obtain ⟨htouches, hholds⟩ := hresumed
        have hmarked : w.tree.Marked content bucket name path
            ((w.tree.octetsAt? (partPath path)).getD []) := by
          cases hoctets : w.tree.octetsAt? (partPath path) with
          | none => exact Or.inl rfl
          | some held => exact h.marked held hoctets
        refine ⟨hholds.kept (hmarked.of_octetsAt?_eq htouches.fileAt?_marker.2), ?_⟩
        rintro _ _ ⟨⟩
        refine ⟨_, hholds, fun _ => ⟨rfl, rfl, rfl, ?_⟩⟩
        rcases hmarked with hnil | ⟨g, hmarks, hinit⟩
        · exact Or.inl hnil
        · -- the marker that is there is the one that names the generation of what is held
          refine Or.inr ⟨g, ?_, hinit⟩
          obtain rfl := hmarks.unique hmarker
          cases generation with
          | none => rfl
          | some asked =>
              have hsame : g = asked := by simpa [ResumeMarker.admits] using hadmits
              rw [hsame]
              rfl
  · simp only [hadmits]
    exact ⟨h, by rintro _ _ ⟨⟩⟩

theorem after_prepare (h : w.tree.Kept content bucket name path) (limit : Nat)
    (generation : Option Int) (resume : Bool) :
    After (prepare Site.files limit path ⟨bucket, name, generation⟩ resume) w
      (PrepareKept content bucket name path) := by
  unfold prepare
  cases resume with
  | false => exact after_prepareFresh h generation
  | true =>
      refine After.bind (Site.after_load limit path) ?_
      rintro result w₁ ⟨rfl, hloaded⟩
      rcases result with _ | e | _ | marker
      · exact ⟨h, by rintro _ _ ⟨⟩⟩
      · exact ⟨h, by rintro _ _ ⟨⟩⟩
      · exact after_prepareFresh h generation
      · exact after_prepareResumed h generation hloaded

theorem finish_site (path : String) (part : PartFile OpenFile) :
    (finish Site.files path part : StateM (Site S) _) = do
      match ← part.finalize Site.files path with
      | .error e => return .error (.part e)
      | .ok () => return .ok () :=
  rfl

/-- Moving the part file into place: a failure leaves it as it was, or gone. -/
theorem after_finish (h : w.tree.Kept content bucket name path) {part : PartFile OpenFile} {held : Bytes}
    (hholds : part.Holds path held w.tree) :
    After (finish Site.files path part) w fun result w' =>
      w'.tree.Kept content bucket name path ∧ (result = .ok () →
        w'.tree.octetsAt? path = some held ∧ (w'.tree.resolve (partPath path)).isOk = false ∧
          (w'.tree.resolve (markerPath path)).isOk = false) := by
  rw [finish_site]
  refine After.bind (Site.after_finalize hholds) ?_
  rintro result w₁ ⟨htouches, hfinal⟩
  cases result with
  | error e =>
      -- a marker without a part file promises nothing
      rw [After.pure_iff]
      refine ⟨?_, by rintro ⟨⟩⟩
      rcases hfinal with htree | hgone
      · rw [htree]
        exact h
      · exact .of_part_gone hgone
  | ok _ => exact ⟨.of_part_gone hfinal.2.1, fun _ => hfinal⟩

theorem after_conclude (h : w.tree.Kept content bucket name path) (limit resumedFrom : Nat) {g : Int}
    (hholds : s.part.Holds path (content g) w.tree) (hnamed : ∀ named ∈ s.channel.generation, named = g) :
    After (conclude (siteContext network pause limit) path resumedFrom s) w fun result w' =>
      RunKept content bucket name path result w'.tree := by
  unfold conclude
  refine After.bind (after_finish h hholds) ?_
  rintro result w₁ ⟨hkept, hfinished⟩
  cases result with
  | error e => exact ⟨hkept, by rintro _ ⟨⟩⟩
  | ok _ =>
      obtain ⟨hwhole, hpart, hmarker⟩ := hfinished rfl
      refine After.bind ((Site.readsKeep w₁).checksum rfl limit path) ?_
      rintro result w₂ rfl
      rcases result with _ | e | checksum
      · exact ⟨hkept, by rintro _ ⟨⟩⟩
      · exact ⟨hkept, by rintro _ ⟨⟩⟩
      · refine ⟨hkept, ?_⟩
        rintro _ ⟨⟩
        exact ⟨⟨g, hwhole, hnamed⟩, hpart, hmarker⟩

/-! ## Whole runs -/

theorem after_transfer (hnetwork : network.Answers content)
    (hsize : ∀ g, (content g).length < Word.limit64) (h : w.tree.Kept content bucket name path)
    (limit : Nat) (config : Config) (options : ReadOptions) {object : ObjectRef}
    {part : PartFile OpenFile} {before : Bytes} (hholds : part.Holds path before w.tree)
    (hresumes : ReadRequest.Resumes ⟨object, options, .onward before.length⟩ content bucket name before) :
    After (transfer (siteContext network pause limit) config options path (object, part)) w
      fun result w' => RunKept content bucket name path result w'.tree := by
  unfold transfer
  simp only
  cases config.endpointUrl with
  | error e => exact ⟨h, by rintro _ ⟨⟩⟩
  | ok endpoint =>
      cases config.retrySettings.policy? with
      | none => exact ⟨h, by rintro _ ⟨⟩⟩
      | some policy =>
          simp only [hholds.length_eq]
          have hrest : (⟨object, options, .onward before.length⟩ : ReadRequest).range.stop? = none := rfl
          have hserves := fun t => httpOpener_serves hnetwork hsize endpoint policy pause t hrest
          refine After.bind (after_copy limit hserves hresumes limit (.start h hholds)) ?_
          rintro result w₁ ⟨hkept, hcopied⟩
          rcases result with _ | e | s
          · exact ⟨hkept, by rintro _ ⟨⟩⟩
          · exact ⟨hkept, by rintro _ ⟨⟩⟩
          · obtain ⟨g, hwhole, hnamed⟩ := hcopied s rfl
            exact after_conclude hkept limit before.length hwhole hnamed

/-- A run keeps what is to be kept, and a success leaves a whole version. -/
theorem after_run (hnetwork : network.Answers content)
    (hsize : ∀ g, (content g).length < Word.limit64) (pause : Span → StateM S Unit)
    (h : w.tree.Kept content bucket name path) (limit : Nat) (config : Config) {args : DownloadArgs}
    (hbucket : args.bucket = bucket) (hname : args.object = name) (hpath : args.destination = .ok path) :
    After (run (siteContext network pause limit) config args) w
      fun result w' => RunKept content bucket name path result w'.tree := by
  subst hbucket hname
  unfold run
  simp only [hpath]
  refine After.bind (after_prepare h limit args.generation args.resume) ?_
  rintro result w₁ ⟨hkept, hprepared⟩
  rcases result with _ | e | ⟨object, part⟩
  · exact ⟨hkept, by rintro _ ⟨⟩⟩
  · exact ⟨hkept, by rintro _ ⟨⟩⟩
  · obtain ⟨before, hholds, hresumes⟩ := hprepared object part rfl
    exact after_transfer hnetwork hsize hkept limit config args.options hholds (hresumes args.options)

/-- One run of a program that downloads: its settings and arguments, and how long it may go on. -/
structure Run where
  config : Config
  args : DownloadArgs
  limit : Nat

/-- One run after the other at a site: what each came to, and the site it left. -/
def runEach (network : Network (StateM S)) (pause : Span → StateM S Unit) :
    List Run → Site S → List (Option (Except DownloadError DownloadSummary) × Site S)
  | [], _ => []
  | r :: rest, w =>
    let ran := run (siteContext network pause r.limit) r.config r.args w
    ran :: runEach network pause rest ran.2

theorem runEach_kept (hnetwork : network.Answers content)
    (hsize : ∀ g, (content g).length < Word.limit64) (h : w.tree.Kept content bucket name path)
    (runs : List Run)
    (hruns : ∀ r ∈ runs, r.args.bucket = bucket ∧ r.args.object = name ∧ r.args.destination = .ok path) :
    ∀ ran ∈ runEach network pause runs w, RunKept content bucket name path ran.1 ran.2.tree := by
  -- every run starts from what the one before it kept
  induction runs generalizing w with
  | nil => simp [runEach]
  | cons r rest ih =>
      obtain ⟨hbucket, hname, hpath⟩ := hruns r List.mem_cons_self
      have hran := after_run hnetwork hsize pause h r.limit r.config hbucket hname hpath
      intro ran hmem
      rcases List.mem_cons.1 hmem with rfl | hrest
      · exact hran
      · exact ih hran.1 (fun other hother => hruns other (List.mem_cons_of_mem _ hother)) ran hrest

/-- **Versions are never mixed.** An object is downloaded to a path by one run after the other, each with
    arguments and settings of its own, while the service may hold another version by every request and
    transfers may break off anywhere. After every run, octets in the part file are the first ones of the
    generation that its marker names; and every run that succeeds leaves one whole version at the path,
    and neither part file nor marker. -/
theorem runEach_never_mixes (hnetwork : network.Answers content)
    (hsize : ∀ g, (content g).length < Word.limit64) (pause : Span → StateM S Unit)
    (bucket name path : String) (runs : List Run)
    (hruns : ∀ r ∈ runs, r.args.bucket = bucket ∧ r.args.object = name ∧ r.args.destination = .ok path)
    (w : Site S) (hfresh : ∀ entryName number, w.tree.entry? entryName ≠ some (.file number)) :
    ∀ ran ∈ runEach network pause runs w,
      (∀ held, ran.2.tree.octetsAt? (partPath path) = some held → held ≠ [] →
        ∃ g, ran.2.tree.Marks path ⟨⟨bucket, name, some g⟩⟩ ∧ held <+: content g) ∧
      (∀ summary, ran.1 = some (.ok summary) →
        (∃ g, ran.2.tree.octetsAt? path = some (content g) ∧ ∀ named ∈ summary.generation, named = g) ∧
          (ran.2.tree.resolve (partPath path)).isOk = false ∧
            (ran.2.tree.resolve (markerPath path)).isOk = false) := by
  intro ran hran
  obtain ⟨hkept, hdone⟩ := runEach_kept hnetwork hsize (.of_no_files hfresh) runs hruns ran hran
  refine ⟨fun held hheld hne => ?_, fun summary hsummary => ?_⟩
  · rcases hkept.marked held hheld with hnil | hmarked
    · exact absurd hnil hne
    · exact hmarked
  · obtain ⟨hwhole, hpart, hmarker⟩ := hdone summary hsummary
    exact ⟨hwhole, hpart, hmarker⟩

end Download

/-- A network on which every connection breaks after an octet of the body, for so many requests, from a
    service that holds three octets as generation seven; then the service holds two octets as generation
    eight, and connections last. -/
def Network.replaced : Network (StateM Nat) where
  exchange request := fun left =>
    match left with
    | 0 => (((due 8 [88, 89] request).answer 8).reception 3 none, 0)
    | left + 1 => (((due 7 [65, 66, 67] request).answer 7).reception 1 (some .partialBody), left)

/-- The versions that `Network.replaced` holds. -/
def Network.replacedContent (g : Int) : Bytes :=
  if g = 7 then [65, 66, 67] else if g = 8 then [88, 89] else []

theorem Network.replaced_answers : replaced.Answers Network.replacedContent := by
  have hseven : ((7 : Int), ([65, 66, 67] : Bytes)) ∈ twoVersions := by decide
  have height : ((8 : Int), ([88, 89] : Bytes)) ∈ twoVersions := by decide
  intro request left
  cases left with
  | zero =>
      have hexchange : replaced.exchange request 0
          = (((due 8 [88, 89] request).answer 8).reception 3 none, 0) := rfl
      refine (fetch_reception height (by decide) hexchange).imp ?_
      intro t _ ⟨hreports, _⟩
      exact ⟨8, by decide, _, (fits_answer height request).1, hreports⟩
  | succ left =>
      have hexchange : replaced.exchange request (left + 1)
          = (((due 7 [65, 66, 67] request).answer 7).reception 1 (some .partialBody), left) := rfl
      refine (fetch_reception hseven (by decide) hexchange).imp ?_
      intro t _ ⟨hreports, _⟩
      exact ⟨7, by decide, _, (fits_answer hseven request).1, hreports⟩

/-- A download to a file, from the start or going on with what is there. -/
def Download.sampleRun (resume : Bool) : Download.Run where
  config := .default
  args := { bucket := "b", object := "o", output := some "f", resume := resume }
  limit := 3

/-- The object is replaced while it is read: the octet that was read stays behind with its marker, going
    on with it fails, and starting over succeeds. -/
theorem Download.runEach_of_replaced :
    let rans := runEach Network.replaced (fun _ => pure ())
      [sampleRun true, sampleRun true, sampleRun false] ⟨.empty, 1⟩
    (rans.map fun ran => (ran.1.map Except.isOk, ran.2.tree.octetsAt? "f.part", ran.2.tree.octetsAt? "f"))
        = [(some false, some [65], none), (some false, some [65], none), (some true, none, some [88, 89])] ∧
      ∀ ran ∈ rans,
        (∀ held, ran.2.tree.octetsAt? (partPath "f") = some held → held ≠ [] →
          ∃ g, ran.2.tree.Marks "f" ⟨⟨"b", "o", some g⟩⟩ ∧ held <+: Network.replacedContent g) ∧
        (∀ summary, ran.1 = some (.ok summary) →
          (∃ g, ran.2.tree.octetsAt? "f" = some (Network.replacedContent g) ∧
            ∀ named ∈ summary.generation, named = g) ∧
            (ran.2.tree.resolve (partPath "f")).isOk = false ∧
              (ran.2.tree.resolve (markerPath "f")).isOk = false) := by
  refine ⟨by decide +kernel, ?_⟩
  refine runEach_never_mixes Network.replaced_answers ?_ (fun _ => pure ()) "b" "o" "f" _ ?_ _ ?_
  · intro g
    unfold Network.replacedContent
    split
    · decide
    · split <;> decide
  · decide
  · intro entryName number
    unfold FileTree.entry?
    by_cases hroot : entryName = []
    · simp [hroot]
    · simp [hroot, FileTree.empty, FileTree.number?]

end SteadyFetch
