import SteadyFetch.Proofs.Downloads
import SteadyFetch.Proofs.Endings
import SteadyFetch.Proofs.Responses

set_option autoImplicit false

/-! # What a download is made of

A run that succeeds has put together what its part file held before and what it read since: the beginning
of the body of each final response, in order. All of them that name a generation name the one that the run
reports, which is the one that was named first. Whether that is the generation the run is to stay on is not
looked at: it is asked for, and that is all. -/

namespace SteadyFetch

variable {S : Type}

/-- Whether a marker stands beside a part file that does not admit an object: it is one of something else,
    or it does not read as a marker. -/
def FileTree.Refuses (t : FileTree) (path : String) (object : ObjectRef) : Prop :=
  (t.octetsAt? (markerPath path)).isSome ∧ ∀ marker, t.Marks path marker → marker.admits object = false

/-! ## Copying -/

namespace Download

variable {network : Network (StateM S)} {disk : StateM S DiskAnswer} {pause : Span → StateM S Unit} {path : String}
  {held got : Bytes} {s : State OpenFile}

theorem after_saveResolved_touches {w : Site S} (resolved : Option ObjectRef) :
    After (saveResolved (Site.filesOn disk) path resolved) w fun _ w' =>
      w.tree.Touches [markerPath path] w'.tree := by
  unfold saveResolved
  cases resolved with
  | none => exact .refl
  | some object =>
      refine After.bind (Site.after_save_octets ⟨object⟩ path) ?_
      intro result w₁ hsaved
      cases result with
      | error e => exact hsaved.1
      | ok _ => exact hsaved.1

/-- Taking up what a read gave touches the marker and the part file, which holds it after a success. -/
theorem after_takeUp_holds {w : Site S} (hholds : s.part.Holds path held w.tree) (outcome : Outcome) :
    After (takeUp (Site.filesOn disk) path s outcome) w fun result w' =>
      w.tree.Touches [partPath path, markerPath path] w'.tree ∧
        ∀ next, result = .ok next → (next.getD s).channel = s.channel ∧
          (next.getD s).part.Holds path (held ++ outcome.progress.bytes) w'.tree := by
  obtain ⟨progress, resolved⟩ := outcome
  unfold takeUp
  refine After.bind (after_saveResolved_touches resolved) ?_
  intro result w₁ htouches
  have hholds := hholds.of_touches_marker htouches
  have hsaved : w.tree.Touches [partPath path, markerPath path] w₁.tree := htouches.mono (by simp)
  cases result with
  | error e => exact ⟨hsaved, by rintro _ ⟨⟩⟩
  | ok _ =>
      cases progress with
      | endOfStream =>
          refine ⟨hsaved, ?_⟩
          rintro _ ⟨⟩
          refine ⟨rfl, ?_⟩
          rw [show held ++ Progress.endOfStream.bytes = held from List.append_nil held]
          exact hholds
      | octets bs =>
          refine After.bind (Site.after_write hholds bs) ?_
          intro ⟨result, part⟩ w₂ ⟨htouches₂, stored, _, hholds₂, hall, _⟩
          have hboth := hsaved.trans (htouches₂.mono (by simp) : w₁.tree.Touches _ w₂.tree)
          cases result with
          | error fault => exact ⟨hboth, by rintro _ ⟨⟩⟩
          | ok _ =>
              refine ⟨hboth, ?_⟩
              rintro _ ⟨⟩
              exact ⟨rfl, hall rfl ▸ hholds₂⟩

theorem spares_takeUp (outcome : Outcome) : Site.Spares (takeUp (Site.files (S := S)) path s outcome) := by
  obtain ⟨progress, resolved⟩ := outcome
  have hsaves : Site.Spares (saveResolved (Site.files (S := S)) path resolved) := by
    cases resolved with
    | none => exact .pure _
    | some object =>
        refine .bind (.save path ⟨object⟩) fun result => ?_
        cases result <;> exact .pure _
  refine .bind hsaves fun result => ?_
  cases result with
  | error e => exact .pure _
  | ok _ =>
      cases progress with
      | endOfStream => exact .pure _
      | octets bs =>
          refine .bind (.write s.part bs) fun ⟨result, part⟩ => ?_
          cases result <;> exact .pure _

variable {w : Site (Transcript × S)}

/-- A download under way whose network is recorded: its part file holds what was held before and the
    pieces of responses that the channel has delivered. -/
structure Composed (path : String) (held got : Bytes) (s : State OpenFile)
    (w : Site (Transcript × S)) : Prop where
  holds : s.part.Holds path (held ++ got) w.tree
  pieces : s.channel.PiecesOf got w.rest.1
  unbroken : s.channel.broken = none

/-- Taking up what a read gave appends it to the part file. -/
theorem after_takeUp_composed (hholds : s.part.Holds path (held ++ got) w.tree)
    {outcome : Outcome} (hpieces : s.channel.PiecesOf (got ++ outcome.progress.bytes) w.rest.1)
    (hunbroken : s.channel.broken = none) :
    After (takeUp Site.files path s outcome) w fun result w' =>
      ∀ next, result = .ok next →
        Composed path held (got ++ outcome.progress.bytes) (next.getD s) w' := by
  refine ((after_takeUp_holds hholds outcome).and (spares_takeUp outcome w)).imp ?_
  intro result w' ⟨⟨_, htaken⟩, hrest⟩ next hnext
  obtain ⟨hchannel, hholds'⟩ := htaken next hnext
  rw [List.append_assoc] at hholds'
  rw [← hrest, ← hchannel] at hpieces
  rw [← hchannel] at hunbroken
  exact ⟨hholds', hpieces, hunbroken⟩

/-- What was copied when copying ends well is composed of pieces of responses. -/
theorem after_copy_composed (endpoint : Url) (policy : RetryPolicy) (limit reads : Nat)
    (h : Composed path held got s w) :
    After (copy (siteContext network.recorded (fun delay => offRecord (pause delay)) limit)
      (httpOpener (Site.network network.recorded) endpoint)
      (policy.adviser fun delay => Site.onRest (offRecord (pause delay))) path reads s) w
      fun result w' => ∀ s', result = some (.ok s') → ∃ got', Composed path held got' s' w' := by
  induction reads generalizing s got w with
  | zero =>
      rintro _ ⟨⟩
  | succ reads ih =>
      unfold copy
      refine After.bind ((Channel.traces_piecesOf network endpoint pause).after_read policy limit h.pieces
        [bufferSize]) ?_
      rintro read w₁ hread
      rcases read with _ | ⟨_ | outcome, c⟩
      · rintro _ ⟨⟩
      · rintro _ ⟨⟩
      · obtain ⟨htree, hunbroken, hpieces⟩ := hread outcome c rfl
        refine After.bind (after_takeUp_composed (s := { s with channel := c }) (htree ▸ h.holds) hpieces
          hunbroken) ?_
        intro result w₂ htaken
        rcases result with e | _ | s'
        · rintro _ ⟨⟩
        · rintro _ ⟨⟩
          exact ⟨_, htaken none rfl⟩
        · exact ih (htaken (some s') rfl)

/-! ## Whole runs -/

/-- What opening a part file does to the files: it touches nothing else, and if it fails, nothing at all, unless there
    is a new part file that could not be measured. -/
def OpensPart (disk : StateM S DiskAnswer) (path : String) (held : Bytes → Prop)
    (result : Except DownloadError (Prepared OpenFile)) (t t' : FileTree) : Prop :=
  match result with
  | .error e => t' = t ∨
      (∃ fault, e = .part (.measure (partPath path) fault)) ∧ ¬Site.Grants disk ∧ t.LeavesEmpty path t'
  | .ok prepared => t.Touches [partPath path] t' ∧ ∃ bs, prepared.2.Holds path bs t' ∧ held bs

theorem OpensPart.imp {held held' : Bytes → Prop} {result : Except DownloadError (Prepared OpenFile)}
    {t t' : FileTree} (h : OpensPart disk path held result t t') (himp : ∀ bs, held bs → held' bs) :
    OpensPart disk path held' result t t' := by
  cases result with
  | error e => exact h
  | ok prepared =>
      obtain ⟨htouches, bs, hholds, hheld⟩ := h
      exact ⟨htouches, bs, hholds, himp bs hheld⟩

section Prepare

variable {w : Site S}

theorem after_prepareFresh_opens (object : ObjectRef) :
    After (prepareFresh (Site.filesOn disk) path object) w fun result w' =>
      OpensPart disk path (· = []) result w.tree w'.tree := by
  unfold prepareFresh
  refine After.bind (Site.after_create path) ?_
  intro result w₁ hcreated
  cases result with
  | error e => exact Or.inl hcreated
  | ok part => exact ⟨hcreated.1, [], hcreated.2, rfl⟩

theorem after_prepareResumed_opens (object : ObjectRef) (marker : ResumeMarker) :
    After (prepareResumed (Site.filesOn disk) path object marker) w fun result w' =>
      OpensPart disk path (fun bs => bs = (w.tree.octetsAt? (partPath path)).getD []) result w.tree w'.tree ∧
        (marker.admits object = false →
          result = .error (.otherObject path marker.object object) ∧ w'.tree = w.tree) := by
  unfold prepareResumed
  by_cases hadmits : marker.admits object = true
  · simp only [hadmits, if_true]
    refine After.bind (Site.after_resume path) ?_
    intro result w₁ hopened
    cases result with
    | error e =>
        refine ⟨hopened.imp_right fun ⟨⟨fault, hfault⟩, hleft⟩ => ⟨⟨fault, ?_⟩, hleft⟩, nofun⟩
        rw [hfault]
    | ok part => exact ⟨⟨hopened.1, _, hopened.2, rfl⟩, nofun⟩
  · simp only [hadmits]
    exact ⟨Or.inl rfl, fun _ => ⟨rfl, rfl⟩⟩

/-- A part file that is opened holds nothing, or what was there if that is gone on with; nothing is opened, or
    touched, if a marker is there that does not admit the object. -/
theorem after_prepare_part (disk : StateM S DiskAnswer) (limit : Nat) (path : String) (object : ObjectRef)
    (resume : Bool) :
    After (prepare (Site.filesOn disk) limit path object resume) w fun result w' =>
      (match result with
        | none => w'.tree = w.tree
        | some opened => OpensPart disk path
            (fun bs => bs = [] ∨ resume = true ∧ w.tree.octetsAt? (partPath path) = some bs) opened w.tree w'.tree) ∧
      (resume = true → w.tree.Refuses path object →
        w'.tree = w.tree ∧ ∀ prepared, result ≠ some (.ok prepared)) := by
  unfold prepare
  cases resume with
  | false =>
      refine After.bind (after_prepareFresh_opens object) ?_
      intro result w₁ hopens
      exact ⟨hopens.imp fun _ => Or.inl, nofun⟩
  | true =>
      have hload := ((Site.readsKeep_tree disk w.tree).load (rfl : w.tree = _) limit path).and
        (Site.after_load_found limit path)
      refine After.bind hload ?_
      intro result w₁ ⟨htree, hloaded⟩
      rcases result with _ | e | _ | marker
      · exact ⟨htree, fun _ _ => ⟨htree, nofun⟩⟩
      · exact ⟨Or.inl htree, fun _ _ => ⟨htree, nofun⟩⟩
      · rw [← htree] at hloaded ⊢
        refine After.bind (after_prepareFresh_opens object) ?_
        intro result w₂ hopens
        refine ⟨hopens.imp fun _ => Or.inl, fun _ hrefuses => ?_⟩
        rw [FileTree.Refuses, hloaded] at hrefuses
        cases hrefuses.1
      · rw [← htree] at hloaded ⊢
        refine After.bind (after_prepareResumed_opens object marker) ?_
        intro result w₂ ⟨hopens, hrefused⟩
        refine ⟨hopens.imp fun bs hbs => ?_, fun _ hrefuses => ?_⟩
        · cases hoctets : w₁.tree.octetsAt? (partPath path) with
          | none =>
              rw [hoctets] at hbs
              exact Or.inl hbs
          | some there =>
              rw [hoctets] at hbs
              exact Or.inr ⟨rfl, congrArg some hbs.symm⟩
        · obtain ⟨hresult, hsame⟩ := hrefused (hrefuses.2 marker hloaded)
          refine ⟨hsame, fun prepared => ?_⟩
          rw [hresult]
          nofun

/-- On a disk that grants everything opening a part file leaves the rest alone. -/
theorem spares_prepare (limit : Nat) (object : ObjectRef) (resume : Bool) :
    Site.Spares (prepare (Site.files (S := S)) limit path object resume) := by
  have hfresh : Site.Spares (prepareFresh (Site.files (S := S)) path object) := by
    refine .bind (.create path) fun result => ?_
    cases result <;> exact .pure _
  cases resume with
  | false => exact .bind hfresh fun _ => .pure _
  | true =>
      have hload : Site.Spares (ResumeMarker.load (Site.files (S := S)) limit path) :=
        fun w => ((Site.readsKeep w).load rfl limit path).imp fun _ _ hsame => congrArg Site.rest hsame
      refine .bind hload fun result => ?_
      rcases result with _ | e | _ | marker
      · exact .pure _
      · exact .pure _
      · exact .bind hfresh fun _ => .pure _
      · refine .bind ?_ fun _ => .pure _
        unfold prepareResumed
        by_cases hadmits : marker.admits object = true
        · simp only [hadmits, if_true]
          refine .bind (.resume path) fun result => ?_
          cases result <;> exact .pure _
        · simp only [hadmits]
          exact .pure _

end Prepare

theorem after_finish_holds {part : PartFile OpenFile}
    (hholds : part.Holds path held w.tree) :
    After (finish Site.files path part) w fun result w' => w'.rest = w.rest ∧
      (result = .ok () → w'.tree.octetsAt? path = some held) := by
  rw [finish_site]
  refine After.bind ((Site.after_finalize hholds).and (Site.Spares.finalize path part w)) ?_
  rintro result w₁ ⟨⟨-, hfinal⟩, hrest⟩
  cases result with
  | error e => exact ⟨hrest, by rintro ⟨⟩⟩
  | ok _ => exact ⟨hrest, fun _ => hfinal.1⟩

/-- A download that is over: its destination is composed of what was held and of pieces of the final
    responses, and the generation it reports is the one that they name. -/
structure Completes (path : String) (held : Bytes) (summary : DownloadSummary)
    (w : Site (Transcript × S)) (transfers : List Transfer) : Prop where
  transcript_eq : w.rest.1 = .idle transfers
  resumed_eq : summary.resumedFrom = held.length
  composed : ∃ pieces, w.tree.octetsAt? path = some (held ++ pieces.flatten) ∧
    List.Forall₂ (fun piece (t : Transfer) => piece <+: t.body) pieces
      (transfers.filter Transfer.isFinal).reverse
  generation_eq : summary.generation
    = (transfers.filter Transfer.isFinal).reverse.findSome? Transfer.generation?
  agrees : ∀ t ∈ transfers, t.isFinal = true → ∀ g ∈ t.generation?, summary.generation = some g

theorem after_conclude_composed (limit : Nat) (h : Composed path held got s w) :
    After (conclude (siteContext network.recorded (fun delay => offRecord (pause delay)) limit) path
      held.length s) w fun result w' => ∀ summary, result = some (.ok summary) →
        ∃ transfers, Completes path held summary w' transfers := by
  unfold conclude
  refine After.bind (after_finish_holds h.holds) ?_
  rintro result w₁ ⟨hrest, hfinished⟩
  cases result with
  | error e => rintro _ ⟨⟩
  | ok _ =>
      refine After.bind ((Site.readsKeep w₁).checksum rfl limit path) ?_
      rintro result w₂ rfl
      rcases result with _ | e | checksum
      · rintro _ ⟨⟩
      · rintro _ ⟨⟩
      · rintro _ ⟨⟩
        obtain ⟨transfers, htranscript, hpieced⟩ := h.pieces
        obtain ⟨pieces, hgot, hpieces, -⟩ := hpieced.pieces
        exact ⟨transfers, (congrArg Prod.fst hrest).trans htranscript, rfl,
          ⟨pieces.reverse, (hfinished rfl).trans (by rw [hgot]), List.rel_reverse hpieces⟩,
          hpieced.generation_eq, fun t ht hfinal => hpieced.agrees t (List.mem_filter.2 ⟨ht, hfinal⟩)⟩

theorem after_transfer_composed (limit : Nat) (config : Config) (options : ReadOptions)
    {prepared : Prepared OpenFile} (hholds : prepared.2.Holds path held w.tree)
    (hidle : w.rest.1 = .idle []) :
    After (transfer (siteContext network.recorded (fun delay => offRecord (pause delay)) limit) config
      options path prepared) w fun result w' => ∀ summary, result = some (.ok summary) →
        ∃ transfers, Completes path held summary w' transfers := by
  obtain ⟨object, part⟩ := prepared
  have hlength : part.length = held.length := hholds.length_eq
  unfold transfer
  simp only
  cases config.endpointUrl with
  | error e => rintro _ ⟨⟩
  | ok endpoint =>
      cases config.retrySettings.policy? with
      | none => rintro _ ⟨⟩
      | some policy =>
          simp only [hlength]
          have hstart : Composed path held []
              ⟨.start ⟨object, options, .onward held.length⟩, part⟩ w :=
            ⟨by rwa [List.append_nil], ⟨[], hidle, .start _⟩, rfl⟩
          refine After.bind (after_copy_composed endpoint policy limit limit hstart) ?_
          intro result w₁ hcopied
          rcases result with _ | e | s
          · rintro _ ⟨⟩
          · rintro _ ⟨⟩
          · obtain ⟨got, hcomposed⟩ := hcopied s rfl
            exact after_conclude_composed limit hcomposed

/-- **A download is made of responses of one generation, the one that is named first.** A run that
    succeeds has written the beginning of the body of each final response, in order, behind what was held
    before; all of them that name a generation name the one it reports. So no response of another
    generation than `g` was written exactly if the first one to name any named `g`, whichever generation
    the run is to stay on. -/
theorem run_composes (network : Network (StateM S)) (pause : Span → StateM S Unit) (limit : Nat)
    (config : Config) (args : DownloadArgs) (path : String) (hpath : args.destination = .ok path)
    (tree : FileTree) (s : S) :
    After (run (siteContext network.recorded (fun delay => offRecord (pause delay)) limit) config args)
      (⟨tree, (.idle [], s)⟩ : Site (Transcript × S)) fun result w' =>
        ∀ summary, result = some (.ok summary) → ∃ held pieces responses,
          responses = (w'.rest.1.transfers.filter Transfer.isFinal).reverse ∧
            w'.tree.octetsAt? path = some (held ++ pieces.flatten) ∧
            (held = [] ∨ args.resume = true ∧ tree.octetsAt? (partPath path) = some held) ∧
            List.Forall₂ (fun piece (t : Transfer) => piece <+: t.body) pieces responses ∧
            summary.generation = responses.findSome? Transfer.generation? ∧
            (∀ t ∈ responses, ∀ named ∈ t.generation?, summary.generation = some named) ∧
            ∀ g, (∀ t ∈ responses, ∀ named ∈ t.generation?, named = g) ↔
              ∀ named ∈ responses.findSome? Transfer.generation?, named = g := by
  unfold run
  simp only [hpath]
  refine After.bind ((after_prepare_part (pure .granted) limit path args.objectRef args.resume).and
    (spares_prepare limit args.objectRef args.resume _)) ?_
  intro result w₁ ⟨⟨hopens, _⟩, hrest⟩
  rcases result with _ | e | prepared
  · rintro _ ⟨⟩
  · rintro _ ⟨⟩
  · obtain ⟨-, held, hholds, hheld⟩ := hopens
    refine (after_transfer_composed limit config args.options hholds (by rw [hrest])).imp ?_
    intro result w₂ hdone summary hsummary
    obtain ⟨transfers, hcomplete⟩ := hdone summary hsummary
    obtain ⟨pieces, hoctets, hpieces⟩ := hcomplete.composed
    have htransfers : w₂.rest.1.transfers = transfers := by
      rw [hcomplete.transcript_eq]
      rfl
    have hagrees : ∀ t ∈ (transfers.filter Transfer.isFinal).reverse, ∀ named ∈ t.generation?,
        summary.generation = some named := by
      intro t ht
      obtain ⟨hmem, hfinal⟩ := List.mem_filter.1 (List.mem_reverse.1 ht)
      exact hcomplete.agrees t hmem hfinal
    refine ⟨held, pieces, _, by rw [htransfers], hoctets, hheld, hpieces, hcomplete.generation_eq,
      hagrees, fun g => ?_⟩
    rw [← hcomplete.generation_eq]
    constructor
    · intro hall named hnamed
      rw [hcomplete.generation_eq] at hnamed
      obtain ⟨t, ht, hfirst⟩ := List.exists_of_findSome?_eq_some hnamed
      exact hall t ht named hfirst
    · intro hfirst t ht named hnamed
      exact hfirst named (hagrees t ht named hnamed)

end Download

/-- Leaves two octets in a part file, and a marker that names generation five. -/
def Site.leavePart : StateM (Site Unit) Unit := do
  let _ ← files.replace (partPath "f") (Utf8.encode "AB")
  let _ ← ResumeMarker.save files ⟨⟨"b", "o", some 5⟩⟩ "f"

/-- The files of a download of generation five that has come as far as two octets. -/
def FileTree.partway : FileTree := (Site.leavePart ⟨.empty, ()⟩).2.tree

/-- A service that goes on with generation five; its first transfer breaks off after an octet. -/
def Network.sameGeneration : List String :=
  ["HTTP/1.1 206 Partial Content\r\nx-goog-generation: 5\r\nContent-Range: bytes 2-3/4\r\n" ++
      "Content-Length: 2\r\n\r\nC",
    "HTTP/1.1 206 Partial Content\r\nContent-Range: bytes 3-3/4\r\n\r\nD"]

/-- A download that is gone on with is composed of what was held and of two responses. -/
theorem Download.run_composes_partway :
    let ran := run (siteContext Network.scripted.recorded (fun _ => offRecord (pure ())) 3)
      (sampleRun true).config (sampleRun true).args
      (⟨FileTree.partway, .idle [], Network.sameGeneration⟩ : Site (Transcript × List String))
    (ran.1.map Except.isOk = some true ∧ ran.2.tree.octetsAt? "f" = some (Utf8.encode "ABCD") ∧
      ran.2.rest.1.transfers.map (fun t => (t.isFinal, t.generation?, t.body))
        = [(true, none, Utf8.encode "D"), (true, some 5, Utf8.encode "C")]) ∧
      ∀ summary, ran.1 = some (.ok summary) → ∃ held pieces responses,
        responses = (ran.2.rest.1.transfers.filter Transfer.isFinal).reverse ∧
          ran.2.tree.octetsAt? "f" = some (held ++ pieces.flatten) ∧
          (held = [] ∨ true = true ∧ FileTree.partway.octetsAt? (partPath "f") = some held) ∧
          List.Forall₂ (fun piece (t : Transfer) => piece <+: t.body) pieces responses ∧
          summary.generation = responses.findSome? Transfer.generation? ∧
          (∀ t ∈ responses, ∀ named ∈ t.generation?, summary.generation = some named) ∧
          ∀ g, (∀ t ∈ responses, ∀ named ∈ t.generation?, named = g) ↔
            ∀ named ∈ responses.findSome? Transfer.generation?, named = g := by
  refine ⟨by decide +kernel, ?_⟩
  exact run_composes Network.scripted (fun _ => pure ()) 3 (sampleRun true).config (sampleRun true).args
    "f" rfl FileTree.partway Network.sameGeneration

/-- A service that answers with two more octets, of another generation, whichever it is asked for. -/
def Network.otherGeneration : List String :=
  ["HTTP/1.1 206 Partial Content\r\nx-goog-generation: 6\r\nContent-Range: bytes 2-3/4\r\n\r\nCD"]

/-- A download that is gone on with at generation five succeeds with octets of generation six. -/
theorem Download.run_splices :
    let ran := run (siteContext Network.scripted.recorded (fun _ => pure ()) 3) (sampleRun true).config
      (sampleRun true).args ⟨FileTree.partway, .idle [], Network.otherGeneration⟩
    (ResumeMarker.load (Site.files (S := Unit)) 3 "f" ⟨FileTree.partway, ()⟩).1.map
          (fun loaded => loaded.toOption)
        = some (some (some ⟨⟨"b", "o", some 5⟩⟩)) ∧
      FileTree.partway.octetsAt? (partPath "f") = some (Utf8.encode "AB") ∧
      (ran.1.map fun result => (result.toOption.map DownloadSummary.generation)) = some (some (some 6)) ∧
      ran.2.tree.octetsAt? "f" = some (Utf8.encode "ABCD") ∧
      ran.2.rest.1.transfers.map (fun t => (t.isFinal, t.generation?, t.body))
        = [(true, some 6, Utf8.encode "CD")] := by
  decide +kernel

end SteadyFetch
