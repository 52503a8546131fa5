import SteadyFetch.Proofs.Disks
import SteadyFetch.Proofs.Json
import SteadyFetch.Storage.PartFile

set_option autoImplicit false

/-! # Procedures on files

What the procedures of the program do to the files of a site is said by the paths they touch and by what is found
there afterwards, whether or not they succeed and whatever the disk makes of them: markers (`Marks`) and part files
that are open (`PartFile.Holds`). -/

namespace SteadyFetch

/-! ## Markers -/

/-- Whether the marker of a path is there and reads as the given one. -/
def FileTree.Marks (t : FileTree) (path : String) (marker : ResumeMarker) : Prop :=
  ∃ raw text, t.octetsAt? (markerPath path) = some raw ∧ Utf8.decode? raw = some text ∧
    ResumeMarker.parse? text = some marker

theorem FileTree.Marks.of_octets {t : FileTree} {path : String} {object : ObjectRef}
    (h : t.octetsAt? (markerPath path) = some (Utf8.encode (ResumeMarker.json ⟨object⟩)))
    (hrange : ∀ g ∈ object.generation, -(Word.limit63 : Int) ≤ g ∧ g < Word.limit63) :
    t.Marks path ⟨object⟩ :=
  ⟨_, _, h, Utf8.decode?_encode _, ResumeMarker.parse?_json object hrange⟩

theorem FileTree.Marks.unique {t : FileTree} {path : String} {marker other : ResumeMarker}
    (h : t.Marks path marker) (h' : t.Marks path other) : marker = other := by
  obtain ⟨raw, text, hraw, htext, hmarker⟩ := h
  obtain ⟨raw', text', hraw', htext', hother⟩ := h'
  obtain rfl := Option.some.inj (hraw.symm.trans hraw')
  obtain rfl := Option.some.inj (htext.symm.trans htext')
  exact Option.some.inj (hmarker.symm.trans hother)

namespace Site

variable {S : Type} {w : Site S} {disk : StateM S DiskAnswer}

/-- A marker that is saved is written at its path. One is saved wherever a file can stand, if the disk grants it. -/
theorem after_save_octets (marker : ResumeMarker) (path : String) :
    After (marker.save (filesOn disk) path) w fun result w' => w.tree.Touches [markerPath path] w'.tree ∧
      match result with
      | .error _ => Grants disk → w'.tree = w.tree ∧ ¬w.tree.TakesFile (markerPath path)
      | .ok () => w'.tree.octetsAt? (markerPath path) = some (Utf8.encode marker.json) := by
  unfold ResumeMarker.save
  refine After.bind (after_replace _ _) ?_
  intro result w₁ hresult
  cases result with
  | error fault => exact hresult
  | ok _ => exact hresult

/-- A marker that is saved is found. -/
theorem after_save (object : ObjectRef) (path : String)
    (hrange : ∀ g ∈ object.generation, -(Word.limit63 : Int) ≤ g ∧ g < Word.limit63) :
    After (ResumeMarker.save files ⟨object⟩ path) w fun result w' =>
      match result with
      | .error _ => w'.tree = w.tree
      | .ok () => w.tree.Touches [markerPath path] w'.tree ∧ w'.tree.Marks path ⟨object⟩ := by
  refine (after_save_octets ⟨object⟩ path).imp ?_
  intro result w' ⟨htouches, hresult⟩
  cases result with
  | error e => exact (hresult grants_granted).1
  | ok _ => exact ⟨htouches, .of_octets hresult hrange⟩

/-- A marker that is loaded is there, and where none is found there is no file; what does not read as a marker
    is none. -/
theorem after_load_found (reads : Nat) (path : String) :
    After (ResumeMarker.load (filesOn disk) reads path) w fun result _ =>
      match result with
      | none => ∀ raw ∈ w.tree.octetsAt? (markerPath path), reads ≤ raw.length
      | some (.error _) => Grants disk → ∀ marker, ¬w.tree.Marks path marker
      | some (.ok none) => w.tree.octetsAt? (markerPath path) = none
      | some (.ok (some marker)) => w.tree.Marks path marker := by
  unfold ResumeMarker.load
  refine After.bind (after_readText reads _) ?_
  intro result w₁ hresult
  rcases result with _ | fault | text
  · exact hresult
  · by_cases hkind : fault.kind = .notFound
    · simp only [hkind, if_true]
      exact hresult.resolve_right fun hother => hother.1 hkind
    · simp only [hkind, if_false]
      intro hgrants marker ⟨raw, text, hraw, htext, _⟩
      rcases hresult with hnone | ⟨-, hnotext⟩
      · cases hnone.symm.trans hraw
      · cases (hnotext hgrants raw hraw).symm.trans htext
  · obtain ⟨raw, hraw, htext⟩ := hresult
    cases hparse : ResumeMarker.parse? text with
    | none =>
        simp only [hparse]
        intro _ marker ⟨raw', text', hraw', htext', hmarker⟩
        obtain rfl := Option.some.inj (hraw.symm.trans hraw')
        obtain rfl := Option.some.inj (htext.symm.trans htext')
        cases hparse.symm.trans hmarker
    | some marker =>
        simp only [hparse]
        exact ⟨raw, text, hraw, htext, hparse⟩

/-- On a disk that grants everything loading changes nothing, and only what does not read as a marker makes it
    fail. -/
theorem after_load (reads : Nat) (path : String) :
    After (ResumeMarker.load files reads path) w fun result w' => w' = w ∧
      match result with
      | none => ∀ raw ∈ w.tree.octetsAt? (markerPath path), reads ≤ raw.length
      | some (.error _) => ∀ marker, ¬w.tree.Marks path marker
      | some (.ok none) => w.tree.octetsAt? (markerPath path) = none
      | some (.ok (some marker)) => w.tree.Marks path marker := by
  refine (((readsKeep w).load rfl reads path).and (after_load_found reads path)).imp ?_
  intro result w' ⟨hsame, hresult⟩
  refine ⟨hsame, ?_⟩
  rcases result with _ | e | _ | marker
  · exact hresult
  · exact hresult grants_granted
  · exact hresult
  · exact hresult

theorem load_of_marks {path : String} {marker : ResumeMarker} (h : w.tree.Marks path marker) {reads : Nat}
    (hreads : ∀ raw ∈ w.tree.octetsAt? (markerPath path), raw.length < reads) :
    After (ResumeMarker.load files reads path) w fun result w' =>
      w' = w ∧ result = some (.ok (some marker)) := by
  refine (after_load reads path).imp ?_
  rintro result w' ⟨rfl, hresult⟩
  refine ⟨rfl, ?_⟩
  obtain ⟨raw, -, hraw, -⟩ := id h
  rcases result with _ | e | _ | found
  · exact absurd (hresult raw hraw) (Nat.not_le.2 (hreads raw hraw))
  · exact absurd h (hresult marker)
  · cases hraw.symm.trans hresult
  · rw [FileTree.Marks.unique h hresult]

end Site

/-! ## A destination, its part file and its marker -/

namespace FileTree

variable {t t' : FileTree} {path : String}

/-- No two of a destination, its part file and its marker are the same file. -/
theorem spot?_siblings (t : FileTree) (path : String) {name : List String} :
    (t.spot? (partPath path) = some name → t.spot? path ≠ some name) ∧
      (t.spot? (markerPath path) = some name → t.spot? path ≠ some name) ∧
        (t.spot? (markerPath path) = some name → t.spot? (partPath path) ≠ some name) := by
  have hpart : ∀ c ∈ ".part".toList, c ≠ '/' := by simp
  have hmarker : ∀ c ∈ ".part.json".toList, c ≠ '/' := by simp
  have hself : path ++ "" = path := String.append_empty
  refine ⟨fun h => ?_, fun h => ?_, fun h => ?_⟩
  · have hne := spot?_append_ne (v := "") hpart (by simp) (by decide) h
    rwa [hself] at hne
  · have hne := spot?_append_ne (v := "") hmarker (by simp) (by decide) h
    rwa [hself] at hne
  · exact spot?_append_ne hmarker hpart (by decide) h

theorem Touches.fileAt?_marker (h : Touches [partPath path] t t') :
    t'.fileAt? (markerPath path) = t.fileAt? (markerPath path) ∧
      t'.octetsAt? (markerPath path) = t.octetsAt? (markerPath path) :=
  h.fileAt?_eq fun _ hmem name hpart hmarker => by
    rw [List.mem_singleton.1 hmem] at hpart
    exact (spot?_siblings t path).2.2 hmarker hpart

theorem Touches.fileAt?_part (h : Touches [markerPath path] t t') :
    t'.fileAt? (partPath path) = t.fileAt? (partPath path) ∧
      t'.octetsAt? (partPath path) = t.octetsAt? (partPath path) :=
  h.fileAt?_eq fun _ hmem name hmarker => by
    rw [List.mem_singleton.1 hmem] at hmarker
    exact (spot?_siblings t path).2.2 hmarker

theorem Touches.fileAt?_destination (h : Touches [partPath path, markerPath path] t t') :
    t'.fileAt? path = t.fileAt? path ∧ t'.octetsAt? path = t.octetsAt? path :=
  h.fileAt?_eq fun _ hmem name hother => by
    rcases List.mem_pair.1 hmem with rfl | rfl
    · exact (spot?_siblings t path).1 hother
    · exact (spot?_siblings t path).2.1 hother

theorem rename_part {moved : FileTree} {held : Bytes}
    (hheld : t.octetsAt? (partPath path) = some held) (hrename : t.rename (partPath path) path = .ok moved) :
    t.Touches [path, partPath path] moved ∧ moved.octetsAt? path = some held ∧
      (moved.resolve (partPath path)).isOk = false := by
  obtain ⟨number, hfile, rfl⟩ := Option.map_eq_some_iff.1 hheld
  obtain ⟨hmoves, hfile', hcontent, hgone⟩ := rename_spec hfile
    (fun name => (spot?_siblings t path).1) hrename
  refine ⟨hmoves.mono (by simp), ?_, hgone⟩
  rw [octetsAt?, hfile', Option.map_some, hcontent]

/-- What moving a part file and then removing its marker comes to. -/
theorem move_part {moved : FileTree} {held : Bytes}
    (hheld : t.octetsAt? (partPath path) = some held) (hrename : t.rename (partPath path) path = .ok moved)
    (htouches : moved.Touches [markerPath path] t') :
    t.Touches [path, partPath path, markerPath path] t' ∧ t'.octetsAt? path = some held ∧
      (t'.resolve (partPath path)).isOk = false := by
  obtain ⟨hmoves, hdestination, hgone⟩ := rename_part hheld hrename
  have hboth : moved.Touches [partPath path, markerPath path] t' := htouches.mono (by simp)
  refine ⟨(hmoves.mono (by simp)).trans (htouches.mono (by simp)), ?_, ?_⟩
  · rw [hboth.fileAt?_destination.2, hdestination]
  · exact (htouches.same.isOk_resolve htouches.fileAt?_part.1).trans hgone

/-- Whether there is a new, empty part file, and nothing else has changed. -/
def LeavesEmpty (t : FileTree) (path : String) (t' : FileTree) : Prop :=
  t.Touches [partPath path] t' ∧ t.octetsAt? (partPath path) = none ∧ t'.octetsAt? (partPath path) = some []

end FileTree

/-! ## Part files -/

/-- A part file of a path that is open, goes on at its end and holds the given octets. -/
structure PartFile.Holds (part : PartFile OpenFile) (path : String) (bs : Bytes) (t : FileTree) :
    Prop where
  path_eq : part.path = partPath path
  length_eq : part.length = bs.length
  number : ∃ number, t.fileAt? (partPath path) = some number ∧ t.content number = bs ∧
    t.Appends part.file number

namespace PartFile.Holds

variable {part : PartFile OpenFile} {path : String} {bs : Bytes} {t t' : FileTree}

theorem octetsAt?_eq (h : part.Holds path bs t) : t.octetsAt? (partPath path) = some bs := by
  obtain ⟨number, hfile, hcontent, -⟩ := h.number
  rw [FileTree.octetsAt?, hfile, Option.map_some, hcontent]

/-- A part file stays as it is while its marker is written. -/
theorem of_touches_marker (h : part.Holds path bs t) (htouches : t.Touches [markerPath path] t') :
    part.Holds path bs t' := by
  obtain ⟨number, hfile, hcontent, hnumber, hoffset⟩ := h.number
  obtain ⟨hfile', hoctets⟩ := htouches.fileAt?_part
  have hcontent' : t'.content number = t.content number := by
    rw [FileTree.octetsAt?, FileTree.octetsAt?, hfile', hfile] at hoctets
    exact Option.some.inj hoctets
  refine ⟨h.path_eq, h.length_eq, number, hfile'.trans hfile, hcontent'.trans hcontent, hnumber, ?_⟩
  rwa [hcontent']

end PartFile.Holds

namespace Site

variable {S : Type} {w : Site S} {disk : StateM S DiskAnswer}

theorem after_create (path : String) :
    After (PartFile.create (filesOn disk) path) w fun result w' =>
      match result with
      | .error _ => w'.tree = w.tree
      | .ok part => w.tree.Touches [partPath path] w'.tree ∧ part.Holds path [] w'.tree := by
  have hfresh := FileTree.openFresh_spec w.tree (partPath path)
  unfold PartFile.create
  refine After.bind (after_ask fun t => t.openFresh (partPath path)) ?_
  rintro result w₁ (hopen | ⟨fault, rfl, -, htree, -⟩)
  swap
  · exact htree
  rw [← hopen] at hfresh
  cases result with
  | error fault => exact hfresh
  | ok file =>
      obtain ⟨number, rfl, htouches, hfile, hempty⟩ := hfresh
      refine ⟨htouches, rfl, rfl, number, hfile, hempty, rfl, Or.inr ?_⟩
      show 0 = (w₁.tree.content number).length
      rw [hempty]
      rfl

/-- A part file that is opened again holds what it held, or nothing if it is new. If that fails nothing has changed,
    or there is a new part file, which could not be measured. -/
theorem after_resume (path : String) :
    After (PartFile.resume (filesOn disk) path) w fun result w' =>
      match result with
      | .error e => w'.tree = w.tree ∨
          (∃ fault, e = .measure (partPath path) fault) ∧ ¬Grants disk ∧ w.tree.LeavesEmpty path w'.tree
      | .ok part => w.tree.Touches [partPath path] w'.tree ∧
          part.Holds path ((w.tree.octetsAt? (partPath path)).getD []) w'.tree := by
  have hagain := FileTree.openAppend_spec w.tree (partPath path)
  unfold PartFile.resume
  refine After.bind (after_ask fun t => t.openAppend (partPath path)) ?_
  rintro result w₁ (hopen | ⟨fault, rfl, -, htree, -⟩)
  swap
  · exact Or.inl htree
  rw [← hopen] at hagain
  cases result with
  | error fault => exact Or.inl hagain
  | ok file =>
      obtain ⟨number, rfl, htouches, hfile, hcontent, hnew⟩ := hagain
      refine After.bind (after_ask fun t => (.ok (t.size ⟨some number, true, 0⟩), t)) ?_
      rintro result w₂ (hsize | ⟨fault, rfl, -, htree, hrefused⟩)
      · obtain ⟨rfl, htree⟩ := Prod.mk.inj hsize
        have hlength : (w₁.tree.content number).length = _ := congrArg List.length hcontent
        have htree : w₂.tree = w₁.tree := htree
        rw [← htree] at htouches hfile hcontent
        exact ⟨htouches, rfl, hlength, number, hfile, hcontent, rfl, Or.inl rfl⟩
      · refine hnew.imp (fun hsame => htree.trans hsame) fun hnone => ?_
        rw [← htree] at htouches hfile hcontent
        refine ⟨⟨fault, rfl⟩, hrefused, htouches, hnone, ?_⟩
        show w₂.tree.octetsAt? (partPath path) = some []
        rw [FileTree.octetsAt?, hfile, Option.map_some, hcontent, hnone, Option.getD_none]

/-- One write to a part file adds the first octets of what it is given, and counts them. -/
theorem after_writeSome {part : PartFile OpenFile} {path : String} {held : Bytes}
    (h : part.Holds path held w.tree) (bs : Bytes) :
    After (part.writeSome (filesOn disk) bs) w fun result w' => w.tree.Touches [partPath path] w'.tree ∧
      match result with
      | (.error _, part') => part'.Holds path held w'.tree ∧ ¬Grants disk
      | (.ok count, part') => part'.Holds path (held ++ bs.take count) w'.tree ∧
          (Grants disk → count = bs.length) := by
  obtain ⟨number, hfile, hcontent, happends⟩ := h.number
  unfold PartFile.writeSome
  refine After.bind (after_fileWrite_grows ⟨.refl, hfile, hcontent, happends⟩ bs) ?_
  rintro ⟨fault | count, file⟩ w₁ hstored
  · obtain ⟨hgrown, hrefused⟩ := hstored
    exact ⟨hgrown.touches, ⟨h.path_eq, h.length_eq, number, hgrown.fileAt?_eq, hgrown.content_eq, hgrown.appends⟩,
      hrefused⟩
  · obtain ⟨hgrown, hcount, hall⟩ := hstored
    refine ⟨hgrown.touches, ⟨h.path_eq, ?_, number, hgrown.fileAt?_eq, hgrown.content_eq, hgrown.appends⟩, hall⟩
    show part.length + count = _
    rw [h.length_eq, List.length_append, List.length_take, Nat.min_eq_left hcount]

/-- What is written to a part file follows what it holds, and is counted: all octets after a success, and otherwise
    those that came first. -/
theorem after_write {part : PartFile OpenFile} {path : String} {held : Bytes}
    (h : part.Holds path held w.tree) (bs : Bytes) :
    After (part.write (filesOn disk) bs) w fun result w' => w.tree.Touches [partPath path] w'.tree ∧
      ∃ stored, stored <+: bs ∧ result.2.Holds path (held ++ stored) w'.tree ∧
        (result.1 = .ok () → stored = bs) ∧ (Grants disk → result.1 = .ok ()) := by
  refine (Files.after_writeOn (p := Grants disk) (I := fun held part (w' : Site S) =>
    w.tree.Touches [partPath path] w'.tree ∧ part.Holds path held w'.tree) ?_ bs.length (Nat.le_refl _)
      ⟨.refl, h⟩).imp ?_
  · intro held part more w₁ ⟨htouches, hholds⟩
    refine (after_writeSome hholds more).imp ?_
    rintro ⟨fault | count, part'⟩ w₂ ⟨htouches', hstored⟩
    · exact ⟨⟨htouches.trans htouches', hstored.1⟩, hstored.2⟩
    · exact ⟨⟨htouches.trans htouches', hstored.1⟩, hstored.2⟩
  · intro result w' ⟨stored, hinit, ⟨htouches, hholds⟩, hresult⟩
    exact ⟨htouches, stored, hinit, hholds, hresult⟩

/-- On a disk that grants everything all octets are written. -/
theorem after_write_all {part : PartFile OpenFile} {path : String} {held : Bytes}
    (h : part.Holds path held w.tree) (bs : Bytes) :
    After (part.write files bs) w fun result w' => result.1 = .ok () ∧
      w.tree.Touches [partPath path] w'.tree ∧ result.2.Holds path (held ++ bs) w'.tree := by
  refine (after_write h bs).imp ?_
  intro result w' ⟨htouches, stored, _, hholds, hall, hok⟩
  have hok := hok grants_granted
  exact ⟨hok, htouches, hall hok ▸ hholds⟩

/-- A part file is moved by one rename. After that the marker is removed, and one that was never there is as
    good as removed. -/
theorem after_finalize_steps {part : PartFile OpenFile} {path : String} (hpath : part.path = partPath path) :
    After (part.finalize (filesOn disk) path) w fun result w' =>
      (∃ fault, result = .error (.rename (partPath path) path fault) ∧ w'.tree = w.tree ∧
        (Grants disk → w.tree.rename (partPath path) path = .error fault)) ∨
      ∃ moved, w.tree.rename (partPath path) path = .ok moved ∧
        (moved.remove (markerPath path) = .ok w'.tree ∧ result = .ok () ∨
          ∃ fault, w'.tree = moved ∧
            (moved.remove (markerPath path) = .error fault ∧ fault.kind = .notFound ∧ result = .ok () ∨
              (Grants disk → moved.remove (markerPath path) = .error fault) ∧ fault.kind ≠ .notFound ∧
                result = .error (.removeMarker (markerPath path) fault))) := by
  unfold PartFile.finalize
  rw [hpath]
  refine After.bind (after_settle fun t => t.rename (partPath path) path) ?_
  intro result w₁ hrenamed
  cases result with
  | error fault =>
      obtain ⟨htree, hfault⟩ := hrenamed
      exact Or.inl ⟨fault, rfl, htree, fun hgrants => hfault.resolve_right fun h => h.2 hgrants⟩
  | ok _ =>
      refine After.bind (after_settle fun t => t.remove (markerPath path)) ?_
      intro result w₂ hremoved
      cases result with
      | ok _ => exact Or.inr ⟨w₁.tree, hrenamed, Or.inl ⟨hremoved, rfl⟩⟩
      | error fault =>
          obtain ⟨htree, hfault⟩ := hremoved
          by_cases hkind : fault.kind = .notFound
          · have hmissing := hfault.resolve_right fun h => h.1 hkind
            simp only [hkind, if_true]
            exact Or.inr ⟨w₁.tree, hrenamed, Or.inr ⟨fault, htree, Or.inl ⟨hmissing, hkind, rfl⟩⟩⟩
          · have hfailed : Grants disk → w₁.tree.remove (markerPath path) = .error fault :=
              fun hgrants => hfault.resolve_right fun h => h.2 hgrants
            simp only [hkind, if_false]
            exact Or.inr ⟨w₁.tree, hrenamed, Or.inr ⟨fault, htree, Or.inr ⟨hfailed, hkind, rfl⟩⟩⟩

/-- A part file is moved into place by one rename; what follows does nothing but remove the marker. -/
theorem after_finalize_moves {part : PartFile OpenFile} {path : String} (hpath : part.path = partPath path) :
    After (part.finalize (filesOn disk) path) w fun result w' =>
      (w'.tree = w.tree ∧ result ≠ .ok ()) ∨
        ∃ moved, w.tree.rename (partPath path) path = .ok moved ∧
          moved.Touches [markerPath path] w'.tree ∧
            (result = .ok () → (w'.tree.resolve (markerPath path)).isOk = false) := by
  refine (after_finalize_steps hpath).imp ?_
  rintro result w' (⟨fault, rfl, htree, -⟩ | ⟨moved, hrename, hmarker⟩)
  · exact Or.inl ⟨htree, nofun⟩
  · refine Or.inr ⟨moved, hrename, ?_⟩
    rcases hmarker with ⟨hremove, -⟩ | ⟨fault, htree, hend⟩
    · obtain ⟨htouches, hgone⟩ := FileTree.remove_spec hremove
      exact ⟨htouches, fun _ => hgone⟩
    · rw [htree]
      refine ⟨.refl, fun hok => ?_⟩
      rcases hend with ⟨hremove, hkind, -⟩ | ⟨-, -, hfailed⟩
      · exact FileTree.resolve_of_remove_notFound hremove hkind
      · cases hok.symm.trans hfailed

theorem after_finalize {part : PartFile OpenFile} {path : String} {held : Bytes}
    (h : part.Holds path held w.tree) :
    After (part.finalize (filesOn disk) path) w fun result w' =>
      w.tree.Touches [path, partPath path, markerPath path] w'.tree ∧
      match result with
      | .error _ => w'.tree = w.tree ∨ (w'.tree.resolve (partPath path)).isOk = false
      | .ok () => w'.tree.octetsAt? path = some held ∧
          (w'.tree.resolve (partPath path)).isOk = false ∧
            (w'.tree.resolve (markerPath path)).isOk = false := by
  refine (after_finalize_moves h.path_eq).imp ?_
  rintro result w' (⟨htree, hfailed⟩ | ⟨moved, hrename, htouches, hremoved⟩)
  · rw [htree]
    cases result with
    | error e => exact ⟨.refl, Or.inl rfl⟩
    | ok _ => exact absurd rfl hfailed
  · obtain ⟨hall, hheld, hgone⟩ := FileTree.move_part h.octetsAt?_eq hrename htouches
    cases result with
    | error e => exact ⟨hall, Or.inr hgone⟩
    | ok _ => exact ⟨hall, hheld, hgone, hremoved rfl⟩

end Site

/-! ## What the files leave alone -/

namespace Site

variable {S : Type}

/-- Whether a procedure leaves the rest of a site as it is. -/
def Spares {α : Type} (x : StateM (Site S) α) : Prop := ∀ w, After x w fun _ w' => w'.rest = w.rest

namespace Spares

variable {α β : Type}

theorem pure (a : α) : Spares (Pure.pure a : StateM (Site S) α) := fun _ => rfl

theorem bind {x : StateM (Site S) α} {f : α → StateM (Site S) β} (hx : Spares x)
    (hf : ∀ a, Spares (f a)) : Spares (x >>= f) :=
  fun w => After.bind (hx w) fun a w' hw' => (hf a w').imp fun _ _ hw'' => hw''.trans hw'

theorem ask (step : FileTree → Except IoFault α × FileTree) :
    Spares (FileTree.ask (onRest (S := S) (Pure.pure .granted)) (onTree step)) :=
  fun _ => rfl

theorem writeAll {write : α → Bytes → StateM (Site S) (Except IoFault Nat × α)}
    (hwrite : ∀ a bs, Spares (write a bs)) (a : α) (bs : Bytes) : Spares (Files.writeAll write a bs) := by
  unfold Files.writeAll
  generalize bs.length = writes
  induction writes generalizing a bs with
  | zero => cases bs <;> exact .pure _
  | succ writes ih =>
      cases bs with
      | nil => exact .pure _
      | cons b bs =>
          unfold Files.writeOn
          refine .bind (hwrite a (b :: bs)) fun wrote => ?_
          obtain ⟨fault | _ | count, a⟩ := wrote
          · exact .pure _
          · exact .pure _
          · exact ih a _

variable (path : String) (part : PartFile OpenFile)

theorem save (marker : ResumeMarker) : Spares (S := S) (marker.save files path) := by
  have hreplace : ∀ content, Spares (S := S) (files.replace (markerPath path) content) := by
    intro content
    refine .bind (ask _) fun result => ?_
    cases result with
    | error fault => exact .pure _
    | ok file =>
        refine .bind (writeAll (fun _ _ => ?_) _ _) fun _ => .pure _
        intro w
        rfl
  refine .bind (hreplace _) fun result => ?_
  cases result with
  | error fault => exact .pure _
  | ok _ => exact .pure _

theorem create : Spares (S := S) (PartFile.create files path) := by
  refine .bind (ask _) fun result => ?_
  cases result with
  | error fault => exact .pure _
  | ok file => exact .pure _

theorem resume : Spares (S := S) (PartFile.resume files path) := by
  refine .bind (ask _) fun result => ?_
  cases result with
  | error fault => exact .pure _
  | ok file =>
      refine .bind (ask _) fun result => ?_
      cases result with
      | error fault => exact .pure _
      | ok length => exact .pure _

theorem write (bs : Bytes) : Spares (S := S) (part.write files bs) := by
  refine writeAll (fun part bs => ?_) part bs
  refine .bind (fun _ => rfl) fun result => ?_
  rcases result with ⟨fault | _, file⟩
  · exact .pure _
  · exact .pure _

theorem finalize : Spares (S := S) (part.finalize files path) := by
  refine .bind (ask _) fun result => ?_
  cases result with
  | error fault => exact .pure _
  | ok _ =>
      refine .bind (ask _) fun result => ?_
      cases result with
      | error fault =>
          by_cases hkind : fault.kind = .notFound
          · simp only [hkind, if_true]
            exact .pure _
          · simp only [hkind, if_false]
            exact .pure _
      | ok _ => exact .pure _

end Spares

end Site

end SteadyFetch
