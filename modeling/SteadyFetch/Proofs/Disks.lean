import SteadyFetch.Checksum.OfFile
import SteadyFetch.Http.Fetch
import SteadyFetch.Proofs.After
import SteadyFetch.Proofs.FileOperations
import SteadyFetch.Storage.Marker

set_option autoImplicit false

/-! # Files on a disk

A site is a tree of files and whatever there is besides: the files act on the one, a network on the other, so
neither disturbs the other. The files lie on a disk, which answers from the rest and may do so in any way: it may
refuse what it is asked for, or store less than it is given. Then nothing changes, or what comes first is stored, so
whatever is written on and on at the end of a file is, at any time, the first octets of what was to be written
(`Files.after_writeOn`). -/

namespace SteadyFetch

/-- A tree of files, and what there is besides. -/
structure Site (S : Type) where
  tree : FileTree
  rest : S

namespace Site

variable {S α : Type}

/-- Acts on the tree. -/
def onTree (step : FileTree → α × FileTree) : StateM (Site S) α :=
  fun w => ((step w.tree).1, ⟨(step w.tree).2, w.rest⟩)

/-- Acts on the rest. -/
def onRest (x : StateM S α) : StateM (Site S) α :=
  fun w => ((x w.rest).1, ⟨w.tree, (x w.rest).2⟩)

/-- The files of a site, on a disk that is part of the rest. -/
def filesOn (disk : StateM S DiskAnswer) : Files (StateM (Site S)) OpenFile := FileTree.filesOn (onRest disk) onTree

/-- The files of a site, on a disk that grants everything. -/
abbrev files : Files (StateM (Site S)) OpenFile := filesOn (pure .granted)

/-- Whether a disk grants everything. -/
def Grants (disk : StateM S DiskAnswer) : Prop := ∀ rest, (disk rest).1 = .granted

theorem grants_granted : Grants (pure .granted : StateM S DiskAnswer) := fun _ => rfl

/-- A network that is part of the rest. -/
def network (network : Network (StateM S)) : Network (StateM (Site S)) where
  exchange request := onRest (network.exchange request)

@[simp] theorem onRest_pure (a : α) : onRest (pure a : StateM S α) = pure a := rfl

@[simp] theorem onRest_bind {β : Type} (x : StateM S α) (f : α → StateM S β) :
    onRest (x >>= f) = onRest x >>= fun a => onRest (f a) := rfl

theorem follow_network (n : Network (StateM S)) (headers : List (String × String))
    (before : List TransferEvent) (left : Nat) (target : Target) :
    (network n).follow headers before left target = onRest (n.follow headers before left target) := by
  induction left generalizing before target with
  | zero =>
      rw [Network.follow.eq_def, Network.follow.eq_def, onRest_bind]
      refine congrArg (onRest (n.exchange ⟨target, headers⟩) >>= ·) ?_
      funext reception
      cases hredirect : (Wire.read reception).redirect with
      | none => simp only [hredirect, onRest_pure]
      | some location => simp only [hredirect, onRest_pure]
  | succ left ih =>
      rw [Network.follow.eq_def, Network.follow.eq_def, onRest_bind]
      refine congrArg (onRest (n.exchange ⟨target, headers⟩) >>= ·) ?_
      funext reception
      cases hredirect : (Wire.read reception).redirect with
      | none => simp only [hredirect, onRest_pure]
      | some location =>
          simp only [hredirect]
          cases target.redirected location with
          | error code => rfl
          | ok next => exact ih _ next

theorem fetch_network (n : Network (StateM S)) (request : HttpRequest) :
    (network n).fetch request = onRest (n.fetch request) :=
  follow_network n _ _ _ _

/-! ## Operations -/

variable {w : Site S} {disk : StateM S DiskAnswer}

/-- A disk that is asked answers, and grants what it is asked for if it grants everything. -/
theorem after_disk : After (onRest disk) w fun answer w' => w'.tree = w.tree ∧ (Grants disk → answer = .granted) :=
  ⟨rfl, fun hgrants => hgrants w.rest⟩

/-- An operation is carried out, or it is refused and changes nothing. -/
theorem after_ask (step : FileTree → Except IoFault α × FileTree) :
    After (FileTree.ask (onRest disk) (onTree step)) w fun result w' =>
      (result, w'.tree) = step w.tree ∨
        ∃ fault, result = .error fault ∧ fault.kind ≠ .notFound ∧ w'.tree = w.tree ∧ ¬Grants disk := by
  unfold FileTree.ask
  refine After.bind after_disk ?_
  intro answer w₁ ⟨htree, hgranted⟩
  cases answer with
  | granted => exact Or.inl (congrArg step htree)
  | short count => exact Or.inl (congrArg step htree)
  | refused fault honest => exact Or.inr ⟨fault, rfl, honest.1, htree, fun h => nomatch hgranted h⟩

theorem after_settle (step : FileTree → Except IoFault FileTree) :
    After (FileTree.ask (onRest disk) (onTree fun t => t.settle (step t))) w fun result w' =>
      match result with
      | .ok () => step w.tree = .ok w'.tree
      | .error fault => w'.tree = w.tree ∧
          (step w.tree = .error fault ∨ fault.kind ≠ .notFound ∧ ¬Grants disk) := by
  refine (after_ask fun t => t.settle (step t)).imp ?_
  rintro result w' (hstep | ⟨fault, rfl, hkind, htree, hrefused⟩)
  · cases hend : step w.tree with
    | ok t =>
        simp only [hend, FileTree.settle, Prod.mk.injEq] at hstep
        obtain ⟨rfl, rfl⟩ := hstep
        rfl
    | error fault =>
        simp only [hend, FileTree.settle, Prod.mk.injEq] at hstep
        obtain ⟨rfl, htree⟩ := hstep
        exact ⟨htree, Or.inl rfl⟩
  · exact ⟨htree, Or.inr ⟨hkind, hrefused⟩⟩

/-- A file is read where it stands, or reading is refused. -/
theorem after_fileRead (number offset count : Nat) (atEnd : Bool) :
    After ((filesOn disk).read ⟨some number, atEnd, offset⟩ count) w fun result w' => w'.tree = w.tree ∧
      match result with
      | (.ok bs, file) => bs = ((w.tree.content number).drop offset).take count ∧
          file = ⟨some number, atEnd, offset + bs.length⟩
      | (.error fault, _) => fault.kind ≠ .notFound ∧ ¬Grants disk := by
  refine After.bind after_disk ?_
  intro answer w₁ ⟨htree, hgranted⟩
  rw [← htree]
  cases answer with
  | granted => exact ⟨rfl, rfl, rfl⟩
  | short count => exact ⟨rfl, rfl, rfl⟩
  | refused fault honest => exact ⟨rfl, honest.1, fun h => nomatch hgranted h⟩

theorem after_directoryRead (offset count : Nat) (atEnd : Bool) :
    After ((filesOn disk).read ⟨none, atEnd, offset⟩ count) w fun result _ => ∃ fault, result.1 = .error fault := by
  refine After.bind after_disk ?_
  intro answer w₁ _
  cases answer <;> exact ⟨_, rfl⟩

/-- Octets are written as a tree writes them, but perhaps not all, or writing is refused. -/
theorem after_fileWrite (file : OpenFile) (bs : Bytes) :
    After ((filesOn disk).write file bs) w fun result w' =>
      (∃ count, (Grants disk → count = bs.length) ∧ (result, w'.tree) = w.tree.write file (bs.take count)) ∨
        ∃ fault, result = (.error fault, file) ∧ w'.tree = w.tree ∧ ¬Grants disk := by
  refine After.bind after_disk ?_
  intro answer w₁ ⟨htree, hgranted⟩
  rw [← htree]
  cases answer with
  | granted => exact Or.inl ⟨bs.length, fun _ => rfl, by rw [List.take_length]; rfl⟩
  | short count => exact Or.inl ⟨count, fun h => (nomatch hgranted h), rfl⟩
  | refused fault _ => exact Or.inr ⟨fault, rfl, rfl, fun h => nomatch hgranted h⟩

end Site

/-! ## Reading -/

/-- Whether what holds of a world still holds when files were read. -/
structure Files.ReadsKeep {W η : Type} (files : Files (StateM W) η) (P : W → Prop) : Prop where
  openRead : ∀ path w, P w → After (files.openRead path) w fun _ w' => P w'
  read : ∀ file count w, P w → After (files.read file count) w fun _ w' => P w'

namespace Files.ReadsKeep

variable {W η : Type} {files : Files (StateM W) η} {P : W → Prop} {w : W}

theorem readRest (h : files.ReadsKeep P) (hw : P w) (reads : Nat) (file : η) (got : List Bytes) :
    After (files.readRest reads file got) w fun _ w' => P w' := by
  induction reads generalizing file got w with
  | zero => exact hw
  | succ reads ih =>
      unfold Files.readRest
      refine After.bind (h.read file pieceSize w hw) ?_
      intro ⟨result, file⟩ w₁ hw₁
      cases result with
      | error fault => exact hw₁
      | ok bs =>
          by_cases hempty : bs.isEmpty = true
          · simp only [hempty, if_true]
            exact hw₁
          · simp only [hempty]
            exact ih hw₁ file (bs :: got)

theorem readText (h : files.ReadsKeep P) (hw : P w) (reads : Nat) (path : String) :
    After (files.readText reads path) w fun _ w' => P w' := by
  have hwhole : After (files.readWhole reads path) w fun _ w' => P w' := by
    unfold Files.readWhole
    refine After.bind (h.openRead path w hw) ?_
    intro result w₁ hw₁
    cases result with
    | error fault => exact hw₁
    | ok file => exact h.readRest hw₁ reads file []
  unfold Files.readText
  refine After.bind hwhole ?_
  intro result w₁ hw₁
  rcases result with _ | fault | bs
  · exact hw₁
  · exact hw₁
  · cases hdecode : Utf8.decode? bs <;> simp only [hdecode] <;> exact hw₁

theorem load (h : files.ReadsKeep P) (hw : P w) (reads : Nat) (path : String) :
    After (ResumeMarker.load files reads path) w fun _ w' => P w' := by
  unfold ResumeMarker.load
  refine After.bind (h.readText hw reads (markerPath path)) ?_
  intro result w₁ hw₁
  rcases result with _ | fault | text
  · exact hw₁
  · by_cases hkind : fault.kind = .notFound <;> simp only [hkind, if_true, if_false] <;> exact hw₁
  · cases hparse : ResumeMarker.parse? text <;> simp only [hparse] <;> exact hw₁

theorem appendFile (h : files.ReadsKeep P) (hw : P w) (path : String) (reads : Nat) (file : η)
    (c : Checksum) : After (Checksum.appendFile files path reads file c) w fun _ w' => P w' := by
  induction reads generalizing file c w with
  | zero => exact hw
  | succ reads ih =>
      unfold Checksum.appendFile
      refine After.bind (h.read file pieceSize w hw) ?_
      intro ⟨result, file⟩ w₁ hw₁
      cases result with
      | error fault => exact hw₁
      | ok bs =>
          by_cases hempty : bs.isEmpty = true
          · simp only [hempty, if_true]
            exact hw₁
          · simp only [hempty]
            exact ih hw₁ file (c.append bs)

theorem checksum (h : files.ReadsKeep P) (hw : P w) (reads : Nat) (path : String) :
    After (Checksum.ofFile files reads path) w fun _ w' => P w' := by
  unfold Checksum.ofFile
  refine After.bind (h.openRead path w hw) ?_
  intro result w₁ hw₁
  cases result with
  | error fault => exact hw₁
  | ok file => exact h.appendFile hw₁ path reads file .empty

end Files.ReadsKeep

namespace Site

variable {S : Type} {w : Site S} {disk : StateM S DiskAnswer}

theorem readsKeep_tree (disk : StateM S DiskAnswer) (t : FileTree) : (filesOn disk).ReadsKeep fun w => w.tree = t where
  openRead path w hw := by
    refine (after_ask fun t => (t.openRead path, t)).imp ?_
    rintro result w' (hstep | ⟨fault, -, -, htree, -⟩)
    · exact (Prod.mk.inj hstep).2.trans hw
    · exact htree.trans hw
  read file count w hw := by
    refine After.bind after_disk ?_
    intro answer w₁ ⟨htree, _⟩
    cases answer <;> exact htree.trans hw

theorem readsKeep (w : Site S) : (files (S := S)).ReadsKeep fun w' => w' = w where
  openRead _ _ hw := hw
  read _ _ _ hw := hw

/-- Reading a file to its end gives what is in it; reads run out only where octets are left for each of them, and
    only the disk makes it fail. -/
theorem after_readRest (number : Nat) (reads : Nat) (offset : Nat) (atEnd : Bool) (got : List Bytes) :
    After ((filesOn disk).readRest reads ⟨some number, atEnd, offset⟩ got) w fun result _ =>
      match result with
      | none => reads ≤ ((w.tree.content number).drop offset).length
      | some (.error fault) => fault.kind ≠ .notFound ∧ ¬Grants disk
      | some (.ok bs) => bs = got.reverse.flatten ++ (w.tree.content number).drop offset := by
  induction reads generalizing offset got w with
  | zero => exact Nat.zero_le _
  | succ reads ih =>
      unfold Files.readRest
      refine After.bind (after_fileRead number offset Files.pieceSize atEnd) ?_
      intro ⟨result, file⟩ w₁ ⟨htree, hread⟩
      rcases result with fault | bs
      · exact hread
      obtain ⟨rfl, rfl⟩ := hread
      by_cases hempty : ((w.tree.content number).drop offset).take Files.pieceSize = []
      · simp only [hempty, List.isEmpty_nil, if_true]
        rcases List.take_eq_nil_iff.1 hempty with hzero | hnil
        · exact absurd hzero (by decide)
        · show got.reverse.flatten = _
          rw [hnil, List.append_nil]
      · have hfull : ¬(((w.tree.content number).drop offset).take Files.pieceSize).isEmpty = true :=
          fun h => hempty (List.isEmpty_iff.1 h)
        simp only [hfull]
        rw [← htree] at hempty ⊢
        refine (ih _ _).imp ?_
        intro result w₂ hresult
        rcases result with _ | fault | bs
        · -- this read took an octet at least
          have htaken := List.length_pos_of_ne_nil hempty
          simp only [List.length_take, List.length_drop] at hresult htaken ⊢
          omega
        · exact hresult
        · -- what was read and what is left to read are the rest of the file together
          simp only at hresult
          rw [hresult, List.reverse_cons, List.flatten_append, List.flatten_singleton,
            List.append_assoc, ← List.drop_drop, List.length_take, ← List.drop_eq_drop_min,
            List.take_append_drop]

/-- The octets that are read of a path are what is found there; a fault says that there is no file, or is the
    disk's, and reads run out only where there are octets for each of them. -/
theorem after_readWhole (reads : Nat) (path : String) :
    After ((filesOn disk).readWhole reads path) w fun result _ =>
      match result with
      | none => ∀ raw ∈ w.tree.octetsAt? path, reads ≤ raw.length
      | some (.error fault) => w.tree.octetsAt? path = none ∨ fault.kind ≠ .notFound ∧ ¬Grants disk
      | some (.ok bs) => w.tree.octetsAt? path = some bs := by
  unfold Files.readWhole
  refine After.bind (after_ask fun t => (t.openRead path, t)) ?_
  rintro result w₁ (hstep | ⟨fault, rfl, hkind, -, hrefused⟩)
  swap
  · exact Or.inr ⟨hkind, hrefused⟩
  obtain ⟨hopen, htree⟩ := Prod.mk.inj hstep
  rw [← htree] at hopen ⊢
  cases result with
  | error fault =>
      refine Or.inl ?_
      rw [FileTree.octetsAt?, FileTree.fileAt?_of_openRead_error hopen.symm, Option.map_none]
  | ok file =>
      rw [FileTree.openRead_spec hopen.symm]
      cases hfile : w₁.tree.fileAt? path with
      | none =>
          have hnone : w₁.tree.octetsAt? path = none := by rw [FileTree.octetsAt?, hfile, Option.map_none]
          -- a directory opens but cannot be read
          cases reads with
          | zero => exact fun _ _ => Nat.zero_le _
          | succ reads =>
              unfold Files.readRest
              refine After.bind (after_directoryRead 0 Files.pieceSize false) ?_
              rintro ⟨_, file⟩ w₂ ⟨fault, rfl⟩
              exact Or.inl hnone
      | some number =>
          refine (after_readRest number reads 0 false []).imp ?_
          intro result w₂ hresult
          rcases result with _ | fault | bs
          · rw [FileTree.octetsAt?, hfile]
            rintro raw ⟨⟩
            exact hresult
          · exact Or.inr hresult
          · simp only at hresult
            rw [FileTree.octetsAt?, hfile, hresult]
            rfl

/-- The text that is read of a path is written there; a fault says that there is no file or that what is
    written there is no text, or is the disk's. -/
theorem after_readText (reads : Nat) (path : String) :
    After ((filesOn disk).readText reads path) w fun result _ =>
      match result with
      | none => ∀ raw ∈ w.tree.octetsAt? path, reads ≤ raw.length
      | some (.error fault) => w.tree.octetsAt? path = none ∨
          fault.kind ≠ .notFound ∧ (Grants disk → ∀ raw ∈ w.tree.octetsAt? path, Utf8.decode? raw = none)
      | some (.ok text) => ∃ raw, w.tree.octetsAt? path = some raw ∧ Utf8.decode? raw = some text := by
  unfold Files.readText
  refine After.bind (after_readWhole reads path) ?_
  intro result w₁ hresult
  rcases result with _ | fault | raw
  · exact hresult
  · exact hresult.imp_right fun ⟨hkind, hrefused⟩ => ⟨hkind, fun hgrants => absurd hgrants hrefused⟩
  · cases hdecode : Utf8.decode? raw with
    | none =>
        simp only [hdecode]
        refine Or.inr ⟨by decide, fun _ other hother => ?_⟩
        obtain rfl := Option.some.inj (hother.symm.trans hresult)
        exact hdecode
    | some text =>
        simp only [hdecode]
        exact ⟨raw, hresult, hdecode⟩

end Site

/-! ## Writing -/

/-- What holds of what was stored so far, and does so after every write, holds when writing is over. What was
    stored then are the first octets of what was to be written, and all of them after a success; where every write
    stores all it is given, it succeeds. -/
theorem Files.after_writeOn {W α : Type} {write : α → Bytes → StateM W (Except IoFault Nat × α)}
    {I : Bytes → α → W → Prop} {p : Prop} (hwrite : ∀ held file bs w, I held file w → After (write file bs) w fun result w' =>
      match result with
      | (.error _, file') => I held file' w' ∧ ¬p
      | (.ok count, file') => I (held ++ bs.take count) file' w' ∧ (p → count = bs.length))
    (writes : Nat) {file : α} {bs held : Bytes} {w : W} (hwrites : bs.length ≤ writes) (h : I held file w) :
    After (writeOn write writes file bs) w fun result w' => ∃ stored, stored <+: bs ∧
      I (held ++ stored) result.2 w' ∧ (result.1 = .ok () → stored = bs) ∧ (p → result.1 = .ok ()) := by
  induction writes generalizing file bs held w with
  | zero =>
      obtain rfl := List.eq_nil_of_length_eq_zero (Nat.le_zero.1 hwrites)
      exact ⟨[], List.nil_prefix, by rwa [List.append_nil], fun _ => rfl, fun _ => rfl⟩
  | succ writes ih =>
      cases bs with
      | nil => exact ⟨[], List.nil_prefix, by rwa [List.append_nil], fun _ => rfl, fun _ => rfl⟩
      | cons b bs =>
          unfold writeOn
          refine After.bind (hwrite held file (b :: bs) w h) ?_
          intro ⟨result, file⟩ w₁ hstored
          rcases result with fault | _ | count
          · exact ⟨[], List.nil_prefix, by rw [List.append_nil]; exact hstored.1, nofun, fun hp => absurd hp hstored.2⟩
          · exact ⟨[], List.nil_prefix, hstored.1, nofun, fun hp => (nomatch hstored.2 hp)⟩
          · obtain ⟨hinv, hall⟩ := hstored
            refine (ih (by simp at hwrites ⊢; omega) hinv).imp ?_
            intro result w₂ ⟨stored, hinit, hinv', hok, hsteady⟩
            refine ⟨(b :: bs).take (count + 1) ++ stored, ?_, ?_, ?_, hsteady⟩
            · conv_rhs => rw [← List.take_append_drop (count + 1) (b :: bs)]
              exact (List.prefix_append_right_inj _).2 hinit
            · rwa [List.append_assoc] at hinv'
            · intro hresult
              rw [hok hresult, List.take_append_drop]

/-- A file that is written at its end: what it has by now, and nothing else was touched since the files were `t`. -/
structure FileTree.Growing (t : FileTree) (path : String) (number : Nat) (held : Bytes) (file : OpenFile)
    (t' : FileTree) : Prop where
  touches : t.Touches [path] t'
  fileAt?_eq : t'.fileAt? path = some number
  content_eq : t'.content number = held
  appends : t'.Appends file number

namespace Site

variable {S : Type} {w : Site S} {disk : StateM S DiskAnswer}

/-- A write adds the first octets of what it is given, and counts them. -/
theorem after_fileWrite_grows {path : String} {number : Nat} {held : Bytes} {file : OpenFile} {t : FileTree}
    (h : t.Growing path number held file w.tree) (bs : Bytes) :
    After ((filesOn disk).write file bs) w fun result w' =>
      match result with
      | (.error _, file') => t.Growing path number held file' w'.tree ∧ ¬Grants disk
      | (.ok count, file') => t.Growing path number (held ++ bs.take count) file' w'.tree ∧
          count ≤ bs.length ∧ (Grants disk → count = bs.length) := by
  refine (after_fileWrite file bs).imp ?_
  rintro ⟨result, file'⟩ w' (⟨count, hall, hstep⟩ | ⟨fault, hresult, htree, hrefused⟩)
  · have hwrite := FileTree.write_spec h.fileAt?_eq h.appends (bs.take count)
    rw [← hstep] at hwrite
    obtain ⟨rfl, htouches, hfile, hcontent, happends⟩ := hwrite
    refine ⟨⟨h.touches.trans htouches, hfile, ?_, happends⟩, List.length_take_le' count bs, fun hgrants => ?_⟩
    · rw [hcontent, h.content_eq, List.length_take, ← List.take_eq_take_min]
    · rw [hall hgrants, List.take_length]
  · obtain ⟨rfl, rfl⟩ := Prod.mk.inj hresult
    rw [htree]
    exact ⟨h, hrefused⟩

/-- A file that is replaced has the octets it was given. One is replaced, or made, wherever a file can stand, if the
    disk grants it; where it does not, nothing else is touched. -/
theorem after_replace (path : String) (bs : Bytes) :
    After ((filesOn disk).replace path bs) w fun result w' => w.tree.Touches [path] w'.tree ∧
      match result with
      | .error _ => Grants disk → w'.tree = w.tree ∧ ¬w.tree.TakesFile path
      | .ok () => w'.tree.octetsAt? path = some bs := by
  have hfresh := FileTree.openFresh_spec w.tree path
  unfold Files.replace
  refine After.bind (after_ask fun t => t.openFresh path) ?_
  rintro result w₁ (hopen | ⟨fault, rfl, -, htree, hrefused⟩)
  swap
  · exact ⟨htree ▸ .refl, fun hgrants => absurd hgrants hrefused⟩
  rw [← hopen] at hfresh
  cases result with
  | error fault =>
      have htree : w₁.tree = w.tree := hfresh
      exact ⟨htree ▸ .refl, fun _ => ⟨htree, FileTree.not_takesFile_of_openFresh hopen.symm⟩⟩
  | ok file =>
      obtain ⟨number, rfl, htouches, hfile, hempty⟩ := hfresh
      have hopened : w.tree.Growing path number [] ⟨some number, false, 0⟩ w₁.tree :=
        ⟨htouches, hfile, hempty, rfl, Or.inr (by rw [hempty]; rfl)⟩
      refine After.bind (Files.after_writeOn (p := Grants disk)
        (I := fun held file (w' : Site S) => w.tree.Growing path number held file w'.tree)
        ?_ bs.length (Nat.le_refl _) hopened) ?_
      · intro held file more w₂ hgrowing
        refine (after_fileWrite_grows hgrowing more).imp ?_
        rintro ⟨fault | count, file'⟩ w₃ hstored
        · exact hstored
        · exact ⟨hstored.1, hstored.2.2⟩
      · rintro ⟨result, file⟩ w₂ ⟨stored, -, hgrown, hall, hok⟩
        cases result with
        | error fault => exact ⟨hgrown.touches, fun hgrants => nomatch hok hgrants⟩
        | ok _ =>
            refine ⟨hgrown.touches, ?_⟩
            show w₂.tree.octetsAt? path = some bs
            rw [FileTree.octetsAt?, hgrown.fileAt?_eq, Option.map_some, hgrown.content_eq, hall rfl, List.nil_append]

end Site

end SteadyFetch
