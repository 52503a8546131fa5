import SteadyFetch.Proofs.FilePaths

set_option autoImplicit false

/-! # What operations on files do

`Touches` says that nothing changed from one tree to another but files of the given paths. Every operation
comes with what it does to its own file and that it touches no other. -/

namespace SteadyFetch.FileTree

variable {t t' t'' : FileTree}

/-! ## What an operation touches -/

/-- From one tree to another nothing changed but files of the given paths. -/
structure Touches (paths : List String) (t t' : FileTree) : Prop where
  same : SameDirectories t t'
  others : ∀ name, (∀ path ∈ paths, t.spot? path ≠ some name) →
    t'.entry? name = t.entry? name ∧
      ∀ number, t.entry? name = some (.file number) → t'.content number = t.content number

/-- Every file stands where it stood, with the octets it had. -/
def FilesStay (t t' : FileTree) : Prop :=
  ∀ name number, t.entry? name = some (.file number) →
    t'.entry? name = some (.file number) ∧ t'.content number = t.content number

namespace Touches

theorem refl {paths : List String} : Touches paths t t :=
  ⟨.refl, fun _ _ => ⟨rfl, fun _ _ => rfl⟩⟩

theorem mono {paths more : List String} (h : Touches paths t t') (hsub : ∀ path ∈ paths, path ∈ more) :
    Touches more t t' :=
  ⟨h.same, fun name hname => h.others name fun path hpath => hname path (hsub path hpath)⟩

theorem trans {paths : List String} (h : Touches paths t t') (h' : Touches paths t' t'') :
    Touches paths t t'' := by
  refine ⟨h.same.trans h'.same, ?_⟩
  intro name hname
  obtain ⟨hentry, hcontent⟩ := h.others name hname
  obtain ⟨hentry', hcontent'⟩ := h'.others name fun path hpath => by
    rw [h.same.spot?]
    exact hname path hpath
  refine ⟨hentry'.trans hentry, fun number hnumber => ?_⟩
  rw [hcontent' number (hentry.trans hnumber), hcontent number hnumber]

theorem fileAt?_eq {paths : List String} (h : Touches paths t t') {other : String}
    (hother : ∀ path ∈ paths, ∀ name, t.spot? path = some name → t.spot? other ≠ some name) :
    t'.fileAt? other = t.fileAt? other ∧ t'.octetsAt? other = t.octetsAt? other := by
  cases hspot : t.spot? other with
  | none =>
      have hspot' := (h.same.spot? other).trans hspot
      simp only [octetsAt?, fileAt?, hspot, hspot']
      exact ⟨trivial, rfl⟩
  | some name =>
      obtain ⟨hentry, hcontent⟩ := h.others name fun path hpath hsame =>
        hother path hpath name hsame hspot
      have hfile : t'.fileAt? other = t.fileAt? other := by
        rw [fileAt?_of_spot? hspot, fileAt?_of_spot? ((h.same.spot? other).trans hspot), hentry]
      refine ⟨hfile, ?_⟩
      rw [octetsAt?, octetsAt?, hfile]
      cases hnumber : t.fileAt? other with
      | none => rfl
      | some number =>
          obtain ⟨name', hspot', hentry'⟩ := fileAt?_eq_some_iff.1 hnumber
          rw [hspot, Option.some.injEq] at hspot'
          subst hspot'
          rw [Option.map_some, Option.map_some, hcontent number hentry']

end Touches

/-! ## What operations do -/

section Operations

variable {path old new : String} {name : List String} {number : Nat} {bs : Bytes}

theorem sameDirectories_setContent (t : FileTree) (number : Nat) (bs : Bytes) :
    SameDirectories t (t.setContent number bs) :=
  ⟨rfl, fun _ => by rw [entry?_setContent]⟩

theorem fileAt?_setContent (t : FileTree) (path : String) (number : Nat) (bs : Bytes) :
    (t.setContent number bs).fileAt? path = t.fileAt? path := by
  unfold fileAt?
  simp only [(sameDirectories_setContent t number bs).spot?, entry?_setContent]

theorem lt_of_fileAt? (hfile : t.fileAt? path = some number) : number < t.stored.length := by
  obtain ⟨name, -, hentry⟩ := fileAt?_eq_some_iff.1 hfile
  exact lt_of_file hentry

/-- No other name shows what is written to the file of a path. -/
theorem touches_setContent (hfile : t.fileAt? path = some number) (bs : Bytes) :
    Touches [path] t (t.setContent number bs) where
  same := sameDirectories_setContent t number bs
  others := by
    intro other hother
    refine ⟨entry?_setContent t number bs other, fun m hm => ?_⟩
    obtain ⟨name, hspot, hentry⟩ := fileAt?_eq_some_iff.1 hfile
    rw [content_setContent t (lt_of_file hentry), if_neg]
    intro hsame
    subst hsame
    exact hother path List.mem_cons_self (hspot.trans (congrArg some (eq_of_file hentry hm)))

theorem touches_addFile (hspot : t.spot? path = some name) (hnone : t.entry? name = none) :
    Touches [path] t (t.addFile name).2 ∧ (t.addFile name).2.fileAt? path = some t.stored.length := by
  have hentry := t.entry?_addFile (spot?_ne_nil hspot)
  have hsame : SameDirectories t (t.addFile name).2 := by
    refine ⟨rfl, fun other => ?_⟩
    rw [hentry]
    by_cases hother : other = name
    · simp [hother, hnone]
    · rw [if_neg hother]
  refine ⟨⟨hsame, fun other hother => ⟨?_, fun m _ => content_addFile t name m⟩⟩, ?_⟩
  · rw [hentry, if_neg]
    intro hname
    exact hother path List.mem_cons_self (hname ▸ hspot)
  · exact fileAt?_eq_some_iff.2 ⟨name, (hsame.spot? path).trans hspot, by rw [hentry, if_pos rfl]⟩

/-- The file of a path that is opened for writing: the one that is there, or a new one. -/
theorem fileFor_ok (h : t.fileFor path = .ok (number, t')) :
    ∃ name, t.spot? path = some name ∧ (t.entry? name = some (.file number) ∧ t' = t ∨
      t.entry? name = none ∧ (number, t') = t.addFile name) := by
  obtain ⟨parent, last, slash, hlocate, h⟩ := name_of_located h fun _ => nofun
  obtain ⟨hlong, h⟩ := ok_of_check h
  cases slash with
  | true =>
      cases hentry : t.entry? (parent ++ [last]) with
      | none => simp [hentry] at h
      | some e => cases e <;> simp [hentry] at h
  | false =>
      refine ⟨_, spot?_eq_some_iff.2 ⟨parent, last, hlocate, hlong, rfl⟩, ?_⟩
      cases hentry : t.entry? (parent ++ [last]) with
      | none =>
          simp only [hentry] at h
          exact Or.inr ⟨rfl, (Except.ok.inj h).symm⟩
      | some e =>
          cases e with
          | directory => simp [hentry] at h
          | file other =>
              simp only [hentry] at h
              obtain ⟨rfl, rfl⟩ := Prod.mk.inj (Except.ok.inj h)
              exact Or.inl ⟨rfl, rfl⟩

/-- Making sure that there is a file changes no octets, and nothing at all if there is one. -/
theorem touches_fileFor (h : t.fileFor path = .ok (number, t')) :
    Touches [path] t t' ∧ t'.fileAt? path = some number ∧ t'.content number = (t.octetsAt? path).getD [] ∧
      (t' = t ∨ t.octetsAt? path = none) := by
  obtain ⟨name, hspot, ⟨hentry, hsame⟩ | ⟨hnone, hadd⟩⟩ := fileFor_ok h
  · have hfile : t.fileAt? path = some number := fileAt?_eq_some_iff.2 ⟨name, hspot, hentry⟩
    rw [hsame]
    exact ⟨.refl, hfile, by rw [octetsAt?, hfile]; rfl, Or.inl rfl⟩
  · obtain ⟨rfl, rfl⟩ := Prod.mk.inj hadd
    obtain ⟨htouches, hfile⟩ := touches_addFile hspot hnone
    have hoctets : t.octetsAt? path = none := by rw [octetsAt?, fileAt?_of_spot? hspot, hnone]; rfl
    refine ⟨htouches, hfile, ?_, Or.inr hoctets⟩
    rw [hoctets]
    exact (content_addFile t name _).trans (by simp [content])

/-- A file that is opened for writing from the start is empty. -/
theorem openFresh_spec (t : FileTree) (path : String) :
    match t.openFresh path with
    | (.error _, t') => t' = t
    | (.ok file, t') => ∃ number, file = ⟨some number, false, 0⟩ ∧ Touches [path] t t' ∧
        t'.fileAt? path = some number ∧ t'.content number = [] := by
  unfold openFresh
  cases hfor : t.fileFor path with
  | error fault => rfl
  | ok result =>
      obtain ⟨number, t'⟩ := result
      obtain ⟨htouches, hfile, -, -⟩ := touches_fileFor hfor
      refine ⟨number, rfl, htouches.trans (touches_setContent hfile []), ?_, ?_⟩
      · rw [fileAt?_setContent, hfile]
      · rw [content_setContent _ (lt_of_fileAt? hfile), if_pos rfl]

/-- A file that is opened for writing at the end has the octets it had, or none if it is new. -/
theorem openAppend_spec (t : FileTree) (path : String) :
    match t.openAppend path with
    | (.error _, t') => t' = t
    | (.ok file, t') => ∃ number, file = ⟨some number, true, 0⟩ ∧ Touches [path] t t' ∧
        t'.fileAt? path = some number ∧ t'.content number = (t.octetsAt? path).getD [] ∧
          (t' = t ∨ t.octetsAt? path = none) := by
  unfold openAppend
  cases hfor : t.fileFor path with
  | error fault => rfl
  | ok result =>
      obtain ⟨number, t'⟩ := result
      exact ⟨number, rfl, touches_fileFor hfor⟩

theorem resolve_eq_file_iff :
    t.resolve path = .ok (name, .file number) ↔
      t.spot? path = some name ∧ t.entry? name = some (.file number) := by
  unfold resolve
  rw [spot?_eq_some_iff]
  constructor
  · intro h
    obtain ⟨parent, last, slash, hlocate, h⟩ := name_of_located h fun _ => nofun
    obtain ⟨hlong, h⟩ := ok_of_check h
    cases hentry : t.entry? (parent ++ [last]) with
    | none => simp [hentry] at h
    | some e =>
        cases e with
        | directory =>
            simp only [hentry] at h
            cases h
        | file other =>
            simp only [hentry] at h
            obtain ⟨hslash, h⟩ := ok_of_check h
            obtain ⟨rfl, hnumber⟩ := Prod.mk.inj (Except.ok.inj h)
            rw [Bool.eq_false_iff.2 hslash] at hlocate
            exact ⟨⟨parent, last, hlocate, hlong, rfl⟩, hentry.trans (congrArg some hnumber)⟩
  · rintro ⟨⟨parent, last, hlocate, hlong, rfl⟩, hentry⟩
    simp only [hlocate, bind, Except.bind, pure, Except.pure, hlong, if_false, hentry]
    rfl

theorem octetsAt?_of_isOk_resolve (h : (t.resolve path).isOk = false) : t.octetsAt? path = none := by
  cases hfile : t.fileAt? path with
  | none => rw [octetsAt?, hfile, Option.map_none]
  | some number =>
      obtain ⟨name, hname⟩ := fileAt?_eq_some_iff.1 hfile
      rw [resolve_eq_file_iff.2 hname] at h
      cases h

/-- A path that leads to a directory does so in every tree with the same directories. -/
theorem SameDirectories.resolve (hsame : SameDirectories t t')
    (h : t.resolve path = .ok (name, .directory)) : t'.resolve path = .ok (name, .directory) := by
  unfold FileTree.resolve at h ⊢
  obtain ⟨place, hlocate, h⟩ := ok_of_bind h
  rw [hsame.locate hlocate]
  cases place with
  | directory here => exact h
  | name parent last slash =>
      obtain ⟨hlong, h⟩ := ok_of_check h
      simp only [bind, Except.bind, hlong, if_false]
      cases hentry : t.entry? (parent ++ [last]) with
      | none => simp [hentry] at h
      | some e =>
          cases e with
          | directory =>
              rw [(hsame.directory_iff _).2 hentry]
              simpa [hentry] using h
          | file number =>
              simp only [hentry] at h
              cases (ok_of_check h).2

theorem SameDirectories.isOk_resolve (hsame : SameDirectories t t')
    (hfile : t'.fileAt? path = t.fileAt? path) : (t'.resolve path).isOk = (t.resolve path).isOk := by
  -- one direction for any two trees gives both
  have hone : ∀ {t t' : FileTree}, SameDirectories t t' → t'.fileAt? path = t.fileAt? path →
      (t.resolve path).isOk = true → (t'.resolve path).isOk = true := by
    intro t t' hsame hfile hok
    cases hresolve : t.resolve path with
    | error fault =>
        rw [hresolve] at hok
        cases hok
    | ok place =>
        obtain ⟨name, e⟩ := place
        cases e with
        | directory =>
            rw [hsame.resolve hresolve]
            rfl
        | file number =>
            have hnumber := fileAt?_eq_some_iff.2 ⟨name, resolve_eq_file_iff.1 hresolve⟩
            obtain ⟨other, hother⟩ := fileAt?_eq_some_iff.1 (hfile.trans hnumber)
            rw [resolve_eq_file_iff.2 hother]
            rfl
  rw [Bool.eq_iff_iff]
  exact ⟨hone hsame.symm hfile.symm, hone hsame hfile⟩

/-- A path leads nowhere if there is nothing where its file would stand. -/
theorem resolve_of_entry?_none (hspot : t.spot? path = some name) (hnone : t.entry? name = none) :
    (t.resolve path).isOk = false := by
  obtain ⟨parent, last, hlocate, hlong, rfl⟩ := spot?_eq_some_iff.1 hspot
  unfold resolve
  simp only [hlocate, bind, Except.bind, hlong, if_false, hnone]
  rfl

/-- A file that is opened for reading is read from its start. -/
theorem openRead_spec {file : OpenFile} (h : t.openRead path = .ok file) :
    file = ⟨t.fileAt? path, false, 0⟩ := by
  unfold openRead at h
  cases hresolve : t.resolve path with
  | error fault =>
      rw [hresolve] at h
      cases h
  | ok place =>
      obtain ⟨name, e⟩ := place
      rw [hresolve] at h
      cases e with
      | file number =>
          obtain rfl := Except.ok.inj h
          rw [fileAt?_eq_some_iff.2 ⟨name, resolve_eq_file_iff.1 hresolve⟩]
      | directory =>
          obtain rfl := Except.ok.inj h
          cases hfile : t.fileAt? path with
          | none => rfl
          | some number =>
              obtain ⟨other, hother⟩ := fileAt?_eq_some_iff.1 hfile
              have hclash := hresolve.symm.trans (resolve_eq_file_iff.2 hother)
              simp at hclash

theorem fileAt?_of_openRead_error {fault : IoFault} (h : t.openRead path = .error fault) :
    t.fileAt? path = none := by
  cases hfile : t.fileAt? path with
  | none => rfl
  | some number =>
      obtain ⟨name, hname⟩ := fileAt?_eq_some_iff.1 hfile
      rw [openRead, resolve_eq_file_iff.2 hname] at h
      cases h

/-- An open file that goes on at its end. -/
def Appends (t : FileTree) (file : OpenFile) (number : Nat) : Prop :=
  file.number = some number ∧ (file.atEnd = true ∨ file.offset = (t.content number).length)

/-- What is written at the end follows what is there. -/
theorem write_spec (hfile : t.fileAt? path = some number) {file : OpenFile}
    (happends : t.Appends file number) (bs : Bytes) :
    match t.write file bs with
    | ((result, file'), t') => result = .ok bs.length ∧ Touches [path] t t' ∧
        t'.fileAt? path = some number ∧ t'.content number = t.content number ++ bs ∧
          t'.Appends file' number := by
  obtain ⟨hnumber, hend⟩ := happends
  have hcontent := t.content_setContent (lt_of_fileAt? hfile) (t.content number ++ bs) number
  have hfile' := (fileAt?_setContent t path number (t.content number ++ bs)).trans hfile
  rw [if_pos rfl] at hcontent
  unfold write
  simp only [hnumber]
  by_cases hatEnd : file.atEnd = true
  · simp only [hatEnd, if_true]
    exact ⟨trivial, touches_setContent hfile _, hfile', hcontent, hnumber, Or.inl hatEnd⟩
  · have hoffset := hend.resolve_left hatEnd
    have hover : overwrite (t.content number) file.offset bs = t.content number ++ bs := by
      simp [overwrite, hoffset]
    simp only [hatEnd, hover, Bool.false_eq_true, if_false]
    refine ⟨trivial, touches_setContent hfile _, hfile', hcontent, rfl, Or.inr ?_⟩
    rw [hcontent, hoffset, List.length_append]

theorem rename_ok {oldName : List String} (hspot : t.spot? old = some oldName)
    (hentry : t.entry? oldName = some (.file number)) (h : t.rename old new = .ok t') :
    ∃ newName, t.spot? new = some newName ∧ t.entry? newName ≠ some .directory ∧
      (t.entry? newName = some (.file number) ∨ t' = (t.erase oldName).put newName (.file number)) := by
  obtain ⟨parent, last, hlocate, hlong, rfl⟩ := spot?_eq_some_iff.1 hspot
  unfold rename at h
  obtain ⟨_, hplace, h⟩ := ok_of_bind h
  obtain rfl := Except.ok.inj (hlocate.symm.trans hplace)
  obtain ⟨newPlace, hnewPlace, h⟩ := ok_of_bind h
  obtain ⟨⟨oldName, oldSlash⟩, hold, h⟩ := ok_of_bind h
  obtain ⟨⟨newName, newSlash⟩, hnew, h⟩ := ok_of_bind h
  rw [namedPlace, if_neg hlong] at hold
  obtain ⟨rfl, rfl⟩ := Prod.mk.inj (Except.ok.inj hold)
  simp only [hentry] at h
  obtain ⟨hslash, h⟩ := ok_of_check h
  obtain rfl : newSlash = false := by simpa using hslash
  refine ⟨newName, spot?_of_namedPlace hnewPlace hnew, ?_⟩
  cases hthere : t.entry? newName with
  | none =>
      simp only [hthere] at h
      exact ⟨by simp, Or.inr (Except.ok.inj h).symm⟩
  | some e =>
      cases e with
      | directory =>
          simp only [hthere] at h
          cases h
      | file other =>
          simp only [hthere] at h
          refine ⟨by simp, ?_⟩
          by_cases hsame : other = number
          · exact Or.inl (by rw [hsame])
          · rw [if_neg hsame] at h
            exact Or.inr (Except.ok.inj h).symm

/-- A file that is renamed is found at its new path, with the octets it had, and no longer at the old
    one. -/
theorem rename_spec (hfile : t.fileAt? old = some number)
    (hapart : ∀ name, t.spot? old = some name → t.spot? new ≠ some name)
    (h : t.rename old new = .ok t') :
    Touches [old, new] t t' ∧ t'.fileAt? new = some number ∧ t'.content number = t.content number ∧
      (t'.resolve old).isOk = false := by
  obtain ⟨oldName, hold, holdEntry⟩ := fileAt?_eq_some_iff.1 hfile
  obtain ⟨newName, hnew, hnewEntry, htree⟩ := rename_ok hold holdEntry h
  have hne : oldName ≠ newName := by
    rintro rfl
    exact hapart _ hold hnew
  -- no file has two names
  have htree := htree.resolve_left fun hsame => hne (eq_of_file holdEntry hsame)
  have hnone : (t.erase oldName).nameOf? number = none := by
    rw [nameOf?_erase, if_pos (nameOf?_of_file holdEntry)]
  have hlt : number < (t.erase oldName).stored.length := by
    simpa [erase] using lt_of_file holdEntry
  have hentry : ∀ other, t'.entry? other
      = if other = newName then some (.file number)
        else if other = oldName then none else t.entry? other := by
    intro other
    rw [htree, entry?_put_file _ (spot?_ne_nil hnew) hlt hnone, entry?_erase _ (spot?_ne_nil hold)]
  have hcontent : ∀ m, t'.content m = t.content m := by
    intro m
    rw [htree, content_put_file, content_erase]
  have hsame : SameDirectories t t' := by
    refine ⟨by rw [htree]; rfl, fun other => ?_⟩
    rw [hentry]
    split_ifs with hn ho
    · rw [hn]
      exact ⟨fun hd => (by cases hd), fun hd => absurd hd hnewEntry⟩
    · rw [ho, holdEntry]
      simp
    · exact Iff.rfl
  refine ⟨⟨hsame, fun other hother => ?_⟩, ?_, hcontent number, ?_⟩
  · have hn : other ≠ newName := by
      intro hn
      exact hother new (by simp) (hn ▸ hnew)
    have ho : other ≠ oldName := by
      intro ho
      exact hother old (by simp) (ho ▸ hold)
    exact ⟨by rw [hentry, if_neg hn, if_neg ho], fun m _ => hcontent m⟩
  · exact fileAt?_eq_some_iff.2 ⟨newName, (hsame.spot? new).trans hnew, by rw [hentry, if_pos rfl]⟩
  · exact resolve_of_entry?_none ((hsame.spot? old).trans hold) (by rw [hentry, if_neg hne, if_pos rfl])

theorem remove_ok (h : t.remove path = .ok t') :
    ∃ name number, t.spot? path = some name ∧ t.entry? name = some (.file number) ∧
      t' = t.erase name := by
  unfold remove at h
  obtain ⟨parent, last, slash, hlocate, h⟩ := name_of_located h fun _ => nofun
  obtain ⟨hlong, h⟩ := ok_of_check h
  cases hentry : t.entry? (parent ++ [last]) with
  | none => simp [hentry] at h
  | some e =>
      cases e with
      | directory => simp [hentry] at h
      | file number =>
          simp only [hentry] at h
          obtain ⟨hslash, h⟩ := ok_of_check h
          rw [Bool.eq_false_iff.2 hslash] at hlocate
          exact ⟨_, number, spot?_eq_some_iff.2 ⟨parent, last, hlocate, hlong, rfl⟩, hentry,
            (Except.ok.inj h).symm⟩

theorem remove_spec (h : t.remove path = .ok t') :
    Touches [path] t t' ∧ (t'.resolve path).isOk = false := by
  obtain ⟨name, number, hspot, hname, rfl⟩ := remove_ok h
  have hentry := t.entry?_erase (spot?_ne_nil hspot)
  have hsame : SameDirectories t (t.erase name) := by
    refine ⟨rfl, fun other => ?_⟩
    rw [hentry]
    split_ifs with hother
    · rw [hother, hname]
      simp
    · exact Iff.rfl
  refine ⟨⟨hsame, fun other hother => ?_⟩, ?_⟩
  · have hne : other ≠ name := by
      intro hne
      exact hother path List.mem_cons_self (hne ▸ hspot)
    exact ⟨by rw [hentry, if_neg hne], fun m _ => content_erase t name m⟩
  · exact resolve_of_entry?_none ((hsame.spot? path).trans hspot) (by rw [hentry, if_pos rfl])

/-- There is nothing at a path that is not found when it is removed. -/
theorem resolve_of_remove_notFound {fault : IoFault} (h : t.remove path = .error fault)
    (hkind : fault.kind = .notFound) : (t.resolve path).isOk = false := by
  unfold remove at h
  unfold resolve
  cases hlocate : t.locate path with
  | error other => rfl
  | ok place =>
      cases place with
      | directory here =>
          rw [hlocate] at h
          cases h
          exact absurd hkind (by decide)
      | name parent last slash =>
          simp only [hlocate, bind, Except.bind, throw, throwThe, MonadExceptOf.throw, pure,
            Except.pure] at h ⊢
          by_cases hlong : 255 < last.utf8ByteSize
          · rw [if_pos hlong]
            rfl
          · rw [if_neg hlong] at h ⊢
            cases hentry : t.entry? (parent ++ [last]) with
            | none => rfl
            | some e =>
                cases e with
                | directory =>
                    simp only [hentry, Except.error.injEq] at h
                    subst h
                    exact absurd hkind (by decide)
                | file number =>
                    cases slash with
                    | true => rfl
                    | false => simp [hentry] at h

end Operations

/-! ## Where files can stand -/

/-- Whether a file can stand at a path: the path leads to a name, and no directory has it. -/
def TakesFile (t : FileTree) (path : String) : Prop :=
  ∃ name, t.spot? path = some name ∧ t.entry? name ≠ some .directory

section TakesFile

variable {path old new : String} {name : List String} {number : Nat}

theorem exists_fileFor_iff :
    (∃ number t', t.fileFor path = .ok (number, t')) ↔ t.TakesFile path := by
  constructor
  · rintro ⟨number, t', h⟩
    obtain ⟨name, hspot, ⟨hentry, -⟩ | ⟨hnone, -⟩⟩ := fileFor_ok h
    · exact ⟨name, hspot, by simp [hentry]⟩
    · exact ⟨name, hspot, by simp [hnone]⟩
  · rintro ⟨name, hspot, hfree⟩
    obtain ⟨parent, last, hlocate, hlong, rfl⟩ := spot?_eq_some_iff.1 hspot
    unfold fileFor
    simp only [hlocate, bind, Except.bind, hlong, if_false]
    cases hthere : t.entry? (parent ++ [last]) with
    | none => exact ⟨_, _, rfl⟩
    | some e =>
        cases e with
        | directory => exact absurd hthere hfree
        | file other => exact ⟨_, _, rfl⟩

theorem not_takesFile_of_openFresh {fault : IoFault} (h : t.openFresh path = (.error fault, t')) :
    ¬t.TakesFile path := by
  rw [← exists_fileFor_iff]
  rintro ⟨number, t'', hfor⟩
  unfold openFresh at h
  rw [hfor] at h
  cases (Prod.mk.inj h).1

theorem takesFile_of_octetsAt? {bs : Bytes} (h : t.octetsAt? path = some bs) : t.TakesFile path := by
  obtain ⟨number, hfile, -⟩ := Option.map_eq_some_iff.1 h
  obtain ⟨name, hspot, hentry⟩ := fileAt?_eq_some_iff.1 hfile
  exact ⟨name, hspot, by simp [hentry]⟩

theorem Touches.takesFile_iff {paths : List String} (h : Touches paths t t') :
    t'.TakesFile path ↔ t.TakesFile path := by
  simp only [TakesFile, h.same.spot?, ne_eq, h.same.directory_iff]

end TakesFile

end SteadyFetch.FileTree
