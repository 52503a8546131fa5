import Mathlib.Data.List.DropRight
import Mathlib.Data.List.SplitBy
import SteadyFetch.Proofs.After
import SteadyFetch.Storage.Destination
import SteadyFetch.Storage.FileTree

set_option autoImplicit false

/-! # Where files stand

A file stands under one name at most (`FileTree.eq_of_file`), so what is done to the file of one name
never shows under another. A file is known by its path. `spot?` is the name at which a file of some path stands,
whether or not it is there; it depends on directories alone (`SameDirectories.spot?`), which no operation on
files changes, and paths whose last components differ never share one (`spot?_append_ne`). -/

namespace SteadyFetch.FileTree

/-! ## Entries and contents -/

variable {t t' t'' : FileTree}

/-- The name under which a file stands. -/
def nameOf? (t : FileTree) (number : Nat) : Option (List String) := t.stored[number]?.bind StoredFile.name

theorem lt_of_nameOf? {number : Nat} {name : List String} (h : t.nameOf? number = some name) :
    number < t.stored.length := by
  obtain ⟨file, hfile, -⟩ := Option.bind_eq_some_iff.1 h
  exact (List.getElem?_eq_some_iff.1 hfile).1

/-- What stands under a name is the first file that has it. -/
theorem number?_eq_some_iff {name : List String} {number : Nat} :
    t.number? name = some number ↔
      t.nameOf? number = some name ∧ ∀ earlier < number, t.nameOf? earlier ≠ some name := by
  have hname : ∀ (m : Nat) (hm : m < t.stored.length),
      t.nameOf? m = some name ↔ (t.stored[m].name == some name) = true := by
    intro m hm
    rw [nameOf?, List.getElem?_eq_getElem hm, Option.bind_some, beq_iff_eq]
  rw [number?, List.findIdx?_eq_some_iff_getElem]
  constructor
  · intro ⟨hlt, hfound, hfirst⟩
    refine ⟨(hname number hlt).2 hfound, fun earlier hearlier => ?_⟩
    rw [ne_eq, hname earlier (by omega)]
    exact hfirst earlier hearlier
  · intro ⟨hfound, hfirst⟩
    have hlt := lt_of_nameOf? hfound
    refine ⟨hlt, (hname number hlt).1 hfound, fun earlier hearlier => ?_⟩
    rw [← hname earlier (by omega)]
    exact hfirst earlier hearlier

theorem number?_congr {name : List String}
    (h : ∀ number, t'.nameOf? number = some name ↔ t.nameOf? number = some name) :
    t'.number? name = t.number? name := by
  ext number
  rw [number?_eq_some_iff, number?_eq_some_iff, h]
  simp only [ne_eq, h]

/-- The root is always there. -/
theorem entry?_nil (t : FileTree) : t.entry? [] = some .directory := rfl

theorem entry?_of_ne_nil (t : FileTree) {name : List String} (hname : name ≠ []) :
    t.entry? name = if name ∈ t.directories then some .directory else (t.number? name).map .file := by
  unfold entry?
  simp [hname]

theorem nameOf?_of_file {name : List String} {number : Nat} (h : t.entry? name = some (.file number)) :
    t.nameOf? number = some name := by
  unfold entry? at h
  split at h
  · cases h
  · obtain ⟨found, hfound, hsame⟩ := Option.map_eq_some_iff.1 h
    obtain rfl := Entry.file.inj hsame
    exact (number?_eq_some_iff.1 hfound).1

theorem lt_of_file {name : List String} {number : Nat} (h : t.entry? name = some (.file number)) :
    number < t.stored.length :=
  lt_of_nameOf? (nameOf?_of_file h)

/-- No file stands under two names. -/
theorem eq_of_file {name other : List String} {number : Nat} (h : t.entry? name = some (.file number))
    (h' : t.entry? other = some (.file number)) : name = other :=
  Option.some.inj ((nameOf?_of_file h).symm.trans (nameOf?_of_file h'))

theorem nameOf?_erase (t : FileTree) (name : List String) (number : Nat) :
    (t.erase name).nameOf? number = if t.nameOf? number = some name then none else t.nameOf? number := by
  unfold nameOf? erase
  rw [List.getElem?_map]
  cases t.stored[number]? with
  | none => simp
  | some file => by_cases hname : file.name = some name <;> simp [hname]

theorem entry?_erase (t : FileTree) {name : List String} (hname : name ≠ []) (other : List String) :
    entry? (t.erase name) other = if other = name then none else t.entry? other := by
  by_cases hroot : other = []
  · rw [hroot, if_neg (Ne.symm hname), entry?_nil, entry?_nil]
  rw [entry?_of_ne_nil _ hroot, entry?_of_ne_nil _ hroot]
  by_cases hother : other = name
  · have hnone : (t.erase name).number? name = none := by
      rw [Option.eq_none_iff_forall_ne_some]
      intro number hnumber
      have hnamed := (number?_eq_some_iff.1 hnumber).1
      rw [nameOf?_erase] at hnamed
      split_ifs at hnamed with hsame
      exact hsame hnamed
    rw [hother, hnone]
    simp [erase]
  · have hsame : (t.erase name).number? other = t.number? other := by
      refine number?_congr fun number => ?_
      rw [nameOf?_erase]
      split_ifs with hnamed
      · simp [hnamed, Ne.symm hother]
      · exact Iff.rfl
    rw [hsame]
    simp [erase, hother]

/-- Naming a file that has no name changes what stands under that name, and nothing else. -/
theorem entry?_put_file (t : FileTree) {name : List String} (hname : name ≠ []) {number : Nat}
    (hlt : number < t.stored.length) (hnone : t.nameOf? number = none) (other : List String) :
    entry? (t.put name (.file number)) other = if other = name then some (.file number) else t.entry? other := by
  have hnamed : ∀ m, (t.put name (.file number)).nameOf? m =
      if m = number then some name else (t.erase name).nameOf? m := by
    intro m
    simp only [nameOf?, put, erase, List.getElem?_modify, List.getElem?_map]
    by_cases hm : number = m
    · subst hm
      simp [hlt]
    · simp [hm, Ne.symm hm]
  by_cases hroot : other = []
  · rw [hroot, if_neg (Ne.symm hname), entry?_nil, entry?_nil]
  by_cases hother : other = name
  · have hnumber : (t.put name (.file number)).number? name = some number := by
      rw [number?_eq_some_iff, hnamed, if_pos rfl]
      refine ⟨rfl, fun earlier hearlier => ?_⟩
      rw [hnamed, if_neg (Nat.ne_of_lt hearlier), nameOf?_erase]
      split_ifs with hsame
      · simp
      · exact hsame
    rw [hother, if_pos rfl, entry?_of_ne_nil _ hname, hnumber]
    simp [put, erase]
  · rw [if_neg hother, ← if_neg (c := other = name) (t := none) (e := t.entry? other) hother,
      ← t.entry?_erase hname, entry?_of_ne_nil _ hroot, entry?_of_ne_nil _ hroot]
    have hsame : (t.put name (.file number)).number? other = (t.erase name).number? other := by
      refine number?_congr fun m => ?_
      rw [hnamed]
      split_ifs with hm
      · subst hm
        simp [nameOf?_erase, hnone, Ne.symm hother]
      · exact Iff.rfl
    rw [hsame]
    rfl

theorem entry?_congr (hdirectories : t'.directories = t.directories)
    (hnames : ∀ number, t'.nameOf? number = t.nameOf? number) (name : List String) :
    t'.entry? name = t.entry? name := by
  have hnumber : t'.number? name = t.number? name := number?_congr fun number => by rw [hnames]
  unfold entry?
  rw [hdirectories, hnumber]

theorem entry?_addFile (t : FileTree) {name : List String} (hname : name ≠ []) (other : List String) :
    entry? (t.addFile name).2 other =
      if other = name then some (.file t.stored.length) else t.entry? other := by
  -- a file without a name is found nowhere
  have hnames : ∀ number, FileTree.nameOf? { t with stored := t.stored ++ [⟨none, []⟩] } number = t.nameOf? number := by
    intro number
    unfold nameOf?
    rcases Nat.lt_trichotomy number t.stored.length with hlt | rfl | hgt
    · rw [List.getElem?_append_left hlt]
    · simp
    · rw [List.getElem?_eq_none (by simpa using Nat.succ_le_of_lt hgt), List.getElem?_eq_none (Nat.le_of_lt hgt)]
  have hnone : t.nameOf? t.stored.length = none := by simp [nameOf?]
  rw [addFile, entry?_put_file _ hname (by simp) ((hnames _).trans hnone)]
  refine if_congr Iff.rfl rfl ?_
  refine entry?_congr ?_ hnames other
  rfl

@[simp] theorem entry?_setContent (t : FileTree) (number : Nat) (bs : Bytes) (name : List String) :
    entry? (t.setContent number bs) name = t.entry? name := by
  refine entry?_congr (by rfl) (fun other => ?_) name
  unfold nameOf? setContent
  rw [List.getElem?_modify]
  cases t.stored[other]? with
  | none => simp
  | some file => by_cases hsame : number = other <;> simp [hsame]

theorem content_setContent (t : FileTree) {number : Nat} (hlt : number < t.stored.length) (bs : Bytes)
    (other : Nat) :
    (t.setContent number bs).content other = if other = number then bs else t.content other := by
  unfold content setContent
  rw [List.getElem?_modify]
  by_cases hsame : other = number
  · subst hsame
    simp [hlt]
  · simp [hsame, Ne.symm hsame]

@[simp] theorem content_erase (t : FileTree) (name : List String) (number : Nat) :
    (t.erase name).content number = t.content number := by
  unfold content erase
  rw [List.getElem?_map]
  cases t.stored[number]? with
  | none => rfl
  | some file => by_cases hname : file.name = some name <;> simp [hname]

@[simp] theorem content_put_file (t : FileTree) (name : List String) (number other : Nat) :
    (t.put name (.file number)).content other = t.content other := by
  rw [← content_erase t name other]
  unfold content put
  rw [List.getElem?_modify]
  cases (t.erase name).stored[other]? with
  | none => rfl
  | some file => by_cases hsame : number = other <;> simp [hsame]

theorem content_addFile (t : FileTree) (name : List String) (number : Nat) :
    (t.addFile name).2.content number = t.content number := by
  rw [addFile, content_put_file]
  unfold content
  rcases Nat.lt_trichotomy number t.stored.length with hlt | rfl | hgt
  · rw [List.getElem?_append_left hlt]
  · simp
  · rw [List.getElem?_eq_none (by simpa using Nat.succ_le_of_lt hgt), List.getElem?_eq_none (Nat.le_of_lt hgt)]

/-! ## Paths -/

/-- Why a path is refused at sight. -/
def refusal? (path : String) : Option IoFault :=
  if path.toList.contains '\x00' then some .nulInPath
  else if path.isEmpty then some .noEntry
  else if maxPath < path.utf8ByteSize then some .nameTooLong
  else none

/-- The directory at which a path begins. -/
def start (t : FileTree) (path : String) : List String :=
  if path.toList.head? == some '/' then [] else t.workingDirectory

/-- Where the last piece of a path leads from the directory before it. -/
def placeFrom (path last : String) (parent : List String) : Place :=
  if last = "." then .directory parent
  else if last = ".." then .directory parent.dropLast
  else .name parent last (path.toList.getLast? == some '/')

theorem locate_eq (t : FileTree) (path : String) :
    t.locate path = match refusal? path with
      | some fault => .error fault
      | none =>
        match (pieces path).reverse with
        | [] => .ok (.directory (t.start path))
        | last :: before => (t.walk (t.start path) before.reverse).map (placeFrom path last) := by
  unfold locate refusal?
  by_cases hnul : path.toList.contains '\x00' = true
  · simp only [hnul, if_true]
    rfl
  by_cases hempty : path.isEmpty = true
  · simp only [hnul, hempty, if_true]
    rfl
  by_cases hlong : maxPath < path.utf8ByteSize
  · simp only [hnul, hempty, hlong, if_true]
    rfl
  simp only [hnul, hempty, hlong]
  show (match (pieces path).reverse with
    | [] => Except.ok (Place.directory (t.start path))
    | last :: before => do
      let parent ← t.walk (t.start path) before.reverse
      if last = "." then return .directory parent
      else if last = ".." then return .directory parent.dropLast
      else return .name parent last (path.toList.getLast? == some '/')) = _
  cases (pieces path).reverse with
  | nil => rfl
  | cons last before =>
      simp only
      cases t.walk (t.start path) before.reverse with
      | error fault => rfl
      | ok parent =>
          show (if last = "." then Except.ok (Place.directory parent)
            else if last = ".." then Except.ok (Place.directory parent.dropLast)
            else Except.ok (Place.name parent last (path.toList.getLast? == some '/'))) = _
          by_cases hdot : last = "."
          · simp [Except.map, placeFrom, hdot]
          · by_cases hdots : last = ".." <;> simp [Except.map, placeFrom, hdot, hdots]

/-! ## Directories stay -/

theorem name_of_located {α : Type} {path : String} {k : Place → Except IoFault α} {a : α}
    (h : t.locate path >>= k = .ok a) (hdirectory : ∀ here, k (.directory here) ≠ .ok a) :
    ∃ parent last slash, t.locate path = .ok (.name parent last slash) ∧
      k (.name parent last slash) = .ok a := by
  obtain ⟨place, hlocate, h⟩ := ok_of_bind h
  cases place with
  | directory here => exact absurd h (hdirectory here)
  | name parent last slash => exact ⟨parent, last, slash, hlocate, h⟩

/-- Whether two trees have the same directories. -/
structure SameDirectories (t t' : FileTree) : Prop where
  workingDirectory_eq : t'.workingDirectory = t.workingDirectory
  directory_iff : ∀ name, t'.entry? name = some .directory ↔ t.entry? name = some .directory

namespace SameDirectories

theorem refl : SameDirectories t t := ⟨rfl, fun _ => Iff.rfl⟩

theorem symm (h : SameDirectories t t') : SameDirectories t' t :=
  ⟨h.workingDirectory_eq.symm, fun name => (h.directory_iff name).symm⟩

theorem trans (h : SameDirectories t t') (h' : SameDirectories t' t'') : SameDirectories t t'' :=
  ⟨h'.workingDirectory_eq.trans h.workingDirectory_eq,
    fun name => (h'.directory_iff name).trans (h.directory_iff name)⟩

theorem stepInto (h : SameDirectories t t') {here next : List String} {piece : String}
    (hstep : t.stepInto here piece = .ok next) : t'.stepInto here piece = .ok next := by
  unfold FileTree.stepInto at hstep ⊢
  split_ifs at hstep ⊢ with hdot hdots hlong
  · exact hstep
  · exact hstep
  · cases hentry : t.entry? (here ++ [piece]) with
    | none =>
        rw [hentry] at hstep
        cases hstep
    | some e =>
        cases e with
        | file number =>
            rw [hentry] at hstep
            cases hstep
        | directory =>
            rw [hentry] at hstep
            rw [(h.directory_iff _).2 hentry]
            exact hstep

theorem walk (h : SameDirectories t t') {pieces : List String} {here there : List String}
    (hwalk : t.walk here pieces = .ok there) : t'.walk here pieces = .ok there := by
  induction pieces generalizing here with
  | nil => exact hwalk
  | cons piece pieces ih =>
      rw [FileTree.walk] at hwalk ⊢
      obtain ⟨next, hstep, hrest⟩ := ok_of_bind hwalk
      rw [h.stepInto hstep]
      exact ih hrest

end SameDirectories

theorem SameDirectories.locate (h : SameDirectories t t') {path : String} {place : Place}
    (hlocate : t.locate path = .ok place) : t'.locate path = .ok place := by
  have hstart : t'.start path = t.start path := by
    unfold start
    rw [h.workingDirectory_eq]
  rw [locate_eq] at hlocate ⊢
  rw [hstart]
  cases hrefusal : refusal? path with
  | some fault =>
      rw [hrefusal] at hlocate
      cases hlocate
  | none =>
      rw [hrefusal] at hlocate
      cases hpieces : (pieces path).reverse with
      | nil =>
          rw [hpieces] at hlocate
          exact hlocate
      | cons last before =>
          simp only [hpieces] at hlocate ⊢
          cases hwalk : t.walk (t.start path) before.reverse with
          | error fault =>
              rw [hwalk] at hlocate
              cases hlocate
          | ok parent =>
              rw [hwalk] at hlocate
              rw [h.walk hwalk]
              exact hlocate

/-! ## Where files stand -/

/-- The name at which a file of the path stands, whether or not it is there. A path that ends with a
    slash is none of a file. -/
def spot? (t : FileTree) (path : String) : Option (List String) :=
  match t.locate path with
  | .ok (.name parent last false) => if 255 < last.utf8ByteSize then none else some (parent ++ [last])
  | _ => none

theorem spot?_eq_some_iff {path : String} {name : List String} :
    t.spot? path = some name ↔ ∃ parent last, t.locate path = .ok (.name parent last false) ∧
      ¬255 < last.utf8ByteSize ∧ name = parent ++ [last] := by
  unfold spot?
  constructor
  · intro h
    split at h
    · next parent last hlocate =>
      by_cases hlong : 255 < last.utf8ByteSize
      · simp [hlong] at h
      · simp only [hlong, if_false, Option.some.injEq] at h
        exact ⟨parent, last, hlocate, hlong, h.symm⟩
    · cases h
  · rintro ⟨parent, last, hlocate, hlong, rfl⟩
    simp only [hlocate, hlong, if_false]

/-- The name at which a path would be found, without a slash after it, is that of its file. -/
theorem spot?_of_namedPlace {path : String} {place : Place} {name : List String}
    (hlocate : t.locate path = .ok place) (h : namedPlace place = .ok (name, false)) :
    t.spot? path = some name := by
  cases place with
  | directory here => cases h
  | name parent last slash =>
      obtain ⟨hlong, h⟩ := ok_of_check h
      obtain ⟨rfl, rfl⟩ := Prod.mk.inj (Except.ok.inj h)
      exact spot?_eq_some_iff.2 ⟨parent, last, hlocate, hlong, rfl⟩

theorem spot?_ne_nil {path : String} {name : List String} (h : t.spot? path = some name) : name ≠ [] := by
  obtain ⟨parent, last, -, -, rfl⟩ := spot?_eq_some_iff.1 h
  simp

theorem SameDirectories.spot? (h : SameDirectories t t') (path : String) :
    t'.spot? path = t.spot? path := by
  ext name
  rw [spot?_eq_some_iff, spot?_eq_some_iff]
  constructor
  · rintro ⟨parent, last, hlocate, hrest⟩
    exact ⟨parent, last, h.symm.locate hlocate, hrest⟩
  · rintro ⟨parent, last, hlocate, hrest⟩
    exact ⟨parent, last, h.locate hlocate, hrest⟩

theorem isChain_of_clean (a : Char) {cs : List Char} (h : ∀ c ∈ cs, c ≠ '/') :
    (a :: cs).IsChain fun _ b => (b != '/') = true := by
  induction cs generalizing a with
  | nil => simp
  | cons c cs ih =>
      rw [List.isChain_cons_cons]
      exact ⟨by simpa using h c List.mem_cons_self, ih c fun d hd => h d (List.mem_cons_of_mem _ hd)⟩

theorem getLast?_pieces {path : String} (hslash : path.toList.getLast? ≠ some '/') (hne : path ≠ "") :
    (pieces path).getLast? = some (String.ofList (lastComponent path.toList)) := by
  have hclean : ∀ c ∈ lastComponent path.toList, c ≠ '/' := by
    intro c hc
    simpa using List.mem_rtakeWhile_imp (p := (· != '/')) hc
  have hlast : lastComponent path.toList ≠ [] := by
    intro hnil
    have hall := List.rtakeWhile_eq_nil_iff (p := (· != '/')).1 hnil
    have hchars : path.toList ≠ [] := by
      intro hnil
      exact hne (String.toList_inj.1 hnil)
    have hc := hall hchars
    rw [bne_iff_ne, not_not] at hc
    rw [List.getLast?_eq_some_getLast hchars, hc] at hslash
    exact hslash rfl
  have hsplit : path.toList.rdropWhile (· != '/') ++ lastComponent path.toList = path.toList :=
    List.rdropWhile_append_rtakeWhile
  generalize lastComponent path.toList = last at hclean hlast hsplit ⊢
  have hkept : last.filter (· != '/') = last :=
    List.filter_eq_self.2 fun c hc => by simpa using hclean c hc
  -- the group of the last component, with the slash before it if there is one
  obtain ⟨before, group, hgroups, hgroup⟩ : ∃ before group,
      path.toList.splitBy (fun _ b => b != '/') = before ++ [group] ∧ group.filter (· != '/') = last := by
    rcases List.eq_nil_or_concat (path.toList.rdropWhile (· != '/')) with hnil | ⟨before, c, hfolder⟩
    · rw [hnil, List.nil_append] at hsplit
      refine ⟨[], last, ?_, hkept⟩
      rw [← hsplit]
      obtain ⟨a, cs, rfl⟩ := List.exists_cons_of_ne_nil hlast
      exact List.splitBy_of_isChain hlast
        (isChain_of_clean a fun d hd => hclean d (List.mem_cons_of_mem _ hd))
    · rw [List.concat_eq_append] at hfolder
      have hc : c = '/' := by
        have hstop := List.rdropWhile_last_not (· != '/') path.toList (by simp [hfolder])
        simpa [hfolder] using hstop
      refine ⟨before.splitBy fun _ b => b != '/', '/' :: last, ?_, ?_⟩
      · rw [← hsplit, hfolder, hc, List.append_assoc, List.singleton_append,
          List.splitBy_append_cons _ (by simp),
          List.splitBy_of_isChain (by simp) (isChain_of_clean '/' hclean)]
      · rw [List.filter_cons_of_neg (by simp), hkept]
  have hname : String.ofList last ≠ "" := by
    intro hempty
    exact hlast (by simpa using congrArg String.toList hempty)
  rw [pieces, hgroups, List.map_append, List.filter_append, List.map_singleton, hgroup,
    List.filter_cons_of_pos (by simpa using hname), List.filter_nil, List.getLast?_concat]

theorem getLast?_of_spot? {path : String} {name : List String} (h : t.spot? path = some name) :
    name.getLast? = some (String.ofList (lastComponent path.toList)) := by
  obtain ⟨parent, last, hlocate, -, rfl⟩ := spot?_eq_some_iff.1 h
  rw [locate_eq] at hlocate
  cases hrefusal : refusal? path with
  | some fault =>
      rw [hrefusal] at hlocate
      cases hlocate
  | none =>
      have hne : path ≠ "" := by
        rintro rfl
        cases hrefusal
      cases hpieces : (pieces path).reverse with
      | nil =>
          simp only [hrefusal, hpieces] at hlocate
          cases hlocate
      | cons piece before =>
          simp only [hrefusal, hpieces] at hlocate
          cases hwalk : t.walk (t.start path) before.reverse with
          | error fault =>
              rw [hwalk] at hlocate
              cases hlocate
          | ok here =>
              rw [hwalk] at hlocate
              simp only [Except.map, placeFrom, Except.ok.injEq] at hlocate
              split_ifs at hlocate
              obtain ⟨rfl, rfl, hslash⟩ := Place.name.inj hlocate
              have hlast := getLast?_pieces (by simpa using hslash) hne
              rw [← hlast, List.getLast?_concat, List.getLast?_eq_head?_reverse, hpieces]
              rfl

theorem lastComponent_append (path : List Char) {ending : List Char} (h : ∀ c ∈ ending, c ≠ '/') :
    lastComponent (path ++ ending) = lastComponent path ++ ending := by
  have hall : ∀ c ∈ ending.reverse, (c != '/') = true := fun c hc => by
    simpa using h c (List.mem_reverse.1 hc)
  rw [lastComponent, List.reverse_append, List.takeWhile_append_of_pos hall, List.reverse_append,
    List.reverse_reverse]
  rfl

/-- Paths that only differ in how their last components end are those of different files. -/
theorem spot?_append_ne {path u v : String} {name : List String} (hu : ∀ c ∈ u.toList, c ≠ '/')
    (hv : ∀ c ∈ v.toList, c ≠ '/') (hne : u ≠ v) (h : t.spot? (path ++ u) = some name) :
    t.spot? (path ++ v) ≠ some name := by
  intro h'
  have hlast := (getLast?_of_spot? h).symm.trans (getLast?_of_spot? h')
  rw [Option.some.injEq, String.ofList_inj, String.toList_append, String.toList_append,
    lastComponent_append _ hu, lastComponent_append _ hv, List.append_cancel_left_eq,
    String.toList_inj] at hlast
  exact hne hlast

/-- The number of the file at a path. -/
def fileAt? (t : FileTree) (path : String) : Option Nat :=
  match t.spot? path with
  | none => none
  | some name =>
    match t.entry? name with
    | some (.file number) => some number
    | _ => none

/-- The octets of the file at a path. -/
def octetsAt? (t : FileTree) (path : String) : Option Bytes := (t.fileAt? path).map t.content

theorem fileAt?_eq_some_iff {path : String} {number : Nat} :
    t.fileAt? path = some number ↔
      ∃ name, t.spot? path = some name ∧ t.entry? name = some (.file number) := by
  unfold fileAt?
  constructor
  · intro h
    split at h
    · cases h
    · next name hspot =>
      refine ⟨name, hspot, ?_⟩
      split at h
      · next other hentry =>
        cases h
        exact hentry
      · cases h
  · rintro ⟨name, hspot, hentry⟩
    simp only [hspot, hentry]

theorem fileAt?_of_spot? {path : String} {name : List String} (h : t.spot? path = some name) :
    t.fileAt? path = match t.entry? name with
      | some (.file number) => some number
      | _ => none := by
  unfold fileAt?
  rw [h]

theorem octetsAt?_of_no_files (h : ∀ name number, t.entry? name ≠ some (.file number)) (path : String) :
    t.octetsAt? path = none := by
  cases hfile : t.fileAt? path with
  | none => rw [octetsAt?, hfile, Option.map_none]
  | some number =>
      obtain ⟨name, -, hentry⟩ := fileAt?_eq_some_iff.1 hfile
      exact absurd hentry (h name number)

theorem entry?_empty_ne_file (name : List String) (number : Nat) :
    empty.entry? name ≠ some (.file number) := by
  unfold entry?
  by_cases hroot : name = []
  · simp [hroot]
  · simp [hroot, empty, number?]

end SteadyFetch.FileTree
