import SteadyFetch.Http.Head
import SteadyFetch.Proofs.Text

set_option autoImplicit false

/-! # Which header lines name a range

`ContentRange.Spelled` is the grammar of a `Content-Range` value. A value that was trimmed is read exactly where
it is spelled like that (`ContentRange.parse?_trim_eq_some_iff`): the splits at the first slash and at the first
hyphen are the only ones there are, since a numeral holds neither. Of the lines of a head only the first one
of the name counts (`contentRangeOf?_reads`). -/

namespace SteadyFetch

/-! ## Numerals -/

namespace Numeral

/-- Whether a text is a decimal numeral of a number of sixty-four bits: one digit or more, leading zeros or
    not, after a plus sign or none. -/
def Names (cs : List Char) (n : Nat) : Prop :=
  n < Word.limit64 ∧ ∃ sign ∈ [[], ['+']], ∃ ds, cs = sign ++ ds ∧ ds ≠ [] ∧ (∀ c ∈ ds, c.isDigit) ∧
    Nat.ofDigitChars 10 ds 0 = n

theorem digits?_eq_some_iff {cs : List Char} {acc n : Nat} :
    digits? cs acc = some n ↔ (∀ c ∈ cs, c.isDigit) ∧ Nat.ofDigitChars 10 cs acc = n := by
  by_cases hall : ∀ c ∈ cs, c.isDigit
  · rw [digits?_of_all_isDigit hall, Option.some.injEq]
    exact ⟨fun hn => ⟨hall, hn⟩, And.right⟩
  · have hnone : digits? cs acc = none := by
      induction cs generalizing acc with
      | nil => simp at hall
      | cons c cs ih =>
          rw [digits?]
          split_ifs with hc
          · exact ih fun hcs => hall (List.forall_mem_cons.2 ⟨hc, hcs⟩)
          · rfl
    rw [hnone]
    exact iff_of_false (by simp) fun h => hall h.1

theorem magnitude?_eq_some_iff {cs : List Char} {n : Nat} :
    magnitude? cs = some n ↔ cs ≠ [] ∧ (∀ c ∈ cs, c.isDigit) ∧ Nat.ofDigitChars 10 cs 0 = n := by
  cases cs with
  | nil => simp [magnitude?]
  | cons c cs =>
      rw [magnitude?, digits?_eq_some_iff]
      · simp
      · simp

theorem nat?_eq_some_iff {cs : List Char} {n : Nat} :
    nat? cs = some n ↔ ∃ sign ∈ [[], ['+']], ∃ ds, cs = sign ++ ds ∧ ds ≠ [] ∧ (∀ c ∈ ds, c.isDigit) ∧
      Nat.ofDigitChars 10 ds 0 = n := by
  simp only [List.mem_cons, List.not_mem_nil, or_false, exists_eq_or_imp, exists_eq_left, List.nil_append,
    List.singleton_append]
  unfold nat?
  split
  · next rest =>
    -- the sign is no digit, so it cannot be part of the number
    rw [magnitude?_eq_some_iff]
    constructor
    · intro h
      exact Or.inr ⟨rest, rfl, h⟩
    · rintro (⟨ds, hds, -, hdigits, -⟩ | ⟨ds, hds, h⟩)
      · rw [← hds] at hdigits
        exact absurd (hdigits '+' List.mem_cons_self) (by decide)
      · rw [(List.cons.inj hds).2]
        exact h
  · next hsign =>
    rw [magnitude?_eq_some_iff]
    constructor
    · intro h
      exact Or.inl ⟨cs, rfl, h⟩
    · rintro (⟨ds, rfl, h⟩ | ⟨ds, rfl, -⟩)
      · exact h
      · exact absurd rfl (hsign ds)

theorem u64?_eq_some_iff {cs : List Char} {n : Nat} : u64? cs = some n ↔ Names cs n := by
  rw [u64?, below?, Option.filter_eq_some_iff, nat?_eq_some_iff, decide_eq_true_eq, and_comm]
  rfl

theorem names_repr {n : Nat} (h : n < Word.limit64) : Names n.repr.toList n :=
  u64?_eq_some_iff.1 (below?_repr h)

/-- A numeral consists of digits, but for a sign in front. -/
theorem Names.mem {cs : List Char} {n : Nat} (h : Names cs n) {c : Char} (hc : c ∈ cs) :
    c = '+' ∨ c.isDigit := by
  obtain ⟨-, sign, hsign, ds, rfl, -, hdigits, -⟩ := h
  rcases List.mem_append.1 hc with hc | hc
  · left
    simp only [List.mem_cons, List.not_mem_nil, or_false] at hsign
    rcases hsign with rfl | rfl
    · cases hc
    · exact List.mem_singleton.1 hc
  · exact Or.inr (hdigits c hc)

theorem Names.isBlank_eq {cs : List Char} {n : Nat} (h : Names cs n) {c : Char} (hc : c ∈ cs) :
    isBlank c = false := by
  rcases h.mem hc with rfl | hdigit
  · decide
  · exact isBlank_of_isDigit hdigit

theorem Names.not_mem {cs : List Char} {n : Nat} (h : Names cs n) {c : Char} (hc : c ∈ ['-', '/', '*']) :
    c ∉ cs := by
  intro hmem
  simp only [List.mem_cons, List.not_mem_nil, or_false] at hc
  rcases h.mem hmem with rfl | hdigit
  · simp at hc
  · rcases hc with rfl | rfl | rfl <;> exact absurd hdigit (by decide)

end Numeral

/-! ## Splitting and trimming -/

theorem splitOnce_eq_some_iff {sep : Char} {cs before after : List Char} :
    splitOnce sep cs = some (before, after) ↔ cs = before ++ sep :: after ∧ sep ∉ before := by
  constructor
  · intro h
    unfold splitOnce at h
    have hcs := List.takeWhile_append_dropWhile (p := (· != sep)) (l := cs)
    split at h
    · cases h
    · next c rest hrest =>
      obtain ⟨rfl, rfl⟩ := Prod.mk.inj (Option.some.inj h)
      have hc : c = sep := by
        have hhead := List.head?_dropWhile_not (· != sep) cs
        rw [hrest] at hhead
        simpa using hhead
      refine ⟨?_, ?_⟩
      · rw [hrest, hc] at hcs
        exact hcs.symm
      · intro hmem
        simpa using List.mem_takeWhile_imp hmem
  · rintro ⟨rfl, hsep⟩
    exact splitOnce_append hsep after

theorem trimEnd_of_append {before after : List Char} (h : trimEnd (before ++ after) = before ++ after) :
    trimEnd after = after := by
  have hlast := List.rdropWhile_eq_self_iff.1 h
  refine List.rdropWhile_eq_self_iff.2 fun hne => ?_
  have hend := hlast (List.append_ne_nil_of_right_ne_nil before hne)
  rwa [List.getLast_append_of_right_ne_nil _ _ hne] at hend

theorem trimEnd_trim (cs : List Char) : trimEnd (trim cs) = trim cs :=
  List.rdropWhile_idempotent isBlank (trimStart cs)

theorem exists_blanks_trim {cs : List Char} (h : trimEnd cs = cs) :
    ∃ blanks, cs = blanks ++ trim cs ∧ ∀ c ∈ blanks, isBlank c = true := by
  have hcs : cs.takeWhile isBlank ++ trimStart cs = cs := List.takeWhile_append_dropWhile
  have hend : trimEnd (trimStart cs) = trimStart cs := by
    rw [← hcs] at h
    exact trimEnd_of_append h
  refine ⟨cs.takeWhile isBlank, ?_, fun c hc => List.mem_takeWhile_imp hc⟩
  rw [trim, hend, hcs]

theorem trim_append_of_blanks {blanks cs : List Char} (h : ∀ c ∈ blanks, isBlank c = true) :
    trim (blanks ++ cs) = trim cs := by
  induction blanks with
  | nil => rfl
  | cons c blanks ih =>
      rw [List.forall_mem_cons] at h
      rw [List.cons_append, trim_cons_blank h.1, ih h.2]

/-! ## Values -/

namespace ContentRange

/-- How a value says which octets a body holds: after the unit and perhaps more blanks, two numerals and a
    total, which may be a star; or a star and the total. -/
inductive Spelled : List Char → ContentRange → Prop where
  | octets {blanks first last total : List Char} {m n : Nat} (hblanks : ∀ c ∈ blanks, isBlank c = true)
      (hfirst : Numeral.Names first m) (hlast : Numeral.Names last n)
      (htotal : total = ['*'] ∨ ∃ t, Numeral.Names total t) :
      Spelled ("bytes ".toList ++ (blanks ++ ((first ++ '-' :: last) ++ '/' :: total))) (.octets m n)
  | unsatisfied {blanks total : List Char} {t : Nat} (hblanks : ∀ c ∈ blanks, isBlank c = true)
      (htotal : Numeral.Names total t) :
      Spelled ("bytes ".toList ++ (blanks ++ ('*' :: '/' :: total))) (.unsatisfied t)

/-- First and last octet. -/
def parseOctets? (span : List Char) : Option ContentRange := do
  let (first, last) ← splitOnce '-' span
  return .octets (← Numeral.u64? first) (← Numeral.u64? last)

/-- What stands before the slash, where a total stands behind it. -/
def parseSpan? (span total : List Char) : Option ContentRange :=
  if span = ['*'] then (Numeral.u64? total).map .unsatisfied
  else if total = ['*'] ∨ (Numeral.u64? total).isSome then parseOctets? span
  else none

theorem parse?_unit_append (rest : List Char) :
    parse? ("bytes ".toList ++ rest)
      = (splitOnce '/' (trim rest)).bind fun parts => parseSpan? parts.1 parts.2 := by
  have hunit : "bytes ".toList.isPrefixOf ("bytes ".toList ++ rest) = true :=
    List.isPrefixOf_iff_prefix.2 (List.prefix_append _ _)
  unfold parse? parseSpan? parseOctets?
  rw [hunit, List.drop_left' (by rfl)]
  simp only [Bool.not_true, Bool.false_eq_true, if_false]
  cases splitOnce '/' (trim rest) with
  | none => rfl
  | some parts =>
      simp only [Option.bind_eq_bind, Option.bind_some]
      by_cases hstar : parts.1 = ['*']
      · simp only [hstar, if_true]
        cases Numeral.u64? parts.2 with
        | none => rfl
        | some t => rfl
      · simp only [hstar, if_false]
        by_cases hopen : parts.2 = ['*']
        · simp only [hopen, ne_eq, not_true_eq_false, if_false, true_or, if_true]
        · simp only [hopen, ne_eq, not_false_eq_true, if_true, false_or]
          cases Numeral.u64? parts.2 with
          | none => rfl
          | some t => rfl

theorem parseOctets?_eq_some_iff {span : List Char} {range : ContentRange} :
    parseOctets? span = some range ↔ ∃ first last m n, span = first ++ '-' :: last ∧
      Numeral.Names first m ∧ Numeral.Names last n ∧ .octets m n = range := by
  unfold parseOctets?
  constructor
  · intro h
    obtain ⟨⟨first, last⟩, hsplit, h⟩ := Option.bind_eq_some_iff.1 h
    obtain ⟨m, hm, h⟩ := Option.bind_eq_some_iff.1 h
    obtain ⟨n, hn, h⟩ := Option.bind_eq_some_iff.1 h
    exact ⟨first, last, m, n, (splitOnce_eq_some_iff.1 hsplit).1, Numeral.u64?_eq_some_iff.1 hm,
      Numeral.u64?_eq_some_iff.1 hn, Option.some.inj h⟩
  · rintro ⟨first, last, m, n, rfl, hm, hn, rfl⟩
    rw [splitOnce_append (hm.not_mem (by simp))]
    simp only [Option.bind_eq_bind, Option.bind_some, Numeral.u64?_eq_some_iff.2 hm,
      Numeral.u64?_eq_some_iff.2 hn]
    rfl

theorem isBlank_of_mem_total {total : List Char} (h : total = ['*'] ∨ ∃ t, Numeral.Names total t) {c : Char}
    (hc : c ∈ total) : isBlank c = false := by
  rcases h with rfl | ⟨t, ht⟩
  · rw [List.mem_singleton.1 hc]
    decide
  · exact ht.isBlank_eq hc

/-- A value that is spelled as a range is read as that range. -/
theorem parse?_of_spelled {value : List Char} {range : ContentRange} (h : Spelled value range) :
    parse? value = some range := by
  cases h with
  | @octets blanks first last total m n hblanks hfirst hlast htotal =>
      have hbody : ∀ c ∈ (first ++ '-' :: last) ++ '/' :: total, isBlank c = false := by
        simp only [List.forall_mem_append, List.forall_mem_cons]
        exact ⟨⟨fun c => hfirst.isBlank_eq, by decide, fun c => hlast.isBlank_eq⟩, by decide,
          fun c => isBlank_of_mem_total htotal⟩
      have hslash : '/' ∉ first ++ '-' :: last := by
        simp only [List.mem_append, List.mem_cons, not_or]
        exact ⟨hfirst.not_mem (by simp), by decide, hlast.not_mem (by simp)⟩
      have hstar : first ++ '-' :: last ≠ ['*'] := by
        intro heq
        have hhyphen : '-' ∈ first ++ '-' :: last := by simp
        rw [heq] at hhyphen
        exact absurd hhyphen (by decide)
      have htotal' : total = ['*'] ∨ (Numeral.u64? total).isSome = true := by
        simp only [Option.isSome_iff_exists, Numeral.u64?_eq_some_iff]
        exact htotal
      rw [parse?_unit_append, trim_append_of_blanks hblanks, trim_eq_self hbody, splitOnce_append hslash,
        Option.bind_some, parseSpan?, if_neg hstar, if_pos htotal']
      exact parseOctets?_eq_some_iff.2 ⟨first, last, m, n, rfl, hfirst, hlast, rfl⟩
  | @unsatisfied blanks total t hblanks htotal =>
      have hbody : ∀ c ∈ '*' :: '/' :: total, isBlank c = false := by
        simp only [List.forall_mem_cons]
        exact ⟨by decide, by decide, fun c => htotal.isBlank_eq⟩
      have hstar : '/' ∉ ['*'] := by decide
      have hsplit : splitOnce '/' ('*' :: '/' :: total) = some (['*'], total) := splitOnce_append hstar total
      rw [parse?_unit_append, trim_append_of_blanks hblanks, trim_eq_self hbody, hsplit, Option.bind_some,
        parseSpan?, if_pos rfl, Numeral.u64?_eq_some_iff.2 htotal]
      rfl

/-- What is read of a value without blanks at its end is spelled like that. -/
theorem spelled_of_parse? {value : List Char} (hvalue : trimEnd value = value) {range : ContentRange}
    (h : parse? value = some range) : Spelled value range := by
  by_cases hunit : "bytes ".toList.isPrefixOf value = true
  · obtain ⟨rest, rfl⟩ := List.isPrefixOf_iff_prefix.1 hunit
    obtain ⟨blanks, hrest, hblanks⟩ := exists_blanks_trim (trimEnd_of_append hvalue)
    rw [parse?_unit_append] at h
    obtain ⟨⟨span, total⟩, hsplit, h⟩ := Option.bind_eq_some_iff.1 h
    rw [hrest, (splitOnce_eq_some_iff.1 hsplit).1]
    unfold parseSpan? at h
    split_ifs at h with hstar htotal
    · obtain ⟨t, ht, rfl⟩ := Option.map_eq_some_iff.1 h
      have hspan : span = ['*'] := hstar
      subst hspan
      exact .unsatisfied hblanks (Numeral.u64?_eq_some_iff.1 ht)
    · obtain ⟨first, last, m, n, hspan, hfirst, hlast, rfl⟩ := parseOctets?_eq_some_iff.1 h
      simp only [Option.isSome_iff_exists, Numeral.u64?_eq_some_iff] at htotal
      dsimp only at hspan
      rw [hspan]
      exact .octets hblanks hfirst hlast htotal
  · rw [Bool.not_eq_true] at hunit
    have hnone : parse? value = none := by
      unfold parse?
      rw [hunit]
      rfl
    rw [hnone] at h
    cases h

theorem Spelled.trim_eq {value : List Char} {range : ContentRange} (h : Spelled value range) :
    trim value = value := by
  have hend : ∀ before total : List Char, (∀ c ∈ total, isBlank c = false) →
      trim ('b' :: (before ++ '/' :: total)) = 'b' :: (before ++ '/' :: total) := by
    intro before total htotal
    rw [trim, trimStart, List.dropWhile_cons_of_neg (by decide), ← List.cons_append,
      trimEnd_append_cons (by decide), trimEnd_eq_self htotal]
  cases h with
  | @octets blanks first last total m n hblanks hfirst hlast htotal =>
      have hshape := hend ("ytes ".toList ++ (blanks ++ (first ++ '-' :: last))) total
        fun c => isBlank_of_mem_total htotal
      simpa [List.append_assoc] using hshape
  | @unsatisfied blanks total t hblanks htotal =>
      have hshape := hend ("ytes ".toList ++ (blanks ++ ['*'])) total fun c => htotal.isBlank_eq
      simpa [List.append_assoc] using hshape

theorem parse?_trim_eq_some_iff {cs : List Char} {range : ContentRange} :
    parse? (trim cs) = some range ↔ Spelled (trim cs) range :=
  ⟨spelled_of_parse? (trimEnd_trim cs), parse?_of_spelled⟩

end ContentRange

/-! ## Lines -/

/-- Whether a line is a field of a name, with a value: before its first colon stands the name, in any case of
    its letters, and behind it the value. Blanks around either do not count. -/
def IsField (name line : String) (value : List Char) : Prop :=
  ∃ before after, line.toList = before ++ ':' :: after ∧ ':' ∉ before ∧ lowerAscii (trim before) = name.toList ∧
    trim after = value

/-- What is read of a line that is a field of some name. -/
theorem isField_iff {name line : String} {value : List Char} :
    ((headerOfLine? line).bind fun header => if isNamed name header then some header.2 else none) = some value
      ↔ IsField name line value := by
  unfold headerOfLine? isNamed
  constructor
  · intro h
    obtain ⟨header, hheader, h⟩ := Option.bind_eq_some_iff.1 h
    obtain ⟨⟨before, after⟩, hsplit, rfl⟩ := Option.map_eq_some_iff.1 hheader
    obtain ⟨hline, hcolon⟩ := splitOnce_eq_some_iff.1 hsplit
    simp only [Option.ite_none_right_eq_some, beq_iff_eq, Option.some.injEq] at h
    exact ⟨before, after, hline, hcolon, h.1, h.2⟩
  · rintro ⟨before, after, hline, hcolon, hname, rfl⟩
    rw [hline, splitOnce_append hcolon]
    simp [hname]

/-- Whether a value is that of the first field of a name among some lines. -/
def IsFirstField (name : String) (lines : List String) (value : List Char) : Prop :=
  ∃ before line after, lines = before ++ line :: after ∧ IsField name line value ∧
    ∀ other ∈ before, ∀ text, ¬IsField name other text

/-- What is read of the lines of a name is read of the first of them. -/
theorem findSome?_eq_some_iff_isFirstField {name : String} {lines : List String} {value : List Char} :
    (lines.findSome? fun line => do
      let header ← headerOfLine? line
      if isNamed name header then some header.2 else none) = some value ↔ IsFirstField name lines value := by
  simp only [List.findSome?_eq_some_iff, Option.bind_eq_bind, isField_iff,
    Option.eq_none_iff_forall_ne_some, ne_eq]
  rfl

theorem IsFirstField.unique {name : String} {lines : List String} {value value' : List Char}
    (h : IsFirstField name lines value) (h' : IsFirstField name lines value') : value = value' := by
  rw [← findSome?_eq_some_iff_isFirstField] at h h'
  exact Option.some.inj (h.symm.trans h')

theorem IsFirstField.append {name : String} {lines : List String} {value : List Char}
    (h : IsFirstField name lines value) (later : List String) : IsFirstField name (lines ++ later) value := by
  obtain ⟨before, line, after, rfl, hline, hbefore⟩ := h
  exact ⟨before, line, after ++ later, by simp, hline, hbefore⟩

/-- What is read of a head is read of its first line of the name. -/
theorem contentRangeOf?_eq_some_iff {lines : List String} {range : ContentRange} :
    contentRangeOf? lines = some range ↔
      ∃ value, IsFirstField "content-range" lines value ∧ ContentRange.Spelled value range := by
  unfold contentRangeOf?
  rw [Option.bind_eq_bind, Option.bind_eq_some_iff]
  simp only [findSome?_eq_some_iff_isFirstField]
  refine exists_congr fun value => and_congr_right ?_
  rintro ⟨_, _, _, -, ⟨_, _, -, -, -, rfl⟩, -⟩
  exact ContentRange.parse?_trim_eq_some_iff

/-! ## What servers write -/

namespace ContentRange

/-- The value that is written for a part of an object, whose length need not be told. -/
def partText (first last : Nat) (total : Option Nat) : String :=
  match total with
  | some total => s!"bytes {first}-{last}/{total}"
  | none => s!"bytes {first}-{last}/*"

/-- The value that is written for a range past the end of an object. -/
def pastText (total : Nat) : String := s!"bytes */{total}"

theorem spelled_partText {first last : Nat} {total : Option Nat} (hfirst : first < Word.limit64)
    (hlast : last < Word.limit64) (htotal : ∀ t ∈ total, t < Word.limit64) :
    Spelled (partText first last total).toList (.octets first last) := by
  have hspelled : ∀ total : List Char, (total = ['*'] ∨ ∃ t, Numeral.Names total t) →
      Spelled ("bytes ".toList ++ ([] ++ ((first.repr.toList ++ '-' :: last.repr.toList) ++ '/' :: total)))
        (.octets first last) := by
    intro total htotal
    exact .octets nofun (Numeral.names_repr hfirst) (Numeral.names_repr hlast) htotal
  cases total with
  | none =>
      have htext : (partText first last none).toList = "bytes ".toList
          ++ ([] ++ ((first.repr.toList ++ '-' :: last.repr.toList) ++ '/' :: ['*'])) := by
        show ("bytes " ++ first.repr ++ "-" ++ last.repr ++ "/*").toList = _
        simp [String.toList_append]
      rw [htext]
      exact hspelled _ (Or.inl rfl)
  | some t =>
      have htext : (partText first last (some t)).toList = "bytes ".toList
          ++ ([] ++ ((first.repr.toList ++ '-' :: last.repr.toList) ++ '/' :: t.repr.toList)) := by
        show ("bytes " ++ first.repr ++ "-" ++ last.repr ++ "/" ++ t.repr).toList = _
        simp [String.toList_append]
      rw [htext]
      exact hspelled _ (Or.inr ⟨t, Numeral.names_repr (htotal t rfl)⟩)

theorem spelled_pastText {total : Nat} (htotal : total < Word.limit64) :
    Spelled (pastText total).toList (.unsatisfied total) := by
  have htext : (pastText total).toList = "bytes ".toList ++ ([] ++ ('*' :: '/' :: total.repr.toList)) := by
    show ("bytes */" ++ total.repr).toList = _
    simp [String.toList_append]
  rw [htext]
  exact .unsatisfied nofun (Numeral.names_repr htotal)

end ContentRange

/-- Only letters change their case, so what is a mark or a blank stays it. -/
theorem toLower_eq_self {c : Char} (h : c = ':' ∨ isBlank c = true) : c.toLower = c := by
  refine dif_neg ?_
  rintro ⟨hlow, hhigh⟩
  have hlow : 65 ≤ c.toNat := hlow
  have hhigh : c.toNat ≤ 90 := hhigh
  rcases h with rfl | hblank
  · exact absurd hlow (by decide)
  · simp only [isBlank, Bool.or_eq_true, Bool.and_eq_true, decide_eq_true_eq, beq_iff_eq] at hblank
    omega

theorem isField_of_lowerAscii {name key : String} (hkey : lowerAscii name.toList = key.toList)
    (hplain : key.toList.all (fun c => c != ':' && !isBlank c) = true) (value : String) :
    IsField key s!"{name}: {value}" (trim value.toList) := by
  have hline : (s!"{name}: {value}").toList = name.toList ++ ':' :: (' ' :: value.toList) := by
    show (name ++ ": " ++ value).toList = _
    simp [String.toList_append]
  have hname : ∀ c ∈ name.toList, ¬(c = ':' ∨ isBlank c = true) := by
    intro c hc hmark
    have hmem : c.toLower ∈ key.toList := by
      rw [← hkey]
      exact List.mem_map_of_mem hc
    rw [toLower_eq_self hmark] at hmem
    have hc := List.all_eq_true.1 hplain c hmem
    simp only [Bool.and_eq_true, bne_iff_ne, Bool.not_eq_true'] at hc
    rcases hmark with hcolon | hblank
    · exact hc.1 hcolon
    · rw [hblank] at hc
      exact Bool.noConfusion hc.2
  refine ⟨name.toList, ' ' :: value.toList, hline, fun hc => hname _ hc (Or.inl rfl), ?_, ?_⟩
  · rw [trim_eq_self fun c hc => Bool.eq_false_iff.2 fun hblank => hname c hc (Or.inr hblank), hkey]
  · exact trim_cons_blank (by decide) _

/-- The range that a head names is the one that its first `Content-Range` line spells, whatever the case of the
    name; if that one spells none, the head names none, whatever follows. What a server writes for a part of
    an object, or for a range past its end, is read back as the same numbers. -/
theorem contentRangeOf?_reads (lines : List String) :
    (∀ range, contentRangeOf? lines = some range ↔
      ∃ value, IsFirstField "content-range" lines value ∧ ContentRange.Spelled value range) ∧
    (∀ value, IsFirstField "content-range" lines value → (∀ range, ¬ContentRange.Spelled value range) →
      ∀ later, contentRangeOf? (lines ++ later) = none) ∧
    ((∀ line ∈ lines, ∀ value, ¬IsField "content-range" line value) →
      ∀ name : String, lowerAscii name.toList = "content-range".toList → ∀ later,
        (∀ first last total, first < Word.limit64 → last < Word.limit64 →
          (∀ t ∈ total, t < Word.limit64) →
          contentRangeOf? (lines ++ s!"{name}: {ContentRange.partText first last total}" :: later)
            = some (.octets first last)) ∧
        ∀ total, total < Word.limit64 →
          contentRangeOf? (lines ++ s!"{name}: {ContentRange.pastText total}" :: later)
            = some (.unsatisfied total)) := by
  refine ⟨fun range => contentRangeOf?_eq_some_iff, ?_, ?_⟩
  · intro value hvalue hmalformed later
    rw [Option.eq_none_iff_forall_ne_some]
    intro range hrange
    obtain ⟨value', hvalue', hspelled⟩ := contentRangeOf?_eq_some_iff.1 hrange
    rw [(hvalue.append later).unique hvalue'] at hmalformed
    exact hmalformed range hspelled
  · intro hlines name hname later
    have hwritten : ∀ {text : String} {range : ContentRange}, ContentRange.Spelled text.toList range →
        contentRangeOf? (lines ++ s!"{name}: {text}" :: later) = some range := by
      intro text range hspelled
      have hfield := isField_of_lowerAscii hname (by decide) text
      rw [hspelled.trim_eq] at hfield
      exact contentRangeOf?_eq_some_iff.2 ⟨_, ⟨lines, _, later, rfl, hfield, hlines⟩, hspelled⟩
    exact ⟨fun first last total hfirst hlast htotal =>
        hwritten (ContentRange.spelled_partText hfirst hlast htotal),
      fun total htotal => hwritten (ContentRange.spelled_pastText htotal)⟩

/-- A line whose numeral is too large is not passed over for a later one. -/
example : contentRangeOf? ["Content-Range: bytes 18446744073709551616-0/*", "Content-Range: bytes 0-1/2"] = none := by
  decide +kernel

end SteadyFetch
