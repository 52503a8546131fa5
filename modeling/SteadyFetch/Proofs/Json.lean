import SteadyFetch.Proofs.Text
import SteadyFetch.Storage.Marker

set_option autoImplicit false

/-! # JSON that is read back

What is written in JSON reads as what was meant: every text, with its quotes, backslashes and control
characters, every whole number, and from these an object of members in any layout of white space. So an
object's record is read back (`ObjectRef.parse?_json`), on one line as well as within a marker
(`ResumeMarker.parse?_json`).

Each reader is followed through text that goes on after the value, so the facts about parts fit together
where one part follows the other. -/

namespace SteadyFetch

namespace Json

/-! ## Strings -/

theorem hexValue?_hexDigit : ∀ n < 16, hexValue? (hexDigit n) = some n := by
  decide

theorem stringUnits?_escapeChar (c : Char) (fuel : Nat) (rest : List Char) :
    stringUnits? (fuel + 1) (escapeChar c ++ rest)
      = (stringUnits? fuel rest).map fun read => (c.toNat :: read.1, read.2) := by
  have hmap : ∀ n : Nat, ((stringUnits? fuel rest).bind fun read => some (n :: read.1, read.2))
      = (stringUnits? fuel rest).map fun read => (n :: read.1, read.2) :=
    fun n => (Option.map_eq_bind).symm
  by_cases hletter : c ∈ ['"', '\\', '\x08', '\x0c', '\n', '\r', '\t']
  · simp only [List.mem_cons, List.not_mem_nil, or_false] at hletter
    rcases hletter with rfl | rfl | rfl | rfl | rfl | rfl | rfl <;> exact hmap _
  · simp only [List.mem_cons, List.not_mem_nil, or_false, not_or] at hletter
    obtain ⟨hquote, hbackslash, hbackspace, hfeed, hline, hreturn, htab⟩ := hletter
    unfold escapeChar
    rw [if_neg hquote, if_neg hbackslash, if_neg hbackspace, if_neg hfeed, if_neg hline, if_neg hreturn,
      if_neg htab]
    by_cases hcontrol : c.toNat < 0x20
    · -- a control character without a letter of its own is written with four digits
      have hvalue : ((0 * 16 + 0) * 16 + c.toNat / 16) * 16 + c.toNat % 16 = c.toNat := by omega
      have hquad : hexQuad? ('0' :: '0' :: hexDigit (c.toNat / 16) :: hexDigit (c.toNat % 16) :: rest)
          = some (c.toNat, rest) := by
        show ((hexValue? (hexDigit (c.toNat / 16))).bind fun y =>
          (hexValue? (hexDigit (c.toNat % 16))).bind fun z =>
            some (((0 * 16 + 0) * 16 + y) * 16 + z, rest)) = _
        rw [hexValue?_hexDigit (c.toNat / 16) (by omega), hexValue?_hexDigit (c.toNat % 16) (by omega)]
        exact congrArg (fun n => some (n, rest)) hvalue
      rw [if_pos hcontrol]
      show ((hexQuad? ('0' :: '0' :: hexDigit (c.toNat / 16) :: hexDigit (c.toNat % 16) :: rest)).bind
        fun unit => (stringUnits? fuel unit.2).bind fun read => some (unit.1 :: read.1, read.2)) = _
      rw [hquad]
      exact hmap _
    · rw [if_neg hcontrol, List.singleton_append, stringUnits?.eq_def]
      split
      · next heq => cases heq
      · next heq => exact absurd (List.cons.inj heq).1 hquote
      · next heq => exact absurd (List.cons.inj heq).1 hbackslash
      · next heq => exact absurd (List.cons.inj heq).1 hbackslash
      · next hfuel heq =>
        cases hfuel
        obtain ⟨rfl, rfl⟩ := List.cons.inj heq
        simp only [hcontrol, if_false]
        exact hmap _
      · next heq => cases heq

/-- A text reads as the code points of its characters, up to the closing quote. -/
theorem stringUnits?_escaped (cs : List Char) {fuel : Nat} (hfuel : cs.length < fuel)
    (rest : List Char) :
    stringUnits? fuel (cs.flatMap escapeChar ++ '"' :: rest) = some (cs.map Char.toNat, rest) := by
  induction cs generalizing fuel with
  | nil =>
      obtain ⟨n, rfl⟩ : ∃ n, fuel = n + 1 := ⟨fuel - 1, by simp only [List.length_nil] at hfuel; omega⟩
      rfl
  | cons c cs ih =>
      rw [List.length_cons] at hfuel
      obtain ⟨n, rfl⟩ : ∃ n, fuel = n + 1 := ⟨fuel - 1, by omega⟩
      rw [List.flatMap_cons, List.append_assoc, stringUnits?_escapeChar, ih (by omega)]
      rfl

/-- No character is half of a surrogate pair. -/
theorem joinSurrogates?_toNat (cs : List Char) :
    joinSurrogates? (cs.map Char.toNat) = some cs := by
  have hwhole : ∀ c : Char, isHighSurrogate c.toNat = false ∧ isLowSurrogate c.toNat = false := by
    intro c
    have hvalid : c.toNat < 0xD800 ∨ 0xE000 ≤ c.toNat := by
      have h := c.valid
      simp only [UInt32.isValidChar, Nat.isValidChar] at h
      show c.val.toNat < 0xD800 ∨ 0xE000 ≤ c.val.toNat
      omega
    unfold isHighSurrogate isLowSurrogate
    simp only [Bool.and_eq_false_iff, decide_eq_false_iff_not]
    omega
  induction cs with
  | nil => rfl
  | cons c cs ih =>
      cases cs with
      | nil => simp [joinSurrogates?, hwhole c, Char.ofNat_toNat]
      | cons d cs =>
          rw [List.map_cons] at ih
          simp [joinSurrogates?, hwhole c, ih, Char.ofNat_toNat]

/-- A text is read back, with what follows it. -/
theorem readString?_escaped (s : String) (rest : List Char) :
    readString? (s.toList.flatMap escapeChar ++ '"' :: rest) = some (some s, rest) := by
  have hone : ∀ c, 1 ≤ (escapeChar c).length := by
    intro c
    unfold escapeChar
    split_ifs <;> simp
  have hlength : ∀ cs : List Char, cs.length ≤ (cs.flatMap escapeChar).length := by
    intro cs
    induction cs with
    | nil => exact Nat.le_refl 0
    | cons c cs ih =>
        rw [List.flatMap_cons, List.length_append, List.length_cons]
        have hc := hone c
        omega
  have hfuel := hlength s.toList
  rw [readString?, stringUnits?_escaped s.toList (by rw [List.length_append]; omega)]
  simp [joinSurrogates?_toNat]

/-! ## Numbers -/

theorem digitsValue_repr (n : Nat) : digitsValue n.repr.toList = n := by
  have hvalue := Nat.ofDigitChars_ten_toDigits (n := n)
  rw [Nat.ofDigitChars_eq_foldl] at hvalue
  simp only [Nat.mul_comm 10] at hvalue
  rw [digitsValue, Nat.toList_repr]
  exact hvalue

theorem head?_repr_ne_zero {n : Nat} (h : 1 < n.repr.toList.length) : n.repr.toList.head? ≠ some '0' := by
  rw [Nat.toList_repr] at h ⊢
  induction n using Nat.strongRecOn with
  | ind n ih =>
      by_cases hn : n < 10
      · rw [Nat.toDigits_of_lt_base hn] at h
        exact absurd h (by simp)
      · have hrest := Nat.toDigits_of_base_le (b := 10) (by decide) (Nat.le_of_not_lt hn)
        rw [hrest]
        by_cases hlong : n / 10 < 10
        · rw [Nat.toDigits_of_lt_base hlong]
          have hdigit : ∀ d < 10, 0 < d → some d.digitChar ≠ some '0' := by decide
          exact hdigit _ hlong (by omega)
        · have hmore : 1 < (Nat.toDigits 10 (n / 10)).length := by
            rw [Nat.toDigits_of_base_le (by decide) (Nat.le_of_not_lt hlong), List.length_append]
            have hpos := Nat.length_toDigits_pos (b := 10) (n := n / 10 / 10)
            simp only [List.length_singleton]
            omega
          rw [List.head?_append_of_ne_nil _ Nat.toDigits_ne_nil]
          exact ih _ (by omega) hmore

/-- What may follow a whole number: nothing that would go on with it. -/
def EndsNumber (rest : List Char) : Prop :=
  ∀ c ∈ rest.head?, c.isDigit = false ∧ c ≠ '.' ∧ c ≠ 'e' ∧ c ≠ 'E'

theorem someDigits?_repr (n : Nat) {rest : List Char} (hrest : EndsNumber rest) :
    someDigits? (n.repr.toList ++ rest) = some (n.repr.toList, rest) := by
  have hdigits : ∀ c ∈ n.repr.toList, c.isDigit = true := fun c hc => Numeral.isDigit_of_mem_repr hc
  have hstop : rest.takeWhile Char.isDigit = [] ∧ rest.dropWhile Char.isDigit = rest := by
    cases rest with
    | nil => exact ⟨rfl, rfl⟩
    | cons c rest =>
        have hc := (hrest c rfl).1
        exact ⟨List.takeWhile_cons_of_neg (by simp [hc]), List.dropWhile_cons_of_neg (by simp [hc])⟩
  have hne : n.repr.toList ≠ [] := by
    rw [Nat.toList_repr]
    exact Nat.toDigits_ne_nil
  rw [someDigits?, List.takeWhile_append_of_pos hdigits, List.dropWhile_append_of_pos hdigits, hstop.1,
    hstop.2, List.append_nil, if_neg (fun he => hne (List.isEmpty_iff.1 he))]

theorem readFraction?_of_endsNumber {rest : List Char} (hrest : EndsNumber rest) :
    readFraction? rest = some (false, rest) := by
  cases rest with
  | nil => rfl
  | cons c rest =>
      obtain ⟨-, hpoint, hsmall, hcapital⟩ := hrest c rfl
      unfold readFraction?
      split
      · next heq => exact absurd (List.cons.inj heq).1 hpoint
      · simp [hsmall, hcapital]

/-- A whole number is read back. -/
theorem readNumber?_repr (g : Int) {rest : List Char} (hrest : EndsNumber rest) :
    readNumber? (g.repr.toList ++ rest) = some (.number (some g), rest) := by
  have hlead : ∀ n : Nat,
      (n.repr.toList.head? == some '0' && decide (n.repr.toList.length > 1)) = false := by
    intro n
    rw [Bool.and_eq_false_iff, beq_eq_false_iff_ne, decide_eq_false_iff_not]
    by_cases hlong : 1 < n.repr.toList.length
    · exact Or.inl (head?_repr_ne_zero hlong)
    · exact Or.inr hlong
  rw [Int.repr_eq_if]
  by_cases hg : 0 ≤ g
  · rw [if_pos hg]
    have hvalue : ((g.toNat : Nat) : Int) = g := Int.toNat_of_nonneg hg
    have hsign : ∀ tail, g.toNat.repr.toList ++ rest ≠ '-' :: tail := by
      intro tail heq
      have hmem : '-' ∈ g.toNat.repr.toList := by
        rcases List.append_eq_cons_iff.1 heq with ⟨hnil, -⟩ | ⟨tail', htail, -⟩
        · rw [Nat.toList_repr] at hnil
          exact absurd hnil Nat.toDigits_ne_nil
        · rw [htail]
          exact List.mem_cons_self
      have hdigit := Numeral.isDigit_of_mem_repr hmem
      exact absurd hdigit (by decide)
    unfold readNumber?
    split
    next negative body heq =>
      split at heq
      · next tail hcons => exact absurd hcons (hsign tail)
      · obtain ⟨rfl, rfl⟩ := Prod.mk.inj heq
        simp only [someDigits?_repr _ hrest, Option.bind_eq_bind, Option.bind_some, hlead,
          readFraction?_of_endsNumber hrest, digitsValue_repr, Bool.false_and, Bool.or_self,
          Bool.false_eq_true, if_false, hvalue]
        rfl
  · rw [if_neg hg]
    have hvalue : -(((-g).toNat : Nat) : Int) = g := by omega
    have hpos : ((-g).toNat == 0) = false := beq_eq_false_iff_ne.2 (by omega)
    rw [String.toList_append, show "-".toList = ['-'] from rfl, List.singleton_append, List.cons_append]
    unfold readNumber?
    simp only [someDigits?_repr _ hrest, Option.bind_eq_bind, Option.bind_some, hlead,
      readFraction?_of_endsNumber hrest, digitsValue_repr, hpos, Bool.and_false, Bool.or_self,
      Bool.false_eq_true, if_false, if_true, hvalue]
    rfl

/-! ## Values -/

/-- A text that reads as a value, whatever follows it but more of a number. -/
def Reads (text : List Char) (value : Json) : Prop :=
  ∀ fuel rest, text.length ≤ fuel → EndsNumber rest → readValue? fuel (text ++ rest) = some (value, rest)

theorem skipSpace_append {space : List Char} (h : skipSpace space = []) (text : List Char) :
    skipSpace (space ++ text) = skipSpace text := by
  unfold skipSpace at h ⊢
  rw [List.dropWhile_append, h]
  rfl

theorem readValue?_skipSpace {space : List Char} (h : skipSpace space = []) (fuel : Nat)
    (text : List Char) : readValue? fuel (space ++ text) = readValue? fuel text := by
  cases fuel with
  | zero => rfl
  | succ fuel => rw [readValue?, readValue?, skipSpace_append h]

theorem readMembers?_skipSpace (fuel : Nat) (text : List Char) :
    readMembers? fuel (skipSpace text) = readMembers? fuel text := by
  have htwice : skipSpace (skipSpace text) = skipSpace text := List.dropWhile_idempotent _ _
  cases fuel with
  | zero => rfl
  | succ fuel => rw [readMembers?, readMembers?, htwice]

theorem quoteChars_append (s : String) (rest : List Char) :
    quoteChars s ++ rest = '"' :: (s.toList.flatMap escapeChar ++ '"' :: rest) := by
  simp [quoteChars]

theorem skipSpace_quoteChars (s : String) (rest : List Char) :
    skipSpace (quoteChars s ++ rest) = quoteChars s ++ rest := by
  rw [quoteChars_append]
  rfl

theorem reads_quoteChars (s : String) : Reads (quoteChars s) (.string (some s)) := by
  intro fuel rest hfuel _
  obtain ⟨fuel, rfl⟩ : ∃ n, fuel = n + 1 := ⟨fuel - 1, by simp [quoteChars] at hfuel; omega⟩
  have hskip : skipSpace ('"' :: (s.toList.flatMap escapeChar ++ '"' :: rest))
      = '"' :: (s.toList.flatMap escapeChar ++ '"' :: rest) := rfl
  rw [quoteChars_append, readValue?, hskip]
  simp only [readString?_escaped, Option.map_some]

theorem exists_cons_repr (g : Int) : ∃ c digits, g.repr.toList = c :: digits ∧ (c = '-' ∨ c.isDigit) := by
  rw [Int.repr_eq_if]
  by_cases hg : 0 ≤ g
  · rw [if_pos hg]
    cases hcs : g.toNat.repr.toList with
    | nil =>
        rw [Nat.toList_repr] at hcs
        exact absurd hcs Nat.toDigits_ne_nil
    | cons c digits =>
        exact ⟨c, digits, rfl, Or.inr (Numeral.isDigit_of_mem_repr (n := g.toNat) (by simp [hcs]))⟩
  · rw [if_neg hg, String.toList_append, show "-".toList = ['-'] from rfl, List.singleton_append]
    exact ⟨'-', _, rfl, Or.inl rfl⟩

theorem reads_repr (g : Int) : Reads g.repr.toList (.number (some g)) := by
  intro fuel rest hfuel hrest
  have hnumber := readNumber?_repr g hrest
  obtain ⟨c, digits, hdigits, hc⟩ := exists_cons_repr g
  rw [hdigits, List.length_cons] at hfuel
  obtain ⟨fuel, rfl⟩ : ∃ n, fuel = n + 1 := ⟨fuel - 1, by omega⟩
  rw [hdigits, List.cons_append] at hnumber ⊢
  have hskip : skipSpace (c :: (digits ++ rest)) = c :: (digits ++ rest) := by
    unfold skipSpace
    rw [List.dropWhile_cons_of_neg]
    rcases hc with rfl | hc
    · decide
    · simp only [Bool.or_eq_true, beq_iff_eq]
      rintro (((rfl | rfl) | rfl) | rfl) <;> exact absurd hc (by decide)
  rw [readValue?, hskip]
  -- the first character is that of a number and of nothing else
  split <;> rename_i heq
  · cases heq
  all_goals
    first
    | exact hnumber
    | (obtain ⟨rfl, -⟩ := List.cons.inj heq
       exact absurd hc (by decide))

theorem parse?_of_reads {s : String} {value : Json} (h : Reads s.toList value) :
    parse? s = some value := by
  have hread := h (2 * s.toList.length + 2) [] (by omega) nofun
  rw [List.append_nil] at hread
  simp only [parse?, hread, Option.bind_eq_bind, Option.bind_some]
  rfl

/-! ## Objects -/

/-- A member of an object: its name, how its value is written, and what that reads as. -/
structure Member where
  key : String
  text : List Char
  value : Json
  reads : Reads text value

namespace Member

/-- What is read of a member. -/
def pair (m : Member) : Option String × Json := (some m.key, m.value)

/-- A member that is a text. -/
def string (key s : String) : Member := ⟨key, quoteChars s, _, reads_quoteChars s⟩

/-- A member that is a whole number. -/
def number (key : String) (g : Int) : Member := ⟨key, g.repr.toList, _, reads_repr g⟩

end Member

/-- The white space in the text of an object. -/
structure Layout where
  /-- Before every member. -/
  member : List Char
  /-- Before every value. -/
  value : List Char
  /-- Before the closing brace. -/
  close : List Char
  member_space : skipSpace member = []
  value_space : skipSpace value = []
  close_space : skipSpace close = []

namespace Layout

variable (l : Layout)

/-- How a member is written. -/
def memberText (m : Member) : List Char :=
  l.member ++ (quoteChars m.key ++ ':' :: (l.value ++ m.text))

/-- How the members after one are written, and the end of their object. -/
def moreText : List Member → List Char
  | [] => l.close ++ ['}']
  | m :: ms => ',' :: (l.memberText m ++ moreText ms)

/-- How an object of one or more members is written. -/
def objectText (m : Member) (ms : List Member) : List Char := '{' :: (l.memberText m ++ l.moreText ms)

theorem endsNumber_moreText (ms : List Member) (rest : List Char) :
    EndsNumber (l.moreText ms ++ rest) := by
  have hspace : ∀ c ∈ l.close, c.isDigit = false ∧ c ≠ '.' ∧ c ≠ 'e' ∧ c ≠ 'E' := by
    intro c hc
    have hblank := List.dropWhile_eq_nil_iff.1 l.close_space c hc
    simp only [Bool.or_eq_true, beq_iff_eq] at hblank
    rcases hblank with ((rfl | rfl) | rfl) | rfl <;> decide
  intro c hc
  cases ms with
  | nil =>
      cases hclose : l.close with
      | nil =>
          obtain rfl : '}' = c := by simpa [moreText, hclose] using hc
          decide
      | cons d close =>
          obtain rfl : d = c := by simpa [moreText, hclose] using hc
          exact hspace d (by simp [hclose])
  | cons m ms =>
      obtain rfl : ',' = c := by simpa [moreText] using hc
      decide

theorem skipSpace_memberText (m : Member) (rest : List Char) :
    skipSpace (l.memberText m ++ rest)
      = '"' :: (m.key.toList.flatMap escapeChar ++ '"' :: ':' :: (l.value ++ (m.text ++ rest))) := by
  simp only [memberText, List.append_assoc, skipSpace_append l.member_space, skipSpace_quoteChars,
    List.cons_append]
  exact quoteChars_append _ _

section Members

variable {m : Member} {fuel : Nat} {rest after : List Char}

theorem readMembers?_last (hfuel : m.text.length ≤ fuel) (hrest : EndsNumber rest)
    (hclose : skipSpace rest = '}' :: after) :
    readMembers? (fuel + 1) (l.memberText m ++ rest) = some ([m.pair], after) := by
  have hvalue := m.reads fuel rest hfuel hrest
  rw [← readValue?_skipSpace l.value_space] at hvalue
  rw [readMembers?, skipSpace_memberText]
  simp only [readString?_escaped, Option.bind_eq_bind, Option.bind_some,
    show ∀ text, skipSpace (':' :: text) = ':' :: text from fun _ => rfl, hvalue, hclose]
  rfl

theorem readMembers?_cons (hfuel : m.text.length ≤ fuel) (hrest : EndsNumber rest)
    (hcomma : skipSpace rest = ',' :: after) :
    readMembers? (fuel + 1) (l.memberText m ++ rest)
      = (readMembers? fuel after).map fun read => (m.pair :: read.1, read.2) := by
  have hvalue := m.reads fuel rest hfuel hrest
  rw [← readValue?_skipSpace l.value_space] at hvalue
  rw [readMembers?, skipSpace_memberText]
  simp only [readString?_escaped, Option.bind_eq_bind, Option.bind_some,
    show ∀ text, skipSpace (':' :: text) = ':' :: text from fun _ => rfl, hvalue, hcomma]
  exact Option.map_eq_bind.symm

end Members

/-- The members of an object are read one after the other, whatever follows the object. -/
theorem readMembers?_text (m : Member) (ms : List Member) (fuel : Nat)
    (hfuel : (l.memberText m).length + (l.moreText ms).length ≤ fuel) (rest : List Char) :
    readMembers? fuel (l.memberText m ++ (l.moreText ms ++ rest))
      = some ((m :: ms).map Member.pair, rest) := by
  have htext : ∀ m : Member, m.text.length < (l.memberText m).length := by
    intro m
    simp only [memberText, List.length_append, List.length_cons]
    omega
  induction ms generalizing m fuel with
  | nil =>
      have hm := htext m
      obtain ⟨fuel, rfl⟩ : ∃ n, fuel = n + 1 := ⟨fuel - 1, by omega⟩
      have hclose : skipSpace (l.moreText [] ++ rest) = '}' :: rest := by
        rw [moreText, List.append_assoc, skipSpace_append l.close_space]
        rfl
      exact l.readMembers?_last (by omega) (l.endsNumber_moreText [] rest) hclose
  | cons next ms ih =>
      have hm := htext m
      obtain ⟨fuel, rfl⟩ : ∃ n, fuel = n + 1 := ⟨fuel - 1, by omega⟩
      rw [moreText, List.length_cons, List.length_append] at hfuel
      have hcomma : skipSpace (l.moreText (next :: ms) ++ rest)
          = ',' :: (l.memberText next ++ (l.moreText ms ++ rest)) := by
        rw [moreText, List.cons_append, List.append_assoc]
        rfl
      rw [l.readMembers?_cons (by omega) (l.endsNumber_moreText (next :: ms) rest) hcomma,
        ih next fuel (by omega)]
      rfl

/-- An object reads as its members. -/
theorem reads_objectText (m : Member) (ms : List Member) :
    Reads (l.objectText m ms) (.object ((m :: ms).map Member.pair)) := by
  intro fuel rest hfuel _
  rw [objectText, List.length_cons, List.length_append] at hfuel
  obtain ⟨fuel, rfl⟩ : ∃ n, fuel = n + 1 := ⟨fuel - 1, by omega⟩
  have hmembers := l.readMembers?_text m ms fuel (by omega) rest
  have hbrace : skipSpace (l.objectText m ms ++ rest)
      = '{' :: (l.memberText m ++ (l.moreText ms ++ rest)) := by
    rw [objectText, List.cons_append, List.append_assoc]
    rfl
  rw [← readMembers?_skipSpace, skipSpace_memberText] at hmembers
  rw [readValue?, hbrace]
  -- no brace closes the object at once, since the name of a member comes first
  simp only [skipSpace_memberText]
  exact congrArg (Option.map fun read => (Json.object read.1, read.2)) hmembers

/-- A member that is an object of one or more members. -/
def nested (key : String) (m : Member) (ms : List Member) : Member :=
  ⟨key, l.objectText m ms, _, l.reads_objectText m ms⟩

end Layout

/-- No white space. -/
def Layout.compact : Layout := ⟨[], [], [], rfl, rfl, rfl⟩

/-- A line for every member, each so many spaces in. -/
def Layout.lines (outer inner : Nat) : Layout where
  member := '\n' :: List.replicate inner ' '
  value := [' ']
  close := '\n' :: List.replicate outer ' '
  member_space := by simp [skipSpace]
  value_space := rfl
  close_space := by simp [skipSpace]

end Json

/-! ## Objects and markers -/

namespace ObjectRef

/-- The first member of an object's record. -/
def bucketMember (o : ObjectRef) : Json.Member := .string "bucket" o.bucket

/-- The other members of an object's record. -/
def moreMembers (o : ObjectRef) : List Json.Member :=
  .string "name" o.name :: o.generation.toList.map (.number "generation")

/-- The record of an object. -/
def record (o : ObjectRef) : Json := .object ((o.bucketMember :: o.moreMembers).map Json.Member.pair)

theorem quoteChars_names :
    Json.quoteChars "bucket" = "\"bucket\"".toList ∧ Json.quoteChars "name" = "\"name\"".toList ∧
      Json.quoteChars "generation" = "\"generation\"".toList ∧
        Json.quoteChars "object" = "\"object\"".toList := by
  decide

theorem toList_json (o : ObjectRef) :
    o.json.toList = Json.Layout.compact.objectText o.bucketMember o.moreMembers := by
  obtain ⟨hbucket, hname, hgeneration, -⟩ := quoteChars_names
  obtain ⟨bucket, name, generation⟩ := o
  unfold json bucketMember moreMembers
  cases generation with
  | none =>
      show ("\x7b\"bucket\":" ++ Json.quote bucket ++ ",\"name\":" ++ Json.quote name ++ ""
        ++ "\x7d").toList = _
      simp [Json.quote, Json.Layout.objectText, Json.Layout.memberText, Json.Layout.moreText,
        Json.Layout.compact, Json.Member.string, hbucket, hname]
  | some g =>
      show ("\x7b\"bucket\":" ++ Json.quote bucket ++ ",\"name\":" ++ Json.quote name
        ++ (",\"generation\":" ++ g.repr) ++ "\x7d").toList = _
      simp [Json.quote, Json.Layout.objectText, Json.Layout.memberText, Json.Layout.moreText,
        Json.Layout.compact, Json.Member.string, Json.Member.number, hbucket, hname, hgeneration]

theorem parse?_record (o : ObjectRef) : Json.parse? o.json = some o.record := by
  refine Json.parse?_of_reads ?_
  rw [toList_json]
  exact Json.Layout.compact.reads_objectText o.bucketMember o.moreMembers

theorem ofJson?_record (o : ObjectRef)
    (hrange : ∀ g ∈ o.generation, -(Word.limit63 : Int) ≤ g ∧ g < Word.limit63) :
    ofJson? o.record = some o := by
  obtain ⟨bucket, name, generation⟩ := o
  cases generation with
  | none => rfl
  | some g =>
      obtain ⟨hlow, hhigh⟩ := hrange g rfl
      have hinteger : Json.integer? Json.int64Min Json.int64Max (.number (some g)) = some g :=
        if_pos ⟨hlow, by unfold Json.int64Max; omega⟩
      show (((Json.integer? Json.int64Min Json.int64Max (.number (some g))).map some).bind
        fun generation => some (⟨bucket, name, generation⟩ : ObjectRef)) = _
      rw [hinteger]
      rfl

theorem parse?_json (o : ObjectRef)
    (hrange : ∀ g ∈ o.generation, -(Word.limit63 : Int) ≤ g ∧ g < Word.limit63) :
    parse? o.json = some o := by
  simp only [parse?, parse?_record, Option.bind_eq_bind, Option.bind_some, ofJson?_record o hrange]

end ObjectRef

namespace ResumeMarker

theorem toList_json (o : ObjectRef) :
    (json ⟨o⟩).toList = (Json.Layout.lines 0 2).objectText
      ((Json.Layout.lines 2 4).nested "object" o.bucketMember o.moreMembers) [] := by
  obtain ⟨hbucket, hname, hgeneration, hobject⟩ := ObjectRef.quoteChars_names
  obtain ⟨bucket, name, generation⟩ := o
  unfold json ObjectRef.bucketMember ObjectRef.moreMembers
  cases generation with
  | none =>
      show ("\x7b\n  \"object\": \x7b\n    \"bucket\": " ++ Json.quote bucket ++ ",\n    \"name\": "
        ++ Json.quote name ++ "" ++ "\n  \x7d\n\x7d").toList = _
      simp [Json.quote, Json.Layout.objectText, Json.Layout.memberText, Json.Layout.moreText,
        Json.Layout.lines, Json.Layout.nested, Json.Member.string, hbucket, hname, hobject]
  | some g =>
      show ("\x7b\n  \"object\": \x7b\n    \"bucket\": " ++ Json.quote bucket ++ ",\n    \"name\": "
        ++ Json.quote name ++ (",\n    \"generation\": " ++ g.repr) ++ "\n  \x7d\n\x7d").toList = _
      simp [Json.quote, Json.Layout.objectText, Json.Layout.memberText, Json.Layout.moreText,
        Json.Layout.lines, Json.Layout.nested, Json.Member.string, Json.Member.number, hbucket, hname,
        hgeneration, hobject]

/-- **A marker is read back.** -/
theorem parse?_json (o : ObjectRef)
    (hrange : ∀ g ∈ o.generation, -(Word.limit63 : Int) ≤ g ∧ g < Word.limit63) :
    parse? (json ⟨o⟩) = some ⟨o⟩ := by
  have hmarker : Json.parse? (json ⟨o⟩) = some (.object [(some "object", o.record)]) := by
    refine Json.parse?_of_reads ?_
    rw [toList_json]
    exact Json.Layout.reads_objectText _ _ []
  simp only [parse?, hmarker, Option.bind_eq_bind, Option.bind_some]
  show ((ObjectRef.ofJson? o.record).bind fun object => some (⟨object⟩ : ResumeMarker)) = _
  rw [ObjectRef.ofJson?_record o hrange]
  rfl

end ResumeMarker

end SteadyFetch
