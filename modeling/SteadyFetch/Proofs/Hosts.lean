import SteadyFetch.Proofs.After
import SteadyFetch.Proofs.Form
import SteadyFetch.Url.Parse

set_option autoImplicit false

/-! # The characters of hosts

A text is graphic if it holds no space, no control and nothing beyond ASCII. Percent encoding makes any text
graphic (`Percent.graphic_encode`), and so does writing a label in Punycode, whose digits are letters and
numbers. A domain name is folded as a whole, and what is left of ASCII in it has to be allowed; a label that is
read from Punycode afterwards gets only characters beyond ASCII from its numbers
(`Punycode.graphicInAscii_of_decode?`). So every host that is read from a text is graphic
(`Url.graphic_of_specialHost`, `Url.graphic_of_plainHost`). -/

namespace SteadyFetch

/-! ## Pieces and results -/

theorem mem_of_mem_splitOn {sep c : Char} {cs piece : List Char} (hpiece : piece ∈ cs.splitOn sep) (hc : c ∈ piece) :
    c ∈ cs := by
  have hjoined : ∀ pieces, piece ∈ pieces → c ∈ [sep].intercalate pieces := by
    intro pieces hpieces
    induction pieces with
    | nil => cases hpieces
    | cons first pieces ih =>
        by_cases hlast : pieces = []
        · rw [hlast, List.mem_singleton] at hpieces
          rwa [hlast, List.intercalate_singleton, ← hpieces]
        · rw [List.intercalate_cons_of_ne_nil hlast, List.mem_append, List.mem_append]
          rcases List.mem_cons.1 hpieces with rfl | hpieces
          · exact Or.inl (Or.inl hc)
          · exact Or.inr (ih hpieces)
  have hcs : [sep].intercalate (cs.splitOn sep) = cs := List.intercalate_splitOn sep
  exact hcs ▸ hjoined _ hpiece

theorem forall_of_mapM {α β : Type} {f : α → Option β} {P : β → Prop} {items : List α} {results : List β}
    (hresults : items.mapM f = some results) (h : ∀ item ∈ items, ∀ result, f item = some result → P result) :
    ∀ result ∈ results, P result := by
  induction items generalizing results with
  | nil =>
      obtain rfl := Option.some.inj hresults
      nofun
  | cons item items ih =>
      rw [List.forall_mem_cons] at h
      rw [List.mapM_cons] at hresults
      obtain ⟨result, hresult, hresults⟩ := Option.bind_eq_some_iff.1 hresults
      obtain ⟨others, hothers, hresults⟩ := Option.bind_eq_some_iff.1 hresults
      obtain rfl := Option.some.inj hresults
      rw [List.forall_mem_cons]
      exact ⟨h.1 result hresult, ih hothers h.2⟩

/-- What holds of every number below 128 holds of every character of ASCII. -/
theorem forall_ascii {P : Char → Prop} (h : ∀ n < 0x80, P (Char.ofNat n)) {c : Char} (hc : c.toNat < 0x80) :
    P c :=
  Char.ofNat_toNat c ▸ h c.toNat hc

/-! ## Graphic texts -/

/-- A character of ASCII that is neither a control nor the space. -/
def IsGraphic (c : Char) : Prop := 0x20 < c.toNat ∧ c.toNat < 0x7F

instance : DecidablePred IsGraphic := fun _ => inferInstanceAs (Decidable (_ ∧ _))

/-- A text of graphic characters. -/
def Graphic (cs : List Char) : Prop := ∀ c ∈ cs, IsGraphic c

instance : DecidablePred Graphic := List.decidableBAll IsGraphic

@[simp] theorem graphic_nil : Graphic [] := nofun

@[simp] theorem graphic_cons {c : Char} {cs : List Char} : Graphic (c :: cs) ↔ IsGraphic c ∧ Graphic cs :=
  List.forall_mem_cons

@[simp] theorem graphic_append {cs ds : List Char} : Graphic (cs ++ ds) ↔ Graphic cs ∧ Graphic ds :=
  List.forall_mem_append

theorem graphic_flatten {texts : List (List Char)} : Graphic texts.flatten ↔ ∀ text ∈ texts, Graphic text :=
  List.forall_mem_flatten

theorem Graphic.mono {cs ds : List Char} (h : Graphic ds) (hsub : ∀ c ∈ cs, c ∈ ds) : Graphic cs :=
  fun c hc => h c (hsub c hc)

theorem graphic_intercalate {sep : List Char} (hsep : Graphic sep) {texts : List (List Char)}
    (h : ∀ text ∈ texts, Graphic text) : Graphic (sep.intercalate texts) := by
  induction texts with
  | nil => simp
  | cons text texts ih =>
      rw [List.forall_mem_cons] at h
      by_cases hlast : texts = []
      · rw [hlast, List.intercalate_singleton]
        exact h.1
      · rw [List.intercalate_cons_of_ne_nil hlast, graphic_append, graphic_append]
        exact ⟨⟨h.1, hsep⟩, ih h.2⟩

theorem isGraphic_of_isAlphanum {c : Char} (h : c.isAlphanum = true) : IsGraphic c := by
  have hupper : c.isUpper = true → 65 ≤ c.toNat ∧ c.toNat ≤ 90 := of_decide_eq_true
  have hlower : c.isLower = true → 97 ≤ c.toNat ∧ c.toNat ≤ 122 := by
    intro hlower
    obtain ⟨hlow, hhigh⟩ := Bool.and_eq_true_iff.1 hlower
    exact ⟨of_decide_eq_true hlow, of_decide_eq_true hhigh⟩
  unfold IsGraphic
  rcases Bool.or_eq_true_iff.1 h with hletter | hnumber
  · rcases Bool.or_eq_true_iff.1 hletter with hletter | hletter
    · have hbounds := hupper hletter
      omega
    · have hbounds := hlower hletter
      omega
  · have hbounds := bounds_of_isDigit hnumber
    omega

theorem isGraphic_of_isDigit {c : Char} (h : c.isDigit = true) : IsGraphic c :=
  isGraphic_of_isAlphanum (Bool.or_eq_true_iff.2 (Or.inr h))

theorem graphic_repr (n : Nat) : Graphic n.repr.toList :=
  fun _ hc => isGraphic_of_isDigit (Numeral.isDigit_of_mem_repr hc)

theorem isGraphic_toLower {c : Char} (h : IsGraphic c) : IsGraphic c.toLower := by
  have hall : ∀ n < 0x80, IsGraphic (Char.ofNat n) → IsGraphic (Char.ofNat n).toLower := by decide
  exact forall_ascii (P := fun c => IsGraphic c → IsGraphic c.toLower) hall (Nat.lt_of_lt_of_le h.2 (by decide)) h

/-! ## Percent encoding -/

theorem Utf8.eq_of_mem_encodeChar {c : Char} {b : UInt8} (h : b ∈ String.utf8EncodeChar c)
    (hascii : b.toNat < 0x80) : c = Char.ofNat b.toNat := by
  by_cases hc : c.toNat < 0x80
  · rw [encodeChar_of_lt hc, List.mem_singleton] at h
    rw [h, toNat_ofNat_of_lt (by omega), Char.ofNat_toNat]
  · -- the octets of all other characters have their highest bit set
    exfalso
    have hlong : ¬c.val.toNat ≤ 0x7f := by
      rw [Char.toNat_val]
      omega
    have hhigh : ∀ n, 0x80 ≤ n → n < 0x100 → ¬(UInt8.ofNat n).toNat < 0x80 := by
      intro n hlow hlt
      rw [toNat_ofNat_of_lt hlt]
      omega
    unfold String.utf8EncodeChar at h
    simp only at h
    rw [if_neg hlong] at h
    split_ifs at h
    all_goals simp only [List.mem_cons, List.not_mem_nil, or_false] at h
    · rcases h with rfl | rfl
      all_goals exact hhigh _ (by omega) (by omega) hascii
    · rcases h with rfl | rfl | rfl
      all_goals exact hhigh _ (by omega) (by omega) hascii
    · rcases h with rfl | rfl | rfl | rfl
      all_goals exact hhigh _ (by omega) (by omega) hascii

namespace Percent

variable {set : EncodeSet}

theorem graphic_triple (b : UInt8) : Graphic (triple b) := by
  have hall : ∀ b, Graphic (triple b) := forall_octet (by decide +kernel)
  exact hall b

theorem isGraphic_of_not_isEncoded {b : UInt8} (h : ¬isEncoded set b = true) (hspace : b ≠ 32) :
    IsGraphic (Char.ofNat b.toNat) := by
  simp only [isEncoded, Bool.or_eq_true, decide_eq_true_eq, not_or] at h
  have hlow : 0x20 ≤ b.toNat := UInt8.le_iff_toNat_le.1 (UInt8.not_lt.1 h.1.1)
  have hhigh : b.toNat < 0x7F := UInt8.lt_iff_toNat_lt.1 (UInt8.not_le.1 h.1.2)
  have hne : b.toNat ≠ 0x20 := fun heq => hspace (UInt8.toNat_inj.1 heq)
  rw [IsGraphic, toNat_charOf (by omega)]
  omega

/-- An encoded text is graphic, if spaces are encoded or there are none. -/
theorem graphic_encode {cs : List Char} (h : ' ' ∈ set ∨ ' ' ∉ cs) : Graphic (encode set cs) := by
  intro c hc
  obtain ⟨b, hb, hc⟩ := List.mem_flatMap.1 hc
  by_cases hencoded : isEncoded set b = true
  · rw [if_pos hencoded] at hc
    exact graphic_triple b c hc
  · rw [if_neg hencoded, List.mem_singleton] at hc
    rw [hc]
    refine isGraphic_of_not_isEncoded hencoded ?_
    rintro rfl
    rcases h with hset | hnone
    · exact (bounds_of_not_isEncoded hencoded).2 hset
    · rw [Utf8.encode_ofList, List.mem_flatMap] at hb
      obtain ⟨d, hd, hb⟩ := hb
      rw [Utf8.eq_of_mem_encodeChar hb (by decide)] at hd
      exact hnone hd

end Percent

/-! ## Punycode -/

/-- A text whose characters of ASCII are graphic; it may hold others beyond ASCII. -/
def GraphicInAscii (cs : List Char) : Prop := ∀ c ∈ cs, c.toNat < 0x80 → IsGraphic c

namespace Punycode

theorem threshold_le (place bias : Nat) : threshold place bias ≤ 26 := by
  unfold threshold
  split_ifs
  · decide
  · exact Nat.min_le_left _ _

theorem isGraphic_digit : ∀ n < 36, IsGraphic (digit n) := by
  decide

theorem graphic_number (bias place n : Nat) : Graphic (number bias place n) := by
  have hle := fun place => threshold_le place bias
  have hpos := fun place => one_le_threshold place bias
  fun_induction number bias place n with
  | case1 place n hlast =>
      rw [graphic_cons]
      exact ⟨isGraphic_digit n (Nat.lt_of_lt_of_le hlast ((hle place).trans (by decide))), graphic_nil⟩
  | case2 place n hmore base excess ih =>
      have hbase : base = 36 - threshold place bias := rfl
      have hrest : excess % base < base := Nat.mod_lt _ (by have := hle place; omega)
      rw [graphic_cons]
      exact ⟨isGraphic_digit _ (by omega), ih⟩

theorem Encoder.graphic_pass {e : Encoder} (h : ∀ piece ∈ e.pieces, Graphic piece) (point : Nat) (c : Char) :
    ∀ piece ∈ (e.pass point c).pieces, Graphic piece := by
  unfold pass
  split_ifs
  · exact h
  · rw [List.forall_mem_cons]
    exact ⟨graphic_number _ _ _, h⟩
  · exact h

theorem Encoder.graphic_run (label : List Char) (points : List Nat) {e : Encoder}
    (h : ∀ piece ∈ e.pieces, Graphic piece) (point : Nat) :
    ∀ piece ∈ (run label e point points).pieces, Graphic piece := by
  induction points generalizing e point with
  | nil => exact h
  | cons next points ih =>
      rw [run]
      refine ih ?_ _
      refine List.foldlRecOn (motive := fun e : Encoder => ∀ piece ∈ e.pieces, Graphic piece) label _ h ?_
      exact fun e he c _ => graphic_pass he next c

/-- A label in Punycode is graphic if what it holds of ASCII is. -/
theorem graphic_encode {label : List Char} (h : GraphicInAscii label) : Graphic (encode label) := by
  have hbasic : Graphic (label.filter (·.toNat < initialPoint)) := by
    intro c hc
    obtain ⟨hc, hascii⟩ := List.mem_filter.1 hc
    exact h c hc (of_decide_eq_true hascii)
  unfold encode
  dsimp only
  rw [graphic_append, graphic_append, graphic_flatten]
  refine ⟨⟨hbasic, ?_⟩, ?_⟩
  · split_ifs
    · exact graphic_nil
    · decide
  · intro piece hpiece
    refine Encoder.graphic_run label _ ?_ _ piece (List.mem_reverse.1 hpiece)
    exact List.forall_mem_nil _

/-- All characters that are put into a text lie beyond ASCII. -/
theorem graphicInAscii_decodeFrom {text : List Char} {point place bias : Nat} {first : Bool} {cs label : List Char}
    (htext : GraphicInAscii text) (hpoint : initialPoint ≤ point)
    (h : decodeFrom text point place bias first cs = some label) : GraphicInAscii label := by
  fun_induction decodeFrom text point place bias first cs with
  | case1 => exact Option.some.inj h ▸ htext
  | case2 => cases h
  | case3 text point place bias first cs hcs sum rest hnumber count next hvalid ih =>
      -- the point never falls, so all that is put in lies where the first one does or behind it
      have hnext : initialPoint ≤ next := hpoint.trans (Nat.le_add_right _ _)
      refine ih ?_ hnext h
      intro c hc hascii
      rcases List.mem_append.1 hc with hbefore | hbehind
      · exact htext c (List.mem_of_mem_take hbefore) hascii
      rcases List.mem_cons.1 hbehind with rfl | hbehind
      · rw [Char.ofNat, dif_pos hvalid] at hascii
        exact absurd hascii (Nat.not_lt.2 hnext)
      · exact htext c (List.mem_of_mem_drop hbehind) hascii
  | case4 => cases h

theorem graphicInAscii_of_decode? {cs label : List Char} (hcs : GraphicInAscii cs) (h : decode? cs = some label) :
    GraphicInAscii label := by
  refine graphicInAscii_decodeFrom ?_ (Nat.le_refl _) h
  exact fun c hc => hcs c (List.mem_of_mem_take hc)

end Punycode

/-! ## Domain names -/

namespace DomainName

theorem isGraphic_of_isAllowed {c : Char} (h : isAllowed c = true) : IsGraphic c := by
  simp only [isAllowed, Bool.and_eq_true, decide_eq_true_eq] at h
  exact h.1

theorem decode?_of_marked? {punycode label : List Char} (h : marked? punycode = some label) :
    Punycode.decode? punycode = some label := by
  unfold marked? at h
  simp only [Option.bind_eq_bind] at h
  split_ifs at h with hlength
  · obtain ⟨found, hfound, hlabel⟩ := Option.bind_eq_some_iff.1 h
    split_ifs at hlabel
    exact hfound.trans hlabel
  · cases h

theorem of_meant? {label meant : List Char} (h : meant? label = some meant) :
    meant = label ∨ Punycode.decode? (label.drop mark.length) = some meant := by
  unfold meant? at h
  simp only [Option.bind_eq_bind] at h
  split_ifs at h with hmark hascii
  · obtain ⟨found, hfound, hmeant⟩ := Option.bind_eq_some_iff.1 h
    split_ifs at hmeant
    exact Or.inr ((decode?_of_marked? hfound).trans hmeant)
  · cases h
  · obtain ⟨found, hfound, hmeant⟩ := Option.bind_eq_some_iff.1 h
    split_ifs at hmeant
    exact Or.inl (Option.some.inj (hfound.trans hmeant)).symm

theorem graphicInAscii_of_meant? {label meant : List Char} (hlabel : GraphicInAscii label)
    (h : meant? label = some meant) : GraphicInAscii meant := by
  rcases of_meant? h with rfl | hdecode
  · exact hlabel
  · exact Punycode.graphicInAscii_of_decode? (fun c hc => hlabel c (List.mem_of_mem_drop hc)) hdecode

/-- The ASCII form of a label is graphic if what the label holds of ASCII is. -/
theorem graphic_of_labelAscii? {label text : List Char} (hlabel : GraphicInAscii label)
    (h : labelAscii? label = some text) : Graphic text := by
  unfold labelAscii? at h
  split_ifs at h with hascii
  · obtain rfl := Option.some.inj h
    intro c hc
    exact hlabel c hc (of_decide_eq_true (List.all_eq_true.1 hascii c hc))
  · obtain rfl := Option.some.inj h
    rw [graphic_append]
    exact ⟨by decide, Punycode.graphic_encode hlabel⟩

/-- The ASCII form of a domain name is graphic. -/
theorem graphic_of_toAscii? {bs : Bytes} {domain : List Char} (h : toAscii? bs = some domain) :
    Graphic domain := by
  unfold toAscii? at h
  simp only [Option.bind_eq_bind, Option.bind_eq_some_iff] at h
  obtain ⟨text, -, folded, -, labels, hlabels, h⟩ := h
  split_ifs at h with hfolded
  obtain ⟨parts, hparts, hdomain⟩ := Option.bind_eq_some_iff.1 h
  obtain rfl := Option.some.inj hdomain
  -- this was asked of the text as a whole, before any label was read from Punycode
  have hallowed : GraphicInAscii folded := by
    intro c hc hascii
    have hc := List.all_eq_true.1 hfolded.1 c hc
    rw [isAscii, decide_eq_true hascii] at hc
    exact isGraphic_of_isAllowed hc
  have hmeant : ∀ label ∈ labels, GraphicInAscii label := by
    refine forall_of_mapM hlabels ?_
    intro piece hpiece label hlabel
    exact graphicInAscii_of_meant? (fun c hc => hallowed c (mem_of_mem_splitOn hpiece hc)) hlabel
  refine graphic_intercalate (by decide) (forall_of_mapM hparts ?_)
  exact fun label hlabel part hpart => graphic_of_labelAscii? (hmeant label hlabel) hpart

end DomainName

/-! ## Addresses -/

namespace Address

theorem graphic_ipv4Text (n : Nat) : Graphic (ipv4Text n).toList := by
  have hdot : IsGraphic '.' := by decide
  have htext : (ipv4Text n).toList = (n / 16777216 % 256).repr.toList ++ '.' :: ((n / 65536 % 256).repr.toList
      ++ '.' :: ((n / 256 % 256).repr.toList ++ '.' :: (n % 256).repr.toList)) := by
    simp [ipv4Text, toString]
  simp only [htext, graphic_append, graphic_cons, graphic_repr, hdot, and_self]

theorem isGraphic_hexDigit : ∀ n < 16, IsGraphic (hexDigit n) := by
  decide

theorem graphic_hexText (n : Nat) : Graphic (hexText n).toList := by
  have hdigit : ∀ m, IsGraphic (hexDigit (m % 16)) := fun m => isGraphic_hexDigit _ (Nat.mod_lt m (by decide))
  have hdigits : Graphic [hexDigit (n / 4096 % 16), hexDigit (n / 256 % 16), hexDigit (n / 16 % 16)] := by
    simp only [graphic_cons, hdigit, graphic_nil, and_self]
  unfold hexText
  rw [String.toList_ofList, graphic_append, graphic_cons]
  exact ⟨hdigits.mono fun c hc => List.dropWhile_subset _ hc, hdigit n, graphic_nil⟩

theorem graphic_ipv6Text (pieces : List Nat) : Graphic (ipv6Text pieces).toList := by
  have hjoin : ∀ ps : List Nat, Graphic (":".intercalate (ps.map hexText)).toList := by
    intro ps
    rw [String.toList_intercalate]
    refine graphic_intercalate (by decide) ?_
    simp only [List.map_map, List.forall_mem_map, Function.comp_apply]
    exact fun n _ => graphic_hexText n
  unfold ipv6Text
  dsimp only
  split
  · exact hjoin pieces
  · simp only [toString, String.toList_append, graphic_append]
    exact ⟨⟨hjoin _, by decide⟩, hjoin _⟩

end Address

/-! ## Hosts -/

namespace Url

theorem graphic_of_bracketed {cs host : List Char} (h : bracketed cs = .ok host) : Graphic host := by
  unfold bracketed at h
  split_ifs at h with hclosed
  · cases h
  · split at h
    · obtain rfl := Except.ok.inj h
      simp only [toString, String.toList_append, graphic_append]
      exact ⟨⟨by decide, Address.graphic_ipv6Text _⟩, by decide⟩
    · cases h

theorem graphic_of_specialHost {cs host : List Char} (h : specialHost cs = .ok host) : Graphic host := by
  unfold specialHost at h
  split_ifs at h with hbracket
  · exact graphic_of_bracketed h
  · split at h
    · cases h
    · cases h
    · next domain _ hdomain =>
      split_ifs at h with hnumber
      · split at h
        · obtain rfl := Except.ok.inj h
          exact Address.graphic_ipv4Text _
        · cases h
      · obtain rfl := Except.ok.inj h
        exact DomainName.graphic_of_toAscii? hdomain

theorem graphic_of_plainHost {cs host : List Char} (h : plainHost cs = .ok host) : Graphic host := by
  unfold plainHost at h
  split_ifs at h with hbracket hforbidden
  · exact graphic_of_bracketed h
  · obtain rfl := Except.ok.inj h
    refine Percent.graphic_encode (Or.inr fun hspace => hforbidden ?_)
    exact List.any_eq_true.2 ⟨' ', hspace, by decide⟩

end Url

end SteadyFetch
