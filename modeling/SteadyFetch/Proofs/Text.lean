import Mathlib.Data.List.DropRight
import SteadyFetch.Text.Blank
import SteadyFetch.Text.Numeral
import SteadyFetch.Text.Utf8

set_option autoImplicit false

/-! # Text that is read back

What the program writes as text it can read again: UTF-8 gives back the text it encodes, a numeral
gives back its number, and blanks at the ends of a line change neither its name nor its value. -/

namespace SteadyFetch

/-! ## UTF-8 -/

namespace Utf8

theorem toNat_ofNat_of_lt {n : Nat} (h : n < 256) : (UInt8.ofNat n).toNat = n := by
  rw [UInt8.toNat_ofNat']
  omega

/-- What a first octet announces, with bounds for the second one that admit the given value. -/
def Announces (b : UInt8) (count bits next : Nat) : Prop :=
  ∃ low high, lead? b = some ⟨count, low, high, bits⟩ ∧ low ≤ next ∧ next ≤ high

theorem announces_one {n : Nat} (h : n ≤ 0x7f) : Announces (UInt8.ofNat n) 0 n 0x80 := by
  refine ⟨0x80, 0xBF, ?_, by omega, by omega⟩
  unfold lead?
  simp only [toNat_ofNat_of_lt (show n < 256 by omega)]
  rw [if_pos (by omega)]

theorem announces_two {n : Nat} (hlow : 0x80 ≤ n) (hhigh : n ≤ 0x7ff) :
    Announces (UInt8.ofNat (n / 64 % 0x20 + 0xc0)) 1 (n / 64) (n % 64 + 0x80) := by
  refine ⟨0x80, 0xBF, ?_, by omega, by omega⟩
  unfold lead?
  simp only [toNat_ofNat_of_lt (show n / 64 % 0x20 + 0xc0 < 256 by omega)]
  rw [if_neg (by omega), if_neg (by omega), if_pos (by omega),
    show n / 64 % 0x20 + 0xc0 - 0xC0 = n / 64 by omega]

/-- The bounds on the second octet keep out surrogates, which are no code points of characters. -/
theorem announces_three {n : Nat} (hlow : 0x800 ≤ n) (hhigh : n ≤ 0xffff)
    (hvalid : n < 0xD800 ∨ 0xE000 ≤ n) :
    Announces (UInt8.ofNat (n / 4096 % 0x10 + 0xe0)) 2 (n / 4096) (n / 64 % 64 + 0x80) := by
  have hlead : n / 4096 % 0x10 + 0xe0 = n / 4096 + 0xe0 := by omega
  unfold Announces lead?
  simp only [hlead, toNat_ofNat_of_lt (show n / 4096 + 0xe0 < 256 by omega)]
  rw [if_neg (by omega), if_neg (by omega), if_neg (by omega)]
  by_cases hfirst : n / 4096 + 0xe0 = 0xE0
  · rw [if_pos hfirst]
    exact ⟨0xA0, 0xBF, by rw [show n / 4096 = 0 by omega], by omega, by omega⟩
  · rw [if_neg hfirst]
    by_cases hsurrogate : n / 4096 + 0xe0 = 0xED
    · rw [if_pos hsurrogate]
      exact ⟨0x80, 0x9F, by rw [show n / 4096 = 0xD by omega], by omega, by omega⟩
    · rw [if_neg hsurrogate, if_pos (by omega), Nat.add_sub_cancel]
      exact ⟨0x80, 0xBF, rfl, by omega, by omega⟩

theorem announces_four {n : Nat} (hlow : 0x10000 ≤ n) (hhigh : n < 0x110000) :
    Announces (UInt8.ofNat (n / 262144 % 0x08 + 0xf0)) 3 (n / 262144) (n / 4096 % 64 + 0x80) := by
  have hlead : n / 262144 % 0x08 + 0xf0 = n / 262144 + 0xf0 := by omega
  unfold Announces lead?
  simp only [hlead, toNat_ofNat_of_lt (show n / 262144 + 0xf0 < 256 by omega)]
  rw [if_neg (by omega), if_neg (by omega), if_neg (by omega), if_neg (by omega), if_neg (by omega),
    if_neg (by omega)]
  by_cases hfirst : n / 262144 + 0xf0 = 0xF0
  · rw [if_pos hfirst]
    exact ⟨0x90, 0xBF, by rw [show n / 262144 = 0 by omega], by omega, by omega⟩
  · rw [if_neg hfirst]
    by_cases hlast : n / 262144 + 0xf0 < 0xF4
    · rw [if_pos hlast, Nat.add_sub_cancel]
      exact ⟨0x80, 0xBF, rfl, by omega, by omega⟩
    · rw [if_neg hlast, if_pos (by omega)]
      exact ⟨0x80, 0x8F, by rw [show n / 262144 = 4 by omega], by omega, by omega⟩

theorem follow_ofNat {count low high bits v : Nat} {bs : Bytes} (hlow : low ≤ v + 0x80)
    (hhigh : v + 0x80 ≤ high) (hv : v < 64) :
    follow (count + 1) low high bits (UInt8.ofNat (v + 0x80) :: bs)
      = follow count 0x80 0xBF (bits * 64 + v) bs := by
  have hoctet := toNat_ofNat_of_lt (show v + 0x80 < 256 by omega)
  rw [follow, hoctet, if_pos ⟨hlow, hhigh⟩, Nat.add_sub_cancel]

/-- A first octet and the octets that follow it read as the character they denote. -/
theorem scan_cons {b : UInt8} {count bits next n : Nat} {bs rest : Bytes}
    (h : Announces b count bits next)
    (hfollow : ∀ low high, low ≤ next → next ≤ high →
      follow count low high bits bs = (some n, rest)) :
    scan (b :: bs) = some (Char.ofNat n) :: scan rest := by
  obtain ⟨low, high, hlead, hlow, hhigh⟩ := h
  rw [scan, item, hlead]
  simp only [hfollow low high hlow hhigh, Option.map_some]

/-- The octets of one character read as that character. -/
theorem scan_encodeChar (c : Char) (rest : Bytes) :
    scan (String.utf8EncodeChar c ++ rest) = some c :: scan rest := by
  have hvalid : c.val.toNat < 0x110000 ∧ (c.val.toNat < 0xD800 ∨ 0xE000 ≤ c.val.toNat) := by
    have h := c.valid
    simp only [UInt32.isValidChar, Nat.isValidChar] at h
    omega
  have hchar : Char.ofNat c.val.toNat = c := Char.ofNat_toNat c
  -- the number is kept apart from the character, so that arithmetic sees no casts
  suffices h : ∀ n, n = c.val.toNat →
      scan (String.utf8EncodeChar c ++ rest) = some (Char.ofNat n) :: scan rest by
    rw [h _ rfl, hchar]
  intro n hn
  unfold String.utf8EncodeChar
  simp only [← hn] at hvalid ⊢
  by_cases h1 : n ≤ 0x7f
  · rw [if_pos h1]
    refine scan_cons (announces_one h1) fun _ _ _ _ => rfl
  · rw [if_neg h1]
    by_cases h2 : n ≤ 0x7ff
    · rw [if_pos h2]
      refine scan_cons (announces_two (by omega) h2) fun low high hlow hhigh => ?_
      show follow 1 low high (n / 64) (UInt8.ofNat (n % 64 + 0x80) :: rest) = _
      rw [follow_ofNat hlow hhigh (by omega), follow, show n / 64 * 64 + n % 64 = n by omega]
    · rw [if_neg h2]
      by_cases h3 : n ≤ 0xffff
      · rw [if_pos h3]
        refine scan_cons (announces_three (by omega) h3 hvalid.2) fun low high hlow hhigh => ?_
        show follow 2 low high (n / 4096)
          (UInt8.ofNat (n / 64 % 64 + 0x80) :: UInt8.ofNat (n % 64 + 0x80) :: rest) = _
        rw [follow_ofNat hlow hhigh (by omega), follow_ofNat (by omega) (by omega) (by omega), follow,
          show (n / 4096 * 64 + n / 64 % 64) * 64 + n % 64 = n by omega]
      · rw [if_neg h3]
        refine scan_cons (announces_four (by omega) hvalid.1) fun low high hlow hhigh => ?_
        show follow 3 low high (n / 262144) (UInt8.ofNat (n / 4096 % 64 + 0x80)
          :: UInt8.ofNat (n / 64 % 64 + 0x80) :: UInt8.ofNat (n % 64 + 0x80) :: rest) = _
        rw [follow_ofNat hlow hhigh (by omega), follow_ofNat (by omega) (by omega) (by omega),
          follow_ofNat (by omega) (by omega) (by omega), follow,
          show ((n / 262144 * 64 + n / 4096 % 64) * 64 + n / 64 % 64) * 64 + n % 64 = n by omega]

theorem scan_encode (s : String) : scan (encode s) = s.toList.map some := by
  unfold encode
  induction s.toList with
  | nil => rw [List.flatMap_nil, List.map_nil, scan]
  | cons c cs ih => rw [List.flatMap_cons, scan_encodeChar, ih, List.map_cons]

/-- Strict decoding gives back the text that was encoded. -/
@[simp] theorem decode?_encode (s : String) : decode? (encode s) = some s := by
  have hall : ∀ cs : List Char, (cs.map some).mapM (id : Option Char → Option Char) = some cs := by
    intro cs
    induction cs with
    | nil => rfl
    | cons c cs ih => simp [ih]
  rw [decode?, scan_encode, hall, Option.map_some, String.ofList_toList]

@[simp] theorem decodeLossy_encode (s : String) : decodeLossy (encode s) = s := by
  rw [decodeLossy, scan_encode, List.map_map]
  simp [Function.comp_def]

end Utf8

/-! ## Numerals -/

namespace Numeral

theorem digits?_of_all_isDigit {cs : List Char} (h : ∀ c ∈ cs, c.isDigit) (acc : Nat) :
    digits? cs acc = some (Nat.ofDigitChars 10 cs acc) := by
  induction cs generalizing acc with
  | nil => simp [digits?]
  | cons c cs ih =>
      rw [digits?, if_pos (h c List.mem_cons_self), ih fun d hd => h d (List.mem_cons_of_mem _ hd),
        Nat.ofDigitChars_cons, Nat.mul_comm]
      rfl

theorem isDigit_of_mem_repr {n : Nat} {c : Char} (h : c ∈ n.repr.toList) : c.isDigit := by
  rw [Nat.toList_repr] at h
  exact Nat.isDigit_of_mem_toDigits (by decide) (by decide) h

theorem magnitude?_repr (n : Nat) : magnitude? n.repr.toList = some n := by
  have hdigits := digits?_of_all_isDigit (fun c hc => isDigit_of_mem_repr (n := n) hc) 0
  rw [Nat.toList_repr] at hdigits ⊢
  rw [Nat.ofDigitChars_ten_toDigits] at hdigits
  cases hcs : Nat.toDigits 10 n with
  | nil => exact absurd hcs Nat.toDigits_ne_nil
  | cons c cs =>
      rw [hcs] at hdigits
      exact hdigits

@[simp] theorem magnitude?_toDigits (n : Nat) : magnitude? (Nat.toDigits 10 n) = some n := by
  rw [← Nat.toList_repr, magnitude?_repr]

/-- A numeral starts with a digit, so no sign is mistaken for one. -/
theorem nat?_repr (n : Nat) : nat? n.repr.toList = some n := by
  rw [← magnitude?_repr n]
  cases hcs : n.repr.toList with
  | nil => rfl
  | cons c cs =>
      have hdigit : c.isDigit := isDigit_of_mem_repr (n := n) (by simp [hcs])
      have hsign : c ≠ '+' := by
        rintro rfl
        simp at hdigit
      unfold nat?
      split
      · next heq => exact absurd (List.cons.inj heq).1 hsign
      · rfl

theorem below?_repr {limit n : Nat} (h : n < limit) : below? limit n.repr.toList = some n := by
  rw [below?, nat?_repr, Option.filter_some, if_pos (decide_eq_true h)]

theorem i64?_repr {g : Int} (hlow : -(Word.limit63 : Int) ≤ g) (hhigh : g < Word.limit63) :
    i64? g.repr.toList = some g := by
  rw [Int.repr_eq_if]
  by_cases hg : 0 ≤ g
  · rw [if_pos hg]
    have hbound : g.toNat < Word.limit63 := by omega
    have hvalue : ((g.toNat : Nat) : Int) = g := Int.toNat_of_nonneg hg
    unfold i64?
    split
    · next rest heq =>
      have hdigit : '-'.isDigit := isDigit_of_mem_repr (n := g.toNat) (by simp [heq])
      simp at hdigit
    · rw [nat?_repr, Option.filter_some, if_pos (decide_eq_true hbound)]
      exact congrArg some hvalue
  · rw [if_neg hg]
    have hbound : (-g).toNat ≤ Word.limit63 := by omega
    have hvalue : -(((-g).toNat : Nat) : Int) = g := by omega
    rw [String.toList_append, show "-".toList = ['-'] from rfl, List.singleton_append, i64?,
      magnitude?_repr, Option.filter_some, if_pos (decide_eq_true hbound)]
    exact congrArg some hvalue

theorem range_of_i64? {cs : List Char} {g : Int} (h : i64? cs = some g) :
    -(Word.limit63 : Int) ≤ g ∧ g < Word.limit63 := by
  unfold i64? at h
  split at h
  · obtain ⟨_, hread, rfl⟩ := Option.map_eq_some_iff.1 h
    obtain ⟨n, hn, hvalue⟩ := Option.bind_eq_some_iff.1 hread
    obtain rfl := Option.some.inj hvalue
    have hbound : n ≤ Word.limit63 := of_decide_eq_true (Option.filter_eq_some_iff.1 hn).2
    have hpos : 0 < Word.limit63 := by decide
    omega
  · obtain ⟨_, hread, rfl⟩ := Option.map_eq_some_iff.1 h
    obtain ⟨n, hn, hvalue⟩ := Option.bind_eq_some_iff.1 hread
    obtain rfl := Option.some.inj hvalue
    have hbound : n < Word.limit63 := of_decide_eq_true (Option.filter_eq_some_iff.1 hn).2
    omega

end Numeral

/-! ## Blanks and separators -/

theorem trimEnd_append_cons {c : Char} (hc : isBlank c = false) (before after : List Char) :
    trimEnd (before ++ c :: after) = before ++ c :: trimEnd after := by
  have hstop : ∀ l : List Char, (l ++ c :: before.reverse).dropWhile isBlank
      = l.dropWhile isBlank ++ c :: before.reverse := by
    intro l
    rw [List.dropWhile_append]
    split
    · next hempty =>
      rw [List.isEmpty_iff.1 hempty, List.dropWhile_cons_of_neg (by simp [hc]), List.nil_append]
    · rfl
  simp [trimEnd, hstop]

theorem trimEnd_eq_nil {cs : List Char} (h : ∀ c ∈ cs, isBlank c = true) : trimEnd cs = [] :=
  List.rdropWhile_eq_nil_iff.2 h

theorem trimEnd_isPrefix (cs : List Char) : trimEnd cs <+: cs :=
  List.rdropWhile_prefix isBlank cs

theorem trimEnd_eq_self {cs : List Char} (h : ∀ c ∈ cs, isBlank c = false) : trimEnd cs = cs := by
  rcases List.eq_nil_or_concat cs with rfl | ⟨init, last, rfl⟩
  · rfl
  · rw [List.concat_eq_append] at h ⊢
    rw [trimEnd_append_cons (h last (by simp)), show trimEnd [] = [] from rfl]

theorem trim_eq_self {cs : List Char} (h : ∀ c ∈ cs, isBlank c = false) : trim cs = cs := by
  have hstart : trimStart cs = cs := by
    cases cs with
    | nil => rfl
    | cons c cs => rw [trimStart, List.dropWhile_cons_of_neg (by simp [h c List.mem_cons_self])]
  rw [trim, hstart, trimEnd_eq_self h]

theorem trim_cons_blank {c : Char} (hc : isBlank c = true) (cs : List Char) :
    trim (c :: cs) = trim cs := by
  rw [trim, trim, trimStart, trimStart, List.dropWhile_cons_of_pos hc]

/-- Trimming both ends includes trimming the end. -/
theorem trim_trimEnd (cs : List Char) : trim (trimEnd cs) = trim cs := by
  induction cs with
  | nil => rfl
  | cons c cs ih =>
      by_cases hc : isBlank c = true
      · by_cases hall : ∀ d ∈ cs, isBlank d = true
        · have hnil : trimEnd (c :: cs) = [] := trimEnd_eq_nil (by simpa using ⟨hc, hall⟩)
          have hstart : trimStart (c :: cs) = [] :=
            List.dropWhile_eq_nil_iff.2 (by simpa using ⟨hc, hall⟩)
          rw [hnil, trim, trim, hstart]
          rfl
        · have hcons : trimEnd (c :: cs) = c :: trimEnd cs := by
            have hne : cs.reverse.dropWhile isBlank ≠ [] := by
              rw [Ne, List.dropWhile_eq_nil_iff]
              simpa using hall
            rw [trimEnd, List.reverse_cons, List.dropWhile_append, if_neg (by simpa using hne),
              List.reverse_append]
            rfl
          rw [hcons, trim_cons_blank hc, trim_cons_blank hc, ih]
      · have hcons : trimEnd (c :: cs) = c :: trimEnd cs :=
          trimEnd_append_cons (by simpa using hc) [] cs
        have hstart : ∀ l : List Char, trimStart (c :: l) = c :: l :=
          fun l => List.dropWhile_cons_of_neg (by simpa using hc)
        rw [hcons, trim, trim, hstart, hstart, ← hcons]
        exact List.rdropWhile_idempotent isBlank (c :: cs)

theorem splitOnce_append {sep : Char} {before : List Char} (h : sep ∉ before) (after : List Char) :
    splitOnce sep (before ++ sep :: after) = some (before, after) := by
  have hpass : ∀ c ∈ before, (c != sep) = true := by
    intro c hc
    simp only [bne_iff_ne, ne_eq]
    rintro rfl
    exact h hc
  unfold splitOnce
  rw [List.dropWhile_append_of_pos hpass, List.takeWhile_append_of_pos hpass]
  simp

theorem wordsFrom_append {word piece : List Char} (h : ∀ c ∈ piece, isBlank c = false)
    (hne : word.reverse ++ piece ≠ []) {c : Char} (hc : isBlank c = true) (rest : List Char) :
    wordsFrom word (piece ++ c :: rest) = (word.reverse ++ piece) :: wordsFrom [] rest := by
  induction piece generalizing word with
  | nil =>
      have hword : word.isEmpty = false := by
        cases word with
        | nil => simp at hne
        | cons _ _ => rfl
      rw [List.nil_append, wordsFrom, if_pos hc, hword, List.append_nil]
      rfl
  | cons d piece ih =>
      rw [List.cons_append, wordsFrom, if_neg (by simp [h d List.mem_cons_self]),
        ih (fun c hc => h c (List.mem_cons_of_mem _ hc)) (by simp)]
      simp

theorem wordsFrom_eq_singleton {word piece : List Char} (h : ∀ c ∈ piece, isBlank c = false)
    (hne : word.reverse ++ piece ≠ []) : wordsFrom word piece = [word.reverse ++ piece] := by
  induction piece generalizing word with
  | nil =>
      cases word with
      | nil => simp at hne
      | cons _ _ => simp [wordsFrom]
  | cons d piece ih =>
      rw [wordsFrom, if_neg (by simp [h d List.mem_cons_self]),
        ih (fun c hc => h c (List.mem_cons_of_mem _ hc)) (by simp)]
      simp

theorem words_append {piece : List Char} (h : ∀ c ∈ piece, isBlank c = false) (hne : piece ≠ [])
    {c : Char} (hc : isBlank c = true) (rest : List Char) :
    words (piece ++ c :: rest) = piece :: words rest :=
  @wordsFrom_append [] piece h hne c hc rest

theorem bounds_of_isDigit {c : Char} (h : c.isDigit) : 48 ≤ c.toNat ∧ c.toNat ≤ 57 := by
  simp only [Char.isDigit, ge_iff_le, Bool.and_eq_true, decide_eq_true_eq] at h
  exact h

theorem isBlank_of_isDigit {c : Char} (h : c.isDigit) : isBlank c = false := by
  obtain ⟨hlow, hhigh⟩ := bounds_of_isDigit h
  simp only [isBlank, Bool.or_eq_false_iff, Bool.and_eq_false_iff, decide_eq_false_iff_not,
    beq_eq_false_iff_ne]
  omega

end SteadyFetch
