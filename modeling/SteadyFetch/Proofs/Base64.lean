import SteadyFetch.Proofs.After
import SteadyFetch.Proofs.Form
import SteadyFetch.Text.Base64

set_option autoImplicit false

/-! # Base64 has one text for every octet string

Decoding takes the text of an octet string back to it and takes no other text (`Base64.decode_eq_ok_iff`), so a
text that decodes consists of symbols and padding alone (`Base64.forall_mem_symbols`). Groups of four symbols and
of three octets cut the same twenty-four bits differently. The last group is read value by value; its padding and
its unused bits leave one reading for each number of values (`Base64.textOctets_of_closeTail`). -/

namespace SteadyFetch.Base64

/-! ## Symbols -/

/-- The octet of the symbol for six bits. -/
def symbolOctet (n : Nat) : UInt8 := UInt8.ofNat (symbol n).toNat

theorem value?_eq_some_iff {b : UInt8} {n : Nat} : value? b = some n ↔ n < 64 ∧ b = symbolOctet n := by
  have hback : ∀ n < 64, value? (symbolOctet n) = some n := by decide
  have hsymbol : ∀ b : UInt8, (value? b).all (fun n => n < 64 && b == symbolOctet n) = true :=
    forall_octet (by decide +kernel)
  constructor
  · intro h
    have hb := hsymbol b
    rw [h, Option.all_some, Bool.and_eq_true, decide_eq_true_eq, beq_iff_eq] at hb
    exact hb
  · rintro ⟨hn, rfl⟩
    exact hback n hn

theorem sixBits_eq_ok_iff {offset : Nat} {b : UInt8} {n : Nat} :
    sixBits offset b = .ok n ↔ n < 64 ∧ b = symbolOctet n := by
  rw [← value?_eq_some_iff, sixBits]
  cases value? b with
  | none => simp
  | some m => simp

theorem forall_symbol {P : Char → Prop} (h : ∀ n < 64, P (symbol n)) (n : Nat) : P (symbol n) := by
  by_cases hn : n < 64
  · exact h n hn
  · have hlast : symbol n = symbol 63 := by
      unfold symbol
      rw [if_neg (by omega), if_neg (by omega), if_neg (by omega), if_neg (by omega)]
      rfl
    rw [hlast]
    exact h 63 (by decide)

theorem forall_mem_symbols {P : Char → Prop} (h : ∀ n < 64, P (symbol n)) (hpadding : P '=') (bs : Bytes) :
    ∀ c ∈ symbols bs, P c := by
  fun_induction symbols bs with
  | case1 => nofun
  | case2 a =>
      simp only [List.forall_mem_cons]
      exact ⟨forall_symbol h _, forall_symbol h _, hpadding, hpadding, nofun⟩
  | case3 a b =>
      simp only [List.forall_mem_cons]
      exact ⟨forall_symbol h _, forall_symbol h _, forall_symbol h _, hpadding, nofun⟩
  | case4 a b c rest ih =>
      simp only [List.forall_mem_cons]
      exact ⟨forall_symbol h _, forall_symbol h _, forall_symbol h _, forall_symbol h _, ih⟩

/-! ## Groups -/

/-- The octets of the text of an octet string. -/
def textOctets (bs : Bytes) : Bytes := (symbols bs).map fun c => UInt8.ofNat c.toNat

theorem encode_encode (bs : Bytes) : Utf8.encode (encode bs) = textOctets bs := by
  have hascii : ∀ c ∈ symbols bs, c.toNat < 0x80 := forall_mem_symbols (by decide) (by decide) bs
  rw [encode, Utf8.encode_ofList, textOctets, List.map_eq_flatMap]
  exact List.flatMap_congr fun c hc => Utf8.encodeChar_of_lt (hascii c hc)

/-- Four values that fill three octets are read off these again. -/
theorem textOctets_octets {p q r s : Nat} (hp : p < 64) (hq : q < 64) (hr : r < 64) (hs : s < 64) (rest : Bytes) :
    textOctets (octets p q r s ++ rest)
      = symbolOctet p :: symbolOctet q :: symbolOctet r :: symbolOctet s :: textOctets rest := by
  have hx := Utf8.toNat_ofNat_of_lt (show p * 4 + q / 16 < 256 by omega)
  have hy := Utf8.toNat_ofNat_of_lt (show q % 16 * 16 + r / 4 < 256 by omega)
  have hz := Utf8.toNat_ofNat_of_lt (show r % 4 * 64 + s < 256 by omega)
  show textOctets (_ :: _ :: _ :: rest) = _
  simp only [textOctets, symbols, hx, hy, hz, List.map_cons]
  rw [show (p * 4 + q / 16) / 4 = p by omega,
    show (p * 4 + q / 16) % 4 * 16 + (q % 16 * 16 + r / 4) / 16 = q by omega,
    show (q % 16 * 16 + r / 4) % 16 * 4 + (r % 4 * 64 + s) / 64 = r by omega,
    show (r % 4 * 64 + s) % 64 = s by omega]
  rfl

theorem textOctets_one {p q : Nat} (hp : p < 64) (hq : q < 64) (hbits : q % 16 = 0) :
    textOctets ((octets p q 0 0).take 1) = [symbolOctet p, symbolOctet q, 61, 61] := by
  have hx := Utf8.toNat_ofNat_of_lt (show p * 4 + q / 16 < 256 by omega)
  show textOctets [_] = _
  simp only [textOctets, symbols, hx, List.map_cons]
  rw [show (p * 4 + q / 16) / 4 = p by omega, show (p * 4 + q / 16) % 4 * 16 = q by omega]
  rfl

theorem textOctets_two {p q r : Nat} (hp : p < 64) (hq : q < 64) (hr : r < 64) (hbits : r % 4 = 0) :
    textOctets ((octets p q r 0).take 2) = [symbolOctet p, symbolOctet q, symbolOctet r, 61] := by
  have hx := Utf8.toNat_ofNat_of_lt (show p * 4 + q / 16 < 256 by omega)
  have hy := Utf8.toNat_ofNat_of_lt (show q % 16 * 16 + r / 4 < 256 by omega)
  show textOctets [_, _] = _
  simp only [textOctets, symbols, hx, hy, List.map_cons]
  rw [show (p * 4 + q / 16) / 4 = p by omega,
    show (p * 4 + q / 16) % 4 * 16 + (q % 16 * 16 + r / 4) / 16 = q by omega,
    show (q % 16 * 16 + r / 4) % 16 * 4 = r by omega]
  rfl

theorem octets_of (x y z : UInt8) :
    octets (x.toNat / 4) (x.toNat % 4 * 16 + y.toNat / 16) (y.toNat % 16 * 4 + z.toNat / 64) (z.toNat % 64)
      = [x, y, z] := by
  have hx := x.toNat_lt
  have hy := y.toNat_lt
  have hz := z.toNat_lt
  rw [octets, show x.toNat / 4 * 4 + (x.toNat % 4 * 16 + y.toNat / 16) / 16 = x.toNat by omega,
    show (x.toNat % 4 * 16 + y.toNat / 16) % 16 * 16 + (y.toNat % 16 * 4 + z.toNat / 64) / 4 = y.toNat by omega,
    show (y.toNat % 16 * 4 + z.toNat / 64) % 4 * 64 + z.toNat % 64 = z.toNat by omega]
  simp only [UInt8.ofNat_toNat]

/-! ## The last group -/

theorem readTail_padding {index offset at_ : Nat} (hindex : 2 ≤ index) {t t' : Tail} {bs : Bytes} :
    readTail index offset (some at_) t bs = .ok t' ↔
      bs = List.replicate bs.length 61 ∧ t' = { t with padding := t.padding + bs.length } := by
  induction bs generalizing index offset t with
  | nil => simp [readTail, eq_comm]
  | cons b bs ih =>
      rw [readTail]
      by_cases hb : b = 61
      · rw [if_pos hb, if_neg (by omega), Option.some_or, ih (by omega), List.length_cons, List.replicate_succ, hb]
        simp [Nat.add_assoc, Nat.add_comm 1]
      · rw [if_neg hb, List.length_cons, List.replicate_succ]
        simp [hb]

theorem symbolOctet_ne {v : Nat} (h : v < 64) : symbolOctet v ≠ 61 := by
  revert v
  decide

theorem eq_nil_of_padding {values : List Nat} {padding : Nat} {bs : Bytes} (hvalues : ∀ v ∈ values, v < 64)
    (h : 61 :: bs = values.map symbolOctet ++ List.replicate padding 61) : values = [] := by
  cases values with
  | nil => rfl
  | cons v values =>
      rw [List.map_cons, List.cons_append] at h
      exact absurd (List.cons.inj h).1.symm (symbolOctet_ne (hvalues v List.mem_cons_self))

/-- The last group holds values, and padding behind two of them or more. -/
theorem readTail_eq_ok_iff {index offset : Nat} {t t' : Tail} {bs : Bytes} :
    readTail index offset none t bs = .ok t' ↔
      ∃ values padding, bs = values.map symbolOctet ++ List.replicate padding 61 ∧ (∀ v ∈ values, v < 64) ∧
        (0 < padding → 2 ≤ index + values.length) ∧ t' = ⟨t.values ++ values, t.padding + padding⟩ := by
  induction bs generalizing index offset t with
  | nil =>
      constructor
      · intro h
        obtain rfl := Except.ok.inj h
        exact ⟨[], 0, rfl, nofun, nofun, by simp⟩
      · rintro ⟨values, padding, hbs, -, -, rfl⟩
        obtain ⟨hvalues, hpadding⟩ := List.append_eq_nil_iff.1 hbs.symm
        rw [List.map_eq_nil_iff.1 hvalues, (List.replicate_eq_nil_iff _).1 hpadding, List.append_nil]
        rfl
  | cons b bs ih =>
      rw [readTail]
      by_cases hb : b = 61
      · subst hb
        rw [if_pos rfl]
        by_cases hindex : index < 2
        · rw [if_pos hindex]
          refine ⟨nofun, ?_⟩
          rintro ⟨values, padding, hbs, hvalues, hplace, -⟩
          obtain rfl := eq_nil_of_padding hvalues hbs
          cases padding with
          | zero => cases hbs
          | succ padding => exact absurd (hplace (Nat.succ_pos _)) (Nat.not_le.2 hindex)
        · rw [if_neg hindex, Option.none_or, readTail_padding (by omega)]
          constructor
          · rintro ⟨hbs, rfl⟩
            refine ⟨[], bs.length + 1, ?_, nofun, by omega, ?_⟩
            · rw [List.replicate_succ, ← hbs]
              rfl
            · rw [List.append_nil, Nat.add_assoc, Nat.add_comm 1]
          · rintro ⟨values, padding, hbs, hvalues, -, rfl⟩
            obtain rfl := eq_nil_of_padding hvalues hbs
            cases padding with
            | zero => cases hbs
            | succ padding =>
                have hrest : bs = List.replicate padding 61 := (List.cons.inj hbs).2
                subst hrest
                simp [Nat.add_assoc, Nat.add_comm 1]
      · rw [if_neg hb]
        constructor
        · intro h
          cases hsix : sixBits offset b with
          | error e => simp [hsix, bind, Except.bind] at h
          | ok v =>
              simp only [hsix, bind, Except.bind] at h
              obtain ⟨hv, rfl⟩ := sixBits_eq_ok_iff.1 hsix
              obtain ⟨values, padding, rfl, hvalues, hplace, rfl⟩ := ih.1 h
              refine ⟨v :: values, padding, rfl, List.forall_mem_cons.2 ⟨hv, hvalues⟩, ?_, ?_⟩
              · rw [List.length_cons]
                omega
              · rw [List.append_assoc, List.singleton_append]
        · rintro ⟨values, padding, hbs, hvalues, hplace, rfl⟩
          cases values with
          | nil =>
              cases padding with
              | zero => cases hbs
              | succ padding => exact absurd (List.cons.inj hbs).1 hb
          | cons v values =>
              obtain ⟨rfl, rfl⟩ := List.cons.inj hbs
              rw [List.forall_mem_cons] at hvalues
              simp only [sixBits_eq_ok_iff.2 ⟨hvalues.1, rfl⟩, bind, Except.bind]
              refine ih.2 ⟨values, padding, rfl, hvalues.2, ?_, by simp⟩
              rw [List.length_cons] at hplace
              omega

/-- What the values of the last group make. -/
def closeTail (offset : Nat) (last : Bytes) (t : Tail) : Except DecodeError Bytes :=
  if t.values.length < 2 then .error (.invalidLength (offset + t.values.length))
  else if (t.values.length + t.padding) % 4 ≠ 0 then .error .invalidPadding
  else
    match t.values with
    | [p, q] =>
      if q % 16 ≠ 0 then .error (.invalidLastSymbol (offset + 1) (last.getD 1 0))
      else .ok ((octets p q 0 0).take 1)
    | [p, q, r] =>
      if r % 4 ≠ 0 then .error (.invalidLastSymbol (offset + 2) (last.getD 2 0))
      else .ok ((octets p q r 0).take 2)
    | [p, q, r, s] => .ok (octets p q r s)
    | _ => .error .invalidPadding

theorem decodeTail_eq {offset : Nat} {last : Bytes} (hlast : last ≠ []) :
    decodeTail offset last = (readTail 0 offset none ⟨[], 0⟩ last).bind (closeTail offset last) := by
  have hempty : last.isEmpty = false := by simpa using hlast
  unfold decodeTail
  rw [hempty]
  simp only [Bool.false_eq_true, if_false, bind, Except.bind, throw, throwThe, MonadExceptOf.throw, pure,
    Except.pure]
  cases readTail 0 offset none ⟨[], 0⟩ last with
  | error e => rfl
  | ok t => rfl

/-- Where the values of the last group make octets, the group is the text of these. -/
theorem textOctets_of_closeTail {offset : Nat} {last bs : Bytes} {values : List Nat} {padding : Nat}
    (hvalues : ∀ v ∈ values, v < 64) (hlength : values.length + padding ≤ 4)
    (h : closeTail offset last ⟨values, padding⟩ = .ok bs) :
    values.map symbolOctet ++ List.replicate padding 61 = textOctets bs := by
  unfold closeTail at h
  dsimp only at h
  -- the group is full, so the number of values tells that of the paddings
  split_ifs at h with hshort hfull
  split at h
  · next p q =>
    simp only [List.length_cons, List.length_nil] at hfull hlength
    obtain rfl : padding = 2 := by omega
    simp only [List.forall_mem_cons] at hvalues
    split_ifs at h with hbits
    rw [← Except.ok.inj h, textOctets_one hvalues.1 hvalues.2.1 (by omega)]
    rfl
  · next p q r =>
    simp only [List.length_cons, List.length_nil] at hfull hlength
    obtain rfl : padding = 1 := by omega
    simp only [List.forall_mem_cons] at hvalues
    split_ifs at h with hbits
    rw [← Except.ok.inj h, textOctets_two hvalues.1 hvalues.2.1 hvalues.2.2.1 (by omega)]
    rfl
  · next p q r s =>
    simp only [List.length_cons, List.length_nil] at hfull hlength
    obtain rfl : padding = 0 := by omega
    simp only [List.forall_mem_cons] at hvalues
    rw [← Except.ok.inj h, ← List.append_nil (octets p q r s),
      textOctets_octets hvalues.1 hvalues.2.1 hvalues.2.2.1 hvalues.2.2.2.1]
    rfl
  · cases h

theorem decodeTail_values {offset : Nat} {values : List Nat} (hvalues : ∀ v ∈ values, v < 64)
    (hplace : 2 ≤ values.length) (padding : Nat) :
    decodeTail offset (values.map symbolOctet ++ List.replicate padding 61)
      = closeTail offset (values.map symbolOctet ++ List.replicate padding 61) ⟨values, padding⟩ := by
  have hread : readTail 0 offset none ⟨[], 0⟩ (values.map symbolOctet ++ List.replicate padding 61)
      = .ok ⟨values, padding⟩ :=
    readTail_eq_ok_iff.2 ⟨values, padding, rfl, hvalues, fun _ => by omega, by simp⟩
  rw [decodeTail_eq, hread]
  · rfl
  · intro hnil
    rw [List.map_eq_nil_iff.1 (List.append_eq_nil_iff.1 hnil).1] at hplace
    simp at hplace

/-- The text of up to three octets is read as them. -/
theorem decodeTail_textOctets {offset : Nat} {bs : Bytes} (h : bs.length ≤ 3) :
    decodeTail offset (textOctets bs) = .ok bs := by
  match bs, h with
  | [], _ => rfl
  | [x], _ =>
      have hx := x.toNat_lt
      have hvalues : ∀ v ∈ [x.toNat / 4, x.toNat % 4 * 16], v < 64 := by
        simp only [List.forall_mem_cons]
        exact ⟨by omega, by omega, nofun⟩
      have hoctets : octets (x.toNat / 4) (x.toNat % 4 * 16) 0 0 = [x, 0, 0] := octets_of x 0 0
      refine (decodeTail_values hvalues (Nat.le_refl _) 2).trans ?_
      simp [closeTail, hoctets]
  | [x, y], _ =>
      have hx := x.toNat_lt
      have hy := y.toNat_lt
      have hvalues : ∀ v ∈ [x.toNat / 4, x.toNat % 4 * 16 + y.toNat / 16, y.toNat % 16 * 4], v < 64 := by
        simp only [List.forall_mem_cons]
        exact ⟨by omega, by omega, by omega, nofun⟩
      have hoctets : octets (x.toNat / 4) (x.toNat % 4 * 16 + y.toNat / 16) (y.toNat % 16 * 4) 0 = [x, y, 0] :=
        octets_of x y 0
      refine (decodeTail_values hvalues (Nat.le_succ _) 1).trans ?_
      simp [closeTail, hoctets]
  | [x, y, z], _ =>
      have hx := x.toNat_lt
      have hy := y.toNat_lt
      have hz := z.toNat_lt
      have hvalues : ∀ v ∈ [x.toNat / 4, x.toNat % 4 * 16 + y.toNat / 16, y.toNat % 16 * 4 + z.toNat / 64,
          z.toNat % 64], v < 64 := by
        simp only [List.forall_mem_cons]
        exact ⟨by omega, by omega, by omega, by omega, nofun⟩
      refine (decodeTail_values hvalues (by simp) 0).trans ?_
      simp [closeTail, octets_of]

theorem textOctets_of_decodeTail {offset : Nat} {last bs : Bytes} (hlast : last.length ≤ 4)
    (h : decodeTail offset last = .ok bs) : last = textOctets bs := by
  by_cases hempty : last = []
  · subst hempty
    obtain rfl := Except.ok.inj h
    rfl
  · rw [decodeTail_eq hempty] at h
    cases hread : readTail 0 offset none ⟨[], 0⟩ last with
    | error e => simp [hread, Except.bind] at h
    | ok t =>
        obtain ⟨values, padding, rfl, hvalues, -, rfl⟩ := readTail_eq_ok_iff.1 hread
        simp only [hread, Except.bind] at h
        rw [List.length_append, List.length_map, List.length_replicate] at hlast
        rw [List.nil_append, Nat.zero_add] at h
        exact textOctets_of_closeTail hvalues hlast h

/-! ## Texts -/

/-- What octets are read as has them as its text. -/
theorem textOctets_of_decodeFrom {offset : Nat} {text bs : Bytes} (h : decodeFrom offset text = .ok bs) :
    text = textOctets bs := by
  fun_induction decodeFrom offset text generalizing bs with
  | case1 offset a b c d e rest ih =>
      obtain ⟨p, hfirst, h⟩ := ok_of_bind h
      obtain ⟨q, hsecond, h⟩ := ok_of_bind h
      obtain ⟨r, hthird, h⟩ := ok_of_bind h
      obtain ⟨s, hfourth, h⟩ := ok_of_bind h
      obtain ⟨more, hmore, hoctets⟩ := ok_of_bind h
      obtain ⟨hp, ha⟩ := sixBits_eq_ok_iff.1 hfirst
      obtain ⟨hq, hb⟩ := sixBits_eq_ok_iff.1 hsecond
      obtain ⟨hr, hc⟩ := sixBits_eq_ok_iff.1 hthird
      obtain ⟨hs, hd⟩ := sixBits_eq_ok_iff.1 hfourth
      rw [← Except.ok.inj hoctets, textOctets_octets hp hq hr hs, ← ih hmore, ha, hb, hc, hd]
  | case2 offset last hlast =>
      refine textOctets_of_decodeTail ?_ h
      match last, hlast with
      | [], _ | [_], _ | [_, _], _ | [_, _, _], _ | [_, _, _, _], _ => simp
      | a :: b :: c :: d :: e :: rest, hlast => exact absurd rfl (hlast a b c d e rest)

theorem decodeFrom_eq_decodeTail (offset : Nat) {bs : Bytes} (h : bs.length ≤ 3) :
    decodeFrom offset (textOctets bs) = decodeTail offset (textOctets bs) := by
  match bs, h with
  | [], _ | [_], _ | [_, _], _ | [_, _, _], _ => rfl

theorem decodeFrom_octets {p q r s : Nat} (hp : p < 64) (hq : q < 64) (hr : r < 64) (hs : s < 64) (offset : Nat)
    {rest : Bytes} (hrest : rest ≠ []) :
    decodeFrom offset (symbolOctet p :: symbolOctet q :: symbolOctet r :: symbolOctet s :: rest)
      = (decodeFrom (offset + 4) rest).map (octets p q r s ++ ·) := by
  obtain ⟨e, rest, rfl⟩ := List.exists_cons_of_ne_nil hrest
  rw [decodeFrom, sixBits_eq_ok_iff.2 ⟨hp, rfl⟩, sixBits_eq_ok_iff.2 ⟨hq, rfl⟩, sixBits_eq_ok_iff.2 ⟨hr, rfl⟩,
    sixBits_eq_ok_iff.2 ⟨hs, rfl⟩]
  rfl

theorem textOctets_ne_nil {bs : Bytes} (h : bs ≠ []) : textOctets bs ≠ [] := by
  match bs, h with
  | [], h => exact absurd rfl h
  | [_], _ | [_, _], _ | _ :: _ :: _ :: _, _ => nofun

/-- The text of octets is read as them. -/
theorem decodeFrom_textOctets (offset : Nat) (bs : Bytes) : decodeFrom offset (textOctets bs) = .ok bs := by
  fun_induction symbols bs generalizing offset with
  | case1 => rfl
  | case2 x => exact (decodeFrom_eq_decodeTail offset (by simp)).trans (decodeTail_textOctets (by simp))
  | case3 x y => exact (decodeFrom_eq_decodeTail offset (by simp)).trans (decodeTail_textOctets (by simp))
  | case4 x y z rest ih =>
      by_cases hrest : rest = []
      · subst hrest
        exact (decodeFrom_eq_decodeTail offset (by simp)).trans (decodeTail_textOctets (by simp))
      · -- more octets follow, so these three are not in the last group
        have hx := x.toNat_lt
        have hy := y.toNat_lt
        have hz := z.toNat_lt
        refine (decodeFrom_octets (by omega) (by omega) (by omega) (by omega) offset
          (textOctets_ne_nil hrest)).trans ?_
        rw [ih, octets_of]
        rfl

/-- Texts consist of groups of four. -/
theorem length_textOctets (bs : Bytes) : (textOctets bs).length % 4 = 0 := by
  rw [textOctets, List.length_map]
  fun_induction symbols bs with
  | case1 | case2 | case3 => simp
  | case4 x y z rest ih =>
      simp only [List.length_cons]
      omega

/-- **A text is read as some octets exactly if it is the text of these.** -/
theorem decode_eq_ok_iff {s : String} {bs : Bytes} : decode s = .ok bs ↔ s = encode bs := by
  constructor
  · intro h
    have htext : Utf8.encode s = textOctets bs := by
      unfold decode at h
      dsimp only at h
      split at h
      · exact textOctets_of_decodeFrom (ok_of_check h).2
      · next hnone =>
        obtain rfl := Except.ok.inj h
        rw [List.getLast?_eq_none_iff.1 hnone]
        rfl
    have hdecode := congrArg Utf8.decode? (htext.trans (encode_encode bs).symm)
    rw [Utf8.decode?_encode, Utf8.decode?_encode] at hdecode
    exact Option.some.inj hdecode
  · rintro rfl
    have hlength := length_textOctets bs
    have hread := decodeFrom_textOctets 0 bs
    unfold decode
    rw [encode_encode]
    dsimp only
    split
    · rw [if_neg (by omega), hread]
    · next hnone => rwa [List.getLast?_eq_none_iff.1 hnone] at hread

end SteadyFetch.Base64
