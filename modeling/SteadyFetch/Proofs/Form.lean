import SteadyFetch.Proofs.Text
import SteadyFetch.Url.Form

set_option autoImplicit false

/-! # Forms that are read back

`Form.pairs` reads the pairs of a query the way a service does. Appending pairs to a query appends them
to what is read from it (`pairs_appendPairs`): an encoded name or value holds no octet that separates
pairs, or name and value, and decoding undoes the encoding octet by octet. -/

namespace SteadyFetch

/-! ## Octets and characters of ASCII -/

theorem Utf8.encodeChar_of_lt {c : Char} (h : c.toNat < 0x80) :
    String.utf8EncodeChar c = [UInt8.ofNat c.toNat] := by
  have hval : c.val.toNat ≤ 0x7f := Nat.le_of_lt_succ h
  unfold String.utf8EncodeChar
  simp only
  rw [if_pos hval]
  rfl

theorem Utf8.encode_ofList (cs : List Char) :
    Utf8.encode (String.ofList cs) = cs.flatMap String.utf8EncodeChar := by
  rw [Utf8.encode, String.toList_ofList]

/-- What holds of every number below 256 holds of every octet; these are few enough to look at each. -/
theorem forall_octet {P : UInt8 → Prop} (h : ∀ n < 256, P (UInt8.ofNat n)) (b : UInt8) : P b := by
  have hb := h b.toNat b.toNat_lt
  rwa [UInt8.ofNat_toNat] at hb

theorem toNat_charOf {b : UInt8} (h : b.toNat < 0x80) : (Char.ofNat b.toNat).toNat = b.toNat := by
  have hvalid : b.toNat.isValidChar := Or.inl (by omega)
  rw [Char.ofNat, dif_pos hvalid]
  rfl

namespace Percent

theorem bounds_of_not_isEncoded {set : EncodeSet} {b : UInt8} (h : ¬isEncoded set b = true) :
    b.toNat < 0x80 ∧ Char.ofNat b.toNat ∉ set := by
  simp only [isEncoded, Bool.or_eq_true, decide_eq_true_eq, List.contains_iff_mem, not_or] at h
  refine ⟨?_, h.2⟩
  have hlt := UInt8.lt_iff_toNat_lt.1 (UInt8.not_le.1 h.1.2)
  exact Nat.lt_of_lt_of_le hlt (by decide)

theorem decodeBytes_cons {b : UInt8} (h : b ≠ 37) (bs : Bytes) :
    decodeBytes (b :: bs) = b :: decodeBytes bs := by
  match bs with
  | [] => rfl
  | [_] => rfl
  | _ :: _ :: _ => rw [decodeBytes, if_neg h]

theorem decodeBytes_charOf {b : UInt8} (hlt : b.toNat < 0x80) (hpercent : b ≠ 37) (bs : Bytes) :
    decodeBytes (String.utf8EncodeChar (Char.ofNat b.toNat) ++ bs) = b :: decodeBytes bs := by
  rw [Utf8.encodeChar_of_lt (by rw [toNat_charOf hlt]; exact hlt), toNat_charOf hlt, UInt8.ofNat_toNat,
    List.singleton_append, decodeBytes_cons hpercent]

theorem hexValue?_hexDigitUpper : ∀ n < 16, hexValue? (hexDigitUpper n) = some n := by
  decide

theorem toNat_hexDigitUpper_lt : ∀ n < 16, (hexDigitUpper n).toNat < 0x80 := by
  decide

theorem decodeBytes_triple (b : UInt8) (bs : Bytes) :
    decodeBytes ((triple b).flatMap String.utf8EncodeChar ++ bs) = b :: decodeBytes bs := by
  have hb := b.toNat_lt
  have hhigh : b.toNat / 16 < 16 := by omega
  have hlow : b.toNat % 16 < 16 := by omega
  have hchar : ∀ n < 16, Char.ofNat (UInt8.ofNat (hexDigitUpper n).toNat).toNat = hexDigitUpper n := by
    decide
  have hpercent : String.utf8EncodeChar '%' = [37] := by decide
  simp only [triple, List.flatMap_cons, List.flatMap_nil, List.append_nil, hpercent,
    Utf8.encodeChar_of_lt (toNat_hexDigitUpper_lt _ hhigh),
    Utf8.encodeChar_of_lt (toNat_hexDigitUpper_lt _ hlow), List.cons_append, List.nil_append]
  rw [decodeBytes, if_pos rfl, hchar _ hhigh, hchar _ hlow, hexValue?_hexDigitUpper _ hhigh,
    hexValue?_hexDigitUpper _ hlow]
  simp only
  rw [Nat.div_add_mod' b.toNat 16, UInt8.ofNat_toNat]

end Percent

namespace Form

/-! ## Reading -/

/-- What a name or a value of a form stands for. -/
def decode (cs : List Char) : String :=
  Utf8.decodeLossy (Percent.decode (cs.map fun c => if c = '+' then ' ' else c))

/-- The pairs of a query. Nothing between two separators is no pair, and a name without a value has
    the empty one. -/
def pairs (query : List Char) : List (String × String) :=
  ((query.splitOn '&').filter fun piece => !piece.isEmpty).map fun piece =>
    (decode (piece.takeWhile (· != '=')), decode ((piece.dropWhile (· != '=')).drop 1))

/-! ## What encoding gives -/

theorem bounds_of_isPlain {b : UInt8} (h : isPlain b = true) :
    b.toNat < 0x80 ∧ b ≠ 37 ∧ b ≠ 43 ∧ b ≠ 38 ∧ b ≠ 61 := by
  have hall : ∀ b, isPlain b = true → b.toNat < 0x80 ∧ b ≠ 37 ∧ b ≠ 43 ∧ b ≠ 38 ∧ b ≠ 61 :=
    forall_octet (by decide +kernel)
  exact hall b h

/-- No character of an encoded octet separates pairs, or a name from its value. -/
theorem not_mem_encodeByte : ∀ b, '&' ∉ encodeByte b ∧ '=' ∉ encodeByte b :=
  forall_octet (by decide +kernel)

theorem not_mem_encode (s : String) : '&' ∉ encode s ∧ '=' ∉ encode s := by
  constructor
  · intro h
    obtain ⟨b, -, hb⟩ := List.mem_flatMap.1 h
    exact (not_mem_encodeByte b).1 hb
  · intro h
    obtain ⟨b, -, hb⟩ := List.mem_flatMap.1 h
    exact (not_mem_encodeByte b).2 hb

/-! ## Reading back -/

/-- The octets that a text of a form denotes. -/
def octets (cs : List Char) : Bytes :=
  Percent.decodeBytes ((cs.map fun c => if c = '+' then ' ' else c).flatMap String.utf8EncodeChar)

/-- An encoded octet is read back, whatever follows it. -/
theorem octets_encodeByte (b : UInt8) (cs : List Char) :
    octets (encodeByte b ++ cs) = b :: octets cs := by
  unfold encodeByte
  by_cases hplain : isPlain b = true
  · obtain ⟨hlt, hpercent, hplus, -, -⟩ := bounds_of_isPlain hplain
    have hchar : Char.ofNat b.toNat ≠ '+' := by
      intro he
      have htoNat := congrArg Char.toNat he
      rw [toNat_charOf hlt] at htoNat
      exact hplus (UInt8.toNat_inj.1 htoNat)
    rw [if_pos hplain, octets, List.singleton_append, List.map_cons, if_neg hchar, List.flatMap_cons,
      Percent.decodeBytes_charOf hlt hpercent]
    rfl
  · rw [if_neg hplain]
    by_cases hspace : b = 32
    · have hcode : String.utf8EncodeChar ' ' = [32] := by decide
      rw [if_pos hspace, octets, List.singleton_append, List.map_cons, if_pos rfl, List.flatMap_cons,
        hcode, List.singleton_append, Percent.decodeBytes_cons (by decide), hspace]
      rfl
    · -- no plus in a triple, so undoing the blanks leaves it alone
      have hplus : ∀ b, '+' ∉ Percent.triple b := forall_octet (by decide +kernel)
      have hsame : (Percent.triple b).map (fun c => if c = '+' then ' ' else c) = Percent.triple b := by
        rw [List.map_congr_left (g := id), List.map_id]
        intro c hc
        refine if_neg ?_
        rintro rfl
        exact hplus b hc
      rw [if_neg hspace, octets, List.map_append, hsame, List.flatMap_append, Percent.decodeBytes_triple]
      rfl

theorem octets_encode (s : String) : octets (encode s) = Utf8.encode s := by
  unfold encode
  induction Utf8.encode s with
  | nil => rfl
  | cons b bs ih => rw [List.flatMap_cons, octets_encodeByte, ih]

/-- A name or a value is read back. -/
@[simp] theorem decode_encode (s : String) : decode (encode s) = s := by
  have hoctets : Percent.decode ((encode s).map fun c => if c = '+' then ' ' else c)
      = octets (encode s) := by
    rw [Percent.decode, Utf8.encode_ofList]
    rfl
  rw [decode, hoctets, octets_encode, Utf8.decodeLossy_encode]

theorem pairs_append (query rest : List Char) :
    pairs (query ++ '&' :: rest) = pairs query ++ pairs rest := by
  rw [pairs, List.splitOn_append_cons_self, List.filter_append, List.map_append]
  rfl

/-- One encoded pair is read back. -/
theorem pairs_encodePair (pair : String × String) : pairs (encodePair pair) = [pair] := by
  have hequals : ∀ c ∈ encode pair.1, (c != '=') = true := by
    intro c hc
    simp only [bne_iff_ne, ne_eq]
    rintro rfl
    exact (not_mem_encode pair.1).2 hc
  have hseparator : '&' ∉ encodePair pair := by
    simp [encodePair, (not_mem_encode pair.1).1, (not_mem_encode pair.2).1]
  have hne : (encodePair pair).isEmpty = false := by simp [encodePair]
  rw [pairs, List.splitOn_eq_singleton hseparator, List.filter_cons, hne]
  simp only [Bool.not_false, if_true, List.filter_nil, List.map_cons, List.map_nil]
  rw [encodePair, List.takeWhile_append_of_pos hequals, List.dropWhile_append_of_pos hequals]
  simp

@[simp] theorem pairs_nil : pairs [] = [] := rfl

/-- **What is appended to a query is read after what the query held.** -/
theorem pairs_appendPairs (query : List Char) (new : List (String × String)) :
    pairs (appendPairs query new) = pairs query ++ new := by
  unfold appendPairs
  induction new generalizing query with
  | nil => simp
  | cons pair new ih =>
      have hone : pairs (appendPair query pair) = pairs query ++ [pair] := by
        unfold appendPair
        by_cases hempty : query.isEmpty = true
        · rw [if_pos hempty, List.isEmpty_iff.1 hempty, pairs_encodePair, pairs_nil, List.nil_append]
        · rw [if_neg hempty, pairs_append, pairs_encodePair]
      rw [List.foldl_cons, ih, hone, List.append_assoc, List.singleton_append]

end Form

end SteadyFetch
