import SteadyFetch.Proofs.Transfers

set_option autoImplicit false

/-! # The message of a refusal

The body of a refusal is collected chunk by chunk, and collecting stops early once there is enough of it. What is
collected is all the same the beginning of the body (`collectRefusal_eq`), so the message cannot tell how the body
was cut into chunks, what came between them, or how the transfer ended (`errorBody_of_body`).

Where the limit cuts a text inside a character, the message has the characters before it and one replacement
character (`Utf8.decodeLossy_take_encode`). -/

namespace SteadyFetch

/-! ## Text that is cut off -/

namespace Utf8

/-- Continuation octets that are not all there read as a hole, which takes all of them. -/
theorem follow_take {count low high bits value n : Nat} {bs : Bytes}
    (h : follow count low high bits bs = (some value, [])) (hn : n < bs.length) :
    follow count low high bits (bs.take n) = (none, []) := by
  induction count generalizing low high bits bs n with
  | zero =>
      obtain rfl : bs = [] := congrArg Prod.snd h
      cases hn
  | succ count ih =>
      cases bs with
      | nil => cases hn
      | cons b bs =>
          rw [follow] at h
          by_cases hbounds : low ≤ b.toNat ∧ b.toNat ≤ high
          · rw [if_pos hbounds] at h
            cases n with
            | zero => rfl
            | succ n =>
                rw [List.take_succ_cons, follow, if_pos hbounds]
                exact ih h (Nat.lt_of_succ_lt_succ hn)
          · rw [if_neg hbounds] at h
            cases h

/-- A character of which some octets are missing reads as one hole. -/
theorem scan_take_encodeChar (c : Char) {n : Nat} (hpos : 0 < n) (hn : n < (String.utf8EncodeChar c).length) :
    scan ((String.utf8EncodeChar c).take n) = [none] := by
  have hscan := scan_encodeChar c []
  rw [List.append_nil] at hscan
  cases hoctets : String.utf8EncodeChar c with
  | nil =>
      rw [hoctets] at hn
      cases hn
  | cons b bs =>
      rw [hoctets] at hscan hn
      obtain ⟨n, rfl⟩ := Nat.exists_eq_succ_of_ne_zero (Nat.ne_of_gt hpos)
      rw [scan, scan, List.cons.injEq] at hscan
      obtain ⟨hchar, hnothing⟩ := hscan
      have hrest : (item b bs).2 = [] := by
        cases hitem : (item b bs).2 with
        | nil => rfl
        | cons b' bs' =>
            rw [hitem, scan] at hnothing
            cases hnothing
      have hcut : item b (bs.take n) = (none, []) := by
        unfold item at hchar hrest ⊢
        cases hlead : lead? b with
        | none =>
            rw [hlead] at hchar
            cases hchar
        | some l =>
            rw [hlead] at hchar hrest
            simp only [Option.map_eq_some_iff] at hchar hrest
            obtain ⟨value, hvalue, -⟩ := hchar
            simp only [follow_take (Prod.ext hvalue hrest) (Nat.lt_of_succ_lt_succ hn), Option.map_none]
      rw [List.take_succ_cons, scan, hcut, scan]

/-- What stands for a piece that is no character. -/
def replacement : Char := Char.ofNat 0xFFFD

/-- The characters of a text that lie wholly among its first `n` octets, and a replacement for one of which
    only the beginning does. -/
def cutText : Nat → List Char → List Char
  | _, [] => []
  | n, c :: cs =>
    if n = 0 then []
    else if n < (String.utf8EncodeChar c).length then [replacement]
    else c :: cutText (n - (String.utf8EncodeChar c).length) cs

theorem decodeLossy_take_encode (s : String) (n : Nat) :
    decodeLossy ((encode s).take n) = String.ofList (cutText n s.toList) := by
  unfold decodeLossy encode
  congr 1
  induction s.toList generalizing n with
  | nil =>
      rw [List.flatMap_nil, List.take_nil, scan]
      rfl
  | cons c cs ih =>
      rw [List.flatMap_cons, cutText]
      by_cases hzero : n = 0
      · rw [if_pos hzero, hzero, List.take_zero, scan]
        rfl
      rw [if_neg hzero]
      by_cases hinside : n < (String.utf8EncodeChar c).length
      · rw [if_pos hinside, List.take_append_of_le_length (Nat.le_of_lt hinside),
          scan_take_encodeChar c (Nat.pos_of_ne_zero hzero) hinside]
        rfl
      · rw [if_neg hinside, List.take_append, List.take_of_length_le (Nat.le_of_not_lt hinside),
          scan_encodeChar, List.map_cons, ih]
        rfl

end Utf8

/-! ## Collecting -/

/-- Stopping early does not show: what is collected is the beginning of what came before and of the body. -/
theorem collectRefusal_eq {got : Bytes} (hgot : got.length < maxErrorBody) (frames : List Frame) :
    collectRefusal got frames = (got ++ bodyOctets frames).take maxErrorBody := by
  have hkeeps : got = got.take maxErrorBody := (List.take_of_length_le (Nat.le_of_lt hgot)).symm
  induction frames generalizing got with
  | nil => rwa [collectRefusal, bodyOctets, List.append_nil]
  | cons frame frames ih =>
      cases frame with
      | head status lines => exact ih hgot hkeeps
      | done failure => rwa [collectRefusal, bodyOctets, List.append_nil]
      | body bs =>
          rw [collectRefusal, bodyOctets, ← List.append_assoc]
          by_cases henough : maxErrorBody ≤ (got ++ bs).length
          · rw [if_pos henough, List.take_append_of_le_length henough]
          · have hmore := Nat.lt_of_not_le henough
            rw [if_neg henough]
            exact ih hmore (List.take_of_length_le (Nat.le_of_lt hmore)).symm

/-! ## The message -/

/-- Whether a transfer is over: it said how it ended, or it went away. -/
def IsOver (frames : List Frame) : Prop := frames = [] ∨ ∃ failure later, frames = .done failure :: later

theorem errorBody_eq (frames : List Frame) :
    errorBody frames = trimText (Utf8.decodeLossy ((bodyOctets frames).take maxErrorBody)) := by
  have hempty : ([] : Bytes).length < maxErrorBody := by decide
  rw [errorBody, collectRefusal_eq hempty, List.nil_append]

theorem bodyOctets_of_isOver {frames : List Frame} (h : IsOver frames) : bodyOctets frames = [] := by
  obtain rfl | ⟨failure, later, rfl⟩ := h
  · rfl
  · rfl

/-- **The message of a refusal is the beginning of its body, and depends on nothing else.** Whatever frames follow
    the head of a refusal, its message is the first 4096 octets of the chunks before the transfer is over, taken
    together, as text without blanks at the ends. Frames whose bodies begin alike give the same message; so do any
    chunks of the body, however the transfer ended. Of a text, cut into chunks anywhere, the message has the
    characters that lie wholly among those octets, and a replacement for one that is cut by the limit. An open that
    is refused fails with that message. -/
theorem errorBody_of_body (frames : List Frame) :
    errorBody frames = trimText (Utf8.decodeLossy ((bodyOctets frames).take 4096)) ∧
    (∀ others : List Frame, (bodyOctets others).take 4096 = (bodyOctets frames).take 4096 →
      errorBody others = errorBody frames) ∧
    (∀ (chunks : List Bytes) (ending : List Frame), chunks.flatten = bodyOctets frames → IsOver ending →
      errorBody (chunks.map .body ++ ending) = errorBody frames) ∧
    (∀ s : String, bodyOctets frames = Utf8.encode s →
      errorBody frames = trimText (String.ofList (Utf8.cutText 4096 s.toList))) ∧
    ∀ (range : ByteRange) (status : Nat) (lines : List String), judge range status lines = .failed →
      openFrames range (.head status lines :: frames) = .error (.status status (errorBody frames)) := by
  have hsame : ∀ others, (bodyOctets others).take 4096 = (bodyOctets frames).take 4096 →
      errorBody others = errorBody frames := by
    intro others hothers
    rw [errorBody_eq, errorBody_eq, maxErrorBody, hothers]
  refine ⟨errorBody_eq frames, hsame, ?_, ?_, ?_⟩
  · intro chunks ending hchunks hover
    refine hsame _ ?_
    rw [bodyOctets_chunks_append, bodyOctets_of_isOver hover, List.append_nil, hchunks]
  · intro s hs
    rw [errorBody_eq, hs, Utf8.decodeLossy_take_encode]
    rfl
  · intro range status lines hjudge
    rw [openFrames, hjudge]

end SteadyFetch
