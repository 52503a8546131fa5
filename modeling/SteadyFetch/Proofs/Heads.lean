import Mathlib.Data.List.DropRight
import SteadyFetch.Http.Opener
import SteadyFetch.Http.Wire

set_option autoImplicit false

/-! # Which head a transfer gives

While a transfer goes on, the head under way is a function of the lines so far (`PendingHead.of`): the
status is that of the last status line, and the lines are those that came after it. So the frames of a
transfer can be told from its reports alone, however many heads it had
(`Transfer.frames_of_last_head`). The lines that count are those before the first chunk; a transfer
without one has no such end, and lines that follow its empty body count as well
(`Transfer.frames_of_trailer`). -/

namespace SteadyFetch

/-! ## The head under way -/

/-- The text of a line without the blanks at its end; none if its octets are no text. -/
def textOfLine? (octets : Bytes) : Option String :=
  (Utf8.decode? octets).map fun text => String.ofList (trimEnd text.toList)

/-- The status of the last status line. -/
def lastStatus? (texts : List String) : Option Nat := (texts.filterMap statusOfLine?).getLast?

/-- The texts after the last status line that are not empty. -/
def headerTexts (texts : List String) : List String :=
  (texts.rtakeWhile fun text => (statusOfLine? text).isNone).filter fun text => !text.isEmpty

section Texts

variable {text : String} {status : Nat}

@[simp] theorem lastStatus?_concat_status (texts : List String) (h : statusOfLine? text = some status) :
    lastStatus? (texts ++ [text]) = some status := by
  simp [lastStatus?, h]

@[simp] theorem lastStatus?_concat (texts : List String) (h : statusOfLine? text = none) :
    lastStatus? (texts ++ [text]) = lastStatus? texts := by
  simp [lastStatus?, h]

@[simp] theorem headerTexts_concat_status (texts : List String) (h : statusOfLine? text = some status) :
    headerTexts (texts ++ [text]) = [] := by
  rw [headerTexts, List.rtakeWhile_concat_neg _ _ _ (by simp [h])]
  rfl

@[simp] theorem headerTexts_concat (texts : List String) (h : statusOfLine? text = none) :
    headerTexts (texts ++ [text]) = headerTexts texts ++ if text.isEmpty then [] else [text] := by
  rw [headerTexts, List.rtakeWhile_concat_pos _ _ _ (by simp [h]), List.filter_append, headerTexts]
  congr 1
  cases hempty : text.isEmpty <;> simp [hempty]

/-- What came before a status line does not count. -/
theorem head_of_status (earlier : List String) (h : statusOfLine? text = some status)
    {fields : List String} (hfields : ∀ field ∈ fields, statusOfLine? field = none) :
    lastStatus? (earlier ++ text :: fields) = some status ∧
      headerTexts (earlier ++ text :: fields) = fields.filter fun field => !field.isEmpty := by
  induction fields using List.reverseRecOn with
  | nil => exact ⟨lastStatus?_concat_status earlier h, headerTexts_concat_status earlier h⟩
  | append_singleton fields field ih =>
      have hfield : statusOfLine? field = none := hfields field (by simp)
      obtain ⟨hstatus, htexts⟩ := ih fun other hother => hfields other (List.mem_append_left _ hother)
      rw [← List.cons_append, ← List.append_assoc, lastStatus?_concat _ hfield,
        headerTexts_concat _ hfield, htexts, List.filter_append]
      refine ⟨hstatus, ?_⟩
      cases hempty : field.isEmpty <;> simp [hempty]

end Texts

namespace PendingHead

/-- The head under way after lines with the given texts. -/
def of (texts : List String) : PendingHead := ⟨(lastStatus? texts).getD 0, headerTexts texts⟩

theorem of_nil : of [] = empty := rfl

/-- **A line takes the head of the lines before it to the head of the lines with it.** -/
theorem add_of (texts : List String) (octets : Bytes) :
    (of texts).add octets = of (texts ++ (textOfLine? octets).toList) := by
  unfold add textOfLine?
  cases Utf8.decode? octets with
  | none => simp
  | some text =>
      simp only [Option.map_some, Option.toList_some]
      generalize String.ofList (trimEnd text.toList) = line
      cases hstatus : statusOfLine? line with
      | some status => simp [of, hstatus]
      | none =>
          cases hempty : line.isEmpty <;> simp [of, hstatus, hempty]

end PendingHead

/-! ## Frames -/

namespace Transfer

/-- The chunks of a body. -/
def chunksOf (events : List TransferEvent) : List Bytes :=
  events.filterMap fun
    | .line _ => none
    | .chunk bs => some bs

/-- The texts of the lines before the first chunk; those of all lines, if there is none. -/
def textsOf : List TransferEvent → List String
  | .line octets :: events => (textOfLine? octets).toList ++ textsOf events
  | _ => []

theorem bodyFrames_eq (events : List TransferEvent) : bodyFrames events = (chunksOf events).map .body := by
  unfold bodyFrames chunksOf
  rw [List.map_filterMap]
  refine List.filterMap_congr fun event _ => ?_
  cases event with
  | line octets => rfl
  | chunk bs => rfl

/-- The status that a head is given with: that of the last status line, unless no chunk came and the transfer
    has a status of its last response. -/
def headStatus (t : Transfer) (events : List TransferEvent) (texts : List String) : Nat :=
  if chunksOf events = [] ∧ t.status ≠ 0 then t.status else (lastStatus? texts).getD 0

/-- What is left of a transfer goes on from the head of the lines before it. -/
theorem framesFrom_of (t : Transfer) (before : List String) (events : List TransferEvent) :
    t.framesFrom (.of before) events =
      (if chunksOf events = [] ∧ t.failure.isSome then []
        else [.head (t.headStatus events (before ++ textsOf events))
          (headerTexts (before ++ textsOf events))]) ++
        (chunksOf events).map .body ++ [.done t.failure] := by
  induction events generalizing before with
  | nil =>
      unfold framesFrom headStatus
      cases hfailure : t.failure with
      | some code => simp [chunksOf]
      | none =>
          by_cases hstatus : t.status = 0
          · simp [chunksOf, textsOf, PendingHead.of, hstatus]
          · simp [chunksOf, textsOf, PendingHead.of, hstatus]
  | cons event events ih =>
      cases event with
      | line octets =>
          rw [framesFrom, PendingHead.add_of, ih]
          simp [headStatus, chunksOf, textsOf]
      | chunk bs =>
          simp [framesFrom, bodyFrames_eq, headStatus, chunksOf, textsOf, PendingHead.frame, PendingHead.of]

/-- **The frames of a transfer are its head, its chunks and its end.** Of any number of heads, only what
    follows the last status line before the first chunk counts, blanks at the end of lines, empty lines and
    lines that are no text apart; every chunk follows, in order and as it came, and then how the transfer
    ended. Only a transfer that fails before its first chunk has no head. For one that ends without a chunk,
    the status it has for its last response must be that of the last status line. -/
theorem frames_of_last_head (t : Transfer)
    (hcode : chunksOf t.events = [] → t.failure = none →
      t.status = (lastStatus? (textsOf t.events)).getD 0) :
    t.frames =
        (if chunksOf t.events = [] ∧ t.failure.isSome then []
          else [.head ((lastStatus? (textsOf t.events)).getD 0) (headerTexts (textsOf t.events))]) ++
          (chunksOf t.events).map .body ++ [.done t.failure] ∧
      ∀ earlier text fields status, textsOf t.events = earlier ++ text :: fields →
        statusOfLine? text = some status → (∀ field ∈ fields, statusOfLine? field = none) →
          lastStatus? (textsOf t.events) = some status ∧
            headerTexts (textsOf t.events) = fields.filter fun field => !field.isEmpty := by
  refine ⟨?_, fun earlier text fields status htexts hstatus hfields => ?_⟩
  · rw [frames, ← PendingHead.of_nil, framesFrom_of, List.nil_append]
    by_cases hnone : chunksOf t.events = [] ∧ t.failure.isSome
    · rw [if_pos hnone, if_pos hnone]
    · have hstatus : t.headStatus t.events (textsOf t.events) =
          (lastStatus? (textsOf t.events)).getD 0 := by
        unfold headStatus
        split
        · next hcase =>
          refine hcode hcase.1 (Option.not_isSome_iff_eq_none.1 fun hfailure => hnone ⟨hcase.1, hfailure⟩)
        · rfl
      rw [hstatus]
  · rw [htexts]
    exact head_of_status earlier hstatus hfields

/-- A redirect, an interim head, and an empty body. -/
def redirected : Transfer where
  events := ["HTTP/1.1 302 Found\r\n", "x-goog-generation: 1\r\n", "\r\n", "HTTP/1.1 100 Continue\r\n",
    "\r\n", "HTTP/1.1 206 Partial Content \r\n", "x-goog-generation: 2  \r\n", "\r\n"].map fun text =>
      .line (Utf8.encode text)
  failure := none
  status := 206

theorem frames_of_redirected :
    redirected.frames = [.head 206 ["x-goog-generation: 2"], .done none] := by
  have hcode : redirected.status = (lastStatus? (textsOf redirected.events)).getD 0 := by decide +kernel
  rw [(frames_of_last_head redirected fun _ _ => hcode).1]
  decide +kernel

/-- **A line that follows an empty body counts as one of the head**: the generation is that of a trailer,
    which does not count once a chunk was sent. -/
theorem frames_of_trailer :
    let answered (body : String) : Transfer :=
      let sent := "HTTP/1.1 200 OK\r\nTransfer-Encoding: chunked\r\n\r\n" ++ body ++
        "0\r\nx-goog-generation: 9\r\n\r\n"
      let response := Wire.read ⟨Utf8.encode sent, none⟩
      ⟨response.events, response.failure, response.status⟩
    (answered "").frames =
        [.head 200 ["Transfer-Encoding: chunked", "x-goog-generation: 9"], .done none] ∧
      (openFrames .all (answered "").frames).toOption.map (·.generation) = some (some 9) ∧
      (answered "2\r\nab\r\n").frames =
        [.head 200 ["Transfer-Encoding: chunked"], .body (Utf8.encode "ab"), .done none] ∧
      (openFrames .all (answered "2\r\nab\r\n").frames).toOption.map (·.generation) = some none := by
  decide +kernel

end Transfer

end SteadyFetch
