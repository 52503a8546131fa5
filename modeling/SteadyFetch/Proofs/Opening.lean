import SteadyFetch.Proofs.Answers
import SteadyFetch.Proofs.Bodies
import SteadyFetch.Proofs.ContentRanges

set_option autoImplicit false

/-! # What an open comes to

An open that succeeds at a service that answers truthfully gives a stream of the version the service
holds, from the start of the request on, and tells its generation (`Opening`). The request is read by
the service as it is meant, the answer passes the judgement only if it holds the octets asked for, and
the body of a transfer that breaks off is a part of them. -/

namespace SteadyFetch

/-! ## Requests as the service reads them -/

/-- The octets of a range of some content. -/
def ByteRange.within (r : ByteRange) (content : Bytes) : Bytes :=
  match r.stop? with
  | some stop => (content.take stop).drop r.start
  | none => content.drop r.start

/-- First and last octet that a range names; none for the whole object and for empty ranges. -/
def ByteRange.span? (r : ByteRange) : Option (Nat × Option Nat) :=
  match r.stop? with
  | none => if r.start = 0 then none else some (r.start, none)
  | some stop => if r.isEmpty then none else some (r.start, some (stop - 1))

theorem not_mem_repr {c : Char} (hc : c.isDigit = false) (n : Nat) : c ∉ n.repr.toList := by
  intro hmem
  rw [Numeral.isDigit_of_mem_repr hmem] at hc
  exact absurd hc (by decide)

theorem readSpan?_onward (first : Nat) :
    HttpRequest.readSpan? (s!"bytes={first}-").toList = some (first, none) := by
  have htext : (s!"bytes={first}-").toList = "bytes=".toList ++ (first.repr.toList ++ '-' :: []) := by
    show ("bytes=" ++ first.repr ++ "-").toList = _
    simp [String.toList_append]
  rw [htext]
  unfold HttpRequest.readSpan?
  rw [List.drop_left' (by rfl), splitOnce_append (not_mem_repr (by decide) first)]
  simp

theorem readSpan?_bounded (first last : Nat) :
    HttpRequest.readSpan? (s!"bytes={first}-{last}").toList = some (first, some last) := by
  have htext : (s!"bytes={first}-{last}").toList
      = "bytes=".toList ++ (first.repr.toList ++ '-' :: last.repr.toList) := by
    show ("bytes=" ++ first.repr ++ "-" ++ last.repr).toList = _
    simp [String.toList_append]
  rw [htext]
  unfold HttpRequest.readSpan?
  rw [List.drop_left' (by rfl), splitOnce_append (not_mem_repr (by decide) first)]
  simp

/-- The value of the `Range` header is read as the range it was written for. -/
theorem ByteRange.readSpan?_header (r : ByteRange) :
    (r.header?.bind fun value => HttpRequest.readSpan? value.toList) = r.span? := by
  unfold ByteRange.header? ByteRange.span?
  cases r.stop? with
  | none =>
      by_cases hstart : r.start = 0
      · simp only [hstart, if_true, Option.bind_none]
      · simp only [hstart, if_false, Option.bind_some, readSpan?_onward]
  | some stop =>
      by_cases hempty : r.isEmpty = true
      · simp only [hempty, if_true, Option.bind_none]
      · rw [Bool.not_eq_true] at hempty
        simp only [hempty, Bool.false_eq_true, if_false, Option.bind_some, readSpan?_bounded]

theorem ByteRange.isSome_header? (r : ByteRange) : r.header?.isSome = r.span?.isSome := by
  unfold ByteRange.header? ByteRange.span?
  cases r.stop? with
  | none => by_cases hstart : r.start = 0 <;> simp [hstart]
  | some stop => by_cases hempty : r.isEmpty = true <;> simp [hempty]

/-- Which generations the endpoint names by itself. -/
def Url.generations (u : Url) : List String :=
  ((Form.pairs (u.query.getD [])).filter fun pair => pair.1 == "generation").map (·.2)

namespace ReadRequest

variable {r : ReadRequest} {endpoint : Url} {pin : Option Int} {request : HttpRequest}

theorem filter_parameter (name : String) (value : Option Int) (h : name ≠ "generation") :
    (parameter name value).filter (fun pair => pair.1 == "generation") = [] := by
  cases value <;> simp [parameter, h]

/-- Of the parameters only one names a generation: that of the object, or else the pinned one. -/
theorem filter_mediaParameters (r : ReadRequest) (pin : Option Int) :
    ((r.mediaParameters pin).filter fun pair => pair.1 == "generation").map (·.2)
      = (r.object.generation <|> pin).toList.map Int.repr := by
  have hproject : (r.options.userProject.toList.map fun project => ("userProject", project)).filter
      (fun pair => pair.1 == "generation") = [] := by
    cases r.options.userProject <;> simp
  unfold mediaParameters
  simp only [List.filter_append, List.filter_cons,
    filter_parameter _ _ (show "ifGenerationMatch" ≠ _ by decide),
    filter_parameter _ _ (show "ifGenerationNotMatch" ≠ _ by decide),
    filter_parameter _ _ (show "ifMetagenerationMatch" ≠ _ by decide),
    filter_parameter _ _ (show "ifMetagenerationNotMatch" ≠ _ by decide), hproject, List.append_nil]
  cases (r.object.generation <|> pin) with
  | none => rfl
  | some g => rfl

theorem generations_mediaRequest (h : mediaRequest endpoint r pin = .ok request) :
    request.generations
      = endpoint.generations ++ (r.object.generation <|> pin).toList.map Int.repr := by
  unfold mediaRequest mediaUrl Url.pushSegments? at h
  cases hpath : endpoint.path with
  | rootless text => simp [hpath, bind, Except.bind] at h
  | rooted segments =>
      cases hheaders : r.mediaHeaders with
      | error fault => simp [hpath, hheaders, bind, Except.bind] at h
      | ok headers =>
          simp only [hpath, hheaders, bind, Except.bind, pure, Except.pure, Except.ok.injEq] at h
          subst h
          rw [HttpRequest.generations, ← filter_mediaParameters]
          simp only [Target.ofUrl, Url.appendPairs, Option.getD_some, Form.pairs_appendPairs,
            List.filter_append, List.map_append]
          rfl

theorem headers_mediaRequest (h : mediaRequest endpoint r pin = .ok request) :
    ∃ others : List (String × String),
      request.headers = r.range.header?.toList.map (fun value => ("Range", value)) ++ others ∧
        others.find? (fun header => lowerAscii header.1.toList == "range".toList) = none := by
  unfold mediaRequest at h
  cases hurl : r.mediaUrl endpoint pin with
  | error fault => simp [hurl, bind, Except.bind] at h
  | ok url =>
      cases hheaders : r.mediaHeaders with
      | error fault => simp [hurl, hheaders, bind, Except.bind] at h
      | ok headers =>
          simp only [hurl, hheaders, bind, Except.bind, pure, Except.pure, Except.ok.injEq] at h
          subst h
          unfold mediaHeaders at hheaders
          cases hkey : r.options.encryptionKey with
          | none =>
              simp only [hkey, pure, Except.pure, Except.ok.injEq] at hheaders
              exact ⟨[], by rw [← hheaders, List.append_nil], rfl⟩
          | some key =>
              unfold keyHeaders at hheaders
              cases hdigest : key.digest with
              | error e => simp [hkey, hdigest, bind, Except.bind] at hheaders
              | ok digest =>
                  simp only [hkey, hdigest, bind, Except.bind, pure, Except.pure, Except.ok.injEq]
                    at hheaders
                  refine ⟨_, hheaders.symm, List.find?_eq_none.2 ?_⟩
                  intro header hheader
                  simp only [List.mem_cons, List.not_mem_nil, or_false] at hheader
                  rcases hheader with rfl | rfl | rfl
                  all_goals simp only
                  all_goals decide

theorem span?_mediaRequest (h : mediaRequest endpoint r pin = .ok request) :
    request.span? = r.range.span? := by
  obtain ⟨others, hheaders, hothers⟩ := headers_mediaRequest h
  rw [← ByteRange.readSpan?_header, HttpRequest.span?, hheaders]
  cases r.range.header? with
  | none =>
      simp only [Option.toList_none, List.map_nil, List.nil_append, hothers]
      rfl
  | some value =>
      have hname : (lowerAscii "Range".toList == "range".toList) = true := by decide
      simp only [Option.toList_some, List.map_cons, List.cons_append, List.find?_cons, hname]
      rfl

end ReadRequest

/-! ## Which octets an answer holds -/

namespace ContentRange

theorem parse?_octets {first last total : Nat} (hfirst : first < Word.limit64)
    (hlast : last < Word.limit64) (htotal : total < Word.limit64) :
    parse? (s!"bytes {first}-{last}/{total}").toList = some (.octets first last) := by
  have htotals : ∀ t ∈ some total, t < Word.limit64 := by simpa using htotal
  have hspelled := spelled_partText hfirst hlast htotals
  exact parse?_of_spelled hspelled

theorem parse?_unsatisfied {total : Nat} (htotal : total < Word.limit64) :
    parse? (s!"bytes */{total}").toList = some (.unsatisfied total) :=
  parse?_of_spelled (spelled_pastText htotal)

end ContentRange

/-! ## Judging answers -/

theorem ByteRange.within_eq_extract {range : ByteRange} {first : Nat} {last : Option Nat}
    (h : range.span? = some (first, last)) (content : Bytes) :
    first = range.start ∧
      range.within content = content.extract first (spanEnd last content.length) := by
  unfold ByteRange.span? at h
  unfold ByteRange.within
  cases hstop : range.stop? with
  | none =>
      simp only [hstop] at h
      by_cases hstart : range.start = 0
      · simp [hstart] at h
      · simp only [hstart, if_false, Option.some.injEq, Prod.mk.injEq] at h
        obtain ⟨rfl, rfl⟩ := h
        refine ⟨rfl, ?_⟩
        rw [spanEnd, List.extract_eq_take_drop, List.take_of_length_le (by simp)]
  | some stop =>
      simp only [hstop] at h
      by_cases hempty : range.isEmpty = true
      · simp [hempty] at h
      · rw [Bool.not_eq_true] at hempty
        simp only [hempty, Bool.false_eq_true, if_false, Option.some.injEq, Prod.mk.injEq] at h
        obtain ⟨rfl, rfl⟩ := h
        have hlt : range.start < stop := by
          simpa [ByteRange.isEmpty, hstop] using hempty
        refine ⟨rfl, ?_⟩
        have hlast : stop - 1 + 1 = stop := by omega
        rw [spanEnd, hlast, List.extract_eq_take_drop]
        show (content.take stop).drop range.start = _
        rw [List.drop_take]
        apply List.ext_getElem?
        intro i
        simp only [List.getElem?_take, List.getElem?_drop]
        by_cases hi : i < stop - range.start
        · by_cases hi' : i < min stop content.length - range.start
          · rw [if_pos hi, if_pos hi']
          · rw [if_pos hi, if_neg hi', List.getElem?_eq_none (by omega)]
        · rw [if_neg hi, if_neg (by omega)]

theorem ByteRange.within_eq_self {range : ByteRange} (h : range.span? = none)
    (hne : range.isEmpty = false) (content : Bytes) : range.within content = content := by
  unfold ByteRange.span? at h
  unfold ByteRange.within
  cases hstop : range.stop? with
  | none =>
      have hstart : range.start = 0 := by simpa [hstop] using h
      simp [hstart]
  | some stop => simp [hstop, hne] at h

theorem ByteRange.spanEnd_lt {range : ByteRange} {first stop : Nat} {last : Option Nat}
    (h : range.span? = some (first, last)) (hne : range.isEmpty = false) (hstop : stop ∈ range.stop?)
    (total : Nat) : spanEnd last total - 1 < stop := by
  rw [Option.mem_def] at hstop
  simp only [ByteRange.span?, hstop, hne, Bool.false_eq_true, if_false, Option.some.injEq,
    Prod.mk.injEq] at h
  have hlt : range.start < stop := by simpa [ByteRange.isEmpty, hstop] using hne
  rw [← h.2, spanEnd]
  omega

/-- Whether the service has to refuse: another generation is asked for, or the range begins where the
    content is over. A range to the end may begin exactly there. -/
def Refuses (live : Int) (content : Bytes) (request : HttpRequest) (range : ByteRange) : Prop :=
  (∃ text ∈ request.generations, text ≠ live.repr) ∨
    match range.stop? with
    | none => content.length < range.start
    | some _ => content.length ≤ range.start

namespace Answer

variable {a : Answer} {live : Int} {content : Bytes} {request : HttpRequest} {range : ByteRange}

/-- The answer to a request for another generation is judged a failure. -/
theorem Fits.judge_of_other (h : a.Fits live content request)
    (hother : (request.generations.any fun text => text != live.repr) = true) :
    SteadyFetch.judge range a.status (a.fields.map fieldLine) = .failed := by
  have hstatus := h.status_eq
  unfold due at hstatus
  rw [if_pos hother] at hstatus
  simp [SteadyFetch.judge, hstatus]

/-- What the judgement of a truthful answer can be: it holds the octets asked for, or the range begins
    at the end, or the service had to refuse. -/
theorem Fits.judge (h : a.Fits live content request) (hspan : request.span? = range.span?)
    (hne : range.isEmpty = false) (hsize : content.length < Word.limit64) :
    (judge range a.status (a.fields.map fieldLine) = .content ∧ a.status < 300 ∧
        a.body = range.within content) ∨
      (judge range a.status (a.fields.map fieldLine) = .pastEnd ∧ range.start = content.length ∧
        range.stop? = none) ∨
      (judge range a.status (a.fields.map fieldLine) = .failed ∧ Refuses live content request range) := by
  have hstatus := h.status_eq
  have hrange := h.contentRange_eq
  have hbody := h.body_eq
  unfold due at hstatus hrange hbody
  by_cases hgone : (request.generations.any fun text => text != live.repr) = true
  · obtain ⟨text, htext, hother⟩ := List.any_eq_true.1 hgone
    exact Or.inr (Or.inr ⟨h.judge_of_other hgone, Or.inl ⟨text, htext, by simpa using hother⟩⟩)
  · unfold SteadyFetch.judge
    rw [ByteRange.isSome_header?]
    rw [Bool.not_eq_true] at hgone
    simp only [hgone, Bool.false_eq_true, if_false, hspan] at hstatus hrange hbody
    cases hasked : range.span? with
    | none =>
        simp only [hasked] at hstatus hbody
        refine Or.inl ⟨by simp [hstatus], by omega, ?_⟩
        rw [hbody content rfl, ByteRange.within_eq_self hasked hne]
    | some asked =>
        obtain ⟨first, last⟩ := asked
        obtain ⟨rfl, hwithin⟩ := ByteRange.within_eq_extract hasked content
        simp only [hasked] at hstatus hrange hbody
        by_cases hpast : content.length ≤ range.start
        · simp only [hpast, if_true] at hstatus hrange
          have hparsed : contentRangeOf? (a.fields.map fieldLine)
              = some (.unsatisfied content.length) := by
            rw [contentRangeOf?_fieldLines h.fieldNames, hrange]
            exact ContentRange.parse?_unsatisfied hsize
          refine Or.inr ?_
          cases hstop : range.stop? with
          | none =>
              by_cases hend : content.length = range.start
              · exact Or.inl ⟨by simp [hstatus, hparsed, hend], hend.symm, rfl⟩
              · refine Or.inr ⟨by simp [hstatus, hparsed, hend], Or.inr ?_⟩
                rw [hstop]
                exact Nat.lt_of_le_of_ne hpast hend
          | some stop =>
              refine Or.inr ⟨by simp [hstatus], Or.inr ?_⟩
              rw [hstop]
              exact hpast
        · simp only [hpast, if_false] at hstatus hrange hbody
          refine Or.inl ⟨?_, by omega, ?_⟩
          · have hparsed := contentRangeOf?_fieldLines h.fieldNames
            rw [hrange] at hparsed
            simp only [Option.toList_some, List.head?_cons, Option.bind_some] at hparsed
            have hend := spanEnd_le last content.length
            rw [ContentRange.parse?_octets (by omega) (by omega) hsize] at hparsed
            have hfits : ∀ stop ∈ range.stop?, spanEnd last content.length - 1 < stop :=
              fun stop hstop => ByteRange.spanEnd_lt hasked hne hstop content.length
            simp only [hstatus, Option.isSome_some, and_self, if_true, judgePartial, hparsed]
            rw [if_pos ⟨trivial, hfits⟩]
          · rw [hbody _ rfl, hwithin]

theorem Fits.generationOf? (h : a.Fits live content request) (hlow : -(Word.limit63 : Int) ≤ live)
    (hhigh : live < Word.limit63) :
    generationOf? (a.fields.map fieldLine)
      = if a.values "x-goog-generation" = [] then none else some live := by
  rw [generationOf?_fieldLines h.fieldNames]
  have hvalues := h.generation_eq
  cases hcases : a.values "x-goog-generation" with
  | nil => rfl
  | cons text texts =>
      rw [hcases] at hvalues
      rw [hvalues text List.mem_cons_self, List.findSome?_cons, Numeral.i64?_repr hlow hhigh,
        if_neg (List.cons_ne_nil _ _)]

theorem Fits.status_lt (h : a.Fits live content request) : a.status < Word.limit32 := by
  rw [h.status_eq]
  unfold due
  split
  · decide
  · split
    · exact show 200 < Word.limit32 by decide
    · split
      · exact show 416 < Word.limit32 by decide
      · exact show 206 < Word.limit32 by decide

end Answer

/-! ## Opening an answer -/

namespace Transfer

variable {t : Transfer} {a : Answer}

theorem framesFrom_lines (t : Transfer) (lines : List Bytes) (h : PendingHead)
    (rest : List TransferEvent) :
    t.framesFrom h (lines.map .line ++ rest) = t.framesFrom (lines.foldl PendingHead.add h) rest := by
  induction lines generalizing h with
  | nil => rfl
  | cons line lines ih =>
      rw [List.map_cons, List.cons_append, framesFrom, ih, List.foldl_cons]

theorem bodyFrames_chunks (chunks : List Bytes) :
    bodyFrames (chunks.map .chunk) = chunks.map .body := by
  induction chunks with
  | nil => rfl
  | cons chunk chunks ih =>
      rw [List.map_cons, List.map_cons, ← ih]
      rfl

/-- The frames of a transfer of an answer: nothing but its failure, or the head and what came of the
    body. -/
theorem Reports.frames_eq (h : t.Reports a) (hnames : ∀ field ∈ a.fields, Answer.IsFieldName field.1)
    (hstatus : a.status < Word.limit32) :
    (∃ code, t.failure = some code ∧ t.frames = [.done (some code)]) ∨
      ∃ chunks : List Bytes, t.frames
        = .head a.status (a.fields.map Answer.fieldLine) :: (chunks.map .body ++ [.done t.failure]) ∧
        chunks.flatten <+: a.body ∧ (t.failure = none → chunks.flatten = a.body) := by
  cases h with
  | broken lines code hevents hfailure =>
      refine Or.inl ⟨code, hfailure, ?_⟩
      have hframes := t.framesFrom_lines lines .empty []
      rw [List.append_nil, ← hevents] at hframes
      rw [frames, hframes, framesFrom, hfailure]
  | delivered chunks hevents hcode hinit hwhole =>
      rw [frames, hevents, framesFrom_lines, a.foldl_add_lines hnames hstatus]
      cases chunks with
      | nil =>
          rw [List.map_nil, framesFrom]
          cases hfailure : t.failure with
          | some code => exact Or.inl ⟨code, rfl, rfl⟩
          | none =>
              refine Or.inr ⟨[], ?_, hinit, fun _ => hwhole hfailure⟩
              simp [hcode]
      | cons chunk chunks =>
          refine Or.inr ⟨chunk :: chunks, ?_, hinit, hwhole⟩
          rw [List.map_cons, framesFrom, bodyFrames_chunks]
          rfl

end Transfer

/-- What a successful open gives of a truthful answer: a stream of the octets asked for, whole unless
    the transfer failed, and the generation, if no other one was asked for. Only an answer to a range
    that begins at the end of the content may leave the generation out. -/
structure Opening (content : Bytes) (live : Int) (request : HttpRequest) (range : ByteRange)
    (a : Answer) (transferFailure : Option TransferCode) (opened : Opened BodyStream) : Prop where
  asked : ∀ text ∈ request.generations, text = live.repr
  gives : ∃ rest failure, opened.stream.Gives rest failure ∧ rest <+: range.within content ∧
    (failure = none → rest = range.within content) ∧ (∀ code ∈ failure, transferFailure = some code)
  generation_eq : opened.generation = some live ∨ opened.generation = none ∧
    a.values "x-goog-generation" = [] ∧ content.length ≤ range.start ∧ range.stop? = none

/-- **Opening a truthful answer.** Success gives a stream of the octets asked for; the only faults are
    that the transfer failed, or that the service had to refuse. -/
theorem openFrames_of_fits {a : Answer} {live : Int} {content : Bytes} {request : HttpRequest}
    {range : ByteRange} {t : Transfer} (h : a.Fits live content request) (ht : t.Reports a)
    (hspan : request.span? = range.span?) (hne : range.isEmpty = false)
    (hsize : content.length < Word.limit64) (hlow : -(Word.limit63 : Int) ≤ live)
    (hhigh : live < Word.limit63) :
    match openFrames range t.frames with
    | .ok opened => Opening content live request range a t.failure opened
    | .error fault => (∃ code, t.failure = some code ∧ fault = .transfer code) ∨
        Refuses live content request range := by
  rcases ht.frames_eq h.fieldNames h.status_lt with
    ⟨code, hcode, hframes⟩ | ⟨chunks, hframes, hinit, hwhole⟩
  · rw [hframes]
    exact Or.inl ⟨code, hcode, rfl⟩
  · rw [hframes]
    have hgeneration := h.generationOf? hlow hhigh
    have hasked : SteadyFetch.judge range a.status (a.fields.map Answer.fieldLine) ≠ .failed →
        ∀ text ∈ request.generations, text = live.repr := by
      intro hjudge text htext
      by_contra hother
      exact hjudge (h.judge_of_other (List.any_eq_true.2 ⟨text, htext, by simpa using hother⟩))
    rcases h.judge hspan hne hsize with
      ⟨hjudge, hsuccess, hbody⟩ | ⟨hjudge, hend, hstop⟩ | ⟨hjudge, hrefuses⟩
    · simp only [openFrames, hjudge]
      rw [hbody] at hinit hwhole
      refine ⟨hasked (by simp [hjudge]), ⟨chunks.flatten, t.failure,
        BodyStream.gives_ofFrames chunks t.failure, hinit, hwhole, fun _ hcode => hcode⟩, Or.inl ?_⟩
      rw [hgeneration, if_neg (h.reported hsuccess)]
    · simp only [openFrames, hjudge]
      have hnil : range.within content = [] := by
        rw [ByteRange.within, hstop, hend]
        exact List.drop_length
      refine ⟨hasked (by simp [hjudge]), ⟨[], none, BodyStream.gives_empty, List.nil_prefix,
        fun _ => hnil.symm, by rintro _ ⟨⟩⟩, ?_⟩
      rw [hgeneration]
      split
      · next hsilent => exact Or.inr ⟨rfl, hsilent, Nat.le_of_eq hend.symm, hstop⟩
      · exact Or.inl rfl
    · simp only [openFrames, hjudge]
      exact Or.inr hrefuses

end SteadyFetch
