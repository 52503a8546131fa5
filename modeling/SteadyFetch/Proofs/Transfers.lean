import SteadyFetch.Proofs.Heads
import SteadyFetch.Proofs.Histories
import SteadyFetch.Proofs.Opening
import SteadyFetch.Proofs.Widening

set_option autoImplicit false

/-! # What an open makes of any response

A network may report anything. Each open over HTTP is answered by one transfer, and its head alone decides
what becomes of it: where a range was asked for, the body is read if it fits the start of the range
(`FitsAt`), a range at the end of the object is complete without a body, and any other success fails the
open (`OpenMade.Misplaced`). -/

namespace SteadyFetch

/-! ## Transfers as they are judged -/

/-- What frames say in their body, up to the end of the transfer. -/
def bodyOctets : List Frame → Bytes
  | [] => []
  | .body bs :: rest => bs ++ bodyOctets rest
  | .done _ :: _ => []
  | .head _ _ :: rest => bodyOctets rest

theorem bodyOctets_chunks_append (chunks : List Bytes) (frames : List Frame) :
    bodyOctets (chunks.map .body ++ frames) = chunks.flatten ++ bodyOctets frames := by
  induction chunks with
  | nil => rfl
  | cons chunk chunks ih =>
      rw [List.map_cons, List.cons_append, bodyOctets, ih, List.flatten_cons, List.append_assoc]

namespace Transfer

/-- Status and lines of the head that belongs to the body. -/
def head? (t : Transfer) : Option (Nat × List String) :=
  match t.frames with
  | .head status lines :: _ => some (status, lines)
  | _ => none

/-- The body, as far as it came. -/
def body (t : Transfer) : Bytes := bodyOctets t.frames

/-- The frames of a transfer: nothing but its failure, or a head and what came of the body. -/
theorem frames_shape (t : Transfer) :
    (∃ code, t.frames = [.done (some code)]) ∨ ∃ (status : Nat) (lines : List String)
      (chunks : List Bytes), t.frames = .head status lines :: (chunks.map .body ++ [.done t.failure]) := by
  rw [frames, ← PendingHead.of_nil, framesFrom_of]
  by_cases hnone : chunksOf t.events = [] ∧ t.failure.isSome
  · obtain ⟨code, hcode⟩ := Option.isSome_iff_exists.1 hnone.2
    rw [if_pos hnone, hnone.1, hcode]
    exact Or.inl ⟨code, rfl⟩
  · rw [if_neg hnone]
    exact Or.inr ⟨_, _, chunksOf t.events, rfl⟩

theorem bodyOctets_chunks (chunks : List Bytes) (failure : Option TransferCode) :
    bodyOctets (chunks.map .body ++ [.done failure]) = chunks.flatten := by
  rw [bodyOctets_chunks_append, bodyOctets, List.append_nil]

end Transfer

/-- Whether a head says that its body begins at an offset and ends before the end of a range, if that has
    one. -/
def FitsAt (status : Nat) (lines : List String) (start : Nat) (stop? : Option Nat) : Prop :=
  status = 206 ∧ ∃ last, contentRangeOf? lines = some (.octets start last) ∧ ∀ stop ∈ stop?, last < stop

section Judging

variable {range : ByteRange} {status : Nat} {lines : List String}

/-- Where a range is asked for, content is what fits at its start. -/
theorem judge_eq_content_iff (hranged : range.header?.isSome = true) :
    judge range status lines = .content ↔ FitsAt status lines range.start range.stop? := by
  unfold judge FitsAt
  by_cases hpartial : status = 206
  · simp only [hpartial, hranged, and_self, if_true, true_and]
    unfold judgePartial
    split
    · next first last hrange =>
      by_cases hfits : first = range.start ∧ ∀ stop ∈ range.stop?, last < stop
      · rw [if_pos hfits]
        exact ⟨fun _ => ⟨last, by rw [hrange, hfits.1], hfits.2⟩, fun _ => rfl⟩
      · rw [if_neg hfits]
        refine ⟨nofun, ?_⟩
        rintro ⟨other, hother, hend⟩
        rw [hrange] at hother
        obtain ⟨rfl, rfl⟩ := ContentRange.octets.inj (Option.some.inj hother)
        exact absurd ⟨rfl, hend⟩ hfits
    · next hrange =>
      refine ⟨nofun, ?_⟩
      rintro ⟨last, hlast, -⟩
      exact absurd hlast (hrange _ _)
  · simp only [hpartial, hranged, false_and, if_false, if_true]
    refine ⟨fun h => ?_, nofun⟩
    split at h
    · cases h
    · split at h
      · split at h
        · split at h <;> cases h
        · cases h
      · cases h

theorem judgePartial_cases (range : ByteRange) (lines : List String) :
    judgePartial range lines = .content ∨ ∃ message, judgePartial range lines = .misplaced message := by
  unfold judgePartial
  split
  · split
    · exact Or.inl rfl
    · exact Or.inr ⟨_, rfl⟩
  · exact Or.inr ⟨_, rfl⟩

theorem judge_eq_misplaced (hranged : range.header?.isSome = true) (hsuccess : 200 ≤ status ∧ status ≤ 299)
    (hfits : ¬FitsAt status lines range.start range.stop?) :
    ∃ message, judge range status lines = .misplaced message := by
  rw [← judge_eq_content_iff hranged] at hfits
  unfold judge at hfits ⊢
  by_cases hpartial : status = 206
  · simp only [hpartial, hranged, and_self, if_true] at hfits ⊢
    exact (judgePartial_cases range lines).resolve_left hfits
  · simp only [hpartial, hranged, hsuccess, false_and, and_self, if_false, if_true]
    exact ⟨_, rfl⟩

theorem status_of_judge_eq_content (h : judge range status lines = .content) : status ≤ 299 := by
  unfold judge at h
  simp only at h
  split at h
  · next hpartial => omega
  · split at h
    · next hsuccess => exact hsuccess.2
    · split at h
      · split at h
        · split at h <;> cases h
        · cases h
      · cases h

/-- A range is past the end only if it is open-ended and begins at the announced total. -/
theorem of_judge_eq_pastEnd (h : judge range status lines = .pastEnd) :
    status = 416 ∧ range.stop? = none ∧ contentRangeOf? lines = some (.unsatisfied range.start) := by
  unfold judge judgePartial at h
  simp only at h
  split at h
  · split at h
    · split at h <;> cases h
    · cases h
  · split at h
    · split at h <;> cases h
    · split at h
      · next hempty =>
        split at h
        · next total hrange =>
          split at h
          · next htotal => exact ⟨hempty.1, hempty.2, by rw [hrange, htotal]⟩
          · cases h
        · cases h
      · cases h

end Judging

/-- What a successful open says of the transfer it was made with: the generation is the one of its head,
    and the stream holds the body, or nothing if the range begins at the end. -/
theorem openFrames_ok {range : ByteRange} {t : Transfer} {opened : Opened BodyStream}
    (h : openFrames range t.frames = .ok opened) : ∃ status lines, t.head? = some (status, lines) ∧
      opened.generation = generationOf? lines ∧
      ((judge range status lines = .content ∧ opened.stream.Gives t.body t.failure) ∨
        (judge range status lines = .pastEnd ∧ opened.stream.Gives [] none)) := by
  rcases t.frames_shape with ⟨code, hframes⟩ | ⟨status, lines, chunks, hframes⟩
  · rw [hframes] at h
    cases h
  · refine ⟨status, lines, by rw [Transfer.head?, hframes], ?_⟩
    rw [hframes, openFrames] at h
    rw [Transfer.body, hframes, bodyOctets, Transfer.bodyOctets_chunks]
    cases hjudge : judge range status lines with
    | content =>
        rw [hjudge] at h
        obtain rfl := Except.ok.inj h
        exact ⟨rfl, Or.inl ⟨rfl, BodyStream.gives_ofFrames chunks t.failure⟩⟩
    | pastEnd =>
        rw [hjudge] at h
        obtain rfl := Except.ok.inj h
        exact ⟨rfl, Or.inr ⟨rfl, BodyStream.gives_empty⟩⟩
    | failed =>
        rw [hjudge] at h
        cases h
    | misplaced message =>
        rw [hjudge] at h
        cases h

theorem openFrames_misplaced {range : ByteRange} {t : Transfer} {status : Nat} {lines : List String}
    {message : String} (hhead : t.head? = some (status, lines))
    (hjudge : judge range status lines = .misplaced message) :
    openFrames range t.frames = .error (.status status message) := by
  rcases t.frames_shape with ⟨code, hframes⟩ | ⟨status', lines', chunks, hframes⟩
  · rw [Transfer.head?, hframes] at hhead
    cases hhead
  · rw [Transfer.head?, hframes] at hhead
    cases hhead
    rw [hframes, openFrames, hjudge]

/-- Neither a success nor an end that was overrun is worth another attempt. -/
theorem FaultClass.ofStatus_eq_other {status : Nat} (h : status ≤ 299 ∨ status = 416) :
    ofStatus status = .other := by
  unfold ofStatus
  rw [if_neg (by omega), if_neg (by omega), if_neg (by omega)]

theorem Fault.readFailure_status (status : Nat) (message : String) :
    (Fault.status status message).readFailure
      = .transport (FaultClass.ofStatus status) (.status status message) := by
  have hclass : (Fault.status status message).widenedClass = FaultClass.ofStatus status :=
    widenedClass_of_ne_io fun _ => Fault.noConfusion
  have hprotocol : (Fault.status status message).isProtocol = true := rfl
  rw [readFailure, if_pos hprotocol, hclass]

/-! ## Requests that carry a range -/

/-- Whether a request has a `Range` header. -/
def HttpRequest.isRanged (r : HttpRequest) : Bool :=
  r.headers.any fun header => lowerAscii header.1.toList == "range".toList

theorem ReadRequest.isRanged_mediaRequest {r : ReadRequest} {endpoint : Url} {pin : Option Int}
    {request : HttpRequest} (h : mediaRequest endpoint r pin = .ok request) :
    request.isRanged = r.range.header?.isSome := by
  obtain ⟨others, hheaders, hothers⟩ := headers_mediaRequest h
  have hnone : (others.any fun header => lowerAscii header.1.toList == "range".toList) = false := by
    rw [List.any_eq_false]
    exact List.find?_eq_none.1 hothers
  rw [HttpRequest.isRanged, hheaders, List.any_append, hnone, Bool.or_false]
  cases r.range.header? with
  | none => rfl
  | some value =>
      have hname : (lowerAscii "Range".toList == "range".toList) = true := by decide
      simp only [Option.toList_some, List.map_cons, List.map_nil, List.any_cons, hname, Bool.true_or,
        Option.isSome_some]

/-! ## Opens over HTTP -/

variable {S : Type}

namespace OpenMade

/-- The request that an open made, and the transfer that came of it; none if no request could be made. -/
def transfer? (made : OpenMade S BodyStream) (network : Network (StateM S)) (endpoint : Url) :
    Option (HttpRequest × Transfer) :=
  match mediaRequest endpoint made.request made.pin with
  | .error _ => none
  | .ok asked => some (asked, (network.fetch asked made.world).1)

/-- Whether an open was answered as its opener answers. -/
def IsOf (made : OpenMade S BodyStream) (network : Network (StateM S)) (endpoint : Url) : Prop :=
  made.result = ((httpOpener network endpoint).openAt made.request made.pin made.world).1

variable {made : OpenMade S BodyStream} {network : Network (StateM S)} {endpoint : Url}
  {asked : HttpRequest} {t : Transfer}

theorem IsOf.result_eq (h : made.IsOf network endpoint)
    (ht : made.transfer? network endpoint = some (asked, t)) :
    made.result = openFrames made.request.range t.frames ∧
      asked.isRanged = made.request.range.header?.isSome := by
  unfold transfer? at ht
  cases hasked : mediaRequest endpoint made.request made.pin with
  | error fault =>
      rw [hasked] at ht
      cases ht
  | ok request =>
      rw [hasked] at ht
      cases ht
      refine ⟨?_, ReadRequest.isRanged_mediaRequest hasked⟩
      rw [h, httpOpener]
      simp only [hasked]
      rfl

theorem IsOf.exists_transfer (h : made.IsOf network endpoint) {opened : Opened BodyStream}
    (hopened : made.result = .ok opened) : ∃ asked t, made.transfer? network endpoint = some (asked, t) := by
  unfold transfer?
  cases hasked : mediaRequest endpoint made.request made.pin with
  | error fault =>
      rw [h, httpOpener] at hopened
      simp only [hasked] at hopened
      cases hopened
  | ok request => exact ⟨request, _, rfl⟩

/-- Whether an open for a range was answered by a success that does not fit its start. -/
def Misplaced (made : OpenMade S BodyStream) (network : Network (StateM S)) (endpoint : Url)
    (status : Nat) : Prop :=
  ∃ asked t lines, made.transfer? network endpoint = some (asked, t) ∧ asked.isRanged = true ∧
    t.head? = some (status, lines) ∧ (200 ≤ status ∧ status ≤ 299) ∧
      ¬FitsAt status lines made.request.range.start made.request.range.stop?

theorem Misplaced.result_eq {status : Nat} (hm : made.Misplaced network endpoint status)
    (h : made.IsOf network endpoint) : ∃ message, made.result = .error (.status status message) := by
  obtain ⟨asked, t, lines, ht, hranged, hhead, hsuccess, hfits⟩ := hm
  obtain ⟨hresult, hsame⟩ := h.result_eq ht
  obtain ⟨message, hjudge⟩ := judge_eq_misplaced (hsame ▸ hranged) hsuccess hfits
  exact ⟨message, hresult.trans (openFrames_misplaced hhead hjudge)⟩

end OpenMade

end SteadyFetch
