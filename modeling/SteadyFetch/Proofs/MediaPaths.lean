import SteadyFetch.Http.MediaRequest
import SteadyFetch.Proofs.Form
import SteadyFetch.Url.Parse

set_option autoImplicit false

/-! # The path of a media URL

A segment that is percent-encoded holds no slash and decodes to the text it was made of. So the path of a
media URL, past that of its endpoint, splits and decodes to one text for each segment that was pushed
(`ReadRequest.mediaUrl_path`). These are the texts that were pushed (`heard_eq_self`), but for texts that
mean a directory, which are left out, and for tabs and line breaks, which are dropped from the others: names
that differ in these alone have the same path. -/

namespace SteadyFetch

/-! ## Encoded segments -/

namespace Percent

variable {set : EncodeSet} {b : UInt8}

theorem decodeBytes_encodeBytes_cons (hset : '%' ∈ set) (bs rest : Bytes) :
    decodeBytes ((encodeBytes set (b :: bs)).flatMap String.utf8EncodeChar ++ rest)
      = b :: decodeBytes ((encodeBytes set bs).flatMap String.utf8EncodeChar ++ rest) := by
  rw [encodeBytes, List.flatMap_cons, List.flatMap_append, List.append_assoc]
  by_cases hencoded : isEncoded set b = true
  · rw [if_pos hencoded, decodeBytes_triple]
    rfl
  · obtain ⟨hlt, hplain⟩ := bounds_of_not_isEncoded hencoded
    have hpercent : b ≠ 37 := by
      rintro rfl
      exact hplain hset
    rw [if_neg hencoded, List.flatMap_cons, List.flatMap_nil, List.append_nil,
      decodeBytes_charOf hlt hpercent]
    rfl

theorem decode_encode (hset : '%' ∈ set) (cs : List Char) :
    decode (encode set cs) = Utf8.encode (String.ofList cs) := by
  rw [decode, Utf8.encode_ofList, encode]
  induction Utf8.encode (String.ofList cs) with
  | nil => rfl
  | cons b bs ih =>
      rw [← List.append_nil (List.flatMap _ _)] at ih ⊢
      rw [decodeBytes_encodeBytes_cons hset, ih]

theorem not_mem_encode {c : Char} (hset : c ∈ set) (htriple : ∀ b, c ∉ triple b) (cs : List Char) :
    c ∉ encode set cs := by
  intro h
  obtain ⟨b, -, hb⟩ := List.mem_flatMap.1 h
  by_cases hencoded : isEncoded set b = true
  · rw [if_pos hencoded] at hb
    exact htriple b hb
  · rw [if_neg hencoded, List.mem_singleton] at hb
    exact (bounds_of_not_isEncoded hencoded).2 (hb ▸ hset)

end Percent

namespace Url

/-- The set that applies to the segments of a scheme. -/
def segmentSetOf (scheme : List Char) : Percent.EncodeSet :=
  if isSpecialScheme scheme then Percent.specialSegmentSet else Percent.segmentSet

theorem percent_mem_segmentSetOf (scheme : List Char) : '%' ∈ segmentSetOf scheme := by
  unfold segmentSetOf
  split <;> decide

/-! ## Texts that become segments -/

/-- What the texts become that are pushed to a path, as the segments decode: a text that means a directory is
    left out, tabs and line breaks are dropped from the others, and where that makes one mean a directory, it
    closes the path. -/
def hear (heard : List String) (name : String) : List String :=
  if name = "." ∨ name = ".." then heard
  else
    let kept := String.ofList (name.toList.filter fun c => !isDropped c)
    if kept = ".." then heard.dropLast ++ [""]
    else if kept = "." then heard ++ [""]
    else heard ++ [kept]

/-- Whether a text is pushed as it is. -/
def IsSegment (name : String) : Prop :=
  name ≠ "." ∧ name ≠ ".." ∧ ∀ c ∈ name.toList, isDropped c = false

instance (name : String) : Decidable (IsSegment name) :=
  decidable_of_iff (name ≠ "." ∧ name ≠ ".." ∧ name.toList.all (fun c => !isDropped c) = true)
    (by simp [IsSegment])

theorem IsSegment.filter_eq {name : String} (h : IsSegment name) :
    name.toList.filter (fun c => !isDropped c) = name.toList :=
  List.filter_eq_self.2 fun c hc => by rw [h.2.2 c hc]; rfl

theorem hear_of_isSegment {name : String} (h : IsSegment name) (heard : List String) :
    hear heard name = heard ++ [name] := by
  obtain ⟨hsingle, hdouble, -⟩ := id h
  simp only [hear, h.filter_eq, String.ofList_toList, hsingle, hdouble, or_self, if_false]

theorem heard_eq_self {names : List String} (h : ∀ name ∈ names, IsSegment name) (heard : List String) :
    names.foldl hear heard = heard ++ names := by
  induction names generalizing heard with
  | nil => simp
  | cons name names ih =>
      rw [List.forall_mem_cons] at h
      rw [List.foldl_cons, hear_of_isSegment h.1, ih h.2, List.append_assoc, List.singleton_append]

/-! ## Pushing segments -/

variable {scheme : List Char}

/-- A text as a segment of a scheme's path. -/
def segment (scheme : List Char) (name : String) : List Char :=
  Percent.encode (segmentSetOf scheme) name.toList

theorem not_mem_segment (scheme : List Char) (name : String) {c : Char} (hc : c ∈ ['/', '?', '#']) :
    c ∉ segment scheme name := by
  simp only [List.mem_cons, List.not_mem_nil, or_false] at hc
  refine Percent.not_mem_encode ?_ ?_ _
  · unfold segmentSetOf
    rcases hc with rfl | rfl | rfl <;> split <;> decide
  · rcases hc with rfl | rfl | rfl <;> exact forall_octet (by decide +kernel)

theorem decode_segment (scheme : List Char) (name : String) :
    Percent.decode (segment scheme name) = Utf8.encode name := by
  rw [segment, Percent.decode_encode (percent_mem_segmentSetOf scheme), String.ofList_toList]

/-- What decodes to the octets of a text is made of that text alone. -/
theorem eq_of_decode_segment {name other : String}
    (h : Percent.decode (segment scheme name) = Utf8.encode other) : name = other := by
  have hdecode := congrArg Utf8.decode? ((decode_segment scheme name).symm.trans h)
  rw [Utf8.decode?_encode, Utf8.decode?_encode] at hdecode
  exact Option.some.inj hdecode

theorem any_spelling_segment {spellings : List String} {dots : String}
    (hspellings : ∀ s ∈ spellings, Percent.decode s.toList = Utf8.encode dots)
    (hself : ∃ s ∈ spellings, s.toList = segment scheme dots) (name : String) :
    (spellings.any fun s => s.toList == segment scheme name) = true ↔ name = dots := by
  rw [List.any_eq_true]
  constructor
  · rintro ⟨s, hs, hsegment⟩
    rw [beq_iff_eq] at hsegment
    exact eq_of_decode_segment (hsegment ▸ hspellings s hs)
  · rintro rfl
    obtain ⟨s, hs, hsegment⟩ := hself
    exact ⟨s, hs, beq_iff_eq.2 hsegment⟩

theorem isSingleDot_segment (name : String) : isSingleDot (segment scheme name) = true ↔ name = "." := by
  refine any_spelling_segment (by decide) ⟨".", by decide, ?_⟩ name
  unfold segment segmentSetOf
  split <;> decide

theorem isDoubleDot_segment (name : String) :
    isDoubleDot (segment scheme name) = true ↔ name = ".." := by
  refine any_spelling_segment (by decide) ⟨"..", by decide, ?_⟩ name
  unfold segment segmentSetOf
  split <;> decide

theorem length_le_hear {heard : List String} (h : heard ≠ []) (name : String) :
    heard.length ≤ (hear heard name).length := by
  have hpos := List.length_pos_of_ne_nil h
  unfold hear
  dsimp only
  split_ifs
  · exact Nat.le_refl _
  · rw [List.length_append, List.length_dropLast, List.length_singleton]
    omega
  · simp
  · simp

/-- A text that does not mean a directory is pushed without what is dropped; it may close the path. -/
theorem pushSegment_eq {name : String} (hdots : ¬(name = "." ∨ name = ".."))
    (segments : List (List Char)) :
    pushSegment (isSpecialScheme scheme) segments name.toList
      = closePath (if segments = [[]] then [] else segments)
          (segment scheme (String.ofList (name.toList.filter fun c => !isDropped c))) := by
  have hchars : ¬(name.toList = ['.'] ∨ name.toList = ['.', '.']) := by
    rintro (h | h)
    · exact hdots (Or.inl (String.toList_inj.1 h))
    · exact hdots (Or.inr (String.toList_inj.1 h))
  unfold pushSegment
  rw [if_neg hchars, segment, String.toList_ofList]
  rfl

theorem pushSegment_of_isSegment {name : String} (h : IsSegment name) (segments : List (List Char)) :
    pushSegment (isSpecialScheme scheme) segments name.toList
      = (if segments = [[]] then [] else segments) ++ [segment scheme name] := by
  obtain ⟨hsingle, hdouble, -⟩ := id h
  rw [pushSegment_eq (by simp [hsingle, hdouble]), h.filter_eq, String.ofList_toList, closePath,
    if_neg (mt (isDoubleDot_segment name).1 hdouble), if_neg (mt (isSingleDot_segment name).1 hsingle)]

theorem pushSegment_append (own : List (List Char)) {heard : List String} (h : 2 ≤ heard.length)
    (name : String) :
    pushSegment (isSpecialScheme scheme) (own ++ heard.map (segment scheme)) name.toList
      = own ++ (hear heard name).map (segment scheme) := by
  have hlong : own ++ heard.map (segment scheme) ≠ [[]] := by
    intro heq
    have hlength := congrArg List.length heq
    simp only [List.length_append, List.length_map, List.length_singleton] at hlength
    omega
  have hempty : segment scheme "" = [] := rfl
  by_cases hdots : name = "." ∨ name = ".."
  · rw [hear, if_pos hdots, pushSegment, if_pos]
    rcases hdots with rfl | rfl
    · exact Or.inl rfl
    · exact Or.inr rfl
  · rw [pushSegment_eq hdots, if_neg hlong, hear, if_neg hdots, closePath]
    dsimp only
    generalize String.ofList (name.toList.filter fun c => !isDropped c) = kept
    by_cases hdouble : kept = ".."
    · -- what is taken away was heard, not the path's own
      have hheard : heard.map (segment scheme) ≠ [] := by
        intro hnil
        rw [List.map_eq_nil_iff.1 hnil] at h
        simp at h
      rw [if_pos ((isDoubleDot_segment kept).2 hdouble), if_pos hdouble, List.dropLast_append_of_ne_nil hheard,
        List.map_append, List.map_dropLast, List.append_assoc, List.map_singleton, hempty]
    · rw [if_neg (mt (isDoubleDot_segment kept).1 hdouble), if_neg hdouble]
      by_cases hsingle : kept = "."
      · rw [if_pos ((isSingleDot_segment kept).2 hsingle), if_pos hsingle, List.map_append, List.append_assoc,
          List.map_singleton, hempty]
      · rw [if_neg (mt (isSingleDot_segment kept).1 hsingle), if_neg hsingle, List.map_append,
          List.append_assoc, List.map_singleton]

theorem foldl_pushSegment (scheme : List Char) (own : List (List Char)) {heard : List String}
    (h : 2 ≤ heard.length) (names : List String) :
    names.foldl (fun segments name => pushSegment (isSpecialScheme scheme) segments name.toList)
        (own ++ heard.map (segment scheme))
      = own ++ (names.foldl hear heard).map (segment scheme) := by
  induction names generalizing heard with
  | nil => rfl
  | cons name names ih =>
      have hheard : heard ≠ [] := by
        rintro rfl
        simp at h
      rw [List.foldl_cons, pushSegment_append own h, ih (h.trans (length_le_hear hheard name)),
        List.foldl_cons]

/-- The segments of a path that others are pushed to: an empty one at the end is dropped. -/
def ownSegments (segments : List (List Char)) : List (List Char) :=
  if dropEmptyEnd segments = [[]] then [] else dropEmptyEnd segments

/-- All that a path loses when others are pushed to it are slashes at its end. -/
theorem exists_slashes (segments : List (List Char)) :
    ∃ slashes, (∀ c ∈ slashes, c = '/') ∧
      segmentsText segments = segmentsText (ownSegments segments) ++ slashes := by
  have hdrop : ∃ slashes, (∀ c ∈ slashes, c = '/') ∧
      segmentsText segments = segmentsText (dropEmptyEnd segments) ++ slashes := by
    unfold dropEmptyEnd
    split_ifs with hend
    · rw [Bool.and_eq_true, beq_iff_eq] at hend
      refine ⟨['/'], by simp, ?_⟩
      conv_lhs => rw [← List.dropLast_append_getLast? [] hend.2]
      simp [segmentsText]
    · exact ⟨[], by simp, by simp⟩
  obtain ⟨slashes, hslashes, htext⟩ := hdrop
  unfold ownSegments
  split_ifs with hempty
  · rw [hempty] at htext
    refine ⟨'/' :: slashes, ?_, htext⟩
    rw [List.forall_mem_cons]
    exact ⟨rfl, hslashes⟩
  · exact ⟨slashes, hslashes, htext⟩

theorem splitOn_segmentsText {text : List Char} (htext : '/' ∉ text) {segments : List (List Char)}
    (h : ∀ segment ∈ segments, '/' ∉ segment) :
    (text ++ segmentsText segments).splitOn '/' = text :: segments := by
  induction segments generalizing text with
  | nil => rw [segmentsText, List.flatMap_nil, List.append_nil, List.splitOn_eq_singleton htext]
  | cons segment segments ih =>
      rw [List.forall_mem_cons] at h
      have hsplit : text ++ segmentsText (segment :: segments)
          = text ++ '/' :: (segment ++ segmentsText segments) := by
        simp [segmentsText]
      rw [hsplit, List.splitOn_append_cons_self, List.splitOn_eq_singleton htext, ih h.1 h.2]
      rfl

/-- Segments that were made of texts decode to them. Before the first slash there is nothing. -/
theorem decode_segmentsText (scheme : List Char) (names : List String) :
    ((segmentsText (names.map (segment scheme))).splitOn '/').map Percent.decode
      = ("" :: names).map Utf8.encode := by
  have hslash : ∀ text ∈ names.map (segment scheme), '/' ∉ text := by
    intro text htext
    obtain ⟨name, -, rfl⟩ := List.mem_map.1 htext
    exact not_mem_segment scheme name (by decide)
  have hsplit : ([] ++ segmentsText (names.map (segment scheme))).splitOn '/'
      = [] :: names.map (segment scheme) :=
    splitOn_segmentsText List.not_mem_nil hslash
  rw [List.nil_append] at hsplit
  rw [hsplit, List.map_cons, List.map_cons, List.map_map]
  refine congrArg₂ List.cons rfl (List.map_congr_left ?_)
  intro name _
  rw [Function.comp_apply, decode_segment]

end Url

namespace ReadRequest

/-! ## Media URLs -/

/-- What the media URL of an object is heard to name. -/
def heardSegments (r : ReadRequest) : List String := r.mediaSegments.foldl Url.hear []

/-- A request whose bucket and name are pushed as they are is heard as it is. -/
theorem heardSegments_eq {r : ReadRequest} (hbucket : Url.IsSegment r.object.bucket)
    (hname : Url.IsSegment r.object.name) : r.heardSegments = r.mediaSegments := by
  have hfixed : ∀ name ∈ ["storage", "v1", "b", "o"], Url.IsSegment name := by
    decide
  have hall : ∀ name ∈ r.mediaSegments, Url.IsSegment name := by
    simp only [mediaSegments, List.forall_mem_cons]
    simp only [List.forall_mem_cons] at hfixed
    exact ⟨hfixed.1, hfixed.2.1, hfixed.2.2.1, hbucket, hfixed.2.2.2.1, hname, by simp⟩
  rw [heardSegments, Url.heard_eq_self hall, List.nil_append]

/-- The path of a media URL goes on with a segment for each text that is heard. -/
theorem mediaUrl_eq {endpoint : Url} {segments : List (List Char)} (hpath : endpoint.path = .rooted segments)
    (r : ReadRequest) (pin : Option Int) :
    r.mediaUrl endpoint pin = .ok { endpoint with
      path := .rooted (Url.ownSegments segments ++ r.heardSegments.map (Url.segment endpoint.scheme))
      query := some (Form.appendPairs (endpoint.query.getD []) (r.mediaParameters pin)) } := by
  have hstorage : Url.IsSegment "storage" := by decide
  have hversion : Url.IsSegment "v1" := by decide
  -- the first text takes the place of an empty path, the others follow it
  have hfirst : Url.ownSegments segments ++ [Url.segment endpoint.scheme "storage"] ≠ [[]] := by
    have hfull : Url.segment endpoint.scheme "storage" ≠ [] := by
      unfold Url.segment Url.segmentSetOf
      split <;> decide
    simp [List.append_eq_singleton_iff, hfull]
  have hpushed : r.mediaSegments.foldl (fun segments name =>
        Url.pushSegment (Url.isSpecialScheme endpoint.scheme) segments name.toList) (Url.dropEmptyEnd segments)
      = Url.ownSegments segments ++ r.heardSegments.map (Url.segment endpoint.scheme) := by
    have hrest := Url.foldl_pushSegment endpoint.scheme (Url.ownSegments segments)
      (show 2 ≤ ["storage", "v1"].length by decide) ["b", r.object.bucket, "o", r.object.name]
    rw [mediaSegments, List.foldl_cons, Url.pushSegment_of_isSegment hstorage, ← Url.ownSegments,
      List.foldl_cons, Url.pushSegment_of_isSegment hversion, if_neg hfirst, List.append_assoc]
    refine hrest.trans ?_
    show _ = Url.ownSegments segments ++ (["b", r.object.bucket, "o", r.object.name].foldl Url.hear
      (Url.hear (Url.hear [] "storage") "v1")).map _
    rw [Url.hear_of_isSegment hstorage, Url.hear_of_isSegment hversion]
    rfl
  rw [mediaUrl, Url.pushSegments?, hpath]
  simp only [hpushed]
  rfl

theorem pathText_of_mediaUrl {endpoint url : Url} {segments : List (List Char)}
    (hpath : endpoint.path = .rooted segments) {r : ReadRequest} {pin : Option Int}
    (h : r.mediaUrl endpoint pin = .ok url) :
    url.pathText = Url.segmentsText (Url.ownSegments segments)
      ++ Url.segmentsText (r.heardSegments.map (Url.segment endpoint.scheme)) := by
  rw [mediaUrl_eq hpath, Except.ok.injEq] at h
  rw [← h]
  exact List.flatMap_append

/-- Requests have the same path at an endpoint if what is heard of them is the same. -/
theorem pathText_eq_iff {endpoint url url' : Url} {segments : List (List Char)}
    (hpath : endpoint.path = .rooted segments) {r r' : ReadRequest} {pin pin' : Option Int}
    (h : r.mediaUrl endpoint pin = .ok url) (h' : r'.mediaUrl endpoint pin' = .ok url') :
    url.pathText = url'.pathText ↔ r.heardSegments = r'.heardSegments := by
  rw [pathText_of_mediaUrl hpath h, pathText_of_mediaUrl hpath h', List.append_cancel_left_eq]
  constructor
  · intro htext
    have hdecoded := Url.decode_segmentsText endpoint.scheme r.heardSegments
    rw [htext, Url.decode_segmentsText] at hdecoded
    have hinjective : Function.Injective Utf8.encode := by
      intro s s' hs
      rw [← Option.some.injEq, ← Utf8.decode?_encode s, hs, Utf8.decode?_encode]
    exact (List.cons.inj (List.map_injective_iff.2 hinjective hdecoded)).2.symm
  · intro hheard
    rw [hheard]

/-- The path of a media URL is that of its endpoint, up to slashes at the end of it, and then one segment for
    each text that is heard of the request: requests with the same path at an endpoint are heard alike. Where
    bucket and name are segments, six texts are heard, with bucket and name among them, so the path tells
    them. -/
theorem mediaUrl_path {endpoint : Url} {segments : List (List Char)}
    (hpath : endpoint.path = .rooted segments) :
    ∃ own slashes, endpoint.pathText = own ++ slashes ∧ (∀ c ∈ slashes, c = '/') ∧
      ∀ (r : ReadRequest) (pin : Option Int), ∃ url tail,
        r.mediaUrl endpoint pin = .ok url ∧ url.pathText = own ++ tail ∧
          (tail.splitOn '/').map Percent.decode = ("" :: r.heardSegments).map Utf8.encode ∧
          (∀ r' pin' url', ReadRequest.mediaUrl r' endpoint pin' = .ok url' →
            (url.pathText = url'.pathText ↔ r.heardSegments = r'.heardSegments)) ∧
          (Url.IsSegment r.object.bucket → Url.IsSegment r.object.name →
            (tail.splitOn '/').map Percent.decode
                = ["", "storage", "v1", "b", r.object.bucket, "o", r.object.name].map Utf8.encode ∧
              ∀ r' pin' url', ReadRequest.mediaUrl r' endpoint pin' = .ok url' →
                Url.IsSegment r'.object.bucket → Url.IsSegment r'.object.name →
                  r.object.bucket ≠ r'.object.bucket ∨ r.object.name ≠ r'.object.name →
                    url.pathText ≠ url'.pathText) := by
  obtain ⟨slashes, hslashes, hown⟩ := Url.exists_slashes segments
  refine ⟨Url.segmentsText (Url.ownSegments segments), slashes, ?_, hslashes, ?_⟩
  · rw [Url.pathText, hpath]
    exact hown
  intro r pin
  have hurl := mediaUrl_eq hpath r pin
  have htail := Url.decode_segmentsText endpoint.scheme r.heardSegments
  refine ⟨_, _, hurl, pathText_of_mediaUrl hpath hurl, htail, ?_, ?_⟩
  · intro r' pin' url' hurl'
    exact pathText_eq_iff hpath hurl hurl'
  · intro hbucket hname
    rw [heardSegments_eq hbucket hname] at htail
    refine ⟨by rwa [heardSegments_eq hbucket hname], ?_⟩
    intro r' pin' url' hurl' hbucket' hname' hdiffer hsame
    rw [pathText_eq_iff hpath hurl hurl', heardSegments_eq hbucket hname,
      heardSegments_eq hbucket' hname'] at hsame
    simp only [mediaSegments, List.cons.injEq, true_and, and_true] at hsame
    exact hdiffer.elim (fun h => h hsame.1) fun h => h hsame.2

/-- An endpoint with a path of its own that ends in a slash, and with a query. -/
def storageEndpoint : Url :=
  ⟨"https".toList, [], some "storage.example.com".toList, none, .rooted ["api".toList, []], some "k=v".toList,
    none⟩

/-- A request for an object of a bucket. -/
def named (bucket name : String) : ReadRequest := ⟨⟨bucket, name, none⟩, {}, .all⟩

/-- Slashes, dots, percent signs and marks in names are kept apart. -/
theorem mediaUrl_path_awkward :
    (storageEndpoint.path = .rooted ["api".toList, []] ∧
      Url.IsSegment "a\\b" ∧ Url.IsSegment "../%2E?é#/" ∧ Url.IsSegment "..%2F%2E?é#/") ∧
    ∃ own slashes, storageEndpoint.pathText = own ++ slashes ∧ (∀ c ∈ slashes, c = '/') ∧
      ∀ (r : ReadRequest) (pin : Option Int), ∃ url tail,
        r.mediaUrl storageEndpoint pin = .ok url ∧ url.pathText = own ++ tail ∧
          (tail.splitOn '/').map Percent.decode = ("" :: r.heardSegments).map Utf8.encode ∧
          (∀ r' pin' url', ReadRequest.mediaUrl r' storageEndpoint pin' = .ok url' →
            (url.pathText = url'.pathText ↔ r.heardSegments = r'.heardSegments)) ∧
          (Url.IsSegment r.object.bucket → Url.IsSegment r.object.name →
            (tail.splitOn '/').map Percent.decode
                = ["", "storage", "v1", "b", r.object.bucket, "o", r.object.name].map Utf8.encode ∧
              ∀ r' pin' url', ReadRequest.mediaUrl r' storageEndpoint pin' = .ok url' →
                Url.IsSegment r'.object.bucket → Url.IsSegment r'.object.name →
                  r.object.bucket ≠ r'.object.bucket ∨ r.object.name ≠ r'.object.name →
                    url.pathText ≠ url'.pathText) := by
  exact ⟨⟨rfl, by decide⟩, mediaUrl_path rfl⟩

/-- The media URL of an object at an endpoint that is given as text. -/
def mediaUrlAt (endpoint : String) (r : ReadRequest) : Option String := do
  let endpoint ← (Url.parse endpoint).toOption
  let url ← (r.mediaUrl endpoint none).toOption
  return url.text

/-- Names that differ in a tab have the same media URL. -/
theorem mediaUrl_drops_tabs :
    (named "b" "a\tb").object.name ≠ (named "b" "ab").object.name ∧
      mediaUrlAt "https://storage.example.com" (named "b" "a\tb")
        = some "https://storage.example.com/storage/v1/b/b/o/ab?alt=media" ∧
      mediaUrlAt "https://storage.example.com" (named "b" "ab")
        = some "https://storage.example.com/storage/v1/b/b/o/ab?alt=media" := by
  decide +kernel

end ReadRequest

end SteadyFetch
