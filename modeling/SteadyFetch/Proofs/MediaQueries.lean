import SteadyFetch.Proofs.MediaPaths

set_option autoImplicit false

/-! # The query of a media URL

What is appended to a query consists of letters, digits and marks that end neither a value nor the query. So
a reader of the form finds the pairs of the endpoint and after them those of the request, each with exactly
the value that was given (`ReadRequest.mediaUrl_query`), and finds the query where it is in the text of the
URL, before the fragment (`Url.query?_chars`). -/

namespace SteadyFetch

namespace Form

/-- The characters that an encoded form consists of. -/
def IsFormChar (c : Char) : Prop := c.isAlphanum ∨ c ∈ ['*', '-', '.', '_', '+', '%', '=', '&']

instance (c : Char) : Decidable (IsFormChar c) := inferInstanceAs (Decidable (_ ∨ _))

theorem isFormChar_encode (s : String) : ∀ c ∈ encode s, IsFormChar c := by
  have hone : ∀ b, (encodeByte b).all (fun c => decide (IsFormChar c)) = true :=
    forall_octet (by decide +kernel)
  intro c hc
  obtain ⟨b, -, hb⟩ := List.mem_flatMap.1 hc
  exact of_decide_eq_true (List.all_eq_true.1 (hone b) c hb)

theorem isFormChar_encodePair (pair : String × String) : ∀ c ∈ encodePair pair, IsFormChar c := by
  intro c hc
  rcases List.mem_append.1 hc with hname | hvalue
  · exact isFormChar_encode _ c hname
  · rcases List.mem_cons.1 hvalue with rfl | hvalue
    · decide
    · exact isFormChar_encode _ c hvalue

theorem exists_appendPairs (query : List Char) (new : List (String × String)) :
    ∃ added, appendPairs query new = query ++ added ∧ ∀ c ∈ added, IsFormChar c := by
  induction new generalizing query with
  | nil => exact ⟨[], (List.append_nil query).symm, by simp⟩
  | cons pair new ih =>
      have hone : ∃ added, appendPair query pair = query ++ added ∧ ∀ c ∈ added, IsFormChar c := by
        unfold appendPair
        split_ifs with hempty
        · rw [List.isEmpty_iff.1 hempty]
          exact ⟨_, rfl, isFormChar_encodePair pair⟩
        · refine ⟨_, rfl, ?_⟩
          rw [List.forall_mem_cons]
          exact ⟨by decide, isFormChar_encodePair pair⟩
      obtain ⟨first, hfirst, hchars⟩ := hone
      obtain ⟨others, hothers, hchars'⟩ := ih (query ++ first)
      refine ⟨first ++ others, ?_, ?_⟩
      · rw [appendPairs, List.foldl_cons, hfirst, ← List.append_assoc, ← hothers]
        rfl
      · intro c hc
        exact (List.mem_append.1 hc).elim (hchars c) (hchars' c)

end Form

namespace Url

/-! ## The query in a text -/

/-- The query of a URL in text: what stands after its first question mark, up to the fragment. -/
def query? (text : List Char) : Option (List Char) :=
  match (text.takeWhile (· != '#')).dropWhile (· != '?') with
  | [] => none
  | _ :: query => some query

/-- Whether no part of a URL but the marks themselves marks where query or fragment begin. -/
structure Separable (u : Url) : Prop where
  before : ∀ c ∈ ['?', '#'], c ∉ u.scheme ++ ':' :: u.authorityText ++ u.pathText
  query : '#' ∉ u.query.getD []

theorem query?_chars {u : Url} (h : u.Separable) : query? u.chars = u.query := by
  have hbefore : ∀ c ∈ ['?', '#'], ∀ d ∈ u.scheme ++ ':' :: u.authorityText ++ u.pathText, (d != c) = true := by
    intro c hc d hd
    rw [bne_iff_ne]
    rintro rfl
    exact h.before d hc hd
  have hquery : ∀ d ∈ marked '?' u.query, (d != '#') = true := by
    intro d hd
    rw [bne_iff_ne]
    rintro rfl
    have hnone := h.query
    cases hquery : u.query with
    | none => simp [hquery, marked] at hd
    | some query =>
        rw [hquery, marked, List.mem_cons] at hd
        rw [hquery] at hnone
        exact hd.elim (by decide) hnone
  have hnumber : (u.chars).takeWhile (· != '#')
      = (u.scheme ++ ':' :: u.authorityText ++ u.pathText) ++ marked '?' u.query := by
    rw [chars, List.takeWhile_append_of_pos fun d hd =>
      (List.mem_append.1 hd).elim (hbefore '#' (by simp) d) (hquery d)]
    cases u.fragment with
    | none => simp [marked]
    | some fragment => simp [marked]
  rw [query?, hnumber, List.dropWhile_append_of_pos (hbefore '?' (by simp))]
  cases u.query with
  | none => rfl
  | some query => rfl

theorem mem_authorityText {u u' : Url} (huserinfo : u'.userinfo = u.userinfo) (hhost : u'.host = u.host)
    (hport : u'.port = u.port) {c : Char} (h : c ∈ u'.authorityText) :
    c ∈ u.authorityText ∨ c = '/' ∨ c = '.' := by
  cases hsome : u.host with
  | some host =>
      left
      rw [authorityText, hhost, hsome, huserinfo, hport] at h
      rwa [authorityText, hsome]
  | none =>
      right
      rw [authorityText, hhost, hsome] at h
      dsimp only at h
      split at h
      · simpa using h
      · cases h

theorem mem_segmentsText {segments : List (List Char)} {c : Char} (h : c ∈ segmentsText segments) :
    c = '/' ∨ ∃ segment ∈ segments, c ∈ segment := by
  obtain ⟨segment, hsegment, hc⟩ := List.mem_flatMap.1 h
  rcases List.mem_cons.1 hc with rfl | hc
  · exact Or.inl rfl
  · exact Or.inr ⟨segment, hsegment, hc⟩

end Url

namespace ReadRequest

/-! ## Media URLs -/

/-- A media URL at an endpoint that a reader can take apart can be taken apart as well. -/
theorem separable_mediaUrl {endpoint url : Url} {segments : List (List Char)}
    (hpath : endpoint.path = .rooted segments) (hendpoint : endpoint.Separable) {r : ReadRequest}
    {pin : Option Int} (h : r.mediaUrl endpoint pin = .ok url) : url.Separable := by
  have htext := pathText_of_mediaUrl hpath h
  rw [mediaUrl_eq hpath, Except.ok.injEq] at h
  obtain ⟨slashes, -, hown⟩ := Url.exists_slashes segments
  constructor
  · intro c hc
    have hbefore := hendpoint.before c hc
    rw [Url.pathText, hpath] at hbefore
    simp only [hown, List.mem_append, List.mem_cons, not_or] at hbefore
    obtain ⟨⟨hscheme, hcolon, hauthority⟩, howned, -⟩ := hbefore
    have hplain : c ≠ '/' ∧ c ≠ '.' := by
      simp only [List.mem_cons, List.not_mem_nil, or_false] at hc
      rcases hc with rfl | rfl <;> decide
    rw [htext]
    simp only [List.mem_append, List.mem_cons, not_or]
    refine ⟨⟨?_, hcolon, ?_⟩, howned, ?_⟩
    · rwa [← h]
    · intro hmem
      rcases Url.mem_authorityText (u := endpoint) (by rw [← h]) (by rw [← h]) (by rw [← h]) hmem with
        hold | hslash | hdot
      · exact hauthority hold
      · exact hplain.1 hslash
      · exact hplain.2 hdot
    · intro hmem
      rcases Url.mem_segmentsText hmem with hslash | ⟨text, htexts, hmem⟩
      · exact hplain.1 hslash
      · obtain ⟨name, -, rfl⟩ := List.mem_map.1 htexts
        exact Url.not_mem_segment endpoint.scheme name (List.mem_cons_of_mem _ hc) hmem
  · obtain ⟨added, hadded, hchars⟩ := Form.exists_appendPairs (endpoint.query.getD []) (r.mediaParameters pin)
    rw [← h]
    simp only [hadded, Option.getD_some, List.mem_append, not_or]
    exact ⟨hendpoint.query, fun hnew => absurd (hchars _ hnew) (by decide)⟩

/-- The parameters of a media URL that are only sent where they have a value, in their order. A generation
    that the object names wins over a pinned one. -/
def optionalParameters (r : ReadRequest) (pin : Option Int) : List (String × Option String) :=
  [("generation", (r.object.generation <|> pin).map Int.repr),
    ("ifGenerationMatch", r.options.ifGenerationMatch.map Int.repr),
    ("ifGenerationNotMatch", r.options.ifGenerationNotMatch.map Int.repr),
    ("ifMetagenerationMatch", r.options.ifMetagenerationMatch.map Int.repr),
    ("ifMetagenerationNotMatch", r.options.ifMetagenerationNotMatch.map Int.repr),
    ("userProject", r.options.userProject)]

/-- The parameters that are sent are those that have a value, after the one that asks for the media. -/
theorem mediaParameters_eq (r : ReadRequest) (pin : Option Int) :
    r.mediaParameters pin = ("alt", "media") :: (r.optionalParameters pin).filterMap fun entry =>
      entry.2.map fun value => (entry.1, value) := by
  have hnumber : ∀ (name : String) (value : Option Int) (more : List (String × Option String)),
      ((name, value.map Int.repr) :: more).filterMap (fun entry => entry.2.map fun value => (entry.1, value))
        = parameter name value
          ++ more.filterMap fun entry => entry.2.map fun value => (entry.1, value) := by
    intro name value more
    cases value with
    | none => rfl
    | some n => rfl
  simp only [optionalParameters, hnumber, mediaParameters, List.cons_append, List.append_assoc]
  cases r.options.userProject with
  | none => rfl
  | some project => rfl

/-- The query of a media URL is that of its endpoint, if it has one, with more behind it. Its pairs are those
    of the endpoint, then the one that asks for the media, then the parameters of the request that have a value,
    each with exactly that value. So a generation that the object names, or else a pinned one, is always asked
    for and read back. What is added ends neither the query nor a value, and a reader finds the query where it
    is, before the endpoint's fragment. -/
theorem mediaUrl_query {endpoint : Url} {segments : List (List Char)}
    (hpath : endpoint.path = .rooted segments) (r : ReadRequest) (pin : Option Int) :
    ∃ url added, r.mediaUrl endpoint pin = .ok url ∧
      url.query = some (endpoint.query.getD [] ++ added) ∧ url.fragment = endpoint.fragment ∧
        Form.pairs (endpoint.query.getD [] ++ added) = Form.pairs (endpoint.query.getD [])
          ++ ("alt", "media") :: (r.optionalParameters pin).filterMap (fun entry =>
            entry.2.map fun value => (entry.1, value)) ∧
        (∀ g ∈ (r.object.generation <|> pin), -(Word.limit63 : Int) ≤ g → g < Word.limit63 →
          ∃ text, ("generation", text) ∈ Form.pairs (endpoint.query.getD [] ++ added) ∧
            Numeral.i64? text.toList = some g) ∧
        (∀ c ∈ added, Form.IsFormChar c) ∧
        (endpoint.Separable → Url.query? url.chars = url.query) := by
  obtain ⟨added, hadded, hchars⟩ := Form.exists_appendPairs (endpoint.query.getD []) (r.mediaParameters pin)
  have hurl := mediaUrl_eq hpath r pin
  have hpairs := Form.pairs_appendPairs (endpoint.query.getD []) (r.mediaParameters pin)
  rw [hadded, mediaParameters_eq] at hpairs
  refine ⟨_, added, hurl, congrArg some hadded, rfl, hpairs, ?_, hchars, ?_⟩
  · intro g hg hlow hhigh
    refine ⟨g.repr, ?_, Numeral.i64?_repr hlow hhigh⟩
    rw [hpairs, List.mem_append, List.mem_cons, List.mem_filterMap]
    exact Or.inr (Or.inr ⟨_, List.mem_cons_self, by rw [Option.mem_def.1 hg]; rfl⟩)
  · exact fun hendpoint => Url.query?_chars (separable_mediaUrl hpath hendpoint hurl)

/-- An endpoint with a query and a fragment of its own. -/
def queriedEndpoint : Url :=
  ⟨"http".toList, [], some "h".toList, some 9000, .rooted ["api".toList, []], some "k=v&&alt".toList,
    some "end?#".toList⟩

/-- A request with preconditions and a project whose name would be parameters of its own. -/
def billed : ReadRequest :=
  ⟨⟨"b", "o", none⟩,
    { ifGenerationNotMatch := some (-0x8000000000000000), ifMetagenerationMatch := some 0,
      userProject := some "p&alt=json#+%26 \r\né" }, .all⟩

/-- A pinned generation is asked for, and the project stays one value. -/
theorem mediaUrl_query_billed :
    (queriedEndpoint.path = .rooted ["api".toList, []] ∧ queriedEndpoint.Separable ∧
      (billed.mediaUrl queriedEndpoint (some 42)).toOption.map (fun url => Form.pairs (url.query.getD []))
        = some [("k", "v"), ("alt", ""), ("alt", "media"), ("generation", "42"),
          ("ifGenerationNotMatch", "-9223372036854775808"), ("ifMetagenerationMatch", "0"),
          ("userProject", "p&alt=json#+%26 \r\né")]) ∧
    ∃ url added, billed.mediaUrl queriedEndpoint (some 42) = .ok url ∧
      url.query = some (queriedEndpoint.query.getD [] ++ added) ∧ url.fragment = queriedEndpoint.fragment ∧
        Form.pairs (queriedEndpoint.query.getD [] ++ added) = Form.pairs (queriedEndpoint.query.getD [])
          ++ ("alt", "media") :: (billed.optionalParameters (some 42)).filterMap (fun entry =>
            entry.2.map fun value => (entry.1, value)) ∧
        (∀ g ∈ (billed.object.generation <|> some 42), -(Word.limit63 : Int) ≤ g → g < Word.limit63 →
          ∃ text, ("generation", text) ∈ Form.pairs (queriedEndpoint.query.getD [] ++ added) ∧
            Numeral.i64? text.toList = some g) ∧
        (∀ c ∈ added, Form.IsFormChar c) ∧
        (queriedEndpoint.Separable → Url.query? url.chars = url.query) := by
  have hseparable : queriedEndpoint.Separable :=
    ⟨by rw [List.forall_mem_cons, List.forall_mem_singleton]; decide, by decide⟩
  exact ⟨⟨rfl, hseparable, by decide +kernel⟩, mediaUrl_query rfl billed (some 42)⟩

end ReadRequest

end SteadyFetch
