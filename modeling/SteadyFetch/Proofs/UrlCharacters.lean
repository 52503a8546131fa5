import SteadyFetch.Proofs.Hosts
import SteadyFetch.Proofs.MediaQueries

set_option autoImplicit false

/-! # The characters of a URL

Every part of a URL that is read from a text is graphic (`Url.hasGraphicParts_of_parse`): scheme and host by
what they may hold, user, segments, query and fragment as they are encoded with sets that contain the space.
A path that does not start with a slash is the exception, since the set for it is empty. What extends a URL
by segments and parameters leaves it graphic (`ReadRequest.hasGraphicParts_of_mediaUrl`), and then its text
is graphic as well. -/

namespace SteadyFetch.Url

/-! ## Paths -/

theorem graphic_of_closePath {segments : List (List Char)} (h : ∀ segment ∈ segments, Graphic segment)
    {last : List Char} (hlast : Graphic last) : ∀ segment ∈ closePath segments last, Graphic segment := by
  unfold closePath
  split_ifs
  all_goals rw [List.forall_mem_append, List.forall_mem_singleton]
  · exact ⟨fun segment hsegment => h segment (List.dropLast_subset _ hsegment), graphic_nil⟩
  · exact ⟨h, graphic_nil⟩
  · exact ⟨h, hlast⟩

theorem graphic_of_resolveDots {pieces : List (List Char)} (hpieces : ∀ piece ∈ pieces, Graphic piece)
    {done : List (List Char)} (hdone : ∀ segment ∈ done, Graphic segment) :
    ∀ segment ∈ resolveDots done pieces, Graphic segment := by
  fun_induction resolveDots done pieces with
  | case1 => exact hdone
  | case2 done last => exact graphic_of_closePath hdone (List.forall_mem_singleton.1 hpieces)
  | case3 done segment rest hrest hdouble ih =>
      rw [List.forall_mem_cons] at hpieces
      exact ih hpieces.2 fun segment hsegment => hdone segment (List.dropLast_subset _ hsegment)
  | case4 done segment rest hrest hdouble hsingle ih =>
      rw [List.forall_mem_cons] at hpieces
      exact ih hpieces.2 hdone
  | case5 done segment rest hrest hdouble hsingle ih =>
      rw [List.forall_mem_cons] at hpieces
      refine ih hpieces.2 ?_
      rw [List.forall_mem_append, List.forall_mem_singleton]
      exact ⟨hdone, hpieces.1⟩

theorem graphic_pieces (special : Bool) (cs : List Char) :
    ∀ piece ∈ (splitPath special cs).map (Percent.encode Percent.pathSet), Graphic piece := by
  rw [List.forall_mem_map]
  exact fun piece _ => Percent.graphic_encode (Or.inl (by decide))

theorem graphic_readSegments (special : Bool) (cs : List Char) :
    ∀ segment ∈ readSegments special cs, Graphic segment :=
  graphic_of_resolveDots (graphic_pieces special cs) (List.forall_mem_nil _)

theorem graphic_readPathAfterHost (special : Bool) (cs : List Char) :
    ∀ segment ∈ readPathAfterHost special cs, Graphic segment := by
  unfold readPathAfterHost
  split
  · split_ifs
    · simp
    · simp
  · split_ifs
    · exact graphic_readSegments special _
    · exact graphic_readSegments special _

theorem graphic_fileSegments (cs : List Char) : ∀ segment ∈ fileSegments cs, Graphic segment := by
  have hpieces := graphic_pieces true cs
  have hempty : ∀ segment ∈ ([[]] : List (List Char)), Graphic segment := by simp
  have hcolon : IsGraphic ':' := by decide
  have htrimmed : ∀ segments : List (List Char), (∀ segment ∈ segments, Graphic segment) →
      ∀ segment ∈ (if (segments.dropWhile List.isEmpty).isEmpty then [[]] else segments.dropWhile List.isEmpty),
        Graphic segment := by
    intro segments hsegments
    split_ifs
    · exact hempty
    · exact fun segment hsegment => hsegments segment (List.dropWhile_subset _ hsegment)
  unfold fileSegments
  dsimp only
  refine htrimmed _ ?_
  generalize (splitPath true cs).map (Percent.encode Percent.pathSet) = pieces at hpieces
  have hresolved := graphic_of_resolveDots hpieces (List.forall_mem_nil _)
  split
  · next first rest =>
    obtain ⟨hfirst, hrest⟩ := List.forall_mem_cons.1 hpieces
    -- a drive letter is taken from the first piece, and the rest of the piece stays a piece
    split
    · next c d more =>
      split_ifs
      · rw [graphic_cons, graphic_cons] at hfirst
        rw [List.forall_mem_cons]
        refine ⟨by simp [hfirst.1, hcolon], graphic_of_resolveDots ?_ (List.forall_mem_nil _)⟩
        exact List.forall_mem_cons.2 ⟨hfirst.2.2, hrest⟩
      · exact hresolved
    · next c more _ =>
      have hletter : Graphic [c, ':'] := by simp [(graphic_cons.1 hfirst).1, hcolon]
      split_ifs
      · exact List.forall_mem_singleton.2 hletter
      · exact List.forall_mem_cons.2 ⟨hletter, graphic_of_resolveDots hrest (List.forall_mem_nil _)⟩
      · exact hresolved
    · exact hresolved
  · exact hempty

/-! ## Queries and fragments -/

theorem graphic_of_readTail (special : Bool) (cs : List Char) :
    (∀ query ∈ (readTail special cs).1, Graphic query) ∧ ∀ fragment ∈ (readTail special cs).2, Graphic fragment := by
  have hquery : ∀ text, Graphic
      (Percent.encode (if special then Percent.specialQuerySet else Percent.querySet) text) := by
    intro text
    refine Percent.graphic_encode (Or.inl ?_)
    split <;> decide
  have hfragment : ∀ text, Graphic (Percent.encode Percent.fragmentSet text) := fun text =>
    Percent.graphic_encode (Or.inl (by decide))
  unfold readTail
  dsimp only
  split
  · refine ⟨fun query h => Option.some.inj h ▸ hquery _, fun fragment h => ?_⟩
    dsimp only at h
    split at h
    · exact Option.some.inj h ▸ hfragment _
    · cases h
  · refine ⟨nofun, fun fragment h => ?_⟩
    dsimp only at h
    split at h
    · exact Option.some.inj h ▸ hfragment _
    · cases h

/-! ## Authorities -/

theorem graphic_userinfoText (cs : List Char) : Graphic (userinfoText cs) := by
  have hencode : ∀ part, Graphic (Percent.encode Percent.userinfoSet part) := fun part =>
    Percent.graphic_encode (Or.inl (by decide))
  have hat : IsGraphic '@' := by decide
  have hcolon : IsGraphic ':' := by decide
  unfold userinfoText
  dsimp only
  split_ifs
  · exact graphic_nil
  · simp only [graphic_append, graphic_cons, hencode, hat, graphic_nil, and_self]
  · simp only [graphic_append, graphic_cons, hencode, hat, hcolon, graphic_nil, and_self]

theorem graphic_of_readAuthority {scheme cs rest : List Char} {a : Authority}
    (h : readAuthority scheme cs = .ok (a, rest)) : Graphic a.userinfo ∧ Graphic a.host := by
  unfold readAuthority at h
  dsimp -zeta only at h
  -- what follows each check is named, as the checks themselves do not matter
  extract_lets special userinfo afterHost readHost afterUser at h
  have hafterUser : afterUser () = .ok (a, rest) := by
    split_ifs at h
    · split at h
      · exact (ok_of_check h).2
      · exact h
    · exact h
  obtain ⟨-, hreadHost⟩ := ok_of_check hafterUser
  obtain ⟨host, hhost, hafterHost⟩ : ∃ host, Graphic host ∧ afterHost host = .ok (a, rest) := by
    unfold readHost at hreadHost
    split_ifs at hreadHost
    · obtain ⟨host, hhost, hafter⟩ := ok_of_bind hreadHost
      exact ⟨host, graphic_of_specialHost hhost, hafter⟩
    · obtain ⟨host, hhost, hafter⟩ := ok_of_bind hreadHost
      exact ⟨host, graphic_of_plainHost hhost, hafter⟩
  obtain ⟨-, hport⟩ := ok_of_check hafterHost
  dsimp -zeta only at hport
  extract_lets afterPort at hport
  obtain ⟨port, hport⟩ : ∃ port, (⟨userinfo, host, port⟩ : Authority) = a := by
    split at hport
    · obtain ⟨found, -, hfound⟩ := ok_of_bind hport
      exact ⟨_, congrArg Prod.fst (Except.ok.inj (ok_of_check hfound).2)⟩
    · obtain ⟨found, -, hfound⟩ := ok_of_bind hport
      exact ⟨_, congrArg Prod.fst (Except.ok.inj (ok_of_check hfound).2)⟩
  rw [← hport]
  exact ⟨graphic_userinfoText _, hhost⟩

/-! ## Whole URLs -/

/-- Whether every part of a URL is graphic, and each segment of a path that starts with a slash. -/
structure HasGraphicParts (u : Url) : Prop where
  scheme : Graphic u.scheme
  userinfo : Graphic u.userinfo
  host : ∀ host ∈ u.host, Graphic host
  path : ∀ segments, u.path = .rooted segments → ∀ segment ∈ segments, Graphic segment
  query : ∀ query ∈ u.query, Graphic query
  fragment : ∀ fragment ∈ u.fragment, Graphic fragment

theorem graphic_of_readScheme? {cs scheme rest : List Char} (h : readScheme? cs = some (scheme, rest)) :
    Graphic scheme := by
  unfold readScheme? at h
  dsimp only at h
  split at h
  · next c more rest' hscheme hrest =>
    split_ifs at h with hletter
    obtain ⟨rfl, -⟩ := Prod.mk.inj (Option.some.inj h)
    rw [Graphic, List.forall_mem_map]
    intro d hd
    have hpart := List.mem_takeWhile_imp hd
    simp only [Bool.or_eq_true, beq_iff_eq] at hpart
    refine isGraphic_toLower ?_
    rcases hpart with ((halphanum | rfl) | rfl) | rfl
    · exact isGraphic_of_isAlphanum halphanum
    all_goals decide
  · cases h

theorem hasGraphicParts_of_readHierarchical {scheme cs : List Char} (hscheme : Graphic scheme) {u : Url}
    (h : readHierarchical scheme cs = .ok u) : u.HasGraphicParts := by
  obtain ⟨⟨a, rest⟩, hauthority, h⟩ := ok_of_bind h
  obtain rfl := Except.ok.inj h
  obtain ⟨huserinfo, hhost⟩ := graphic_of_readAuthority hauthority
  obtain ⟨hquery, hfragment⟩ := graphic_of_readTail (isSpecialScheme scheme) (spanPath rest).2
  refine ⟨hscheme, huserinfo, ?_, ?_, hquery, hfragment⟩
  · exact fun host h => Option.some.inj h ▸ hhost
  · exact fun segments h => UrlPath.rooted.inj h ▸ graphic_readPathAfterHost _ _

theorem graphic_of_fileHost {cs host rest : List Char} (h : fileHost cs = .ok (host, rest)) : Graphic host := by
  unfold fileHost at h
  extract_lets isEnd text afterText at h
  split_ifs at h
  · obtain ⟨rfl, -⟩ := Prod.mk.inj (Except.ok.inj h)
    exact graphic_nil
  · obtain ⟨rfl, -⟩ := Prod.mk.inj (Except.ok.inj h)
    exact graphic_nil
  · obtain ⟨found, hfound, h⟩ := ok_of_bind h
    obtain ⟨rfl, -⟩ := Prod.mk.inj (Except.ok.inj h)
    split_ifs
    · exact graphic_nil
    · exact graphic_of_specialHost hfound

theorem hasGraphicParts_of_readFile {cs : List Char} {u : Url} (h : readFile cs = .ok u) :
    u.HasGraphicParts := by
  unfold readFile at h
  dsimp -zeta only at h
  extract_lets isSlash afterHost at h
  obtain ⟨host, rest, hhost, hafterHost⟩ : ∃ host rest, Graphic host ∧ afterHost (host, rest) = .ok u := by
    split at h
    · split_ifs at h
      · obtain ⟨⟨host, rest⟩, hhost, hafterHost⟩ := ok_of_bind h
        exact ⟨host, rest, graphic_of_fileHost hhost, hafterHost⟩
      · exact ⟨[], _, graphic_nil, h⟩
    · exact ⟨[], _, graphic_nil, h⟩
  obtain rfl := Except.ok.inj hafterHost
  obtain ⟨hquery, hfragment⟩ := graphic_of_readTail true (spanPath rest).2
  have hscheme : Graphic "file".toList := by decide
  refine ⟨hscheme, graphic_nil, ?_, ?_, hquery, hfragment⟩
  · exact fun host h => Option.some.inj h ▸ hhost
  · exact fun segments h => UrlPath.rooted.inj h ▸ graphic_fileSegments _

theorem hasGraphicParts_readPlain {scheme : List Char} (hscheme : Graphic scheme) (cs : List Char) :
    (readPlain scheme cs).HasGraphicParts := by
  obtain ⟨hquery, hfragment⟩ := graphic_of_readTail false (spanPath cs).2
  refine ⟨hscheme, graphic_nil, nofun, ?_, hquery, hfragment⟩
  intro segments hpath
  unfold readPlain at hpath
  dsimp only at hpath
  split at hpath
  · exact UrlPath.rooted.inj hpath ▸ graphic_readSegments false _
  · cases hpath

/-- **A URL that is read from a text has graphic parts.** -/
theorem hasGraphicParts_of_parse {s : String} {u : Url} (h : parse s = .ok u) : u.HasGraphicParts := by
  unfold parse at h
  split at h
  · cases h
  · next scheme rest hread =>
    have hscheme := graphic_of_readScheme? hread
    split_ifs at h
    · exact hasGraphicParts_of_readFile h
    · exact hasGraphicParts_of_readHierarchical hscheme h
    · split at h
      · exact hasGraphicParts_of_readHierarchical hscheme h
      · obtain rfl := Except.ok.inj h
        exact hasGraphicParts_readPlain hscheme _

/-! ## The text of a URL -/

variable {u : Url}

theorem HasGraphicParts.authorityText (h : u.HasGraphicParts) : Graphic u.authorityText := by
  have hslash : IsGraphic '/' := by decide
  have hcolon : IsGraphic ':' := by decide
  unfold Url.authorityText
  split
  · next host hhost =>
    simp only [graphic_cons, graphic_append, hslash, h.userinfo, h.host host hhost, true_and]
    split
    · exact graphic_cons.2 ⟨hcolon, graphic_repr _⟩
    · exact graphic_nil
  · split <;> decide

theorem graphic_segmentsText {segments : List (List Char)} (h : ∀ segment ∈ segments, Graphic segment) :
    Graphic (segmentsText segments) := by
  intro c hc
  rcases mem_segmentsText hc with rfl | ⟨segment, hsegment, hc⟩
  · decide
  · exact h segment hsegment c hc

theorem graphic_marked {mark : Char} (hmark : IsGraphic mark) {text : Option (List Char)}
    (h : ∀ cs ∈ text, Graphic cs) : Graphic (marked mark text) := by
  cases text with
  | none => exact graphic_nil
  | some cs => exact graphic_cons.2 ⟨hmark, h cs rfl⟩

theorem HasGraphicParts.pathText (h : u.HasGraphicParts) {segments : List (List Char)}
    (hpath : u.path = .rooted segments) : Graphic u.pathText := by
  rw [Url.pathText, hpath]
  exact graphic_segmentsText (h.path segments hpath)

/-- The text of a URL is graphic if its parts are, and its path starts with a slash. -/
theorem HasGraphicParts.chars (h : u.HasGraphicParts) {segments : List (List Char)}
    (hpath : u.path = .rooted segments) : Graphic u.chars := by
  have hquery : Graphic (marked '?' u.query) := graphic_marked (by decide) h.query
  have hfragment : Graphic (marked '#' u.fragment) := graphic_marked (by decide) h.fragment
  have hcolon : IsGraphic ':' := by decide
  unfold Url.chars
  simp only [graphic_cons, graphic_append, h.scheme, hcolon, h.authorityText, h.pathText hpath, hquery, hfragment,
    and_self]

end SteadyFetch.Url
