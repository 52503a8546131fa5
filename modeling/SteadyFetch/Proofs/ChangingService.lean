import SteadyFetch.Proofs.Delivery
import SteadyFetch.Proofs.Opening
import SteadyFetch.Proofs.Sites

set_option autoImplicit false

/-! # Reading an object that is replaced

A service holds one version of an object at a time and may hold another one by the next request. Each
stream that is opened is of one version all the same, and the service tells which (`httpOpener_serves`):
a request that names a generation is refused while another one is live. -/

namespace SteadyFetch

/-- A network on which a service holds one version at a time: every transfer reports the answer that is
    due for the version that is live then, or breaks off. -/
def Network.Answers {S : Type} (network : Network (StateM S)) (content : Int → Bytes) : Prop :=
  ∀ request s, After (network.fetch request) s fun t _ => ∃ live : Int,
    (-(Word.limit63 : Int) ≤ live ∧ live < Word.limit63) ∧
      ∃ a : Answer, a.Fits live (content live) request ∧ t.Reports a

namespace ObjectRef

/-- Whether the object may turn out to be of a generation: the one it names, or any. -/
def MayBe (object : ObjectRef) (g : Int) : Prop :=
  (∀ named ∈ object.generation, named = g) ∧ -(Word.limit63 : Int) ≤ g ∧ g < Word.limit63

theorem MayBe.eq_of_named {object : ObjectRef} {g named : Int} (h : object.MayBe g)
    (hnamed : object.generation = some named) : named = g :=
  h.1 named hnamed

end ObjectRef

/-- The versions of an object, read while the files of a site stay as they are. -/
def Supply.ofVersions {S : Type} (content : Int → Bytes) (object : ObjectRef) (t : FileTree) :
    Supply (Site S) BodyStream where
  content := content
  Known := object.MayBe
  Ends g offset := object.MayBe g ∧ (content g).length ≤ offset
  Inv w := w.tree = t
  At _ stream g offset := object.MayBe g ∧ BodyStream.HoldsFrom (content g) (fun _ => True) stream offset

namespace Site

variable {S : Type} {w : Site S}

theorem after_onRest {α : Type} {x : StateM S α} {Q : α → S → Prop} (h : After x w.rest Q) :
    After (onRest x) w fun a w' => w'.tree = w.tree ∧ Q a w'.rest :=
  ⟨rfl, h⟩

end Site

theorem ReadRequest.mayBe_of_asked {endpoint : Url} {r : ReadRequest} {pin : Option Int}
    {asked : HttpRequest} {live : Int} (hrequest : mediaRequest endpoint r pin = .ok asked)
    (hasked : ∀ text ∈ asked.generations, text = live.repr) :
    ∀ named ∈ (r.object.generation <|> pin), named = live := by
  intro named hnamed
  have hmem : named.repr ∈ asked.generations := by
    rw [ReadRequest.generations_mediaRequest hrequest]
    exact List.mem_append_right _ (List.mem_map_of_mem (Option.mem_toList.2 hnamed))
  -- the text of a whole number is read back, so it tells the number
  have hends : Json.EndsNumber [] := by simp [Json.EndsNumber]
  have hread (g : Int) : Json.readNumber? g.repr.toList = some (.number (some g), []) := by
    simpa using Json.readNumber?_repr g hends
  have hnamed := hread named
  rw [hasked named.repr hmem, hread live] at hnamed
  simpa [eq_comm] using hnamed

/-- A generation that is pinned is asked for, unless the object names one, which is the same then; so an
    answer without a generation is one for the pinned one, or there is nothing left of what is live. -/
theorem tells_of_opened {content : Int → Bytes} {object : ObjectRef} {pin reported : Option Int}
    {live : Int} {start : Nat} (hpin : ∀ g ∈ pin, object.MayBe g)
    (hnames : ∀ named ∈ (object.generation <|> pin), named = live)
    (hreported : reported = some live ∨ reported = none ∧ (content live).length ≤ start) :
    Tells content pin start reported live := by
  rcases hreported with htold | ⟨hnone, hlength⟩
  · exact Or.inl htold
  · refine Or.inr ⟨hnone, ?_⟩
    cases pin with
    | none => exact Or.inr ⟨rfl, hlength⟩
    | some pinned =>
        refine Or.inl (congrArg some ?_)
        cases hobject : object.generation with
        | none => exact hnames pinned (by rw [hobject]; rfl)
        | some named =>
            have hsame := (hpin pinned rfl).eq_of_named hobject
            exact hsame.symm.trans (hnames named (by rw [hobject]; rfl))

/-- **Every stream is of one version, and it is told of which.** Whatever version is live at an open:
    if the open succeeds, the stream holds the octets of a version the object may be of, from where the
    request starts on. -/
theorem httpOpener_serves {S : Type} {network : Network (StateM S)} {content : Int → Bytes}
    (hnetwork : network.Answers content) (hsize : ∀ g, (content g).length < Word.limit64)
    (endpoint : Url) (policy : RetryPolicy) (pause : Span → StateM S Unit) (t : FileTree)
    {request : ReadRequest} (hstop : request.range.stop? = none) :
    Serves (.ofVersions content request.object t) request
      (httpOpener (Site.network network) endpoint)
      (policy.adviser fun delay => Site.onRest (pause delay)) where
  openAt := by
    intro start pin w hw hpin
    obtain ⟨hsame, -, hends⟩ := request.startingAt_eq start
    unfold httpOpener
    cases hasked : mediaRequest endpoint (request.startingAt start) pin with
    | error fault =>
        simp only [hasked]
        exact ⟨hw, by rintro _ ⟨⟩⟩
    | ok asked =>
        simp only [hasked, Site.fetch_network]
        refine After.bind (Site.after_onRest (hnetwork asked w.rest)) ?_
        rintro transfer w₁ ⟨htree, live, hrange, a, hfits, hreports⟩
        have hspan := ReadRequest.span?_mediaRequest hasked
        -- without an end there is always something to ask for
        have hne : (request.startingAt start).range.isEmpty = false := by
          rw [ByteRange.isEmpty, hends, hstop]
        have hopened := openFrames_of_fits hfits hreports hspan hne (hsize live) hrange.1 hrange.2
        rw [After.pure_iff]
        refine ⟨htree.trans hw, ?_⟩
        intro opened hresult
        rw [hresult] at hopened
        obtain ⟨hasks, ⟨rest, failure, hgives, hinit, hwhole, -⟩, hgeneration⟩ := hopened
        have hwithin : (request.startingAt start).range.within (content live)
            = (content live).drop (request.startingAt start).range.start := by
          rw [ByteRange.within, hends, hstop]
        rw [hwithin] at hinit hwhole
        have hnames := ReadRequest.mayBe_of_asked hasked hasks
        rw [hsame] at hnames
        have hmay : request.object.MayBe live :=
          ⟨fun named hnamed => hnames named (by rw [Option.mem_def.1 hnamed]; rfl), hrange⟩
        refine ⟨live, hmay, tells_of_opened hpin hnames ?_, hmay, rest, failure, hgives, hinit, hwhole,
          fun _ _ => trivial⟩
        exact hgeneration.imp_right fun hsilent => ⟨hsilent.1, hsilent.2.2.1⟩
  read := by
    rintro w stream g offset sizes hw ⟨hg, hholds⟩
    unfold httpOpener
    rw [After.pure_iff]
    cases hread : stream.readInto sizes with
    | mk result stream' =>
        have hgave := hholds.readInto hread
        cases result with
        | error fault =>
            obtain ⟨code, -, rfl⟩ := hgave
            refine ⟨hw, by rintro _ ⟨⟩, by rintro ⟨⟩, ?_⟩
            rintro _ ⟨⟩ hkind
            exact absurd hkind code.ioKind_ne_interrupted
        | ok bs =>
            obtain ⟨hbs, hleft, hend⟩ := hgave
            refine ⟨hw, ?_, ?_, by rintro _ ⟨⟩⟩
            · rintro _ ⟨⟩
              exact ⟨hbs, hg, hleft⟩
            · rintro ⟨⟩ hroom
              exact ⟨hg, List.drop_eq_nil_iff.1 (hend rfl hroom)⟩
  advise _ _ _ hw := hw
  pause _ _ hw := hw

end SteadyFetch
