import SteadyFetch.Proofs.Draining
import SteadyFetch.Proofs.Opening

set_option autoImplicit false

/-! # Draining an object of a service

A service holds one version of an object and answers truthfully, but connections may be refused and
answers may break off anywhere. Reading such an object over HTTP is a steady opener
(`httpOpener_steady`): every request that is made on the way names a part that is there, so nothing but
a dropped connection can go wrong. What holds for steady openers then gives the main statement. -/

namespace SteadyFetch

variable {W : Type}

/-- The codes of refused and dropped connections. -/
def droppedCodes : List TransferCode :=
  [.couldNotConnect, .partialBody, .timedOut, .nothingReceived, .sendFailed, .receiveFailed]

/-- A network on which a service holds one version: every transfer reports the answer that is due, with
    the generation, or breaks off with the code of a dropped connection. -/
def Network.Holds (network : Network (StateM W)) (live : Int) (content : Bytes) : Prop :=
  ∀ request w, After (network.fetch request) w fun t _ =>
    (∃ a : Answer, a.Fits live content request ∧ a.values "x-goog-generation" ≠ [] ∧ t.Reports a) ∧
      ∀ code ∈ t.failure, code ∈ droppedCodes

theorem passing_transfer {code : TransferCode} (h : code ∈ droppedCodes) :
    Passing (.transfer code) ∧ Passing (.io (.transfer code)) ∧
      (IoFault.transfer code).kind ≠ .interrupted := by
  have hall : ∀ code ∈ droppedCodes, (Fault.transfer code).faultClass.isTransient = true ∧
      (Fault.io (.transfer code)).faultClass.isTransient = true := by
    decide
  obtain ⟨hopen, hread⟩ := hall code h
  exact ⟨⟨hopen, rfl⟩, ⟨hread, rfl⟩, code.ioKind_ne_interrupted⟩

theorem exists_mediaRequest {endpoint : Url} {segments : List (List Char)}
    (hpath : endpoint.path = .rooted segments) {r : ReadRequest} (hkey : r.options.encryptionKey = none)
    (pin : Option Int) : ∃ request, mediaRequest endpoint r pin = .ok request := by
  unfold mediaRequest ReadRequest.mediaUrl Url.pushSegments? ReadRequest.mediaHeaders
  simp only [hpath, hkey]
  exact ⟨_, rfl⟩

/-- A service does not refuse a request for its version whose range begins within the content. -/
theorem not_refuses {endpoint : Url} {r : ReadRequest} {pin : Option Int} {asked : HttpRequest}
    {live : Int} {content : Bytes} (hasked : mediaRequest endpoint r pin = .ok asked)
    (hendpoint : ∀ text ∈ endpoint.generations, text = live.repr)
    (hnamed : ∀ g ∈ (r.object.generation <|> pin), g = live)
    (hstart : match r.range.stop? with
      | none => r.range.start ≤ content.length
      | some _ => r.range.start < content.length) :
    ¬Refuses live content asked r.range := by
  rintro (⟨text, htext, hother⟩ | hpast)
  · rw [ReadRequest.generations_mediaRequest hasked] at htext
    rcases List.mem_append.1 htext with hown | hparameter
    · exact hother (hendpoint text hown)
    · obtain ⟨g, hg, rfl⟩ := List.mem_map.1 hparameter
      exact hother (congrArg Int.repr (hnamed g (Option.mem_toList.1 hg)))
  · cases hcases : r.range.stop? with
    | none =>
        rw [hcases] at hpast hstart
        exact Nat.not_lt.2 hstart hpast
    | some stop =>
        rw [hcases] at hpast hstart
        exact Nat.not_le.2 hstart hpast

/-- Reading an object of the service over HTTP. -/
theorem httpOpener_steady {network : Network (StateM W)} {endpoint : Url} {live : Int}
    {content : Bytes} {request : ReadRequest} (hnetwork : network.Holds live content)
    (hlow : -(Word.limit63 : Int) ≤ live) (hhigh : live < Word.limit63)
    (hsize : content.length < Word.limit64) {segments : List (List Char)}
    (hpath : endpoint.path = .rooted segments)
    (hendpoint : ∀ text ∈ endpoint.generations, text = live.repr)
    (hobject : request.object.generation = none ∨ request.object.generation = some live)
    (hkey : request.options.encryptionKey = none)
    (hstop : ∀ stop ∈ request.range.stop?, stop ≤ content.length) :
    Steady content live (BodyStream.HoldsFrom (request.range.before content) (· ∈ droppedCodes)) request
      (httpOpener network endpoint) where
  openAt := by
    intro offset pin w hoffset hroom hpin
    obtain ⟨hsame, hoptions, hends⟩ := request.startingAt_eq offset
    have hstart : (request.startingAt offset).range.start = offset :=
      ReadRequest.start_startingAt fun stop hmem => Nat.le_of_lt (hroom stop hmem)
    have hkey' : (request.startingAt offset).options.encryptionKey = none := by rw [hoptions, hkey]
    obtain ⟨asked, hasked⟩ := exists_mediaRequest hpath hkey' pin
    have hspan := ReadRequest.span?_mediaRequest hasked
    have hne : (request.startingAt offset).range.isEmpty = false := by
      unfold ByteRange.isEmpty
      rw [hends, hstart]
      cases hcases : request.range.stop? with
      | none => rfl
      | some stop => exact decide_eq_false (Nat.not_le.2 (hroom stop hcases))
    have hwithin : (request.startingAt offset).range.within content
        = (request.range.before content).drop offset := by
      unfold ByteRange.within ByteRange.before
      rw [hends, hstart]
      cases request.range.stop? <;> rfl
    -- every part that is asked for is there
    have hgiven : ¬Refuses live content asked (request.startingAt offset).range := by
      refine not_refuses hasked hendpoint ?_ ?_
      · intro g hg
        rw [hsame] at hg
        rcases hobject with hobject | hobject
        · rcases hpin with rfl | rfl
          · simp [hobject] at hg
          · simpa [hobject, eq_comm] using hg
        · simpa [hobject, eq_comm] using hg
      · rw [hends, hstart]
        unfold ByteRange.before at hoffset
        cases hcases : request.range.stop? with
        | none => simpa [hcases] using hoffset
        | some stop => exact Nat.lt_of_lt_of_le (hroom stop hcases) (hstop stop hcases)
    unfold httpOpener
    simp only [hasked]
    refine After.bind (hnetwork asked w) ?_
    rintro t w₁ ⟨⟨a, hfits, htold, hreports⟩, hcodes⟩
    have hopened := openFrames_of_fits hfits hreports hspan hne hsize hlow hhigh
    rw [After.pure_iff]
    cases hresult : openFrames (request.startingAt offset).range t.frames with
    | error fault =>
        rw [hresult] at hopened
        rcases hopened with ⟨code, hcode, rfl⟩ | hrefuses
        · exact (passing_transfer (hcodes code hcode)).1
        · exact absurd hrefuses hgiven
    | ok opened =>
        rw [hresult] at hopened
        obtain ⟨-, ⟨rest, failure, hgives, hinit, hwhole, hfailure⟩, hgeneration⟩ := hopened
        rw [hwithin] at hinit hwhole
        refine ⟨?_, rest, failure, hgives, hinit, hwhole, fun code hcode =>
          hcodes code (hfailure code hcode)⟩
        rcases hgeneration with hsome | ⟨-, hsilent, -⟩
        · exact hsome
        · exact absurd hsilent htold
  read := by
    intro stream offset sizes w hholds hsizes
    unfold httpOpener
    rw [After.pure_iff]
    cases hread : stream.readInto sizes with
    | mk result stream' =>
        have hgave := hholds.readInto hread
        cases result with
        | ok bs => exact ⟨hgave.1, fun hnil => hgave.2.2 hnil hsizes, hgave.2.1⟩
        | error fault =>
            obtain ⟨code, hcode, rfl⟩ := hgave
            exact ⟨(passing_transfer hcode).2.2, (passing_transfer hcode).2.1⟩

/-- **Draining returns exactly the octets asked for.** Of a service that holds one version, a request
    for this version or for any, whose range lies within the object, is read to its end, whatever the
    destinations and wherever connections are refused or break off, as long as never as many attempts
    in a row fail as the policy allows. -/
theorem drainInto_of_service {network : Network (StateM W)} {endpoint : Url} {live : Int}
    {content : Bytes} {request : ReadRequest} (policy : RetryPolicy) (pause : Span → StateM W Unit)
    (hnetwork : network.Holds live content) (hlow : -(Word.limit63 : Int) ≤ live)
    (hhigh : live < Word.limit63) (hsize : content.length < Word.limit64)
    (hpath : ∃ segments, endpoint.path = .rooted segments)
    (hendpoint : ∀ text ∈ endpoint.generations, text = live.repr)
    (hobject : request.object.generation = none ∨ request.object.generation = some live)
    (hoptions : request.options = {}) (hstart : request.range.start ≤ content.length)
    (hstop : ∀ stop ∈ request.range.stop?, stop ≤ content.length)
    (destinations : List (List Nat)) (hsizes : ∀ sizes ∈ destinations, ∃ size ∈ sizes, 0 < size)
    (hmany : (request.range.within content).length < destinations.length) (limit : Nat)
    (hlimit : policy.allowed ≤ limit) (w : W) :
    After ((Channel.start request).drainInto (httpOpener network endpoint).noted
      (policy.adviser fun delay => unnoted (pause delay)) limit destinations) (([], w) : Noted W)
      fun result w' => ¬WearsOut policy.allowed w'.1 →
        ∃ last, result = some (request.range.within content, none, last) := by
  obtain ⟨segments, hpath⟩ := hpath
  have hkey : request.options.encryptionKey = none := by rw [hoptions]
  have hsteady := httpOpener_steady hnetwork hlow hhigh hsize hpath hendpoint hobject hkey hstop
  have hwithin : request.range.within content
      = (request.range.before content).drop request.range.start := by
    unfold ByteRange.within ByteRange.before
    cases request.range.stop? <;> rfl
  have hbefore : request.range.start ≤ (request.range.before content).length := by
    unfold ByteRange.before
    cases hcases : request.range.stop? with
    | none => exact hstart
    | some stop =>
        show request.range.start ≤ (content.take stop).length
        rw [List.length_take]
        exact Nat.le_min.2 ⟨request.range.start_le_stop stop hcases, hstart⟩
  rw [hwithin] at hmany ⊢
  refine (Channel.after_drainInto hsteady hlimit (Channel.underWay_start hbefore) destinations hsizes
    hmany).imp ?_
  rintro result w' (hworn | hdone) hnever
  · exact absurd hworn hnever
  · exact hdone

/-! ## A service that is there -/

/-- What is due as an answer with no more fields than it needs. -/
def Due.answer (d : Due) (live : Int) : Answer where
  status := d.status
  reason := "-"
  fields := ("X-Goog-Generation", live.repr)
    :: d.contentRange.toList.map fun value => ("Content-Range", value)
  body := d.body.getD []

/-- What comes of an answer over a connection that ends after so many octets of its body. -/
def Answer.reception (a : Answer) (kept : Nat) (ending : Option TransferCode) : Reception :=
  ⟨a.lines.flatten ++ a.body.take kept, ending⟩

/-- All that a service which holds some content may have to say. -/
def dues (content : Bytes) : List Due :=
  ⟨404, none, none⟩ :: ⟨200, none, some content⟩ :: ⟨416, some s!"bytes */{content.length}", none⟩ ::
    (List.range content.length).flatMap fun first => (List.range content.length).map fun last =>
      ⟨206, some s!"bytes {first}-{last}/{content.length}", some (content.extract first (last + 1))⟩

theorem due_mem_dues (live : Int) (content : Bytes) (request : HttpRequest) :
    due live content request ∈ dues content := by
  unfold due dues
  by_cases hgone : (request.generations.any fun text => text != live.repr) = true
  · simp [hgone]
  · simp only [hgone]
    cases request.span? with
    | none => simp
    | some span =>
        obtain ⟨first, last⟩ := span
        by_cases hpast : content.length ≤ first
        · simp [hpast]
        · have hend := spanEnd_le last content.length
          have hstart : 0 < spanEnd last content.length := by
            unfold spanEnd
            cases last <;> simp only <;> omega
          have hmem : (⟨206, some s!"bytes {first}-{spanEnd last content.length - 1}/{content.length}",
              some (content.extract first (spanEnd last content.length))⟩ : Due) ∈
              (List.range content.length).flatMap fun first => (List.range content.length).map fun last =>
                ⟨206, some s!"bytes {first}-{last}/{content.length}", some (content.extract first (last + 1))⟩ := by
            refine List.mem_flatMap.2 ⟨first, List.mem_range.2 (by omega), ?_⟩
            refine List.mem_map.2 ⟨spanEnd last content.length - 1, List.mem_range.2 (by omega), ?_⟩
            rw [Nat.sub_add_cancel hstart]
          simp only [hpast, if_false, Bool.false_eq_true]
          exact List.mem_cons_of_mem _ (List.mem_cons_of_mem _ (List.mem_cons_of_mem _ hmem))

theorem Network.fetch_eq {network : Network (StateM W)} {request : HttpRequest} {w w' : W}
    {reception : Reception} (hexchange : network.exchange request w = (reception, w'))
    (hredirect : (Wire.read reception).redirect = none) :
    network.fetch request w = (⟨(Wire.read reception).events, (Wire.read reception).failure,
      (Wire.read reception).status⟩, w') := by
  have hexchange' : network.exchange ⟨request.target, request.headers⟩ w = (reception, w') := hexchange
  unfold fetch
  rw [follow.eq_def]
  simp only [bind, StateT.bind, hexchange', hredirect]
  rfl

/-- Two versions of an object, by their generations. -/
def twoVersions : List (Int × Bytes) := [(7, [65, 66, 67]), (8, [88, 89])]

/-- How connections to a service of these versions end: after the whole answer, or by breaking in its body. -/
def twoEndings : List (Nat × Option TransferCode) := [(3, none), (1, some .partialBody)]

/-- The answers of a service that holds one of the versions are read off the wire as far as they were sent, and say
    what they should. -/
theorem read_reception : ∀ version ∈ twoVersions, ∀ d ∈ dues version.2,
    (∀ ending ∈ twoEndings,
      let read := Wire.read ((d.answer version.1).reception ending.1 ending.2)
      let chunks := [(d.answer version.1).body.take ending.1].filter (!·.isEmpty)
      read.events = (d.answer version.1).lines.map .line ++ chunks.map .chunk ∧ read.failure = ending.2 ∧
        read.status = d.status ∧ read.redirect = none ∧
        (ending.2 = none → (d.answer version.1).body.take ending.1 = (d.answer version.1).body)) ∧
    ((d.answer version.1).fields.all fun field =>
      field.1.toList.all fun c => c != ':' && c != '/' && !isBlank c) = true ∧
    (d.answer version.1).values "content-range" = d.contentRange.toList ∧
    (d.answer version.1).values "x-goog-generation" = [Int.repr version.1] := by
  decide +kernel

section TwoVersions

variable {live : Int} {content : Bytes}

theorem fits_answer (hversion : (live, content) ∈ twoVersions) (request : HttpRequest) :
    ((due live content request).answer live).Fits live content request ∧
      ((due live content request).answer live).values "x-goog-generation" ≠ [] := by
  obtain ⟨-, hnames, hrange, hgeneration⟩ := read_reception _ hversion _ (due_mem_dues live content request)
  have htold : ((due live content request).answer live).values "x-goog-generation" ≠ [] := by
    rw [hgeneration]
    exact List.cons_ne_nil _ _
  refine ⟨?_, htold⟩
  exact {
    fieldNames := fun field hfield c hc => by
      simpa [and_assoc] using List.all_eq_true.1 (List.all_eq_true.1 hnames field hfield) c hc
    status_eq := rfl
    contentRange_eq := hrange
    body_eq := fun body hmem => by
      show (due live content request).body.getD [] = body
      rw [Option.mem_def.1 hmem]
      rfl
    generation_eq := fun text hmem => by
      rw [hgeneration] at hmem
      exact List.mem_singleton.1 hmem
    reported := fun _ => htold }

theorem fetch_reception (hversion : (live, content) ∈ twoVersions) {kept : Nat} {ending : Option TransferCode}
    (hending : (kept, ending) ∈ twoEndings) {network : Network (StateM W)} {request : HttpRequest} {w w' : W}
    (hexchange : network.exchange request w
      = (((due live content request).answer live).reception kept ending, w')) :
    After (network.fetch request) w fun t _ =>
      t.Reports ((due live content request).answer live) ∧ t.failure = ending := by
  obtain ⟨hread, -⟩ := read_reception _ hversion _ (due_mem_dues live content request)
  obtain ⟨hevents, hfailure, hstatus, hredirect, hwhole⟩ := hread _ hending
  have hchunks : ∀ bs : Bytes, ([bs].filter (!·.isEmpty)).flatten = bs := by
    intro bs
    cases bs <;> simp
  unfold After
  rw [Network.fetch_eq hexchange hredirect, hevents, hfailure, hstatus]
  refine ⟨.delivered _ rfl rfl ?_ fun hnone => ?_, rfl⟩
  · rw [hchunks]
    exact List.take_prefix kept _
  · rw [hchunks]
    exact hwhole hnone

end TwoVersions

/-- A service that holds three octets as generation seven, and notes which it is asked for. The first connection is
    refused, the next one breaks after an octet of the body, and later ones do not. -/
def Network.reluctant : Network (StateM (List (Option (Nat × Option Nat)))) where
  exchange request := fun asked =>
    let a := (due 7 [65, 66, 67] request).answer 7
    match asked with
    | [] => (⟨[], some .couldNotConnect⟩, [request.span?])
    | [first] => (a.reception 1 (some .partialBody), [request.span?, first])
    | asked => (a.reception 3 none, request.span? :: asked)

theorem Network.reluctant_holds : reluctant.Holds 7 [65, 66, 67] := by
  intro request asked
  have hversion : ((7 : Int), ([65, 66, 67] : Bytes)) ∈ twoVersions := by decide
  obtain ⟨hfits, htold⟩ := fits_answer hversion request
  rcases asked with _ | ⟨first, _ | ⟨second, asked⟩⟩
  · have hexchange : reluctant.exchange request [] = (⟨[], some .couldNotConnect⟩, [request.span?]) := rfl
    unfold After
    rw [fetch_eq hexchange rfl]
    refine ⟨⟨_, hfits, htold, .broken [] .couldNotConnect rfl rfl⟩, ?_⟩
    rintro code ⟨⟩
    decide
  · have hexchange : reluctant.exchange request [first] =
        (((due 7 [65, 66, 67] request).answer 7).reception 1 (some .partialBody), [request.span?, first]) := rfl
    refine (fetch_reception hversion (by decide) hexchange).imp ?_
    intro t _ ⟨hreports, hfailure⟩
    refine ⟨⟨_, hfits, htold, hreports⟩, fun code hcode => ?_⟩
    obtain rfl := Option.some.inj (hfailure.symm.trans hcode)
    decide
  · have hexchange : reluctant.exchange request (first :: second :: asked) =
        (((due 7 [65, 66, 67] request).answer 7).reception 3 none, request.span? :: first :: second :: asked) := rfl
    refine (fetch_reception hversion (by decide) hexchange).imp ?_
    intro t _ ⟨hreports, hfailure⟩
    refine ⟨⟨_, hfits, htold, hreports⟩, fun code hcode => ?_⟩
    rw [hfailure] at hcode
    cases hcode

/-- A request for an object, of no generation in particular. -/
def sampleRequest : ReadRequest := ⟨⟨"b", "o", none⟩, {}, .all⟩

/-- An endpoint without a query. -/
def sampleEndpoint : Url := ⟨"http".toList, [], some "h".toList, none, .rooted [], none, none⟩

/-- A connection is refused and the next one breaks after an octet; the object is read all the same, from its second
    octet on over a third one. -/
theorem drainInto_of_reluctant :
    let ran := (Channel.start sampleRequest).drainInto (httpOpener Network.reluctant sampleEndpoint).noted
      ((RetryPolicy.immediate 3).adviser fun _ => unnoted (pure ())) 3 [[2], [1], [1, 1], [4]] ([], [])
    ran.2.2 = [some (1, none), none, none] ∧ ∃ last, ran.1 = some ([65, 66, 67], none, last) := by
  refine ⟨by decide +kernel, ?_⟩
  refine drainInto_of_service (RetryPolicy.immediate 3) (fun _ => pure ()) Network.reluctant_holds
    (by decide) (by decide) (by decide) ⟨[], rfl⟩ (by decide) (.inl rfl) rfl (by decide) (by decide)
    [[2], [1], [1, 1], [4]] (by decide) (by decide) 3 (by decide) [] ?_
  unfold WearsOut
  decide +kernel

end SteadyFetch
