import SteadyFetch.Proofs.RangedReads
import SteadyFetch.Proofs.ServiceDraining

set_option autoImplicit false

/-! # Where reads end

A channel takes the end of a body for the end of what is read, and never looks at the total that a response
announces. It ends where the last body ended, or at the end of its range; that is where the read ought to
end only if the last response reached as far. -/

namespace SteadyFetch

/-- The total that the first `Content-Range` line announces, if it is a number. -/
def announcedTotal? (lines : List String) : Option Nat := do
  let value ← lines.findSome? fun line => do
    let header ← headerOfLine? line
    if isNamed "content-range" header then some header.2 else none
  let (_, total) ← splitOnce '/' (trim (value.drop 6))
  Numeral.u64? total

/-- Where a range of an object of so many octets ends. -/
def ByteRange.goal (r : ByteRange) (total : Nat) : Nat :=
  match r.stop? with
  | some stop => min stop total
  | none => total

variable {S : Type}

namespace Channel

variable {network : Network (StateM S)} {endpoint : Url} {request : ReadRequest}
  {c : Channel BodyStream} {got : Bytes} {w : Watched S BodyStream}

/-- A channel has come to its end by itself: nothing was opened, or all of the latest body was delivered,
    or enough of it for the range. -/
theorem ended_of_reads
    (hf : (following S request false).Reads got (.ok .endOfStream) c w)
    (hs : (sourcing network endpoint request false).Reads got (.ok .endOfStream) c w) :
    w.1 = [] ∨ ∃ (between before : History S BodyStream) (o : OpenMade S BodyStream)
      (asked : HttpRequest) (t : Transfer) (left : Bytes),
      w.1 = between ++ .opened o :: before ∧ between.opens = 0 ∧ o.IsOf network endpoint ∧
        o.transfer? network endpoint = some (asked, t) ∧
        Supplies t o.request.range (between.delivered ++ left) ∧
        o.request.range.stop? = request.range.stop? ∧
        c.position = o.request.range.start + between.delivered.length ∧
        (left = [] ∨ ∃ stop ∈ request.range.stop?, stop ≤ c.position) := by
  obtain ⟨hfollowed, -⟩ := hf
  obtain ⟨hsourced, hclosed, -⟩ := hs
  rcases hsourced.ended rfl hclosed with hnone | ⟨left, ⟨between, o, before, asked, t, hw, hnone, ht,
    hsupplies⟩, hend⟩
  · exact Or.inl hnone
  · have hmade := hfollowed.continues between (.opened o) before hw o rfl
    refine Or.inr ⟨between, before, o, asked, t, left, hw, hnone,
      hsourced.drawn.honest between (.opened o) before hw o rfl, ht, hsupplies, hmade.stop_eq, ?_, hend⟩
    rw [hfollowed.position_eq, ← hfollowed.delivered_eq, hw, History.delivered_append,
      History.delivered, hmade.start_eq, List.length_append, List.length_append]
    exact (Nat.add_assoc _ _ _).symm

/-- A part whose body is as long as announced is delivered as a whole when the channel ends: the end of the
    range lies behind it. -/
theorem position_of_part {delivered left body : Bytes} {lines : List String} {stop? : Option Nat}
    {start first last : Nat} (hfits : FitsAt 206 lines start stop?)
    (hrange : contentRangeOf? lines = some (.octets first last)) (hbody : delivered ++ left = body)
    (hlength : start + body.length = last + 1)
    (hend : left = [] ∨ ∃ stop ∈ stop?, stop ≤ start + delivered.length) :
    start + delivered.length = last + 1 := by
  obtain ⟨-, other, hother, hlast⟩ := hfits
  rw [hrange] at hother
  obtain ⟨rfl, rfl⟩ := ContentRange.octets.inj (Option.some.inj hother)
  rw [← hbody, List.length_append] at hlength
  rcases hend with rfl | ⟨stop, hstop, hle⟩
  · exact hlength
  · have hlt := hlast stop hstop
    omega

/-- **A channel ends where the last body ends.** When the end is reported of a channel that was not closed,
    the latest transfer was delivered from the start of its request on, up to the end of its body or of
    the range. If that transfer is a part with as many octets as its head says, the channel stands behind
    the last one of them; so the end is that of the object, or of the range within it, exactly if the part
    reached as far. -/
theorem performEach_then_endOfStream (network : Network (StateM S)) (endpoint : Url)
    (adviser : Adviser (StateM S)) (limit : Nat) (request : ReadRequest) (calls : List Call) (s : S) :
    After ((start request).performEach (httpOpener network endpoint).watched adviser.watched limit calls)
      (([], s) : Watched S BodyStream) fun ran w' => .close ∉ calls → ∀ c ∈ ran.2, ∀ sizes,
        After (c.read (httpOpener network endpoint).watched adviser.watched limit sizes) w'
          fun done w'' => ∀ resolved c', done = some (.ok ⟨.endOfStream, resolved⟩, c') →
            w''.1 = [] ∨ ∃ (between before : History S BodyStream) (o : OpenMade S BodyStream)
              (asked : HttpRequest) (t : Transfer) (status : Nat) (lines : List String),
              w''.1 = between ++ .opened o :: before ∧ between.opens = 0 ∧
                o.transfer? network endpoint = some (asked, t) ∧ t.head? = some (status, lines) ∧
                c'.position = o.request.range.start + between.delivered.length ∧
                (status = 206 → between.delivered <+: t.body ∧
                  (between.delivered = t.body ∨ ∃ stop ∈ request.range.stop?, stop ≤ c'.position) ∧
                  ∀ first last total, asked.isRanged = true →
                    contentRangeOf? lines = some (.octets first last) →
                    announcedTotal? lines = some total →
                    o.request.range.start + t.body.length = last + 1 →
                      c'.position = last + 1 ∧
                        (c'.position = request.range.goal total ↔
                          last + 1 = request.range.goal total)) := by
  have hfollowed : (following S request false).Holds [] (start request : Channel BodyStream) ([], s) :=
    followed_start
  have hsourced : (sourcing network endpoint request false).Holds [] (start request) ([], s) :=
    sourced_start
  have hfo := following_outlasts (httpOpener network endpoint) adviser request
  have hso := sourcing_outlasts network endpoint adviser request
  refine ((hfo.after_performEach limit hfollowed calls).and
    (hso.after_performEach limit hsourced calls)).imp ?_
  rintro ran w' ⟨⟨closed, cf, hf, hclosed, hlast⟩, ⟨closed', cs, hs, hclosed', hlast'⟩⟩ hcalls c hc sizes
  obtain rfl : closed = false := Bool.eq_false_iff.2 fun htrue => (hclosed htrue).elim nofun hcalls
  obtain rfl : closed' = false := Bool.eq_false_iff.2 fun htrue => (hclosed' htrue).elim nofun hcalls
  obtain rfl := hlast c hc
  obtain rfl := hlast' c hc
  refine (((hfo.kept false).after_read limit hf sizes).and
    ((hso.kept false).after_read limit hs sizes)).imp ?_
  rintro _ w'' ⟨hf', hs'⟩ resolved c' rfl
  rcases ended_of_reads hf' hs' with hnone | ⟨between, before, o, asked, t, left, hw, hnone, hof, ht,
    ⟨status, lines, hhead, hsupplies⟩, hstop, hposition, hend⟩
  · exact Or.inl hnone
  · refine Or.inr ⟨between, before, o, asked, t, status, lines, hw, hnone, ht, hhead, hposition, ?_⟩
    rintro rfl
    rcases hsupplies with ⟨hjudge, hbody⟩ | ⟨hjudge, -⟩
    · refine ⟨⟨left, hbody⟩, hend.imp_left ?_, ?_⟩
      · rintro rfl
        rwa [List.append_nil] at hbody
      · intro first last total hranged hrange _ hlength
        rw [(hof.result_eq ht).2] at hranged
        have hfits := (judge_eq_content_iff hranged).1 hjudge
        rw [hposition, ← hstop] at hend
        have hlast := position_of_part hfits hrange hbody hlength hend
        rw [hposition, hlast]
        exact ⟨rfl, Iff.rfl⟩
    · exact absurd (of_judge_eq_pastEnd hjudge).1 (by decide)

end Channel

/-- A network that answers one request after the other with what a script says. -/
def Network.scripted : Network (StateM (List String)) where
  exchange _ := fun script =>
    match script with
    | [] => (⟨[], some .couldNotConnect⟩, [])
    | answer :: rest => (⟨Utf8.encode answer, none⟩, rest)

/-- A service that has ten octets and answers a request for all from the third on with two of them first,
    which it may do. -/
def Network.shortParts : List String :=
  ["HTTP/1.1 206 Partial Content\r\nx-goog-generation: 1\r\nContent-Range: bytes 2-3/10\r\n\r\ncd",
    "HTTP/1.1 206 Partial Content\r\nx-goog-generation: 1\r\nContent-Range: bytes 4-9/10\r\n\r\nefghij"]

/-- The end is reported after a part that is not the last one: the channel stands at the fifth octet of
    ten, and never asks for the others. -/
theorem Channel.endOfStream_after_short_part :
    let request : ReadRequest := ⟨⟨"b", "o", none⟩, {}, .onward 2⟩
    let ran := (start request).performEach (httpOpener Network.scripted sampleEndpoint).watched
      ((RetryPolicy.immediate 3).adviser fun _ => pure ()).watched 3 [.read [8], .read [8]]
      (([], Network.shortParts) : Watched (List String) BodyStream)
    let heads := ran.2.1.filterMap fun event =>
      match event with
      | .opened o => (o.transfer? Network.scripted sampleEndpoint).bind fun made => made.2.head?
      | _ => none
    (ran.1.1.map fun result =>
        match result with
        | .read (.ok outcome) => some outcome.progress
        | _ => none) = [some (.octets [99, 100]), some .endOfStream] ∧
      heads.map (fun head => (head.1, contentRangeOf? head.2, announcedTotal? head.2))
        = [(206, some (.octets 2 3), some 10)] ∧
      ran.1.2.map (·.position) = some 4 ∧ request.range.goal 10 = 10 ∧ ran.2.2.length = 1 := by
  decide +kernel

end SteadyFetch
