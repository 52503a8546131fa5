import SteadyFetch.Channel.Drain
import SteadyFetch.Proofs.Rehearsals

set_option autoImplicit false

/-! # Reading into destinations of any sizes

How large the destinations of reads are decides how many reads there are, and nothing else. A read that finds
octets in a stream gives some of them; the reads that follow give the rest of the stream, in pieces of any
sizes (`Amid.drainEach_eq`), and leave the channel where a single read would have left it that takes them all
(`past_past`). From there on it is the same again, with fewer octets to come, so draining takes one course
(`drainEach_takes_course`). -/

namespace SteadyFetch

/-- What is drained, with octets and maybe a resolved object that came before. -/
def prepend {σ : Type} (bs : Bytes) (resolved : Option ObjectRef) :
    Option (Drained × Channel σ) → Option (Drained × Channel σ) :=
  Option.map fun (rest, c) => (⟨bs ++ rest.octets, resolved.toList ++ rest.resolved, rest.failure⟩, c)

theorem prepend_nil {σ : Type} (rest : Option (Drained × Channel σ)) : prepend [] none rest = rest := by
  cases rest <;> rfl

theorem prepend_prepend {σ : Type} (bs more : Bytes) (resolved : Option ObjectRef)
    (rest : Option (Drained × Channel σ)) :
    prepend bs resolved (prepend more none rest) = prepend (bs ++ more) resolved rest := by
  cases rest with
  | none => rfl
  | some rest => simp [prepend]

/-- Reads into one list of destinations after the other until the end or a failure; none if there are not
    enough of them, or a read is not settled. -/
def Channel.drainEach {m : Type → Type} {σ : Type} [Monad m] (opener : Opener m σ) (adviser : Adviser m)
    (limit : Nat) : List (List Nat) → Channel σ → m (Option (Drained × Channel σ))
  | [], _ => return none
  | sizes :: destinations, c => do
    match ← c.read opener adviser limit sizes with
    | none => return none
    | some (.error failure, c) => return some (⟨[], [], some failure⟩, c)
    | some (.ok outcome, c) =>
      match outcome.progress with
      | .endOfStream => return some (⟨[], outcome.resolved.toList, none⟩, c)
      | .octets bs => prepend bs outcome.resolved <$> drainEach opener adviser limit destinations c

namespace Channel

open Rehearsal

variable {content : Bytes} {c c' : Channel ScriptedStream} {w w' : Rehearsal}

/-! ## One stream -/

/-- What is drained from a read on that came to something. -/
def goOn (content : Bytes) (limit : Nat) (destinations : List (List Nat)) :
    Option (Except ReadFailure Progress × Channel ScriptedStream) →
      StateM Rehearsal (Option (Drained × Channel ScriptedStream))
  | none => return none
  | some (.error failure, c) => return some (⟨[], [], some failure⟩, c)
  | some (.ok .endOfStream, c) => return some (⟨[], c.unreported.toList, none⟩, c.takeResolved.2)
  | some (.ok (.octets bs), c) =>
    prepend bs c.unreported <$> drainEach (opener content) adviser limit destinations c.takeResolved.2

theorem drainEach_cons (limit : Nat) (sizes : List Nat) (destinations : List (List Nat)) :
    drainEach (opener content) adviser limit (sizes :: destinations) c =
      c.advance (opener content) adviser limit sizes >>= goOn content limit destinations := by
  rw [drainEach, Channel.read, bind_assoc]
  refine bind_congr fun done => ?_
  rcases done with _ | ⟨failure | bs | _, c'⟩ <;> rfl

/-- The channel after octets of a stream were read, and the resolved object was handed out. -/
def past (c : Channel ScriptedStream) (s : ScriptedStream) (count : Nat) : Channel ScriptedStream :=
  (c.advanced (s.skip count) (s.left.take count)).takeResolved.2

theorem goOn_giving (c : Channel ScriptedStream) (s : ScriptedStream) (limit : Nat) (sizes : List Nat)
    (destinations : List (List Nat)) : goOn content limit destinations (some (c.giving s sizes)) =
      prepend (s.left.take (s.room sizes)) c.unreported <$>
        drainEach (opener content) adviser limit destinations (c.past s (s.room sizes)) := rfl

/-- Whether a channel is amid a stream: it has read from it, and may read on. -/
structure Amid (content : Bytes) (c : Channel ScriptedStream) (s : ScriptedStream) : Prop where
  stream_eq : c.stream = some s
  served : c.Served content s
  isOpen_eq : c.isOpen = true
  broken_eq : c.broken = none
  failures_eq : c.failures = 0
  unreported_eq : c.unreported = none
  interrupts_eq : s.interrupts = 0
  chunk_ne : s.source.chunk ≠ some 0

theorem amid_past {s : ScriptedStream} (hready : c.Ready) (hserved : c.Served content s)
    (hinterrupts : s.interrupts = 0) (hchunk : s.source.chunk ≠ some 0) (count : Nat) :
    Amid content (c.past s count) (s.skip count) where
  stream_eq := rfl
  served := by
    have hlength := hserved.length_le
    refine ⟨?_, fun stop hstop => ?_⟩
    · show (s.left.drop count).length ≤ content.length - (c.position + (s.left.take count).length)
      rw [List.length_drop, List.length_take]
      omega
    · have hwithin := hserved.within stop hstop
      show (s.left.drop count).length ≤ stop - (c.position + (s.left.take count).length)
      rw [List.length_drop, List.length_take]
      omega
  isOpen_eq := hready.isOpen_eq
  broken_eq := hready.broken_eq
  failures_eq := rfl
  unreported_eq := rfl
  interrupts_eq := hinterrupts
  chunk_ne := hchunk

/-- All that is left of a stream leads to one place, whether it is read at once or not. -/
theorem past_past (c : Channel ScriptedStream) (s : ScriptedStream) (count : Nat) :
    (c.past s count).past (s.skip count) (s.skip count).left.length = c.past s s.left.length := by
  have hposition : c.position + (s.left.take count).length + (s.left.drop count).length =
      c.position + s.left.length := by
    rw [Nat.add_assoc, ← List.length_append, List.take_append_drop]
  simp only [past, advanced, takeResolved, ScriptedStream.skip, List.take_length, List.drop_length,
    hposition]

namespace Amid

variable {s : ScriptedStream} (h : Amid content c s)

include h

theorem ready (hleft : s.left ≠ []) : c.Ready := by
  refine ⟨h.isOpen_eq, h.broken_eq, fun stop hstop => ?_⟩
  have hwithin := h.served.within stop hstop
  have hpos := List.length_pos_iff.2 hleft
  omega

theorem past_of_nil (hleft : s.left = []) : c.past s s.left.length = c := by
  have hskip : s.skip s.left.length = s := by
    rw [ScriptedStream.skip, List.drop_length, ← hleft]
  rw [past, hskip, hleft, List.take_nil, advanced, List.length_nil, Nat.add_zero, ← h.stream_eq,
    ← h.failures_eq, takeResolved, ← h.unreported_eq]

theorem advance_eq (hleft : s.left ≠ []) {limit : Nat} (hlimit : 0 < limit) {sizes : List Nat}
    (hsizes : HasRoom sizes) (w : Rehearsal) :
    c.advance (opener content) adviser limit sizes w = (some (c.giving s sizes), w) := by
  have hexhausted : c.isExhausted = false := by
    unfold isExhausted
    cases hstop : c.request.range.stop? with
    | none => rfl
    | some stop => exact decide_eq_false (Nat.not_le.2 ((h.ready hleft).room stop hstop))
  obtain ⟨limit, rfl⟩ := Nat.exists_eq_succ_of_ne_zero (Nat.ne_of_gt hlimit)
  unfold advance
  simp only [h.broken_eq, h.isOpen_eq, hexhausted, hsizes.all_eq_false, Bool.not_true, Bool.false_eq_true,
    if_false]
  rw [rounds_succ, turn_eq_prepare, prepare, h.stream_eq, pure_bind, readPrepared, bind_apply,
    readStream_of_left h.interrupts_eq hleft h.chunk_ne hsizes]
  rfl

/-- What is drained is the rest of the stream, and then what is drained from the place where that rest was
    delivered. -/
theorem drainEach_eq {limit : Nat} (hlimit : 0 < limit) {destinations : List (List Nat)}
    (hroom : ∀ sizes ∈ destinations, HasRoom sizes) (w : Rehearsal) :
    ∃ count ≤ s.left.length, drainEach (opener content) adviser limit destinations c w =
      (prepend s.left none <$>
        drainEach (opener content) adviser limit (destinations.drop count) (c.past s s.left.length)) w := by
  induction destinations generalizing c s with
  | nil => exact ⟨0, Nat.zero_le _, rfl⟩
  | cons sizes destinations ih =>
      by_cases hleft : s.left = []
      · refine ⟨0, Nat.zero_le _, ?_⟩
        rw [h.past_of_nil hleft, hleft, funext prepend_nil]
        exact congrFun (id_map _).symm w
      · have hsizes := hroom sizes List.mem_cons_self
        have hnext := amid_past (h.ready hleft) h.served h.interrupts_eq h.chunk_ne (s.room sizes)
        obtain ⟨count, hcount, hrest⟩ :=
          ih hnext fun other hother => hroom other (List.mem_cons_of_mem _ hother)
        have hpos := ScriptedStream.room_pos hsizes h.chunk_ne
        have hlength := List.length_pos_iff.2 hleft
        refine ⟨count + 1, ?_, ?_⟩
        · rw [ScriptedStream.skip, List.length_drop] at hcount
          omega
        · rw [past_past] at hrest
          rw [drainEach_cons, bind_apply, h.advance_eq hleft hlimit hsizes, List.drop_succ_cons, goOn_giving,
            map_apply, map_apply, hrest, map_apply, prepend_prepend, h.unreported_eq]
          rw [ScriptedStream.skip, List.take_append_drop]

end Amid

/-- Where octets are read from a stream, all of its octets are drained, and then what is drained from the
    place where they were delivered. -/
theorem Reading.goOn_eq {s : ScriptedStream} (h : Reading content c w c' s w')
    (hplays : c.Plays ScriptedOpen.Serves w) {limit : Nat} (hlimit : 0 < limit) {sizes : List Nat}
    {destinations : List (List Nat)} (hroom : ∀ other ∈ sizes :: destinations, HasRoom other) :
    ∃ count < s.left.length, goOn content limit destinations (some (c'.giving s sizes)) w' =
      (prepend s.left c'.unreported <$>
        drainEach (opener content) adviser limit (destinations.drop count) (c'.past s s.left.length)) w' := by
  have hchunk := h.chunk_ne hplays
  have hamid := amid_past h.ready h.served h.interrupts_eq hchunk (s.room sizes)
  obtain ⟨count, hcount, hrest⟩ :=
    hamid.drainEach_eq hlimit (fun other hother => hroom other (List.mem_cons_of_mem _ hother)) w'
  have hpos := ScriptedStream.room_pos (hroom sizes List.mem_cons_self) hchunk
  have hlength := List.length_pos_iff.2 h.left_ne
  refine ⟨count, ?_, ?_⟩
  · rw [ScriptedStream.skip, List.length_drop] at hcount
    omega
  · rw [past_past] at hrest
    rw [goOn_giving, map_apply, map_apply, hrest, map_apply, prepend_prepend, ScriptedStream.skip,
      List.take_append_drop]

/-- Once a stream is read, the channel is nearer to the end of the content, and no farther from that of the
    script. -/
theorem Reading.past {s : ScriptedStream} (h : Reading content c w c' s w') :
    (c'.past s s.left.length).position = c.position + s.left.length ∧
      (∀ P, c.Plays P w → (c'.past s s.left.length).Plays P w') ∧
        (c'.past s s.left.length).turnsLeft w' ≤ c.turnsLeft w := by
  have hbefore : c'.position = c.position := h.onward.position_eq
  refine ⟨?_, fun P hP => ⟨(h.onward.plays P hP).1, ?_⟩, ?_⟩
  · rw [Channel.past, List.take_length]
    exact congrArg (· + s.left.length) hbefore
  · rintro _ ⟨⟩
    exact (h.onward.plays P hP).2 s rfl
  · -- the stream takes one turn more to end, as it did before
    have hsame : (c'.past s s.left.length).turnsLeft w' = (c'.streaming s).turnsLeft w' := rfl
    rw [hsame]
    exact h.onward.turnsLeft_le

/-! ## Any destinations -/

/-- **Draining takes one course, whatever the destinations are.** -/
theorem drainEach_takes_course (hserved : ∀ s ∈ c.stream, c.Served content s)
    (hplays : c.Plays ScriptedOpen.Serves w) (limit : Nat) :
    ∃ course : Option (Drained × Channel ScriptedStream) × Rehearsal,
      (∀ destinations : List (List Nat), (∀ sizes ∈ destinations, HasRoom sizes) →
        content.length - c.position < destinations.length →
          drainEach (opener content) adviser limit destinations c w = course) ∧
      ∀ p, w.advice = .policy p → c.Plays ScriptedOpen.Ends w →
        c.turnsLeft w ≤ limit → course.1.isSome = true := by
  -- each stream that is read leaves fewer octets to be read
  induction hremaining : content.length - c.position using Nat.strongRecOn generalizing c w with
  | ind remaining ih =>
      obtain ⟨arrival, w', hreached, hadvance⟩ := advance_arrives hserved hplays limit
      have hstep : ∀ destinations : List (List Nat), (∀ sizes ∈ destinations, HasRoom sizes) →
          remaining < destinations.length → ∃ sizes rest, destinations = sizes :: rest ∧
            drainEach (opener content) adviser limit destinations c w =
              goOn content limit rest (arrival.into sizes) w' := by
        intro destinations hroom hlength
        cases destinations with
        | nil => exact absurd hlength (Nat.not_lt_zero _)
        | cons sizes rest =>
            have hread : c.advance (opener content) adviser limit sizes w = (arrival.into sizes, w') :=
              hadvance sizes (hroom sizes List.mem_cons_self)
            exact ⟨sizes, rest, rfl, by rw [drainEach_cons, bind_apply, hread]⟩
      cases arrival with
      | unsettled =>
          refine ⟨(none, w'), fun destinations hroom hlength => ?_, fun p hp hends hlimit => ?_⟩
          · obtain ⟨sizes, rest, -, hdrain⟩ := hstep destinations hroom hlength
            exact hdrain
          · exact absurd (hreached p hp hends) (Nat.not_lt.2 hlimit)
      | failed failure c' =>
          refine ⟨(some (⟨[], [], some failure⟩, c'), w'), fun destinations hroom hlength => ?_,
            fun _ _ _ _ => rfl⟩
          obtain ⟨sizes, rest, -, hdrain⟩ := hstep destinations hroom hlength
          exact hdrain
      | ended c' =>
          refine ⟨(some (⟨[], c'.unreported.toList, none⟩, c'.takeResolved.2), w'),
            fun destinations hroom hlength => ?_, fun _ _ _ _ => rfl⟩
          obtain ⟨sizes, rest, -, hdrain⟩ := hstep destinations hroom hlength
          exact hdrain
      | reading c' s =>
          obtain ⟨hreading, hlimit⟩ := hreached
          obtain ⟨hposition, hplays', hturns⟩ := hreading.past
          have hlength := List.length_pos_iff.2 hreading.left_ne
          have hle := hreading.served.length_le
          have hbefore : c'.position = c.position := hreading.onward.position_eq
          have hamid := amid_past hreading.ready hreading.served hreading.interrupts_eq
            (hreading.chunk_ne hplays) s.left.length
          obtain ⟨course, hcourse, hsettled⟩ := ih _ (by omega) (c := c'.past s s.left.length) (w := w')
            (by rintro _ ⟨⟩; exact hamid.served) (hplays' _ hplays) rfl
          refine ⟨(prepend s.left c'.unreported course.1, course.2), fun destinations hroom hmany => ?_,
            fun p hp hends henough => ?_⟩
          · obtain ⟨sizes, rest, rfl, hdrain⟩ := hstep destinations hroom hmany
            obtain ⟨count, hcount, hgiven⟩ := hreading.goOn_eq hplays hlimit hroom
            have hroom' : ∀ other ∈ rest.drop count, HasRoom other := fun other hother =>
              hroom other (List.mem_cons_of_mem _ (List.mem_of_mem_drop hother))
            rw [List.length_cons] at hmany
            rw [hdrain]
            refine hgiven.trans ?_
            rw [map_apply, hcourse (rest.drop count) hroom' (by rw [List.length_drop]; omega)]
          · rw [prepend, Option.isSome_map]
            exact hsettled p (hreading.onward.advice_eq p hp) (hplays' _ hends) (Nat.le_trans hturns henough)

theorem turnsLeft_start_le (request : ReadRequest) (r : Rehearsal) :
    (start request : Channel ScriptedStream).turnsLeft r ≤ r.turnLimit := by
  have hfold : ∀ (script : List ScriptedOpen) (n : Nat), script.foldl (fun n s => n + s.interrupts) n
      + script.length = n + script.foldr (fun s n => s.interrupts + 1 + n) 0 := by
    intro script
    induction script with
    | nil => exact fun _ => rfl
    | cons s script ih =>
        intro n
        have hrest := ih (n + s.interrupts)
        rw [List.foldl_cons, List.length_cons, List.foldr_cons]
        omega
  have hscript := hfold r.script 0
  show 0 + r.script.foldr (fun s n => s.interrupts + 1 + n) 0 + 1 ≤ _
  unfold turnLimit
  omega

/-- **The sizes of destinations cannot be seen.** Whatever the script, the object, the request and the advice
    are: draining a channel into destinations of any sizes, as long as each read has room and there are
    enough of them, gives the same octets, the same resolved objects and the same failure or end, asks for
    the same opens and the same advice, and leaves the same channel behind. If the advice is that of a
    policy and all streams come to an end, so does draining. -/
theorem drainEach_alike (content : Bytes) (request : ReadRequest) {r : Rehearsal}
    (hserves : ∀ s ∈ r.script, s.Serves) (limit : Nat) {destinations others : List (List Nat)}
    (hroom : ∀ sizes ∈ destinations, HasRoom sizes) (hroom' : ∀ sizes ∈ others, HasRoom sizes)
    (hmany : content.length < destinations.length) (hmany' : content.length < others.length) :
    drainEach (opener content) adviser limit destinations (start request) r =
        drainEach (opener content) adviser limit others (start request) r ∧
      ∀ p, r.advice = .policy p → (∀ s ∈ r.script, s.Ends) →
        r.turnLimit ≤ limit →
          (drainEach (opener content) adviser limit destinations (start request) r).1.isSome = true := by
  have hnone : ∀ s, s ∉ (start request : Channel ScriptedStream).stream :=
    fun s => Option.not_mem_none s
  have hserved : ∀ s ∈ (start request : Channel ScriptedStream).stream, (start request).Served content s :=
    fun s hs => absurd hs (hnone s)
  obtain ⟨course, hcourse, hsettled⟩ :=
    drainEach_takes_course hserved ⟨hserves, fun s hs => absurd hs (hnone s)⟩ limit
  have hfirst := hcourse destinations hroom (Nat.lt_of_le_of_lt (Nat.sub_le _ _) hmany)
  refine ⟨hfirst.trans (hcourse others hroom' (Nat.lt_of_le_of_lt (Nat.sub_le _ _) hmany')).symm, ?_⟩
  intro p hp hends hlimit
  rw [hfirst]
  exact hsettled p hp ⟨hends, fun s hs => absurd hs (hnone s)⟩
    (Nat.le_trans (turnsLeft_start_le request r) hlimit)

/-- An open that fails, a stream that is interrupted once and breaks after two octets, and one that gives
    the rest. -/
def rehearsalOfBreaks : Rehearsal where
  script :=
    [⟨some (.status 503 "busy"), none, none, none, 0, none, false, false⟩,
      ⟨none, some 7, some 2, some (.bare .connectionReset), 1, none, false, false⟩,
      ⟨none, some 7, none, none, 0, none, false, false⟩]
  advice := .policy (.immediate 3)

/-- Four octets are drained one by one as they are drained at once. -/
theorem drainEach_alike_rehearsalOfBreaks :
    let drained := fun destinations => drainEach (opener [1, 2, 3, 4, 5, 6]) adviser 200 destinations
      (start ⟨⟨"b", "o", none⟩, {}, .bounded 1 5⟩) rehearsalOfBreaks
    let small := List.replicate 7 [1]
    let large := List.replicate 7 [0, 4]
    ((drained small).1.map Prod.fst = some ⟨[2, 3, 4, 5], [⟨"b", "o", some 7⟩], none⟩ ∧
      (drained small).2.opens.map (fun asked => (asked.request.range.start, asked.pin)) =
        [(3, some 7), (1, none), (1, none)]) ∧
      drained small = drained large ∧ (drained small).1.isSome = true := by
  have hserves : ∀ s ∈ rehearsalOfBreaks.script, s.ignoresEnd = false ∧ s.chunk ≠ some 0 := by decide
  have hends : ∀ s ∈ rehearsalOfBreaks.script, ∀ fault ∈ s.ending, fault.kind ≠ .interrupted := by
    decide
  have hsmall : ∀ sizes ∈ List.replicate 7 [1], ∃ size ∈ sizes, 0 < size := by decide
  have hlarge : ∀ sizes ∈ List.replicate 7 [0, 4], ∃ size ∈ sizes, 0 < size := by decide
  have hserves' : ∀ s ∈ rehearsalOfBreaks.script, s.Serves :=
    fun s hs => ⟨(hserves s hs).1, (hserves s hs).2⟩
  have halike := drainEach_alike [1, 2, 3, 4, 5, 6] ⟨⟨"b", "o", none⟩, {}, .bounded 1 5⟩ hserves' 200
    hsmall hlarge (by decide) (by decide)
  exact ⟨by decide +kernel, halike.1, halike.2 (.immediate 3) rfl hends (by decide)⟩

end Channel

end SteadyFetch
