import SteadyFetch.Proofs.Invariants
import SteadyFetch.Rehearsal

set_option autoImplicit false

/-! # How far a rehearsed read gets

A rehearsed read is followed to where it is settled or finds octets in a stream (`Arrival`). Up to there the
sizes of its destinations do not matter (`advance_arrives`), as only reads that give octets look at them. On
its way a channel stays where it was, and draws near the end of the script (`Onward`). -/

namespace SteadyFetch

/-- Whether there is room in destinations of the given sizes. -/
def HasRoom (sizes : List Nat) : Prop := ∃ size ∈ sizes, 0 < size

theorem HasRoom.all_eq_false {sizes : List Nat} (h : HasRoom sizes) : sizes.all (· == 0) = false := by
  obtain ⟨size, hmem, hpos⟩ := h
  exact List.all_eq_false.2 ⟨size, hmem, fun hzero => Nat.ne_of_gt hpos (beq_iff_eq.1 hzero)⟩

/-! ## Scripted streams -/

/-- Whether a scripted stream serves the range that was asked for, and every read gives something of it. -/
structure ScriptedOpen.Serves (s : ScriptedOpen) : Prop where
  ignoresEnd_eq : s.ignoresEnd = false
  chunk_ne : s.chunk ≠ some 0

/-- Whether a scripted stream comes to an end: the fault that ends it, if one does, is no interruption. -/
def ScriptedOpen.Ends (s : ScriptedOpen) : Prop := ∀ fault ∈ s.ending, fault.kind ≠ .interrupted

namespace ScriptedStream

variable {s : ScriptedStream} {sizes : List Nat}

/-- How many octets a read gives at most. -/
def room (s : ScriptedStream) (sizes : List Nat) : Nat :=
  let room := if s.source.scatters then sizes.foldl (· + ·) 0 else (sizes.find? (0 < ·)).getD 0
  match s.source.chunk with
  | some most => min room most
  | none => room

/-- The stream after so many octets. -/
def skip (s : ScriptedStream) (count : Nat) : ScriptedStream := { s with left := s.left.drop count }

theorem room_pos (hsizes : HasRoom sizes) (hchunk : s.source.chunk ≠ some 0) : 0 < s.room sizes := by
  have hfirst : 0 < (sizes.find? (0 < ·)).getD 0 := by
    cases hfind : sizes.find? (0 < ·) with
    | none =>
        obtain ⟨size, hmem, hpos⟩ := hsizes
        exact absurd (decide_eq_true hpos) (List.find?_eq_none.1 hfind size hmem)
    | some size => exact of_decide_eq_true (List.find?_some (p := fun n => decide (0 < n)) hfind)
  have hsum : 0 < sizes.foldl (· + ·) 0 := by
    rw [← List.sum_eq_foldl_nat]
    exact List.sum_pos_iff_exists_pos_nat.2 hsizes
  have hwhole : 0 < if s.source.scatters then sizes.foldl (· + ·) 0
      else (sizes.find? (0 < ·)).getD 0 := by
    cases s.source.scatters
    · exact hfirst
    · exact hsum
  unfold room
  cases hmost : s.source.chunk with
  | none => exact hwhole
  | some most =>
      have hpos : most ≠ 0 := fun hzero => hchunk (by rw [hmost, hzero])
      exact Nat.lt_min.2 ⟨hwhole, Nat.pos_of_ne_zero hpos⟩

/-- A read that gives octets gives the next ones, as many as there is room for. -/
theorem read_of_left (hinterrupts : s.interrupts = 0) (hleft : s.left ≠ []) (sizes : List Nat) :
    s.read sizes = (.ok (s.left.take (s.room sizes)), s.skip (s.room sizes)) := by
  unfold read
  rw [if_neg (by omega), if_neg fun he => hleft (List.isEmpty_iff.1 he)]
  rfl

/-- What a read gives besides octets does not depend on its destinations. -/
theorem read_of_none (h : 0 < s.interrupts ∨ s.left = []) (sizes sizes' : List Nat) :
    s.read sizes = s.read sizes' := by
  unfold read
  by_cases hinterrupts : 0 < s.interrupts
  · rw [if_pos hinterrupts, if_pos hinterrupts]
  · have hempty := List.isEmpty_iff.2 (h.resolve_left hinterrupts)
    rw [if_neg hinterrupts, if_neg hinterrupts, if_pos hempty, if_pos hempty]

end ScriptedStream

/-- The octets that are served for a range lie behind its start and before its end. -/
theorem ScriptedOpen.length_octets_le {s : ScriptedOpen} (hs : s.Serves) (content : Bytes)
    (range : ByteRange) : (s.octets content range).length ≤ content.length - range.start ∧
      ∀ stop ∈ range.stop?, (s.octets content range).length ≤ stop - range.start := by
  have hcut : ∀ bs : Bytes,
      (match s.stopAfter with | some n => bs.take n | none => bs).length ≤ bs.length := by
    intro bs
    cases s.stopAfter with
    | none => exact Nat.le_refl _
    | some n => exact List.length_take_le' n bs
  refine ⟨Nat.le_trans (hcut _) ?_, fun stop hstop => Nat.le_trans (hcut _) ?_⟩
  · rw [hs.ignoresEnd_eq]
    cases range.stop? with
    | none => exact Nat.le_of_eq (List.length_drop ..)
    | some stop => exact Nat.le_trans (List.length_take_le' ..) (Nat.le_of_eq (List.length_drop ..))
  · rw [hs.ignoresEnd_eq]
    rw [Option.mem_def] at hstop
    rw [hstop]
    exact List.length_take_le ..

/-- How many turns the opens of a script take. -/
def Rehearsal.scriptTurns (r : Rehearsal) : Nat :=
  r.script.foldr (fun s n => s.interrupts + 1 + n) 0

namespace Channel

variable {content : Bytes} {c c' : Channel ScriptedStream} {w w' w'' : Rehearsal}

/-! ## Where a channel stands -/

/-- Whether all opens are such that the channel may come to: those of the script, and the one that is under
    way. -/
def Plays (P : ScriptedOpen → Prop) (c : Channel ScriptedStream) (w : Rehearsal) : Prop :=
  (∀ s ∈ w.script, P s) ∧ ∀ s ∈ c.stream, P s.source

/-- Whether a stream holds no more octets than the channel has yet to read. -/
structure Served (content : Bytes) (c : Channel ScriptedStream) (s : ScriptedStream) : Prop where
  length_le : s.left.length ≤ content.length - c.position
  within : ∀ stop ∈ c.request.range.stop?, s.left.length ≤ stop - c.position

/-- How many turns are left until the script is over, each open and each interruption taking one, and one
    more after that. -/
def turnsLeft (c : Channel ScriptedStream) (w : Rehearsal) : Nat :=
  (c.stream.elim 0 fun s => s.interrupts + 1) + w.scriptTurns + 1

/-- Whether a channel got from one place to another without an octet being delivered. -/
structure Onward (content : Bytes) (c : Channel ScriptedStream) (w : Rehearsal)
    (c' : Channel ScriptedStream) (w' : Rehearsal) : Prop where
  ready : c'.Ready
  position_eq : c'.position = c.position
  served : ∀ s ∈ c'.stream, c'.Served content s
  plays : ∀ P, c.Plays P w → c'.Plays P w'
  advice_eq : ∀ p, w.advice = .policy p → w'.advice = .policy p
  turnsLeft_le : c'.turnsLeft w' ≤ c.turnsLeft w

theorem Onward.trans {c'' : Channel ScriptedStream} (h : Onward content c w c' w')
    (h' : Onward content c' w' c'' w'') : Onward content c w c'' w'' where
  ready := h'.ready
  position_eq := h'.position_eq.trans h.position_eq
  served := h'.served
  plays P hP := h'.plays P (h.plays P hP)
  advice_eq p hp := h'.advice_eq p (h.advice_eq p hp)
  turnsLeft_le := Nat.le_trans h'.turnsLeft_le h.turnsLeft_le

/-! ## One turn -/

open Rehearsal

theorem after_advise_script (attempt : Nat) (candidate : Candidate) (w : Rehearsal) :
    After (adviser.advise attempt candidate) w fun answer w' => w'.script = w.script ∧
      ∀ p, w.advice = .policy p →
        w'.advice = .policy p ∧ answer = p.decide attempt candidate.faultClass := by
  refine ⟨rfl, fun p hp => ?_⟩
  simp [adviser, consult, hp, Advice.answer]

/-- Asking for another attempt leaves the script alone. A policy stays what it is, and is against going on
    past the end of the script. -/
theorem after_allows_script (attempt : Nat) (fault : Fault) (w : Rehearsal) :
    After (adviser.allows attempt fault) w fun allowed w' => w'.script = w.script ∧
      ∀ p, w.advice = .policy p → w'.advice = .policy p ∧ (fault = exhausted → allowed = false) := by
  unfold Adviser.allows
  refine After.bind (after_advise_script attempt (.raw fault) w) ?_
  rintro answer w₁ ⟨hscript, hpolicy⟩
  cases answer with
  | some delay =>
      refine ⟨hscript, fun p hp => ⟨(hpolicy p hp).1, ?_⟩⟩
      rintro rfl
      have hanswer := (hpolicy p hp).2
      have hclass : (Candidate.raw exhausted).faultClass.isTransient = false := rfl
      simp [RetryPolicy.decide, hclass] at hanswer
  | none =>
      cases hprotocol : fault.isProtocol with
      | false => exact ⟨hscript, fun p hp => ⟨(hpolicy p hp).1, fun _ => rfl⟩⟩
      | true =>
          have hother : fault ≠ exhausted := by
            rintro rfl
            cases hprotocol
          simp only [if_true]
          refine After.bind (after_advise_script attempt (.classified fault.readFailure) w₁) ?_
          rintro answer w₂ ⟨hscript₂, hpolicy₂⟩
          have hsame : w₂.script = w.script := hscript₂.trans hscript
          have hkept : ∀ p, w.advice = .policy p → w₂.advice = .policy p :=
            fun p hp => (hpolicy₂ p (hpolicy p hp).1).1
          cases answer <;> exact ⟨hsame, fun p hp => ⟨hkept p hp, fun hfault => absurd hfault hother⟩⟩

/-- What a turn may come to without octets: it fails, it finds the end, or another turn is due. That one is
    nearer to the end of the script if a policy is asked and all streams come to an end. -/
def Passes (content : Bytes) (c : Channel ScriptedStream) (w : Rehearsal) (turn : Turn ScriptedStream)
    (w' : Rehearsal) : Prop :=
  match turn with
  | .settled (.error _) _ => True
  | .settled (.ok .endOfStream) _ => True
  | .settled (.ok (.octets _)) _ => False
  | .again c' => Onward content c w c' w' ∧ ∀ p, w.advice = .policy p →
      c.Plays ScriptedOpen.Ends w → c'.turnsLeft w' < c.turnsLeft w

section

variable {c₀ : Channel ScriptedStream} {w₀ : Rehearsal}

theorem after_recover_passes (hready : c.Ready) (hposition : c.position = c₀.position) (fault : Fault)
    (hplays : ∀ P, c₀.Plays P w₀ → ∀ s ∈ w.script, P s)
    (hadvice : ∀ p, w₀.advice = .policy p → w.advice = .policy p)
    (hle : w.scriptTurns + 1 ≤ c₀.turnsLeft w₀)
    (hlt : fault ≠ exhausted → w.scriptTurns + 1 < c₀.turnsLeft w₀) :
    After (c.recover adviser fault) w (Passes content c₀ w₀) := by
  rw [recover_eq_allows]
  refine After.bind (after_allows_script _ fault w) ?_
  rintro allowed w' ⟨hscript, hpolicy⟩
  cases allowed with
  | false => exact trivial
  | true =>
      rw [if_pos rfl, After.pure_iff]
      have hleft : c.failed.turnsLeft w' = w.scriptTurns + 1 := by
        simp [turnsLeft, failed, scriptTurns, hscript]
      have hnone : ∀ s, s ∉ c.failed.stream := fun s hs => Option.not_mem_none s hs
      refine ⟨⟨⟨hready.isOpen_eq, hready.broken_eq, hready.room⟩, hposition, ?_, ?_, ?_, ?_⟩, ?_⟩
      · exact fun s hs => absurd hs (hnone s)
      · exact fun P hP => ⟨fun s hs => hplays P hP s (hscript ▸ hs), fun s hs => absurd hs (hnone s)⟩
      · exact fun p hp => (hpolicy p (hadvice p hp)).1
      · rw [hleft]
        exact hle
      · intro p hp _
        rw [hleft]
        refine hlt fun hfault => ?_
        have hdeclined := (hpolicy p (hadvice p hp)).2 hfault
        cases hdeclined

theorem after_readStream_passes {s : ScriptedStream} (h : Onward content c₀ w₀ (c.streaming s) w)
    (hnone : 0 < s.interrupts ∨ s.left = []) (sizes : List Nat) :
    After (readStream (opener content) adviser c s sizes) w (Passes content c₀ w₀) := by
  have hready : c.Ready := ⟨h.ready.isOpen_eq, h.ready.broken_eq, h.ready.room⟩
  have hleft : (c.streaming s).turnsLeft w = s.interrupts + 1 + w.scriptTurns + 1 := rfl
  have hle := h.turnsLeft_le
  unfold readStream
  by_cases hinterrupts : 0 < s.interrupts
  · have hread : s.read sizes =
        (.error (.bare .interrupted), { s with interrupts := s.interrupts - 1 }) := by
      rw [ScriptedStream.read, if_pos hinterrupts]
    have hless : (c.streaming { s with interrupts := s.interrupts - 1 }).turnsLeft w
        = s.interrupts - 1 + 1 + w.scriptTurns + 1 := rfl
    refine After.bind (P := fun read w' => read = s.read sizes ∧ w' = w) ⟨rfl, rfl⟩ ?_
    rintro _ w ⟨rfl, rfl⟩
    rw [hread]
    show Passes content c₀ w₀ (.again (c.streaming { s with interrupts := s.interrupts - 1 })) w
    refine ⟨⟨⟨hready.isOpen_eq, hready.broken_eq, hready.room⟩, h.position_eq, ?_, ?_, h.advice_eq,
      ?_⟩, ?_⟩
    · rintro _ ⟨⟩
      exact ⟨(h.served s rfl).length_le, (h.served s rfl).within⟩
    · refine fun P hP => ⟨(h.plays P hP).1, ?_⟩
      rintro _ ⟨⟩
      exact (h.plays P hP).2 s rfl
    · omega
    · exact fun _ _ _ => by omega
  · have hempty := List.isEmpty_iff.2 (hnone.resolve_left hinterrupts)
    refine After.bind (P := fun read w' => read = s.read sizes ∧ w' = w) ⟨rfl, rfl⟩ ?_
    rintro _ _ ⟨rfl, rfl⟩
    rw [ScriptedStream.read, if_neg hinterrupts, if_pos hempty]
    cases hending : s.source.ending with
    | none => exact trivial
    | some fault =>
        by_cases hkind : fault.kind = .interrupted
        · simp only [hkind, if_true]
          refine ⟨h, fun p hp hends => ?_⟩
          exact absurd hkind ((h.plays _ hends).2 s rfl fault hending)
        · simp only [hkind, if_false]
          exact after_recover_passes hready h.position_eq _ (fun P hP => (h.plays P hP).1) h.advice_eq
            (by omega) fun _ => by omega

end

theorem Onward.refl (hready : c.Ready) (hserved : ∀ s ∈ c.stream, c.Served content s) :
    Onward content c w c w :=
  ⟨hready, rfl, hserved, fun _ h => h, fun _ h => h, Nat.le_refl _⟩

/-- An open takes the next entry of the script. -/
theorem after_openAt_script (content : Bytes) (request : ReadRequest) (pin : Option Int) (w : Rehearsal) :
    After ((opener content).openAt request pin) w fun result w' => w'.advice = w.advice ∧
      match w.script with
      | [] => w'.script = [] ∧ result = .error exhausted
      | s :: rest => w'.script = rest ∧ result = s.perform content request.range := by
  show After (openNext content request pin) w _
  unfold After openNext
  cases w.script with
  | nil => simp only [and_self]
  | cons s rest => simp only [and_self]

/-- What a scripted open serves is no more than the channel has yet to read. -/
theorem served_of_perform (hready : c.Ready) {s : ScriptedOpen} (hs : s.Serves)
    {opened : Opened ScriptedStream}
    (h : s.perform content (c.request.startingAt c.position).range = .ok opened) :
    opened.stream.source = s ∧ opened.stream.interrupts = s.interrupts ∧
      c.Served content opened.stream := by
  have hstart := ReadRequest.start_startingAt fun stop hstop => Nat.le_of_lt (hready.room stop hstop)
  have hstop := (c.request.startingAt_eq c.position).2.2
  obtain ⟨hlength, hwithin⟩ :=
    ScriptedOpen.length_octets_le hs content (c.request.startingAt c.position).range
  unfold ScriptedOpen.perform at h
  cases hfault : s.fault with
  | some fault => simp [hfault] at h
  | none =>
      simp only [hfault, Except.ok.injEq] at h
      subst h
      rw [hstart] at hlength hwithin
      rw [hstop] at hwithin
      exact ⟨rfl, rfl, hlength, hwithin⟩

/-- A stream that is opened brings the channel onward, and stands for its entry of the script. -/
theorem onward_of_perform (hready : c.Ready) (hnone : c.stream = none) {s : ScriptedOpen} (hs : s.Serves)
    (hscript : w.script = s :: w'.script) (hadvice : w'.advice = w.advice)
    {opened : Opened ScriptedStream}
    (hperform : s.perform content (c.request.startingAt c.position).range = .ok opened)
    (hsettle : c.settleGeneration opened.generation = .ok c') :
    Onward content c w (c'.streaming opened.stream) w' := by
  obtain ⟨hsource, hinterrupts, hopened⟩ := served_of_perform hready hs hperform
  obtain ⟨hsame, -, -⟩ := settleGeneration_eq hsettle
  have hbefore : c.turnsLeft w = s.interrupts + 1 + w'.scriptTurns + 1 := by
    simp [turnsLeft, hnone, scriptTurns, hscript]
  have hnow : (c'.streaming opened.stream).turnsLeft w' =
      opened.stream.interrupts + 1 + w'.scriptTurns + 1 := rfl
  rw [hsame] at hnow ⊢
  refine ⟨⟨hready.isOpen_eq, hready.broken_eq, hready.room⟩, rfl, ?_, ?_, ?_, ?_⟩
  · rintro _ ⟨⟩
    exact ⟨hopened.length_le, hopened.within⟩
  · refine fun P hP => ⟨fun other hother => ?_, ?_⟩
    · exact hP.1 other (by rw [hscript]; exact List.mem_cons_of_mem _ hother)
    · rintro _ ⟨⟩
      rw [hsource]
      exact hP.1 s (by rw [hscript]; exact List.mem_cons_self)
  · exact fun p hp => hadvice.trans hp
  · omega

/-- A stream is brought under way, the one there is or the next one of the script, unless the turn ends
    before. -/
theorem after_prepare_comes (hready : c.Ready) (hserved : ∀ s ∈ c.stream, c.Served content s)
    (hplays : c.Plays ScriptedOpen.Serves w) :
    After (c.prepare (opener content) adviser) w fun prepared w' =>
      match prepared with
      | .error turn => Passes content c w turn w'
      | .ok (c', s) => Onward content c w (c'.streaming s) w' := by
  unfold prepare
  cases hstream : c.stream with
  | some s =>
      have hsame : c.streaming s = c := by
        rw [streaming, ← hstream]
      show Onward content c w (c.streaming s) w
      rw [hsame]
      exact .refl hready hserved
  | none =>
      have hleft : c.turnsLeft w = w.scriptTurns + 1 := by simp [turnsLeft, hstream]
      refine After.bind (after_openAt_script content _ _ w) ?_
      rintro result w₁ ⟨hadvice, hresult⟩
      cases hscript : w.script with
      | nil =>
          rw [hscript] at hresult
          obtain ⟨hscript₁, rfl⟩ := hresult
          have hgone : (c.generation.isSome && exhausted.isNotFound) = false := Bool.and_false _
          simp only [hgone, Bool.false_eq_true, if_false]
          refine After.bind (after_recover_passes hready rfl exhausted ?_ ?_ ?_ ?_) fun _ _ h => h
          · exact fun P hP s hs => absurd hs (by simp [hscript₁])
          · exact fun p hp => hadvice.trans hp
          · exact Nat.le_of_eq (by rw [hleft, scriptTurns, scriptTurns, hscript₁, hscript])
          · exact fun hother => absurd rfl hother
      | cons s rest =>
          rw [hscript] at hresult
          obtain ⟨hscript₁, rfl⟩ := hresult
          have hturns : w.scriptTurns = s.interrupts + 1 + w₁.scriptTurns := by
            rw [scriptTurns, scriptTurns, hscript₁, hscript, List.foldr_cons]
          have hrest : ∀ P, c.Plays P w → ∀ s ∈ w₁.script, P s := fun P hP other hother =>
            hP.1 other (by rw [hscript, ← hscript₁]; exact List.mem_cons_of_mem _ hother)
          cases hperform : s.perform content (c.request.startingAt c.position).range with
          | error fault =>
              by_cases hgone : (c.generation.isSome && fault.isNotFound) = true
              · simp only [hgone, if_true]
                exact trivial
              · simp only [hgone]
                refine After.bind (after_recover_passes hready rfl fault hrest ?_ ?_ ?_) fun _ _ h => h
                · exact fun p hp => hadvice.trans hp
                · omega
                · exact fun _ => by omega
          | ok opened =>
              have hs := hplays.1 s (by rw [hscript]; exact List.mem_cons_self)
              cases hsettle : c.settleGeneration opened.generation with
              | error reason =>
                  simp only [hsettle]
                  exact trivial
              | ok c' =>
                  simp only [hsettle, After.pure_iff]
                  exact onward_of_perform hready hstream hs (by rw [hscript, hscript₁]) hadvice hperform
                    hsettle

/-! ## One read -/

/-- What a turn comes to that reads octets from a stream. -/
def giving (c : Channel ScriptedStream) (s : ScriptedStream) (sizes : List Nat) :
    Except ReadFailure Progress × Channel ScriptedStream :=
  (.ok (.octets (s.left.take (s.room sizes))),
    c.advanced (s.skip (s.room sizes)) (s.left.take (s.room sizes)))

/-- What a read comes to, whatever its destinations are: to nothing, to a failure, to the end, or to octets
    of a stream. -/
inductive Arrival where
  | unsettled
  | failed (failure : ReadFailure) (c : Channel ScriptedStream)
  | ended (c : Channel ScriptedStream)
  | reading (c : Channel ScriptedStream) (s : ScriptedStream)

/-- What is read into destinations. -/
def Arrival.into (sizes : List Nat) :
    Arrival → Option (Except ReadFailure Progress × Channel ScriptedStream)
  | .unsettled => none
  | .failed failure c => some (.error failure, c)
  | .ended c => some (.ok .endOfStream, c)
  | .reading c s => some (c.giving s sizes)

/-- Whether a channel gets to where it reads octets from a stream. -/
structure Reading (content : Bytes) (c : Channel ScriptedStream) (w : Rehearsal)
    (c' : Channel ScriptedStream) (s : ScriptedStream) (w' : Rehearsal) : Prop where
  onward : Onward content c w (c'.streaming s) w'
  interrupts_eq : s.interrupts = 0
  left_ne : s.left ≠ []

namespace Reading

variable {s : ScriptedStream}

theorem ready (h : Reading content c w c' s w') : c'.Ready :=
  ⟨h.onward.ready.isOpen_eq, h.onward.ready.broken_eq, h.onward.ready.room⟩

theorem served (h : Reading content c w c' s w') : c'.Served content s :=
  ⟨(h.onward.served s rfl).length_le, (h.onward.served s rfl).within⟩

theorem chunk_ne (h : Reading content c w c' s w') (hplays : c.Plays ScriptedOpen.Serves w) :
    s.source.chunk ≠ some 0 :=
  ((h.onward.plays _ hplays).2 s rfl).chunk_ne

end Reading

/-- Whether a channel can arrive there within so many turns. -/
def Arrival.Reached (content : Bytes) (c : Channel ScriptedStream) (w : Rehearsal) (limit : Nat)
    (arrival : Arrival) (w' : Rehearsal) : Prop :=
  match arrival with
  | .unsettled => ∀ p, w.advice = .policy p →
      c.Plays ScriptedOpen.Ends w → limit < c.turnsLeft w
  | .reading c' s => Reading content c w c' s w' ∧ 0 < limit
  | _ => True

/-- Whether a read arrives in one place within so many turns, whatever its destinations are. -/
def Arrives (content : Bytes) (c : Channel ScriptedStream) (w : Rehearsal) (limit : Nat)
    (read : List Nat → Option (Except ReadFailure Progress × Channel ScriptedStream) × Rehearsal) : Prop :=
  ∃ arrival w', Arrival.Reached content c w limit arrival w' ∧
    ∀ sizes, HasRoom sizes → read sizes = (arrival.into sizes, w')

theorem Arrives.of_onward {limit : Nat}
    {read : List Nat → Option (Except ReadFailure Progress × Channel ScriptedStream) × Rehearsal}
    (honward : Onward content c w c' w') (hless : ∀ p, w.advice = .policy p →
      c.Plays ScriptedOpen.Ends w → c'.turnsLeft w' < c.turnsLeft w)
    (h : Arrives content c' w' limit read) : Arrives content c w (limit + 1) read := by
  obtain ⟨arrival, w'', hreached, hread⟩ := h
  refine ⟨arrival, w'', ?_, hread⟩
  cases arrival with
  | unsettled =>
      intro p hp hends
      have hlt := hless p hp hends
      have hlimit := hreached p (honward.advice_eq p hp) (honward.plays _ hends)
      omega
  | failed failure c => trivial
  | ended c => trivial
  | reading c'' s =>
      obtain ⟨hreading, -⟩ := hreached
      exact ⟨⟨honward.trans hreading.onward, hreading.interrupts_eq, hreading.left_ne⟩, Nat.succ_pos _⟩

theorem readStream_of_none {s : ScriptedStream} (hnone : 0 < s.interrupts ∨ s.left = [])
    (sizes sizes' : List Nat) : readStream (opener content) adviser c s sizes =
      readStream (opener content) adviser c s sizes' := by
  unfold readStream
  simp only [opener, ScriptedStream.read_of_none hnone sizes sizes']

theorem readStream_of_left {s : ScriptedStream} (hinterrupts : s.interrupts = 0) (hleft : s.left ≠ [])
    (hchunk : s.source.chunk ≠ some 0) {sizes : List Nat} (hsizes : HasRoom sizes) (w : Rehearsal) :
    readStream (opener content) adviser c s sizes w =
      (.settled (c.giving s sizes).1 (c.giving s sizes).2, w) := by
  have hgiven : s.left.take (s.room sizes) ≠ [] := by
    intro hempty
    rcases List.take_eq_nil_iff.1 hempty with hzero | hnil
    · exact Nat.ne_of_gt (ScriptedStream.room_pos hsizes hchunk) hzero
    · exact hleft hnil
  unfold readStream
  simp only [opener, ScriptedStream.read_of_left hinterrupts hleft, pure_bind, deliver]
  rw [if_neg fun he => hgiven (List.isEmpty_iff.1 he)]
  rfl

theorem rounds_arrives (hserved : ∀ s ∈ c.stream, c.Served content s) (hready : c.Ready)
    (hplays : c.Plays ScriptedOpen.Serves w) (limit : Nat) : Arrives content c w limit fun sizes =>
      rounds (opener content) adviser limit c sizes w := by
  induction limit generalizing c w with
  | zero => exact ⟨.unsettled, w, fun _ _ _ => Nat.succ_pos _, fun _ _ => rfl⟩
  | succ limit ih =>
      -- a turn that gives no octets settles the read, or is followed by others
      have hpasses : ∀ turn w₁, Passes content c w turn w₁ → Arrives content c w (limit + 1) fun sizes =>
          settle (opener content) adviser sizes limit turn w₁ := by
        intro turn w₁ hpass
        rcases turn with ⟨failure | bs | _, c'⟩ | c'
        · exact ⟨.failed failure c', w₁, trivial, fun _ _ => rfl⟩
        · exact hpass.elim
        · exact ⟨.ended c', w₁, trivial, fun _ _ => rfl⟩
        · obtain ⟨honward, hless⟩ := hpass
          exact (ih honward.served honward.ready (honward.plays _ hplays)).of_onward honward hless
      have hcomes := after_prepare_comes hready hserved hplays
      simp only [rounds_succ, turn_eq_prepare, bind_apply]
      unfold After at hcomes
      generalize c.prepare (opener content) adviser w = prepared at hcomes ⊢
      obtain ⟨turn | ⟨c', s⟩, w₁⟩ := prepared
      · exact hpasses turn w₁ hcomes
      · by_cases hnone : 0 < s.interrupts ∨ s.left = []
        · obtain ⟨arrival, w', hreached, hsettle⟩ :=
            hpasses _ _ (after_readStream_passes hcomes hnone [])
          refine ⟨arrival, w', hreached, fun sizes hsizes => ?_⟩
          rw [← hsettle sizes hsizes, readStream_of_none hnone [] sizes]
          rfl
        · rw [not_or] at hnone
          have hreading : Reading content c w c' s w₁ := ⟨hcomes, by omega, hnone.2⟩
          refine ⟨.reading c' s, w₁, ⟨hreading, Nat.succ_pos _⟩, fun sizes hsizes => ?_⟩
          dsimp only [readPrepared]
          rw [readStream_of_left hreading.interrupts_eq hnone.2 (hreading.chunk_ne hplays) hsizes]
          rfl

theorem advance_arrives (hserved : ∀ s ∈ c.stream, c.Served content s)
    (hplays : c.Plays ScriptedOpen.Serves w) (limit : Nat) : Arrives content c w limit fun sizes =>
      c.advance (opener content) adviser limit sizes w := by
  unfold advance
  cases hbroken : c.broken with
  | some reason => exact ⟨.failed (c.resumptionFailure reason) c, w, trivial, fun _ _ => rfl⟩
  | none =>
      cases hopen : c.isOpen with
      | false => exact ⟨.ended c, w, trivial, fun _ _ => rfl⟩
      | true =>
          cases hexhausted : c.isExhausted with
          | true => exact ⟨.ended c.close, w, trivial, fun _ _ => rfl⟩
          | false =>
              have hready : c.Ready := ⟨hopen, hbroken, fun stop hstop => by
                rw [Option.mem_def] at hstop
                simpa [isExhausted, hstop] using hexhausted⟩
              obtain ⟨arrival, w', hreached, hrounds⟩ := rounds_arrives hserved hready hplays limit
              refine ⟨arrival, w', hreached, fun sizes hsizes => ?_⟩
              rw [← hrounds sizes hsizes]
              simp only [hsizes.all_eq_false, Bool.not_true, Bool.false_eq_true, if_false]

end Channel

end SteadyFetch
