import SteadyFetch.Proofs.Bodies

set_option autoImplicit false

/-! # Reading a body to its end, and beyond

Frames stand for the octets of their chunks up to the first end of a transfer (`payload`), and for the fault
of that end, if it is one (`ending?`). A stream that is under way stands for what is left of them (`left`,
`fault?`), so what one read makes of it is a matter of three cases (`Came`), and what any number of reads
give follows by induction (`Given`). -/

namespace SteadyFetch.BodyStream

/-! ## What frames stand for -/

/-- The octets of a body: those of its chunks before the transfer ends. -/
def payload : List Frame → Bytes
  | [] => []
  | .head _ _ :: frames => payload frames
  | .body bs :: frames => bs ++ payload frames
  | .done _ :: _ => []

/-- The fault that ends a body, if one does. A transfer that never says how it ended went away. -/
def ending? : List Frame → Option IoFault
  | [] => some vanished
  | .head _ _ :: frames => ending? frames
  | .body _ :: frames => ending? frames
  | .done failure :: _ => failure.map .transfer

/-- The frames that can be told from what reads give: chunks that hold octets, and the first end. -/
def visible : List Frame → List Frame
  | [] => []
  | .head _ _ :: frames => visible frames
  | .body bs :: frames => if bs.isEmpty then visible frames else .body bs :: visible frames
  | .done failure :: _ => [.done failure]

/-- The octets that a stream has left to give. -/
def left (s : BodyStream) : Bytes := s.chunk ++ if s.finished then [] else payload s.frames

/-- The fault that a stream has left to report after them. -/
def fault? (s : BodyStream) : Option IoFault := if s.finished then none else ending? s.frames

theorem left_ofFrames (frames : List Frame) : (ofFrames frames).left = payload frames := rfl

theorem fault?_ofFrames (frames : List Frame) : (ofFrames frames).fault? = ending? frames := rfl

/-! ## One read -/

/-- What a read into a destination with room makes of a stream that has octets left, and maybe a fault. -/
inductive Came (size : Nat) (rest : Bytes) (fault? : Option IoFault) :
    Except IoFault Bytes × BodyStream → Prop
  /-- Octets come first. -/
  | octets {bs : Bytes} {s : BodyStream} (hbs : bs ≠ []) (hsize : bs.length ≤ size)
      (hrest : rest = bs ++ s.left) (hfault : s.fault? = fault?) : Came size rest fault? (.ok bs, s)
  /-- The fault comes once there are none, and leaves nothing. -/
  | failed {fault : IoFault} {s : BodyStream} (hrest : rest = []) (hfault : fault? = some fault)
      (hleft : s.left = []) (hnone : s.fault? = none) : Came size rest fault? (.error fault, s)
  /-- The end comes last, and stays. -/
  | ended {s : BodyStream} (hrest : rest = []) (hfault : fault? = none) (hleft : s.left = [])
      (hnone : s.fault? = none) : Came size rest fault? (.ok [], s)

variable {s : BodyStream} {size : Nat}

theorem came_give (s : BodyStream) (hsize : 0 < size) {chunk : Bytes} (hchunk : chunk ≠ [])
    (frames : List Frame) :
    Came size (chunk ++ if s.finished then [] else payload frames)
      (if s.finished then none else ending? frames) (s.give size chunk frames) := by
  refine .octets ?_ (List.length_take_le size chunk) ?_ rfl
  · intro hempty
    rcases List.take_eq_nil_iff.1 hempty with hzero | hnil
    · omega
    · exact hchunk hnil
  · show _ = chunk.take size ++ (chunk.drop size ++ _)
    rw [← List.append_assoc, List.take_append_drop]

theorem came_pull (s : BodyStream) (hsize : 0 < size) (hfinished : s.finished = false)
    (frames : List Frame) : Came size (payload frames) (ending? frames) (s.pull size frames) := by
  induction frames with
  | nil => exact .failed rfl rfl rfl rfl
  | cons frame frames ih =>
      cases frame with
      | head status lines => exact ih
      | body bs =>
          rw [payload, ending?, pull]
          by_cases hempty : bs = []
          · rw [if_pos (List.isEmpty_iff.2 hempty), hempty, List.nil_append]
            exact ih
          · rw [if_neg (fun he => hempty (List.isEmpty_iff.1 he))]
            have hgive := s.came_give hsize hempty frames
            rwa [hfinished] at hgive
      | done failure =>
          cases failure with
          | none => exact .ended rfl rfl rfl rfl
          | some code => exact .failed rfl rfl rfl rfl

theorem came_read (s : BodyStream) (hsize : 0 < size) : Came size s.left s.fault? (s.read size) := by
  have hzero : size ≠ 0 := by omega
  unfold BodyStream.read left fault?
  by_cases hchunk : s.chunk = []
  · cases hfinished : s.finished with
    | false =>
        simp only [hzero, hchunk, List.isEmpty_nil, Bool.not_true, Bool.false_eq_true, if_false,
          List.nil_append]
        exact s.came_pull hsize hfinished s.frames
    | true =>
        simp only [hzero, hchunk, List.isEmpty_nil, Bool.not_true, Bool.false_eq_true, if_false, if_true]
        exact .ended rfl rfl (by simp [left, hchunk, hfinished]) (by simp [fault?, hfinished])
  · have hfull : s.chunk.isEmpty = false := by
      rw [Bool.eq_false_iff]
      exact fun he => hchunk (List.isEmpty_iff.1 he)
    simp only [hzero, hfull, Bool.not_false, if_false, if_true]
    exact s.came_give hsize hchunk s.frames

/-! ## Any reads -/

/-- What reads give, one after the other, of a stream that has octets left, and maybe a fault. A read fills the
    first of its destinations that is not empty. -/
inductive Given : Bytes → Option IoFault → List (List Nat) → List (Except IoFault Bytes) → Prop
  | start {rest : Bytes} {fault? : Option IoFault} : Given rest fault? [] []
  /-- Without room a read gives nothing, and what is left stays. -/
  | full {rest : Bytes} {fault? : Option IoFault} {sizes : List Nat} {calls : List (List Nat)}
      {results : List (Except IoFault Bytes)} (hroom : sizes.find? (0 < ·) = none)
      (hlater : Given rest fault? calls results) : Given rest fault? (sizes :: calls) (.ok [] :: results)
  /-- With room it gives the next octets, at most as many as there is room for. -/
  | octets {bs rest : Bytes} {fault? : Option IoFault} {sizes : List Nat} {size : Nat}
      {calls : List (List Nat)} {results : List (Except IoFault Bytes)}
      (hroom : sizes.find? (0 < ·) = some size) (hbs : bs ≠ []) (hsize : bs.length ≤ size)
      (hlater : Given rest fault? calls results) :
      Given (bs ++ rest) fault? (sizes :: calls) (.ok bs :: results)
  /-- Once there are none it reports the fault, which is gone then. -/
  | failed {fault : IoFault} {sizes : List Nat} {size : Nat} {calls : List (List Nat)}
      {results : List (Except IoFault Bytes)} (hroom : sizes.find? (0 < ·) = some size)
      (hlater : Given [] none calls results) : Given [] (some fault) (sizes :: calls) (.error fault :: results)
  /-- With neither octets nor a fault left it gives nothing. -/
  | ended {sizes : List Nat} {size : Nat} {calls : List (List Nat)} {results : List (Except IoFault Bytes)}
      (hroom : sizes.find? (0 < ·) = some size) (hlater : Given [] none calls results) :
      Given [] none (sizes :: calls) (.ok [] :: results)

theorem given_readEach (s : BodyStream) (calls : List (List Nat)) :
    Given s.left s.fault? calls (s.readEach calls).1 := by
  induction calls generalizing s with
  | nil => exact .start
  | cons sizes calls ih =>
      unfold readEach readInto
      cases hroom : sizes.find? (0 < ·) with
      | none => exact .full hroom (ih s)
      | some size =>
          have hpos : 0 < size := of_decide_eq_true (List.find?_some (p := fun n => decide (0 < n)) hroom)
          have hcame := s.came_read hpos
          have hlater := ih (s.read size).2
          simp only [Option.getD_some]
          generalize s.left = rest at hcame ⊢
          generalize s.fault? = fault? at hcame ⊢
          generalize s.read size = read at hcame hlater ⊢
          cases hcame with
          | octets hbs hsize hrest hfault =>
              subst hrest hfault
              exact .octets hroom hbs hsize hlater
          | failed hrest hfault hleft hnone =>
              subst hrest hfault
              rw [hleft, hnone] at hlater
              exact .failed hroom hlater
          | ended hrest hfault hleft hnone =>
              subst hrest hfault
              rw [hleft, hnone] at hlater
              exact .ended hroom hlater

/-- A read without room changes nothing, so it can be left out. -/
theorem readEach_filter (s : BodyStream) (calls : List (List Nat)) :
    (s.readEach (calls.filter fun sizes => (sizes.find? (0 < ·)).isSome)).2 = (s.readEach calls).2 := by
  induction calls generalizing s with
  | nil => rfl
  | cons sizes calls ih =>
      cases hroom : sizes.find? (0 < ·) with
      | some size =>
          rw [List.filter_cons_of_pos (by rw [hroom]; rfl)]
          exact ih (s.readInto sizes).2
      | none =>
          rw [List.filter_cons_of_neg (by rw [hroom]; nofun)]
          have hsame : s.readInto sizes = (.ok [], s) := by
            rw [readInto, hroom]
            rfl
          refine (ih s).trans ?_
          show _ = ((s.readInto sizes).2.readEach calls).2
          rw [hsame]

/-! ## What cannot be seen -/

/-- Whether a stream shows what another one does: it holds the visible frames of the other one, as long as those
    matter. -/
structure Shows (s shown : BodyStream) : Prop where
  chunk_eq : shown.chunk = s.chunk
  finished_eq : shown.finished = s.finished
  frames_eq : s.finished = false → shown.frames = visible s.frames

theorem shows_ofFrames (frames : List Frame) : (ofFrames frames).Shows (ofFrames (visible frames)) :=
  ⟨rfl, rfl, fun _ => rfl⟩

namespace Shows

variable {shown : BodyStream}

theorem pull (h : s.Shows shown) (frames : List Frame) :
    (shown.pull size (visible frames)).1 = (s.pull size frames).1 ∧
      (s.pull size frames).2.Shows (shown.pull size (visible frames)).2 := by
  induction frames with
  | nil => exact ⟨rfl, rfl, rfl, fun _ => rfl⟩
  | cons frame frames ih =>
      cases frame with
      | head status lines => exact ih
      | body bs =>
          rw [visible, BodyStream.pull]
          by_cases hempty : bs.isEmpty = true
          · rw [if_pos hempty, if_pos hempty]
            exact ih
          · rw [if_neg hempty, if_neg hempty, BodyStream.pull, if_neg hempty]
            exact ⟨rfl, rfl, h.finished_eq, fun _ => rfl⟩
      | done failure =>
          cases failure <;> exact ⟨rfl, rfl, rfl, fun h => absurd h.symm Bool.false_ne_true⟩

theorem readInto (h : s.Shows shown) (sizes : List Nat) :
    (shown.readInto sizes).1 = (s.readInto sizes).1 ∧ (s.readInto sizes).2.Shows (shown.readInto sizes).2 := by
  unfold BodyStream.readInto BodyStream.read
  rw [h.chunk_eq, h.finished_eq]
  generalize (sizes.find? (0 < ·)).getD 0 = size
  by_cases hzero : size = 0
  · simp only [hzero, if_true]
    exact ⟨trivial, h⟩
  by_cases hchunk : (!s.chunk.isEmpty) = true
  · simp only [hzero, hchunk, if_false, if_true]
    exact ⟨rfl, rfl, h.finished_eq, h.frames_eq⟩
  cases hfinished : s.finished with
  | true =>
      simp only [hzero, hchunk, if_false, if_true]
      exact ⟨rfl, h⟩
  | false =>
      simp only [hzero, hchunk, if_false, h.frames_eq hfinished]
      exact h.pull s.frames

theorem readEach (h : s.Shows shown) (calls : List (List Nat)) :
    (shown.readEach calls).1 = (s.readEach calls).1 := by
  induction calls generalizing s shown with
  | nil => rfl
  | cons sizes calls ih =>
      obtain ⟨hresult, hshows⟩ := h.readInto sizes
      exact List.cons_eq_cons.2 ⟨hresult, ih hshows⟩

end Shows

/-- **Reads give the body, and then how it ended.** Whatever frames are queued and however they are read:
    reads with room give the octets of the chunks before the first end of the transfer, in order, each at
    least one and at most as many as its destination takes; then the fault of that end, once, if it is one,
    or that the transfer went away, if there is none; and from then on nothing. What comes with no octets, or
    after the first end, makes no difference, and neither does a read without room. -/
theorem readEach_gives_payload (frames : List Frame) (calls : List (List Nat)) :
    Given (payload frames) (ending? frames) calls ((ofFrames frames).readEach calls).1 ∧
      ((ofFrames (visible frames)).readEach calls).1 = ((ofFrames frames).readEach calls).1 ∧
      ((ofFrames frames).readEach (calls.filter fun sizes => (sizes.find? (0 < ·)).isSome)).2 =
        ((ofFrames frames).readEach calls).2 := by
  have hgiven := given_readEach (ofFrames frames) calls
  rw [left_ofFrames, fault?_ofFrames] at hgiven
  exact ⟨hgiven, (shows_ofFrames frames).readEach calls, readEach_filter (ofFrames frames) calls⟩

end SteadyFetch.BodyStream
