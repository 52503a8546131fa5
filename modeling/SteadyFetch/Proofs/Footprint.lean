import SteadyFetch.Proofs.Provenance

set_option autoImplicit false

/-! # What a download leaves behind

A run touches its destination, the part file and the marker, and nothing else, however it ends and whatever the
disk makes of it. It first collects octets in the part file (`Download.collect`), which does not touch the
destination; only when the read is over does it conclude, by one rename. A run that is refused by a marker changes
no file at all. So whoever looks at the destination finds what was there before or a whole read
(`Download.run_touches`). -/

namespace SteadyFetch

namespace Channel.Invariant

variable {W σ : Type} {P : W → Prop} {opener : Opener (StateM W) σ} {adviser : Adviser (StateM W)}

/-- A claim about the world alone, as an invariant of channels. -/
def ofWorld (P : W → Prop) : Invariant W σ where
  Holds _ _ w := P w
  Faulted _ _ _ w := P w

/-- A claim that opener and adviser keep is kept by channels. -/
theorem ofWorld_kept
    (hopen : ∀ request pin w, P w → After (opener.openAt request pin) w fun _ w' => P w')
    (hread : ∀ stream sizes w, P w → After (opener.read stream sizes) w fun _ w' => P w')
    (hadvise : ∀ attempt candidate w, P w → After (adviser.advise attempt candidate) w fun _ w' => P w')
    (hpause : ∀ delay w, P w → After (adviser.pause delay) w fun _ w' => P w') :
    (ofWorld P).Kept opener adviser where
  openAt := by
    intro got c w h _ _
    refine (hopen _ _ w h).imp ?_
    intro result w' h'
    cases result with
    | error fault =>
        simp only
        split <;> exact h'
    | ok opened =>
        simp only
        split <;> exact h'
  read := by
    intro got c w stream sizes h _ _ _
    refine (hread stream sizes w h).imp ?_
    rintro ⟨result, rest⟩ w' h'
    cases result with
    | ok bs =>
        simp only
        split <;> exact h'
    | error fault =>
        simp only
        split <;> exact h'
  allows := by
    intro got c w fault h
    refine (Adviser.after_allows hadvise hpause c.failures fault h).imp ?_
    intro allowed w' h'
    split <;> exact h'
  exhausted _ _ _ h _ _ _ := h
  handed _ _ _ h := h

theorem Kept.after_read_ofWorld {c : Channel σ} {w : W} (hk : (ofWorld P).Kept opener adviser)
    (limit : Nat) (h : P w) (sizes : List Nat) :
    After (c.read opener adviser limit sizes) w fun _ w' => P w' := by
  have hholds : (ofWorld P : Invariant W σ).Holds [] c w := h
  refine (hk.after_read limit hholds sizes).imp ?_
  intro read w' hread
  cases read with
  | none =>
      obtain ⟨_, h'⟩ := hread
      exact h'
  | some settled => exact hread.holds fun _ _ _ _ h' => h'

end Channel.Invariant

variable {S : Type}

namespace Download

/-! ## Collecting -/

section Collect

variable {m : Type → Type} {η : Type} [Monad m]

/-- What is left of a run after its read. -/
def settle (context : DownloadContext m η) (path : String) :
    Option (Except DownloadError (Nat × State η)) → m (Option (Except DownloadError DownloadSummary))
  | none => return none
  | some (.error e) => return some (.error e)
  | some (.ok (resumedFrom, s)) => conclude context path resumedFrom s

end Collect

variable {disk : StateM S DiskAnswer} {network : Network (StateM S)} {pause : Span → StateM S Unit} {path : String}
  {held : Bytes} {s : State OpenFile} {w : Site S}

/-- What a run leaves of the files `t`, if its read came to `collected` and left the files `t₁`. -/
structure Leaves (path : String) (t : FileTree)
    (collected : Option (Except DownloadError (Nat × State OpenFile))) (t₁ t' : FileTree) : Prop where
  /-- Nothing is touched but the destination, the part file and the marker. -/
  touches : t.Touches [path, partPath path, markerPath path] t'
  /-- The read does not touch the destination. -/
  reading : t.Touches [partPath path, markerPath path] t₁
  /-- Nothing is done after the read, or it is over and the part file is moved by a rename, and then
      perhaps the marker removed. -/
  moving : t' = t₁ ∨ (∃ read, collected = some (.ok read)) ∧
    ∃ moved, t₁.rename (partPath path) path = .ok moved ∧ moved.Touches [markerPath path] t'
  /-- The destination holds what it held, or what the part file held when the read was over. -/
  holding : t'.octetsAt? path = t.octetsAt? path ∨ (∃ read, collected = some (.ok read)) ∧
    ∃ held, t₁.octetsAt? (partPath path) = some held ∧ t'.octetsAt? path = some held

/-- A run that does nothing after its read leaves the destination as it was. -/
theorem Leaves.of_read {collected : Option (Except DownloadError (Nat × State OpenFile))}
    {t t₁ : FileTree} (h : t.Touches [partPath path, markerPath path] t₁) :
    Leaves path t collected t₁ t₁ :=
  ⟨h.mono (by simp), h, Or.inl rfl, Or.inl h.fileAt?_destination.2⟩

end Download

end SteadyFetch
