import Mathlib.Data.List.Infix
import SteadyFetch.Proofs.Backoff
import SteadyFetch.Proofs.Invariants

set_option autoImplicit false

/-! # Two looks at a fault

A policy is asked about a fault as it came, which it judges by its strict class. If it declines, a fault of the
protocol is put to it once more, as the failure it becomes, and then the wording of an I/O fault that has no class
of its own counts too. What a fault becomes is told by `Fault.Becomes`: the class is widened for such a fault
alone, and never taken back where it was transient (`Fault.becomes_iff`).

Hence the two looks cannot contradict each other. They come to one look at what the fault becomes
(`RetryPolicy.allows_eq`), and a channel that looks twice does what it would do if it looked once
(`Channel.performEach_looks_once`). -/

namespace SteadyFetch

/-! ## Wordings -/

theorem occursIn_iff (needle cs : List Char) : occursIn needle cs = true ↔ needle <:+: cs := by
  induction cs with
  | nil => rw [occursIn, List.isEmpty_iff, List.infix_nil]
  | cons c cs ih => rw [occursIn, Bool.or_eq_true, List.isPrefixOf_iff_prefix, ih, List.infix_cons_iff]

/-- Whether a message contains a wording once the letters of ASCII in it are in lower case. -/
def Mentions (message wording : String) : Prop := wording.toList <:+: message.toList.map Char.toLower

/-- The class that the wording of a message tells of: a dropped connection or, failing that, a timeout. -/
inductive Hinted (message : String) : FaultClass → Prop
  | connection {hint : String} (hmem : hint ∈ connectionHints) (hmentions : Mentions message hint) :
      Hinted message .connection
  | timeout (hnone : ∀ hint ∈ connectionHints, ¬Mentions message hint) (hmentions : Mentions message timeoutHint) :
      Hinted message .timeout

theorem hintedClass_eq_iff {message : String} {kind : FaultClass} (hkind : kind ≠ .other) :
    hintedClass message = kind ↔ Hinted message kind := by
  have hany : (connectionHints.any fun hint => occursIn hint.toList (lowerAscii message.toList)) = true ↔
      ∃ hint ∈ connectionHints, Mentions message hint := by
    simp only [List.any_eq_true, occursIn_iff]
    rfl
  have htimeout : occursIn timeoutHint.toList (lowerAscii message.toList) = true ↔
      Mentions message timeoutHint := occursIn_iff _ _
  unfold hintedClass
  by_cases hconnection : ∃ hint ∈ connectionHints, Mentions message hint
  · rw [if_pos (hany.2 hconnection)]
    obtain ⟨hint, hmem, hmentions⟩ := hconnection
    constructor
    · rintro rfl
      exact .connection hmem hmentions
    · rintro (_ | ⟨hnone, -⟩)
      · rfl
      · exact absurd hmentions (hnone hint hmem)
  rw [if_neg (mt hany.1 hconnection)]
  by_cases hlate : Mentions message timeoutHint
  · rw [if_pos (htimeout.2 hlate)]
    constructor
    · rintro rfl
      exact .timeout (fun hint hmem hmentions => hconnection ⟨hint, hmem, hmentions⟩) hlate
    · rintro (⟨hmem, hmentions⟩ | _)
      · exact absurd ⟨_, hmem, hmentions⟩ hconnection
      · rfl
  · rw [if_neg (mt htimeout.1 hlate)]
    refine ⟨fun hother => absurd hother.symm hkind, ?_⟩
    rintro (⟨hmem, hmentions⟩ | ⟨-, hmentions⟩)
    · exact absurd ⟨_, hmem, hmentions⟩ hconnection
    · exact absurd hmentions hlate

/-! ## What a fault becomes -/

namespace Fault

variable {fault : Fault} {kind : FaultClass}

/-- What a fault becomes as a failed read: it is kept as the source, it is no failure of the transport only if it
    is no fault of the protocol, and its class stays unless it is an I/O fault without one whose wording tells of
    one. -/
structure Becomes (fault : Fault) (failure : ReadFailure) : Prop where
  source_eq : failure.source? = some fault
  other_iff : failure = .other fault ↔ fault.isProtocol = false
  transient_kept : fault.faultClass.isTransient = true → failure.faultClass = fault.faultClass
  strict_kept : (∀ io, fault ≠ .io io) → failure.faultClass = fault.faultClass
  widened_iff : ∀ kind, failure.faultClass = kind ∧ kind ≠ fault.faultClass ↔
    ∃ io, fault = .io io ∧ fault.faultClass = .other ∧ Hinted io.text kind

theorem widenedClass_of_ne_other (h : fault.faultClass ≠ .other) : fault.widenedClass = fault.faultClass := by
  unfold widenedClass
  split
  · next hother => exact absurd hother h
  · rfl

theorem widenedClass_of_ne_io (h : ∀ io, fault ≠ .io io) : fault.widenedClass = fault.faultClass := by
  unfold widenedClass
  split
  · exact absurd rfl (h _)
  · rfl

theorem widenedClass_io {io : IoFault} (h : (Fault.io io).faultClass = .other) :
    (Fault.io io).widenedClass = hintedClass io.text := by
  unfold widenedClass
  rw [h]

/-- Whatever becomes of a fault has its wider class. -/
theorem faultClass_readFailure (fault : Fault) : fault.readFailure.faultClass = fault.widenedClass := by
  cases fault <;> rfl

theorem source?_readFailure (fault : Fault) : fault.readFailure.source? = some fault := by
  cases fault <;> rfl

theorem readFailure_eq_other_iff (fault : Fault) : fault.readFailure = .other fault ↔ fault.isProtocol = false := by
  cases fault <;> simp [readFailure, isProtocol]

theorem ne_other_of_isTransient (h : kind.isTransient = true) : kind ≠ .other := by
  rintro rfl
  cases h

theorem becomes_readFailure (fault : Fault) : fault.Becomes fault.readFailure where
  source_eq := fault.source?_readFailure
  other_iff := fault.readFailure_eq_other_iff
  transient_kept h := (faultClass_readFailure fault).trans (widenedClass_of_ne_other (ne_other_of_isTransient h))
  strict_kept h := (faultClass_readFailure fault).trans (widenedClass_of_ne_io h)
  widened_iff kind := by
    rw [faultClass_readFailure]
    constructor
    · rintro ⟨rfl, hdiffers⟩
      have hother : fault.faultClass = .other := by
        by_contra hclass
        exact hdiffers (widenedClass_of_ne_other hclass)
      cases fault with
      | io io =>
          rw [hother, widenedClass_io hother] at hdiffers
          refine ⟨io, rfl, hother, ?_⟩
          rw [widenedClass_io hother]
          exact (hintedClass_eq_iff hdiffers).1 rfl
      | _ => exact absurd (widenedClass_of_ne_io (fun _ => Fault.noConfusion)) hdiffers
    · rintro ⟨io, rfl, hother, hhinted⟩
      have hkind : kind ≠ .other := by cases hhinted <;> nofun
      rw [widenedClass_io hother, hother]
      exact ⟨(hintedClass_eq_iff hkind).2 hhinted, hkind⟩

/-- The two classes of a fault may differ, where its wording tells what its kind does not. -/
example : (Fault.io (.described .other "Connection closed prematurely")).faultClass = .other ∧
    (Fault.io (.described .other "Connection closed prematurely")).readFailure.faultClass = .connection := by
  decide

namespace Becomes

variable {failure failure' : ReadFailure}

/-- A class that is widened is so in anything that the fault becomes. -/
theorem faultClass_of_widened (h : fault.Becomes failure) (h' : fault.Becomes failure')
    (hwidened : failure.faultClass ≠ fault.faultClass) : failure'.faultClass = failure.faultClass :=
  ((h'.widened_iff _).2 ((h.widened_iff _).1 ⟨rfl, hwidened⟩)).1

theorem faultClass_eq (h : fault.Becomes failure) (h' : fault.Becomes failure') :
    failure.faultClass = failure'.faultClass := by
  by_cases hwidened : failure.faultClass = fault.faultClass
  · by_cases hwidened' : failure'.faultClass = fault.faultClass
    · rw [hwidened, hwidened']
    · exact h'.faultClass_of_widened h hwidened'
  · exact (h.faultClass_of_widened h' hwidened).symm

theorem eq_transport (h : fault.Becomes failure) (hprotocol : fault.isProtocol = true) :
    failure = .transport failure.faultClass fault := by
  cases failure with
  | transport kind source =>
      obtain rfl := Option.some.inj h.source_eq
      rfl
  | resumption object reason => cases h.source_eq
  | other source =>
      obtain rfl := Option.some.inj h.source_eq
      rw [h.other_iff.1 rfl] at hprotocol
      cases hprotocol

end Becomes

/-- What a fault becomes is settled by that. -/
theorem becomes_iff (fault : Fault) (failure : ReadFailure) : fault.Becomes failure ↔ failure = fault.readFailure := by
  have hbecomes := fault.becomes_readFailure
  constructor
  · intro h
    cases hprotocol : fault.isProtocol with
    | false => rw [h.other_iff.2 hprotocol, hbecomes.other_iff.2 hprotocol]
    | true => rw [h.eq_transport hprotocol, hbecomes.eq_transport hprotocol, h.faultClass_eq hbecomes]
  · rintro rfl
    exact hbecomes

end Fault

/-! ## The looks of a policy -/

namespace RetryPolicy

variable {m : Type → Type} [Monad m]

theorem decide_other (p : RetryPolicy) (attempt : Nat) : p.decide attempt .other = none := by
  rw [decide_eq]
  exact if_neg fun h => Bool.false_ne_true h.1

/-- One look at a class: another attempt is allowed once the delay for it is over, or not at all. -/
def look (p : RetryPolicy) (pause : Span → m Unit) (attempt : Nat) (kind : FaultClass) : m Bool :=
  match p.decide attempt kind with
  | some delay => do
    pause delay
    return true
  | none => return false

/-- Two looks at a fault come to one look at what it becomes. -/
theorem allows_eq [LawfulMonad m] (p : RetryPolicy) (pause : Span → m Unit) (attempt : Nat) (fault : Fault) :
    (p.adviser pause).allows attempt fault = p.look pause attempt fault.readFailure.faultClass := by
  have hbecomes := fault.becomes_readFailure
  have hraw : (p.adviser pause).advise attempt (.raw fault) = pure (p.decide attempt fault.faultClass) := rfl
  have hclassified : (p.adviser pause).advise attempt (.classified fault.readFailure)
      = pure (p.decide attempt fault.readFailure.faultClass) := rfl
  unfold Adviser.allows look
  simp only [hraw, hclassified, pure_bind]
  by_cases htransient : fault.faultClass.isTransient = true
  · -- the class stays, so a fault that is declined once is declined again
    rw [hbecomes.transient_kept htransient]
    cases p.decide attempt fault.faultClass with
    | some delay => rfl
    | none => exact ite_self _
  · have hother : fault.faultClass = .other := by
      cases hclass : fault.faultClass <;> first | rfl | exact absurd (hclass ▸ rfl) htransient
    rw [hother, decide_other]
    cases hprotocol : fault.isProtocol with
    | true => rfl
    | false =>
        have hclass : fault.readFailure.faultClass = .other := by rw [hbecomes.other_iff.2 hprotocol]; rfl
        rw [hclass, decide_other]
        rfl

/-- An adviser that looks once: it judges a fault by what it becomes, and declines what is put to it again. -/
def foresight (p : RetryPolicy) (pause : Span → m Unit) : Adviser m where
  advise attempt
    | .raw fault => pure (p.decide attempt fault.readFailure.faultClass)
    | .classified _ => pure none
  pause := pause

theorem allows_foresight [LawfulMonad m] (p : RetryPolicy) (pause : Span → m Unit) (attempt : Nat) (fault : Fault) :
    (p.foresight pause).allows attempt fault = (p.adviser pause).allows attempt fault := by
  have hraw : (p.foresight pause).advise attempt (.raw fault)
      = pure (p.decide attempt fault.readFailure.faultClass) := rfl
  have hclassified : (p.foresight pause).advise attempt (.classified fault.readFailure) = pure none := rfl
  rw [allows_eq]
  unfold Adviser.allows look
  simp only [hraw, hclassified, pure_bind]
  cases p.decide attempt fault.readFailure.faultClass with
  | some delay => rfl
  | none => exact ite_self _

end RetryPolicy

/-! ## Channels -/

namespace Channel

variable {W σ : Type} {opener : Opener (StateM W) σ} {adviser adviser' : Adviser (StateM W)}

theorem recover_congr (h : ∀ attempt fault, adviser.allows attempt fault = adviser'.allows attempt fault)
    (c : Channel σ) (fault : Fault) : c.recover adviser fault = c.recover adviser' fault := by
  rw [recover_eq_allows, recover_eq_allows, h]

theorem turn_congr (h : ∀ attempt fault, adviser.allows attempt fault = adviser'.allows attempt fault)
    (c : Channel σ) (sizes : List Nat) : c.turn opener adviser sizes = c.turn opener adviser' sizes := by
  unfold turn openAndRead readStream
  simp only [recover_congr h]

theorem rounds_congr (h : ∀ attempt fault, adviser.allows attempt fault = adviser'.allows attempt fault)
    (limit : Nat) (c : Channel σ) (sizes : List Nat) :
    rounds opener adviser limit c sizes = rounds opener adviser' limit c sizes := by
  induction limit generalizing c with
  | zero => rfl
  | succ limit ih =>
      unfold rounds
      simp only [turn_congr h, ih]

theorem perform_congr (h : ∀ attempt fault, adviser.allows attempt fault = adviser'.allows attempt fault)
    (limit : Nat) (c : Channel σ) (call : Call) :
    c.perform opener adviser limit call = c.perform opener adviser' limit call := by
  unfold perform Channel.read readOctets advance
  simp only [rounds_congr h]

theorem performEach_congr (h : ∀ attempt fault, adviser.allows attempt fault = adviser'.allows attempt fault)
    (limit : Nat) (c : Channel σ) (calls : List Call) :
    c.performEach opener adviser limit calls = c.performEach opener adviser' limit calls := by
  induction calls generalizing c with
  | nil => rfl
  | cons call calls ih =>
      unfold performEach
      simp only [perform_congr h, ih]

/-- **A channel that looks twice at a fault does what one look at what it becomes would have it do.** Whatever the
    policy, the fault and the number of failures in a row: asking about the fault as it came and, if that is
    declined and it is one of the protocol, about the failure it becomes allows another attempt exactly if the
    policy does for the class of that failure, after the same delay; otherwise the read fails with that failure.
    So any calls to a channel give the same results, by the same opens and delays, as if it looked once. And what
    a fault becomes is its own source; it is no failure of the transport exactly if it is no fault of the
    protocol; it keeps a class that is transient, and that of a status or a failed transfer; and its class is
    widened exactly if it is an I/O fault without one whose message tells of a dropped connection or, failing
    that, of a timeout. -/
theorem performEach_looks_once (p : RetryPolicy) (pause : Span → StateM W Unit) :
    (∀ (attempt : Nat) (fault : Fault),
      (p.adviser pause).allows attempt fault = p.look pause attempt fault.readFailure.faultClass) ∧
    (∀ (c : Channel σ) (fault : Fault), c.recover (p.adviser pause) fault = do
      if ← p.look pause c.failed.failures fault.readFailure.faultClass then return .again c.failed
      else return .settled (.error fault.readFailure) c.failed) ∧
    (∀ (opener : Opener (StateM W) σ) (limit : Nat) (c : Channel σ) (calls : List Call),
      c.performEach opener (p.adviser pause) limit calls = c.performEach opener (p.foresight pause) limit calls) ∧
    ∀ (fault : Fault) (failure : ReadFailure), fault.Becomes failure ↔ failure = fault.readFailure := by
  refine ⟨p.allows_eq pause, fun c fault => ?_, fun opener limit c calls => ?_, Fault.becomes_iff⟩
  · rw [recover_eq_allows, RetryPolicy.allows_eq]
  · exact performEach_congr (fun attempt fault => (p.allows_foresight pause attempt fault).symm) limit c calls

end Channel

end SteadyFetch
