import Mathlib.Data.List.Forall2
import SteadyFetch.Proofs.Sites

set_option autoImplicit false

/-! # Any use of a part file

A download uses its part file in one way of many. Here the part file of a destination and its marker are
used in any way (`PartAction`), on any disk and with one part file open at most. Each action leaves the files as it
may (`PartAction.Leaves`), and a part file that is open accounts for its octets (`Site.Accounts`): it holds what
it was opened with and what was stored since, also by writes that failed on the way, and knows how much that is. -/

namespace SteadyFetch

/-- A use of the part file of a destination, or of its marker. -/
inductive PartAction where
  | create
  | resume
  /-- Appends octets, by as many writes as the disk makes of it. -/
  | write (bs : Bytes)
  | sync
  | saveMarker (marker : ResumeMarker)
  | finalize
  /-- Lets go of the part file. -/
  | close

namespace PartAction

/-! ## Performing actions -/

section

variable {m : Type → Type} {η : Type} [Monad m]

/-- Performs an action for a destination, with the part file that is open, if one is: whether it succeeded,
    and the part file that is open then. Before another one is opened, the one that is open is let go of. -/
def perform (files : Files m η) (path : String) (opened : Option (PartFile η)) :
    PartAction → m (Bool × Option (PartFile η))
  | .create => do
    match ← PartFile.create files path with
    | .error _ => return (false, none)
    | .ok part => return (true, some part)
  | .resume => do
    match ← PartFile.resume files path with
    | .error _ => return (false, none)
    | .ok part => return (true, some part)
  | .write bs => do
    match opened with
    | none => return (false, none)
    | some part =>
      let (result, part) ← part.write files bs
      return (result.isOk, some part)
  | .sync => do
    match opened with
    | none => return (false, none)
    | some part => return ((← part.sync files).isOk, some part)
  | .saveMarker marker => do return ((← marker.save files path).isOk, opened)
  | .finalize => do
    match opened with
    | none => return (false, none)
    | some part => return ((← part.finalize files path).isOk, none)
  | .close => return (true, none)

/-- Performs actions one after the other: which succeeded, and the part file that is open then. -/
def performEach (files : Files m η) (path : String) (opened : Option (PartFile η)) :
    List PartAction → m (List (PartAction × Bool) × Option (PartFile η))
  | [] => return ([], opened)
  | action :: actions => do
    let (succeeded, opened) ← action.perform files path opened
    let (done, opened) ← performEach files path opened actions
    return ((action, succeeded) :: done, opened)

end

/-! ## What an action may do -/

/-- What a part file has in it when an action opens it; none for an action that opens none. -/
def base? (t : FileTree) (path : String) : PartAction → Option Bytes
  | .create => some []
  | .resume => some ((t.octetsAt? (partPath path)).getD [])
  | _ => none

/-- What an action is to add to an open part file; none if the part file is not the open one afterwards. -/
def given? : PartAction → Option Bytes
  | .write bs => some bs
  | .sync | .saveMarker _ => some []
  | .create | .resume | .finalize | .close => none

/-- Whether an action that is done can have added octets to an open part file: all it was to add if it succeeded,
    and otherwise the first of them. -/
def Adds (done : PartAction × Bool) (added : Bytes) : Prop :=
  ∃ given, done.1.given? = some given ∧ added <+: given ∧ (done.2 = true → added = given)

/-- What an action leaves of the files `t`, and of a part file that was open, whether or not it succeeded. -/
structure Leaves (path : String) (action : PartAction) (opened : Option (PartFile OpenFile))
    (succeeded : Bool) (opened' : Option (PartFile OpenFile)) (t t' : FileTree) : Prop where
  /-- A part file is open if it was opened now, or before and the action keeps it so. -/
  isSome_eq : opened'.isSome =
    ((succeeded && (action.base? t path).isSome) || (opened.isSome && action.given?.isSome))
  /-- Only finalizing touches the destination. -/
  destination : action ≠ .finalize → t.Touches [partPath path, markerPath path] t' ∧
    t'.fileAt? path = t.fileAt? path ∧ t'.octetsAt? path = t.octetsAt? path
  /-- Only creating discards octets of the part file; finalizing moves them. -/
  kept : action ≠ .create → ∀ held, t.octetsAt? (partPath path) = some held →
    (∃ added, t'.octetsAt? (partPath path) = some (held ++ added)) ∨
      action = .finalize ∧ t'.octetsAt? path = some held
  /-- Where no part file could be opened, every file is as it was. At most there is a part file that is new and empty,
      and could not be measured. -/
  unopened : action = .create ∨ action = .resume → succeeded = false → t.FilesStay t' ∧
    (t' = t ∨ action = .resume ∧ t.LeavesEmpty path t')

namespace Leaves

variable {path : String} {action : PartAction} {opened opened' : Option (PartFile OpenFile)}
  {succeeded : Bool} {t t' : FileTree}

theorem of_eq (htree : t' = t) (hsome : opened'.isSome =
    ((succeeded && (action.base? t path).isSome) || (opened.isSome && action.given?.isSome))) :
    Leaves path action opened succeeded opened' t t' := by
  subst htree
  exact ⟨hsome, fun _ => ⟨.refl, rfl, rfl⟩,
    fun _ held hheld => Or.inl ⟨[], by rw [hheld, List.append_nil]⟩,
    fun _ _ => ⟨fun _ _ hentry => ⟨hentry, rfl⟩, Or.inl rfl⟩⟩

end Leaves

end PartAction

namespace Site

open PartAction

variable {S : Type} {w : Site S} {disk : StateM S DiskAnswer} {path : String} {opened : Option (PartFile OpenFile)}

/-- Whether octets are what a part file that is open after the actions has by rights: what it had when one of
    them opened it, and then what those since have added. -/
def Accounts (disk : StateM S DiskAnswer) (w : Site S) (path : String) (done : List (PartAction × Bool))
    (bs : Bytes) : Prop :=
  ∃ earlier opening since base added, done = earlier ++ (opening, true) :: since ∧
    After (performEach (filesOn disk) path none (earlier.map Prod.fst)) w
      (fun _ w₀ => opening.base? w₀.tree path = some base) ∧
    List.Forall₂ Adds since added ∧ bs = base ++ added.flatten

theorem Accounts.goesOn {done : List (PartAction × Bool)} {next : PartAction × Bool} {held bs : Bytes}
    (h : w.Accounts disk path done held) (hadds : Adds next bs) :
    w.Accounts disk path (done ++ [next]) (held ++ bs) := by
  obtain ⟨earlier, opening, since, base, added, rfl, hbase, hsince, rfl⟩ := h
  refine ⟨earlier, opening, since ++ [next], base, added ++ [bs], by simp, hbase, ?_, by simp⟩
  exact List.rel_append hsince (.cons hadds .nil)

end Site

end SteadyFetch
