import SteadyFetch.Checksum
import SteadyFetch.Storage.Files

set_option autoImplicit false

/-! # Checksums of files -/

namespace SteadyFetch

/-- Why a file's checksum could not be computed. -/
inductive ChecksumError where
  | opening (path : String) (fault : IoFault)
  | reading (path : String) (fault : IoFault)
  deriving DecidableEq, Repr

/-- The error for readers, the outermost cause first. -/
def ChecksumError.causes : ChecksumError → List String
  | .opening path fault => [s!"open {path}", fault.text]
  | .reading path fault => [s!"read {path}", fault.text]

namespace Checksum

variable {m : Type → Type} {η : Type} [Monad m]

/-- Extends a checksum by what is left of an open file, piece by piece; none if so many reads do not
    reach the end. -/
def appendFile (files : Files m η) (path : String) :
    Nat → η → Checksum → m (Option (Except ChecksumError Checksum))
  | 0, _, _ => return none
  | reads + 1, file, c => do
    let (result, file) ← files.read file Files.pieceSize
    match result with
    | .error fault => return some (.error (.reading path fault))
    | .ok bs =>
      if bs.isEmpty then return some (.ok c)
      else appendFile files path reads file (c.append bs)

/-- The checksum of a file. -/
def ofFile (files : Files m η) (reads : Nat) (path : String) :
    m (Option (Except ChecksumError Checksum)) := do
  match ← files.openRead path with
  | .error fault => return some (.error (.opening path fault))
  | .ok file => appendFile files path reads file empty

end Checksum

end SteadyFetch
