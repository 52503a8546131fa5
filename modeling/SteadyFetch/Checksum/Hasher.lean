import SteadyFetch.Checksum

set_option autoImplicit false

/-! # Hashers

What a segmenter hashes with. A hasher may decline a stretch; whatever needs its checksum then goes
without one. -/

namespace SteadyFetch

/-- Checksums of stretches of data, in a context `m` of effects. -/
structure Hasher (m : Type → Type) where
  /-- The checksum of exactly these octets. -/
  hash : Bytes → m (Option Checksum)
  /-- The checksum of two adjoining stretches. -/
  combine : Checksum → Checksum → m (Option Checksum)

namespace Hasher

variable {m : Type → Type} [Monad m]

/-- Computes every checksum. -/
def crc32c : Hasher m where
  hash bs := pure (some (Checksum.of bs))
  combine a b := pure (some (a.concat b))

/-- Computes none. -/
def disabled : Hasher m where
  hash _ := pure none
  combine _ _ := pure none

end Hasher

end SteadyFetch
