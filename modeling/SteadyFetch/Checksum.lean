import SteadyFetch.Checksum.Register
import SteadyFetch.Text.Base64

set_option autoImplicit false

/-! # Checksums of known length

A `Checksum` is a CRC-32C together with the number of octets it covers. Knowing the length is what
lets the checksums of two adjoining stretches be joined without reading either again. -/

namespace SteadyFetch

/-- A CRC-32C and the number of octets it covers. -/
structure Checksum where
  /-- The code. -/
  value : UInt32
  /-- How many octets it covers. -/
  length : Nat
  deriving DecidableEq, Repr

namespace Checksum

/-- The checksum of no octets. -/
def empty : Checksum := ⟨0, 0⟩

/-- The checksum of an octet string. -/
def of (bs : Bytes) : Checksum := ⟨Crc32c.ofBytes bs, bs.length⟩

/-- The checksum of what is covered, then `bs`. -/
def append (c : Checksum) (bs : Bytes) : Checksum :=
  ⟨Crc32c.extend c.value bs, c.length + bs.length⟩

/-- The checksum of what `a` covers, then what `b` covers. A side of length zero leaves the other
    as it is. -/
def concat (a b : Checksum) : Checksum :=
  if b.length = 0 then a
  else if a.length = 0 then b
  else ⟨Crc32c.combine a.value b.value b.length, a.length + b.length⟩

/-- The code in base64, most significant octet first. -/
def base64 (c : Checksum) : String := Base64.encode (bigEndian32 c.value)

/-- The code in hexadecimal, most significant octet first. -/
def hex (c : Checksum) : String := (bigEndian32 c.value).hex

/-- The checksum for readers. -/
def text (c : Checksum) : String := s!"crc32c={c.base64} ({c.length} bytes)"

@[simp] theorem concat_empty (a : Checksum) : a.concat empty = a := by simp [concat, empty]

@[simp] theorem length_of (bs : Bytes) : (of bs).length = bs.length := rfl

@[simp] theorem length_append (c : Checksum) (bs : Bytes) :
    (c.append bs).length = c.length + bs.length := rfl

end Checksum

end SteadyFetch
