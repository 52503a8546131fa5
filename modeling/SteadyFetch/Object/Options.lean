import SteadyFetch.Checksum.Sha256
import SteadyFetch.Text.Base64

set_option autoImplicit false

/-! # Read options

Preconditions, billing and the key of the caller, sent with every open of a read. -/

namespace SteadyFetch

/-- An encryption key of the caller, as base64 text. -/
structure EncryptionKey where
  base64 : String
  deriving DecidableEq

namespace EncryptionKey

/-- The base64 digest of the key's octets, which lets the service check that the key arrived
    intact. -/
def digest (k : EncryptionKey) : Except Base64.DecodeError String :=
  (Base64.decode k.base64).map fun octets => Base64.encode (Sha256.digest octets)

/-- The key for logs, which never shows it. -/
def redacted (_ : EncryptionKey) : String := "EncryptionKey(<redacted>)"

end EncryptionKey

/-- What every open of one read carries beside object and range. -/
structure ReadOptions where
  ifGenerationMatch : Option Int := none
  ifGenerationNotMatch : Option Int := none
  ifMetagenerationMatch : Option Int := none
  ifMetagenerationNotMatch : Option Int := none
  /-- Project billed for the request. -/
  userProject : Option String := none
  encryptionKey : Option EncryptionKey := none
  deriving DecidableEq

end SteadyFetch
