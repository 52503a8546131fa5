set_option autoImplicit false

/-! # Commands

What the program can be asked to do. -/

namespace SteadyFetch

/-- Fetches an object into a file. -/
structure DownloadArgs where
  bucket : String
  object : String
  /-- The destination; none for the last component of the object's name. -/
  output : Option String := none
  /-- The generation to read; none for the live one. -/
  generation : Option Int := none
  userProject : Option String := none
  encryptionKey : Option String := none
  /-- Whether to go on with a part file that is there. -/
  resume : Bool := false
  deriving DecidableEq, Repr

/-- Cuts a file into segments and prints them. -/
structure SegmentArgs where
  path : String
  /-- The largest segment; none for the configured size. -/
  maxSegmentSize : Option Nat := none
  /-- The size of the buffers that the file is read into. -/
  bufferSize : Nat := 65536
  /-- Whether to leave checksums out. -/
  withoutChecksums : Bool := false
  deriving DecidableEq, Repr

/-- What the program can be asked to do. -/
inductive Command where
  | download (args : DownloadArgs)
  | segment (args : SegmentArgs)
  /-- Prints the checksum of a file. -/
  | checksum (path : String)
  deriving DecidableEq, Repr

end SteadyFetch
