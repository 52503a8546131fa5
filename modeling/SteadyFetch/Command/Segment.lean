import SteadyFetch.Command
import SteadyFetch.Config
import SteadyFetch.Segment
import SteadyFetch.Storage.Files

set_option autoImplicit false

/-! # Segmenting files

A file is read into buffers of one size, and the buffers are cut into segments as an upload would cut
them. How large the buffers are has no influence on the segments. -/

namespace SteadyFetch

/-- Why a file could not be segmented. -/
inductive SegmentError where
  | zeroBuffer
  | zeroSegment
  /-- A configured size that must not be zero. -/
  | size (e : SizeError)
  | opening (path : String) (fault : IoFault)
  | reading (path : String) (fault : IoFault)
  deriving DecidableEq, Repr

/-- The error for readers, the outermost cause first. -/
def SegmentError.causes : SegmentError → List String
  | .zeroBuffer => ["--buffer-size must be greater than zero"]
  | .zeroSegment => ["--max-segment-size must be greater than zero"]
  | .size e => [e.message]
  | .opening path fault => [s!"failed to open {path}", fault.text]
  | .reading path fault => [s!"failed to read {path}", fault.text]

namespace Segmenting

variable {m : Type → Type} {η : Type} [Monad m]

/-- Reads on until a buffer is full or the file ends. `got` holds what came so far, latest first. -/
def fill (files : Files m η) : Nat → η → (room : Nat) → (got : List Bytes) →
    m (Option (Except IoFault Bytes × η))
  | 0, _, _, _ => return none
  | reads + 1, file, room, got => do
    if room = 0 then return some (.ok got.reverse.flatten, file)
    let (result, file) ← files.read file room
    match result with
    | .error fault => return some (.error fault, file)
    | .ok bs =>
      if bs.isEmpty then return some (.ok got.reverse.flatten, file)
      else fill files reads file (room - bs.length) (bs :: got)

/-- Reads a file into buffers. `full` holds those that are full, latest first. -/
def readBuffers (files : Files m η) (limit size : Nat) :
    Nat → η → (full : List Bytes) → m (Option (Except IoFault (List Bytes)))
  | 0, _, _ => return none
  | buffers + 1, file, full => do
    match ← fill files limit file size [] with
    | none => return none
    | some (.error fault, _) => return some (.error fault)
    | some (.ok bs, file) =>
      if bs.isEmpty then return some (.ok full.reverse)
      else readBuffers files limit size buffers file (bs :: full)

/-- The segmenter that configuration and arguments ask for. -/
def segmenter (config : Config) (args : SegmentArgs) : Except SegmentError (Segmenter m) := do
  if args.bufferSize = 0 then throw .zeroBuffer
  let size := args.maxSegmentSize.getD config.maxSegmentSize
  if size = 0 then throw .zeroSegment
  let hasher := if config.crc32c && !args.withoutChecksums then Hasher.crc32c else Hasher.disabled
  match Segmenter.make hasher size config.blockSize with
  | .error e => throw (.size e)
  | .ok s => return s

/-- The segments of a file. -/
def run (files : Files m η) (limit : Nat) (config : Config) (args : SegmentArgs) :
    m (Option (Except SegmentError (List Segment))) := do
  match segmenter config args with
  | .error e => return some (.error e)
  | .ok s =>
    match ← files.openRead args.path with
    | .error fault => return some (.error (.opening args.path fault))
    | .ok file =>
      match ← readBuffers files limit args.bufferSize limit file [] with
      | none => return none
      | some (.error fault) => return some (.error (.reading args.path fault))
      | some (.ok buffers) => return some (.ok (← s.segment buffers))

/-! ## The table -/

/-- A text with spaces in front, up to a width. -/
def rightAligned (width : Nat) (s : String) : String :=
  String.ofList (List.replicate (width - s.length) ' ') ++ s

/-- The columns that every line has. -/
def columns (index offset length checksum : String) : String :=
  "  " ++ rightAligned 6 index ++ "  " ++ rightAligned 12 offset ++ "  "
    ++ rightAligned 12 length ++ "  " ++ rightAligned 8 checksum

/-- A segment's line. -/
def line (index offset : Nat) (s : Segment) : String :=
  let checksum := match s.checksum with
    | some c => c.base64
    | none => "-"
  let note := if s.aligned then "" else "  (unaligned)"
  columns (toString index) (toString offset) (toString s.length) checksum ++ note ++ "\n"

/-- The lines of segments from an index and an offset on. -/
def lines (index offset : Nat) : List Segment → List String
  | [] => []
  | s :: rest => line index offset s :: lines (index + 1) (offset + s.length) rest

/-- Segments as a table, with their number and length below. -/
def table (segments : List Segment) : String :=
  let octets := segments.foldl (fun n s => n + s.length) 0
  columns "Index" "Offset" "Length" "CRC32C" ++ "\n"
    ++ String.join (lines 0 0 segments)
    ++ s!"{segments.length} segments, {octets} bytes\n"

end Segmenting

end SteadyFetch
