import SteadyFetch.Http.Transfer
import SteadyFetch.Text.Search
import SteadyFetch.Word

set_option autoImplicit false

/-! # Responses on the wire

Reads the octets of one connection as a response: interim heads, the final head, and the body up to
its announced length, in chunks, or up to the end of the connection. Every reader goes along the
octets once. Lines are reported as they are; a response that breaks the rules is reported up to
there. -/

namespace SteadyFetch

/-- What came over one connection until it ended. -/
structure Reception where
  octets : Bytes
  /-- Why the connection broke; none if the other side closed it. -/
  failure : Option TransferCode
  deriving DecidableEq

namespace Wire

/-- Octets as characters, one by one. -/
def chars (bs : Bytes) : List Char := bs.map fun b => Char.ofNat b.toNat

/-- Whether a character is a space or a tab. -/
def isGap (c : Char) : Bool := c == ' ' || c == '\t'

/-- Whether a character is white space of ASCII. -/
def isSpace (c : Char) : Bool := c == ' ' || (0x09 ≤ c.toNat && c.toNat ≤ 0x0D)

/-! ## Heads -/

/-- What is known of a response while its head is read. -/
structure HeadState where
  /-- Lines read of the head under way; the first one is the status line. -/
  count : Nat := 0
  /-- Whether a head was read on this connection before. -/
  afterHead : Bool := false
  status : Nat := 0
  /-- Ten times the major version and the minor version. -/
  version : Nat := 0
  length : Option Nat := none
  chunked : Bool := false
  /-- Whether the connection is closed after the response. -/
  closing : Bool := false
  /-- Where a redirect goes; the first place that is named counts. -/
  location : Option (List Char) := none

/-- How the body of a response ends. -/
inductive BodyShape where
  /-- There is none. -/
  | absent
  /-- After so many octets. -/
  | counted (length : Nat)
  /-- With its last chunk. -/
  | chunked
  /-- With the connection. -/
  | toClose

/-- What a line does. -/
inductive LineResult where
  /-- The head goes on. -/
  | more (s : HeadState)
  /-- The head is complete. -/
  | finished (s : HeadState) (shape : BodyShape)
  | failed (code : TransferCode)

/-- Whether a text starts, as far as it goes, like a status line, in any case of its letters. -/
def looksLikeStatus (cs : List Char) : Bool :=
  lowerAscii (cs.take 5) == "http/".toList.take (cs.take 5).length

/-- The failure of a connection on which something else than a response came. -/
def HeadState.notHttp (s : HeadState) : TransferCode :=
  if s.afterHead then .weirdReply else .unsupported

/-- Three digits. -/
def threeDigits? : List Char → Option Nat
  | a :: b :: c :: _ =>
    if a.isDigit && b.isDigit && c.isDigit then
      some ((a.toNat - 48) * 100 + (b.toNat - 48) * 10 + (c.toNat - 48))
    else none
  | _ => none

/-- Version and status of a status line. A line whose name of the protocol is not written in
    capitals, or whose status after a later version cannot be read, counts as a plain success. -/
def statusLine? (cs : List Char) : Option (Nat × Nat) :=
  match cs with
  | 'H' :: 'T' :: 'T' :: 'P' :: '/' :: '1' :: rest =>
    match rest with
    | '.' :: minor :: gap :: rest =>
      if (minor = '0' ∨ minor = '1') ∧ isGap gap then
        (threeDigits? rest).map fun status => (10 + (minor.toNat - 48), status)
      else none
    | _ => none
  | 'H' :: 'T' :: 'T' :: 'P' :: '/' :: major :: rest =>
    if major = '2' ∨ major = '3' then
      match rest with
      | gap :: rest =>
        if isGap gap then
          match threeDigits? rest, (rest.drop 3).head?.all isSpace with
          | some status, true => some (10 * (major.toNat - 48), status)
          | _, _ => some (10, 200)
        else some (10, 200)
      | [] => some (10, 200)
    else none
  | 'H' :: 'T' :: 'T' :: 'P' :: '/' :: [] => none
  | _ => some (10, 200)

/-- Whether a status is that of an interim response. -/
def isInterim (status : Nat) : Bool := 100 ≤ status && status ≤ 199

/-- Whether responses of a status never have a body. -/
def isBodyless (status : Nat) : Bool := isInterim status || status == 204 || status == 304

/-- What follows the name of a header, in any case of its letters, and its colon. -/
def valueOf? (name : String) (cs : List Char) : Option (List Char) :=
  let named := name.toList ++ [':']
  if lowerAscii (cs.take named.length) == named then
    some ((cs.drop named.length).dropWhile isGap)
  else none

/-- A text up to the end of its line, without white space around it. -/
def trimValue (cs : List Char) : List Char :=
  let line := (cs.dropWhile isSpace).takeWhile fun c => c != '\r' && c != '\n' && c != '\x00'
  (line.reverse.dropWhile isSpace).reverse

/-- Whether a word occurs in a text, in any case of its letters. -/
def mentions (word : String) (cs : List Char) : Bool :=
  occursIn word.toList (lowerAscii cs)

/-- The pieces of a list of codings. -/
def codings (cs : List Char) : List (List Char) :=
  ((lowerAscii cs).splitBy fun _ b => b != ',').filterMap fun piece =>
    let word := trimValue (piece.filter (· != ','))
    if word.isEmpty then none else some word

/-- The greatest announced length that can be counted. -/
def maxLength : Nat := Word.limit63 - 1

/-- Takes up an announced length; one that is too large to count does not count. -/
def HeadState.setLength (s : HeadState) (value : List Char) : LineResult :=
  let digits := value.takeWhile Char.isDigit
  if digits.isEmpty then .failed .weirdReply
  else
    let n := digits.foldl (fun n c => n * 10 + (c.toNat - 48)) 0
    if maxLength < n then .more s else .more { s with length := some n }

/-- Takes up the codings of a body: chunks, and nothing else. -/
def HeadState.setCodings (s : HeadState) (value : List Char) : LineResult :=
  let words := (codings value).filter (· != "identity".toList)
  if words.any (· != "chunked".toList) then .failed .badEncoding
  else if words.isEmpty then .more s
  else .more { s with chunked := true }

/-- Takes up a header line that matters for reading the response. -/
def HeadState.header (s : HeadState) (cs : List Char) : LineResult :=
  match valueOf? "content-length" cs, valueOf? "transfer-encoding" cs,
      valueOf? "connection" cs, valueOf? "location" cs with
  | some value, _, _, _ => if isBodyless s.status then .more s else s.setLength value
  | _, some value, _, _ => if isBodyless s.status then .more s else s.setCodings value
  | _, _, some value, _ =>
    if mentions "close" value then .more { s with closing := true }
    else if mentions "keep-alive" value then .more { s with closing := false }
    else .more s
  | _, _, _, some value =>
    let target := trimValue value
    if 300 ≤ s.status && s.status ≤ 399 && !target.isEmpty && s.location.isNone then
      .more { s with location := some target }
    else .more s
  | _, _, _, _ => .more s

/-- The first line of a head. -/
def HeadState.first (s : HeadState) (cs : List Char) : LineResult :=
  if !looksLikeStatus cs then .failed s.notHttp
  else if cs.contains '\x00' then .failed .weirdReply
  else
    match statusLine? cs with
    | none => .failed .unsupported
    | some (version, status) =>
      if status < 100 then .failed .unsupported
      else .more { s with count := 1, status, version, closing := s.closing || version == 10 }

/-- How the body after a complete head ends. -/
def HeadState.shape (s : HeadState) : BodyShape :=
  if s.status == 204 || s.status == 304 then .absent
  else if s.chunked then .chunked
  else
    match s.length with
    | some n => .counted n
    | none => .toClose

/-- The empty line after a head. An interim head is followed by another one, unless it hands the
    connection over. -/
def HeadState.complete (s : HeadState) : LineResult :=
  if s.status == 101 then
    if s.version == 11 then .finished s .toClose else .failed .weirdReply
  else if isInterim s.status then
    .more { s with count := 0, afterHead := true }
  else .finished s s.shape

/-- One line of a head, with its line break. -/
def HeadState.step (s : HeadState) (line : Bytes) : LineResult :=
  let cs := chars line
  if s.count = 0 then s.first cs
  else
    match cs with
    | '\n' :: _ => s.complete
    | '\r' :: _ => s.complete
    | c :: _ =>
      let folded := isGap c && 2 ≤ s.count
      if cs.contains '\x00' then .failed .weirdReply
      else if !folded && !cs.contains ':' then .failed .weirdReply
      else ({ s with count := s.count + 1 } : HeadState).header cs
    | [] => .more s

/-! ## Bodies in chunks -/

/-- What was read of a body, and why reading failed if it did. -/
abbrev BodyResult := List TransferEvent × Option TransferCode

/-- A chunk, if it is not empty. -/
def chunkEvents (bs : Bytes) : List TransferEvent := if bs.isEmpty then [] else [.chunk bs]

/-- Whether an octet ends a line. -/
def isBreak (b : UInt8) : Bool := b == 10 || b == 13

/-- The lines after the last chunk, up to an empty one. -/
def readTrailers : Nat → Bytes → BodyResult
  | 0, _ => ([], some .partialBody)
  | fuel + 1, bs =>
    let text := bs.takeWhile fun b => !isBreak b
    let rest := bs.dropWhile fun b => !isBreak b
    if text.isEmpty then
      match rest with
      | 10 :: _ => ([], none)
      | 13 :: 10 :: _ => ([], none)
      | 13 :: _ :: _ => ([], some .receiveFailed)
      | _ => ([], some .partialBody)
    else
      match rest with
      | 10 :: rest => report text (readTrailers fuel rest)
      | 13 :: 10 :: rest => report text (readTrailers fuel rest)
      | 13 :: _ :: _ => report text ([], some .receiveFailed)
      | 13 :: [] => report text ([], some .partialBody)
      | _ => ([], some .partialBody)
where
  /-- Reports a line before what follows it. -/
  report (text : Bytes) (result : BodyResult) : BodyResult :=
    (.line (text ++ [13, 10]) :: result.1, result.2)

/-- The value of hexadecimal digits. -/
def hexNumber (ds : Bytes) : Nat :=
  (chars ds).foldl (fun n c => n * 16 + (hexValue? c).getD 0) 0

/-- The most digits of a chunk's size. -/
def maxSizeDigits : Nat := 16

/-- Chunks, each after its size, up to one of size zero. -/
def readChunks : Nat → Bytes → BodyResult
  | 0, _ => ([], some .partialBody)
  | fuel + 1, bs =>
    let ds := bs.takeWhile fun b => (hexValue? (Char.ofNat b.toNat)).isSome
    let rest := bs.drop ds.length
    let size := hexNumber ds
    if maxSizeDigits < ds.length then ([], some .receiveFailed)
    else if rest.isEmpty then ([], some .partialBody)
    else if ds.isEmpty || maxLength < size then ([], some .receiveFailed)
    else
      match rest.dropWhile (· != 10) with
      | [] => ([], some .partialBody)
      | _ :: rest =>
        if size = 0 then readTrailers (rest.length + 1) rest
        else
          let chunk := rest.take size
          match (rest.drop size).dropWhile (· == 13) with
          | [] => (chunkEvents chunk, some .partialBody)
          | b :: rest =>
            if b = 10 then
              let (events, failure) := readChunks fuel rest
              (.chunk chunk :: events, failure)
            else ([.chunk chunk], some .receiveFailed)

/-! ## Whole responses -/

/-- One response, and where it sends the request, if it does. -/
structure Response where
  events : List TransferEvent
  failure : Option TransferCode
  status : Nat
  redirect : Option (List Char)

/-- A body; a connection that broke before the body's end is the reason for a failure. -/
def readBody (shape : BodyShape) (r : Reception) : BodyResult :=
  match shape with
  | .absent => ([], none)
  | .counted n =>
    let body := r.octets.take n
    let failure := if body.length < n then some (r.failure.getD .partialBody) else none
    (chunkEvents body, failure)
  | .chunked =>
    match readChunks (r.octets.length + 1) r.octets with
    | (events, some code) =>
      (events, some (if code = .partialBody then r.failure.getD code else code))
    | result => result
  | .toClose => (chunkEvents r.octets, r.failure)

/-- The response after its head: the body of a redirect is dropped. -/
def respond (s : HeadState) (shape : BodyShape) (r : Reception) : Response :=
  let (events, failure) := readBody shape r
  match s.location with
  | some target =>
    let failure := if s.closing then none else failure
    ⟨[], failure, s.status, if failure.isNone then some target else none⟩
  | none =>
    let failure := if s.status == 101 && events.isEmpty then
        some (failure.getD .nothingReceived) else failure
    ⟨events, failure, s.status, none⟩

/-- The response of a connection that ended inside a head, of whose last line `line` came. What the
    head announced so far counts: a place to go, or else a body of which nothing came. -/
def cutShort (s : HeadState) (line : Bytes) (failure : Option TransferCode) : Response :=
  if s.count = 0 && !looksLikeStatus (chars line) then ⟨[], some s.notHttp, s.status, none⟩
  else
    match failure with
    | some code => ⟨[], some code, s.status, none⟩
    | none =>
      if s.count = 0 then ⟨[], some .nothingReceived, s.status, none⟩
      else
        let short := s.location.isNone && 0 < s.length.getD 0
        ⟨[], if short then some .partialBody else none, s.status, s.location⟩

/-- Reads a response from its head on; `line` is what came of the line under way, latest first. -/
def readFrom (failure : Option TransferCode) (s : HeadState) (line : Bytes) : Bytes → Response
  | [] => cutShort s line.reverse failure
  | b :: bs =>
    if b = 10 then
      let octets := (b :: line).reverse
      match s.step octets with
      | .failed code => ⟨[], some code, s.status, none⟩
      | .finished s shape => report octets (respond s shape ⟨bs, failure⟩)
      | .more s => report octets (readFrom failure s [] bs)
    else readFrom failure s (b :: line) bs
where
  /-- Reports a line before what follows it. -/
  report (octets : Bytes) (r : Response) : Response :=
    { r with events := .line octets :: r.events }

/-- Reads what came over a connection as a response. -/
def read (r : Reception) : Response := readFrom r.failure {} [] r.octets

end Wire

end SteadyFetch
