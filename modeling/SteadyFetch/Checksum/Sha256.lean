import SteadyFetch.Bytes
import SteadyFetch.Word

set_option autoImplicit false

/-! # SHA-256

The digest of FIPS 180-4 over octet strings: padding to whole blocks of sixty-four octets, a
schedule of sixty-four words for each, and sixty-four rounds over eight working words. -/

namespace SteadyFetch.Sha256

/-- The round constants. -/
def roundConstants : List UInt32 := [
  0x428a2f98, 0x71374491, 0xb5c0fbcf, 0xe9b5dba5, 0x3956c25b, 0x59f111f1, 0x923f82a4, 0xab1c5ed5,
  0xd807aa98, 0x12835b01, 0x243185be, 0x550c7dc3, 0x72be5d74, 0x80deb1fe, 0x9bdc06a7, 0xc19bf174,
  0xe49b69c1, 0xefbe4786, 0x0fc19dc6, 0x240ca1cc, 0x2de92c6f, 0x4a7484aa, 0x5cb0a9dc, 0x76f988da,
  0x983e5152, 0xa831c66d, 0xb00327c8, 0xbf597fc7, 0xc6e00bf3, 0xd5a79147, 0x06ca6351, 0x14292967,
  0x27b70a85, 0x2e1b2138, 0x4d2c6dfc, 0x53380d13, 0x650a7354, 0x766a0abb, 0x81c2c92e, 0x92722c85,
  0xa2bfe8a1, 0xa81a664b, 0xc24b8b70, 0xc76c51a3, 0xd192e819, 0xd6990624, 0xf40e3585, 0x106aa070,
  0x19a4c116, 0x1e376c08, 0x2748774c, 0x34b0bcb5, 0x391c0cb3, 0x4ed8aa4a, 0x5b9cca4f, 0x682e6ff3,
  0x748f82ee, 0x78a5636f, 0x84c87814, 0x8cc70208, 0x90befffa, 0xa4506ceb, 0xbef9a3f7, 0xc67178f2]

/-- The eight words that are chained from block to block. -/
structure State where
  a : UInt32
  b : UInt32
  c : UInt32
  d : UInt32
  e : UInt32
  f : UInt32
  g : UInt32
  h : UInt32

/-- The words before the first block. -/
def initial : State :=
  ⟨0x6a09e667, 0xbb67ae85, 0x3c6ef372, 0xa54ff53a, 0x510e527f, 0x9b05688c, 0x1f83d9ab, 0x5be0cd19⟩

/-- Turns a word right by `n` places. -/
def rotate (n w : UInt32) : UInt32 := (w >>> n) ||| (w <<< (32 - n))

/-- The message followed by a one bit, zeros, and its length in bits, in whole blocks. -/
def pad (message : Bytes) : Bytes :=
  let size := message.length
  let zeros := (119 - size % 64) % 64
  let bits := (size * 8) % Word.limit64
  let tail : Bytes := (List.range 8).map fun i => UInt8.ofNat (bits >>> (8 * (7 - i)))
  message ++ ((0x80 : UInt8) :: List.replicate zeros 0) ++ tail

/-- The first `n` words in groups of four octets. -/
def wordsOf : Nat → Bytes → List UInt32
  | 0, _ => []
  | n + 1, bs => wordOfBytes (bs.take 4) :: wordsOf n (bs.drop 4)

/-- Extends a schedule by `n` words; the latest word comes first. -/
def extendSchedule : Nat → List UInt32 → List UInt32
  | 0, ws => ws
  | n + 1, ws =>
    let w2 := ws.getD 1 0
    let w7 := ws.getD 6 0
    let w15 := ws.getD 14 0
    let w16 := ws.getD 15 0
    let s0 := rotate 7 w15 ^^^ rotate 18 w15 ^^^ (w15 >>> 3)
    let s1 := rotate 17 w2 ^^^ rotate 19 w2 ^^^ (w2 >>> 10)
    extendSchedule n ((w16 + s0 + w7 + s1) :: ws)

/-- The sixty-four words of a block. -/
def schedule (block : Bytes) : List UInt32 :=
  (extendSchedule 48 (wordsOf 16 block).reverse).reverse

/-- One round with its constant and its word. -/
def round (s : State) (k : UInt32 × UInt32) : State :=
  let s1 := rotate 6 s.e ^^^ rotate 11 s.e ^^^ rotate 25 s.e
  let choice := (s.e &&& s.f) ^^^ (~~~s.e &&& s.g)
  let t1 := s.h + s1 + choice + k.1 + k.2
  let s0 := rotate 2 s.a ^^^ rotate 13 s.a ^^^ rotate 22 s.a
  let majority := (s.a &&& s.b) ^^^ (s.a &&& s.c) ^^^ (s.b &&& s.c)
  ⟨t1 + s0 + majority, s.a, s.b, s.c, s.d + t1, s.e, s.f, s.g⟩

/-- The state after one block. -/
def compress (s : State) (block : Bytes) : State :=
  let t := (roundConstants.zip (schedule block)).foldl round s
  ⟨s.a + t.a, s.b + t.b, s.c + t.c, s.d + t.d, s.e + t.e, s.f + t.f, s.g + t.g, s.h + t.h⟩

/-- The state after `n` blocks. -/
def absorb : Nat → State → Bytes → State
  | 0, s, _ => s
  | n + 1, s, bs => absorb n (compress s (bs.take 64)) (bs.drop 64)

/-- The thirty-two octets of the digest. -/
def digest (message : Bytes) : Bytes :=
  let padded := pad message
  let s := absorb (padded.length / 64) initial padded
  [s.a, s.b, s.c, s.d, s.e, s.f, s.g, s.h].flatMap bigEndian32

end SteadyFetch.Sha256
