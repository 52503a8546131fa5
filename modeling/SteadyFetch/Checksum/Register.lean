import SteadyFetch.Bytes

set_option autoImplicit false

/-! # The CRC-32C register

The reflected Castagnoli code. `shiftOut` moves the remainder past one bit and `feed` past one
octet; both are linear in the exclusive or of registers. Advancing over zero octets is therefore a
linear operator, kept as the images of the thirty-two unit words, and `advanceZeros` applies its
`n`-th power by repeated squaring. That is what makes `combine` cheap: the register after `a ++ b`
is that after `a`, advanced over as many zeros as `b` has octets, exclusive-or that after `b`. -/

namespace SteadyFetch.Crc32c

/-- The generator polynomial, lowest power in the highest bit. -/
def polynomial : UInt32 := 0x82F63B78

/-- Moves the remainder past one bit. -/
def shiftOut (r : UInt32) : UInt32 :=
  if r &&& 1 = 1 then (r >>> 1) ^^^ polynomial else r >>> 1

/-- Moves the remainder past one zero octet. -/
def passZero (r : UInt32) : UInt32 :=
  shiftOut (shiftOut (shiftOut (shiftOut (shiftOut (shiftOut (shiftOut (shiftOut r)))))))

/-- Moves the remainder past one octet. -/
def feed (r : UInt32) (b : UInt8) : UInt32 := passZero (r ^^^ b.toUInt32)

/-- The code of data that follows data with code `code`. -/
def extend (code : UInt32) (bs : Bytes) : UInt32 := ~~~(bs.foldl feed (~~~code))

/-- The code of an octet string; the empty one has code zero. -/
def ofBytes (bs : Bytes) : UInt32 := extend 0 bs

/-! ## Advancing over zeros -/

/-- A linear operator on words: the images of the unit words, lowest bit first. -/
abbrev Operator := List UInt32

/-- Applies an operator: the exclusive or of the images of the bits that are set. -/
def Operator.apply : Operator → UInt32 → UInt32
  | [], _ => 0
  | image :: images, w =>
    (if w &&& 1 = 1 then image else 0) ^^^ Operator.apply images (w >>> 1)

/-- First `g`, then `f`. -/
def Operator.comp (f g : Operator) : Operator := g.map f.apply

/-- The operator that agrees with a linear function. -/
def Operator.ofFun (f : UInt32 → UInt32) : Operator :=
  (List.range 32).map fun i => f (1 <<< UInt32.ofNat i)

/-- Applies the `n`-th power of an operator. -/
def Operator.iterate (f : Operator) (n : Nat) (w : UInt32) : UInt32 :=
  if n = 0 then w
  else Operator.iterate (f.comp f) (n / 2) (if n % 2 = 1 then f.apply w else w)
termination_by n
decreasing_by omega

/-- Advances a register over `n` zero octets. -/
def advanceZeros (n : Nat) (w : UInt32) : UInt32 :=
  (Operator.ofFun passZero).iterate n w

/-- The code of two adjoining stretches, from their codes and the length of the second. -/
def combine (first second : UInt32) (length : Nat) : UInt32 :=
  advanceZeros length first ^^^ second

end SteadyFetch.Crc32c
