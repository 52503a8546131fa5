import SteadyFetch.Text.Marks

set_option autoImplicit false

/-! # Writing direction

The bidirectional class of a character, as coarse as the rule for labels of domain names needs it. The
sets hold for the characters that a domain name may have. -/

namespace SteadyFetch

/-- What a character does to the direction of a text. -/
inductive Direction where
  /-- Runs from left to right. -/
  | leftToRight
  /-- Runs from right to left. -/
  | rightToLeft
  /-- A digit that runs as in Arabic. -/
  | arabicNumber
  /-- A digit that runs as in Europe. -/
  | europeanNumber
  /-- A mark, which goes with the character before it. -/
  | mark
  /-- Separators, terminators, controls and all else without a direction. -/
  | neutral
  deriving DecidableEq, Repr

/-- The characters that run from right to left. -/
def rightToLeftChars : CharSet := ⟨#[
  1470, 1542, 1544, 1545, 1547, 1548, 1549, 1550, 1563, 1632, 1645, 1758, 1765, 1769, 1774, 1776,
  1786, 2038, 2042, 2307, 64434, 64830, 64912, 64975, 65139, 65536, 67584, 67871, 67872, 68409,
  68416, 68912, 68928, 69216, 69248, 69632, 124928, 126704]⟩

/-- The characters without a direction. -/
def neutralChars : CharSet := ⟨#[
  33, 48, 59, 97, 123, 223, 247, 248, 697, 699, 706, 720, 722, 750, 751, 881, 885, 887, 1014, 1016,
  1418, 1470, 1542, 1544, 1545, 1547, 1548, 1549, 1550, 1563, 1642, 1643, 1758, 1765, 1769, 1774,
  2038, 2042, 2546, 2548, 2555, 2556, 2801, 2809, 3059, 3073, 3192, 3199, 3647, 3648, 3898, 3902,
  5008, 5024, 5120, 5121, 5787, 5792, 6107, 6108, 6128, 6160, 6464, 6470, 6622, 6656, 6990, 6992,
  7039, 7042, 8204, 8526, 8586, 9014, 9083, 9109, 9110, 9900, 9901, 10240, 10496, 11312, 11493,
  11500, 11513, 11520, 11776, 12293, 12296, 12321, 12336, 12337, 12343, 12347, 12349, 12353, 12448,
  12449, 12539, 12540, 12736, 12784, 19904, 19968, 42128, 42192, 42509, 42512, 42611, 42625, 42752,
  42787, 42888, 42889, 43048, 43056, 43064, 43072, 43124, 43136, 43882, 43968, 64830, 64912, 64975,
  65139, 65793, 65794, 65856, 65933, 65936, 66000, 67871, 67872, 68409, 68416, 69714, 69734, 70612,
  70656, 71264, 71296, 72673, 72688, 73685, 73727, 93549, 93552, 94178, 94179, 117760, 118608,
  119273, 119488, 119552, 119648, 123647, 124112, 124415, 124608, 126704, 127312, 127341, 127344,
  127405, 127462, 127584, 131072]⟩

/-- Nonspacing marks that run from left to right all the same. -/
def directedMarks : List Nat := [0xCBF, 0xCC6, 0x11A07, 0x11A08, 0x11C3F]

/-- The direction of a character. -/
def Direction.of (c : Char) : Direction :=
  let n := c.toNat
  if (0x30 ≤ n ∧ n ≤ 0x39) ∨ (0x6F0 ≤ n ∧ n ≤ 0x6F9) ∨ (0x102E1 ≤ n ∧ n ≤ 0x102FB) then
    .europeanNumber
  else if (0x660 ≤ n ∧ n ≤ 0x669) ∨ n = 0x66B ∨ n = 0x66C ∨ n = 0x6DD ∨ (0x890 ≤ n ∧ n ≤ 0x891)
      ∨ n = 0x8E2 ∨ (0x10D30 ≤ n ∧ n ≤ 0x10D39) ∨ (0x10D40 ≤ n ∧ n ≤ 0x10D49)
      ∨ (0x10E60 ≤ n ∧ n ≤ 0x10E7E) then .arabicNumber
  else if isNonspacing c then
    if directedMarks.contains n then .leftToRight else .mark
  else if rightToLeftChars.contains c then .rightToLeft
  else if neutralChars.contains c then .neutral
  else .leftToRight

end SteadyFetch
