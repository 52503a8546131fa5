set_option autoImplicit false

/-! # Words

The bounds of numbers that are kept in words of thirty-two or sixty-four bits. -/

namespace SteadyFetch.Word

/-- Numbers of thirty-two bits lie below it. -/
abbrev limit32 : Nat := 0x100000000

/-- Numbers of sixty-four bits with a sign lie below it, and not below its negative. -/
abbrev limit63 : Nat := 0x8000000000000000

/-- Numbers of sixty-four bits without a sign lie below it. -/
abbrev limit64 : Nat := 0x10000000000000000

end SteadyFetch.Word
