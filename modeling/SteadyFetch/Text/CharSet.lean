set_option autoImplicit false

/-! # Sets of characters

A set of characters as the increasing list of the code points at which membership changes: the first
is the least member, the next the least character above it that is none, and so on. -/

namespace SteadyFetch

/-- A set of characters, as the code points at which membership changes. -/
structure CharSet where
  changes : Array Nat

namespace CharSet

/-- How many of the first `high` changes, of which the first `low` are known to lie at or below `n`,
    lie at or below it. -/
def countFrom (changes : Array Nat) (n : Nat) (low high : Nat) : Nat :=
  if low < high then
    let middle := (low + high) / 2
    if changes.getD middle 0 ≤ n then countFrom changes n (middle + 1) high
    else countFrom changes n low middle
  else low
termination_by high - low
decreasing_by all_goals omega

/-- How many changes lie at or below a code point. -/
def count (s : CharSet) (n : Nat) : Nat := countFrom s.changes n 0 s.changes.size

/-- Whether a character is in the set. -/
def contains (s : CharSet) (c : Char) : Bool := s.count c.toNat % 2 == 1

end CharSet

end SteadyFetch
