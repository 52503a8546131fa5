set_option autoImplicit false

/-! # Searching text -/

namespace SteadyFetch

/-- Whether one text occurs in another. -/
def occursIn (needle : List Char) : List Char → Bool
  | [] => needle.isEmpty
  | c :: cs => needle.isPrefixOf (c :: cs) || occursIn needle cs

end SteadyFetch
