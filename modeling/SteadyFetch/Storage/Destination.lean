import SteadyFetch.Text.Quoted

set_option autoImplicit false

/-! # Default destinations

An object is stored under the last component of its name where nothing else is asked for. The result is
always a single component that names a file: never empty, and neither the directory itself nor the one
above. -/

namespace SteadyFetch

/-- An object whose name has no usable last component. -/
structure NoFileName where
  object : String
  deriving DecidableEq, Repr

/-- The wording of the error. -/
def NoFileName.message (e : NoFileName) : String :=
  s!"cannot derive a file name from object {quoted e.object}; pass --output"

/-- What follows the last slash. -/
def lastComponent (name : List Char) : List Char :=
  (name.reverse.takeWhile (· != '/')).reverse

/-- The file that an object of the given name goes to. -/
def defaultDestination (object : String) : Except NoFileName String :=
  let last := lastComponent object.toList
  if last = [] ∨ last = ['.'] ∨ last = ['.', '.'] then .error ⟨object⟩
  else .ok (String.ofList last)

end SteadyFetch
