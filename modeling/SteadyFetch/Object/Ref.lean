set_option autoImplicit false

/-! # Objects

The name of a stored object: its bucket, its name, and the generation where one is meant. -/

namespace SteadyFetch

/-- A stored object, or one generation of it. -/
structure ObjectRef where
  bucket : String
  name : String
  /-- The generation that is meant; none for the live one. -/
  generation : Option Int
  deriving DecidableEq, Repr

namespace ObjectRef

/-- The same object, at one generation. -/
def atGeneration (o : ObjectRef) (generation : Int) : ObjectRef :=
  { o with generation := some generation }

/-- The object for readers. -/
def text (o : ObjectRef) : String :=
  match o.generation with
  | none => s!"gs://{o.bucket}/{o.name}"
  | some g => s!"gs://{o.bucket}/{o.name}#{g}"

end ObjectRef

end SteadyFetch
