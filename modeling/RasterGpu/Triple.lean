/-!
# Triples

A triangle has three vertices, three edges, three weights. `Triple α` is a record of three values of
one type, named by the vertex they belong to.
-/

namespace RasterGpu

/-- One value for each vertex of a triangle. -/
structure Triple (α : Type) where
  /-- The value of the first vertex. -/
  v0 : α
  /-- The value of the second vertex. -/
  v1 : α
  /-- The value of the third vertex. -/
  v2 : α
  deriving DecidableEq, Repr, Inhabited

namespace Triple

variable {α β γ : Type}

/-- Applies a function to each value. -/
def map (f : α → β) (t : Triple α) : Triple β :=
  ⟨f t.v0, f t.v1, f t.v2⟩

/-- Combines two triples value by value. -/
def zipWith (f : α → β → γ) (s : Triple α) (t : Triple β) : Triple γ :=
  ⟨f s.v0 t.v0, f s.v1 t.v1, f s.v2 t.v2⟩

/-- Whether each value satisfies `p`. -/
def all (p : α → Bool) (t : Triple α) : Bool :=
  p t.v0 && p t.v1 && p t.v2

end Triple

end RasterGpu
