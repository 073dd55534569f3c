import RasterGpu.Register.RenderMode
import RasterGpu.Register.Surface
import RasterGpu.Triple
import RasterGpu.Vertex

/-!
# Draw events

A kick turns the recent vertices into a primitive. A draw event is that primitive together with all
the drawing state in force at the kick, so that later register writes do not reach it.
-/

namespace RasterGpu

/-- The order in which a kicked triangle takes the last three vertices. -/
inductive Winding where
  /-- Oldest, middle, newest. -/
  | order012
  /-- Oldest, newest, middle. -/
  | order021
  deriving DecidableEq, Repr, Inhabited

/-- The shape of a draw event. -/
inductive Primitive where
  /-- A triangle, its vertices in drawing order. -/
  | triangle (vertices : Triple Vertex) (winding : Winding)
  /-- The rectangle between two opposite corners; the second corner gives color and depth. -/
  | rectangle (corner0 corner1 : Vertex)
  deriving DecidableEq, Repr, Inhabited

/-- The drawing state that a primitive is drawn with. -/
structure DrawState where
  /-- Drawing mode. -/
  mode : RenderMode := {}
  /-- Depths that are drawn. -/
  depthRange : DepthRange := ⟨0, 0xFFFF⟩
  /-- Surfaces that are drawn to. -/
  framebuffer : Framebuffer := {}
  /-- Clipping rectangle. -/
  scissor : Scissor := ⟨0, 0, 0x3FF, 0x3FF⟩
  /-- Stipple mask. -/
  stipple : Stipple := ⟨0xFFFFFFFFFFFFFFFF⟩
  /-- Factors from edge values to weights. -/
  area : AreaFactors := {}
  deriving DecidableEq, Repr, Inhabited

/-- A primitive to be drawn, and the state to draw it with. -/
structure DrawEvent where
  /-- The shape. -/
  primitive : Primitive
  /-- The state in force when it was kicked. -/
  state : DrawState
  deriving DecidableEq, Repr, Inhabited

end RasterGpu
