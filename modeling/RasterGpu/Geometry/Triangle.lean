import RasterGpu.Geometry.Edge
import RasterGpu.Register.VertexWord
import RasterGpu.Triple

/-!
# Triangles

Inside a triangle the three edge values at a position, each divided by their sum, are the weights of
the vertices there. The sum is the doubled signed area of the triangle, the same at every position.
The device does not divide: it shifts an edge value right and multiplies it by an inverse, both
given by the area factors, and limits the weight to one.
-/

namespace RasterGpu

/-- The weight one, in units of `2 ^ -16`. -/
def weightOne : Int := 65536

/-- Limits a number to the range from `low` to `high`. -/
def clamp (low high x : Int) : Int := max low (min high x)

/-- The factors for a triangle of the given doubled area. The shift leaves eight significant bits of
the area, and the inverse of what is left is rounded to nearest and limited to sixteen bits. A
triangle without positive area has no factors. -/
def AreaFactors.ofDoubledArea (doubledArea : Int) : AreaFactors :=
  if doubledArea ≤ 0 then
    {}
  else
    let area := doubledArea.toNat
    let shift := min (area.log2 + 1 - 8) 15
    let shifted := max (area >>> shift) 1
    ⟨min ((65536 + shifted / 2) / shifted) 0xFFFF, shift⟩

/-- A triangle prepared for drawing. -/
structure Triangle where
  /-- The edges, each named by the vertex opposite to it. -/
  edges : Triple Edge
  /-- The doubled signed area. -/
  doubledArea : Int
  /-- Factors from edge values to weights. -/
  factors : AreaFactors
  deriving DecidableEq, Repr, Inhabited

namespace Triangle

/-- The doubled signed area of the triangle with the given vertices. -/
def doubledAreaOf (p : Triple Point) : Int :=
  (Edge.between p.v0 p.v1).eval p.v2

/-- The triangle with the given vertices. Programmed factors are used as they are, unless they ask
for derived ones. -/
def ofVertices (p : Triple Point) (programmed : AreaFactors) : Triangle :=
  let doubledArea := doubledAreaOf p
  { edges := ⟨.between p.v1 p.v2, .between p.v2 p.v0, .between p.v0 p.v1⟩
    doubledArea
    factors := if programmed.isAutomatic then .ofDoubledArea doubledArea else programmed }

/-- The weights for the given edge values. -/
def weights (t : Triangle) (values : Triple Int) : Triple Int :=
  values.map fun (e : Int) => clamp 0 weightOne ((e >>> t.factors.shift) * t.factors.inverse)

end Triangle

end RasterGpu
