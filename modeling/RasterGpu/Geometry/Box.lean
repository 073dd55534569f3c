import RasterGpu.Geometry.Edge
import RasterGpu.Register.Surface
import RasterGpu.Triple

/-!
# Boxes of pixels

A primitive is drawn by visiting the pixels of a box: the bounding box of its sample points, clipped
to the surface and to the scissor rectangle. Boxes include all four sides, and one whose sides have
crossed is empty.
-/

namespace RasterGpu

/-- The pixels from column `x0` to `x1` and from row `y0` to `y1`, all included. -/
structure Box where
  /-- Leftmost column. -/
  x0 : Int
  /-- Topmost row. -/
  y0 : Int
  /-- Rightmost column. -/
  x1 : Int
  /-- Bottommost row. -/
  y1 : Int
  deriving DecidableEq, Repr, Inhabited

namespace Box

/-- Whether the box has no pixel. -/
def isEmpty (box : Box) : Bool :=
  box.x1 < box.x0 || box.y1 < box.y0

/-- Number of pixels. -/
def area (box : Box) : Nat :=
  (box.x1 - box.x0 + 1).toNat * (box.y1 - box.y0 + 1).toNat

/-- The pixels of the box on the surface and inside the scissor rectangle. -/
def clip (box : Box) (fb : Framebuffer) (scissor : Scissor) : Box where
  x0 := max (max box.x0 0) scissor.x
  y0 := max (max box.y0 0) scissor.y
  x1 := min (min box.x1 (fb.width - 1)) (scissor.x + scissor.width - 1)
  y1 := min (min box.y1 (fb.height - 1)) (scissor.y + scissor.height - 1)

/-- The first pixel whose sample point is at or after a coordinate. -/
def ceilPixel (v : Int) : Int := -(-v / subpixels)

/-- The last pixel whose sample point is at or before a coordinate. -/
def floorPixel (v : Int) : Int := v / subpixels

/-- The pixels whose sample points lie in the bounding rectangle of a triangle, sides included. -/
def ofTriangle (p : Triple Point) : Box where
  x0 := ceilPixel (min (min p.v0.x p.v1.x) p.v2.x)
  y0 := ceilPixel (min (min p.v0.y p.v1.y) p.v2.y)
  x1 := floorPixel (max (max p.v0.x p.v1.x) p.v2.x)
  y1 := floorPixel (max (max p.v0.y p.v1.y) p.v2.y)

/-- The pixels whose sample points lie in the rectangle with the given opposite corners, near sides
included and far sides excluded, so that rectangles with a common side share no pixel. -/
def ofCorners (p q : Point) : Box where
  x0 := ceilPixel (min p.x q.x)
  y0 := ceilPixel (min p.y q.y)
  x1 := ceilPixel (max p.x q.x) - 1
  y1 := ceilPixel (max p.y q.y) - 1

end Box

end RasterGpu
