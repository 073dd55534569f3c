/-!
# Edge functions

Positions are in sixteenths of a pixel, and the pixel `(px, py)` is sampled at the position
`(16 * px, 16 * py)`. For an edge from `p` to `q` the edge function is linear in the position, zero
on the line through both and positive on its inner side; a triangle contains the positions where its
three edge functions are not negative.
-/

namespace RasterGpu

/-- Steps of a coordinate per pixel. -/
def subpixels : Int := 16

/-- A position in sixteenths of a pixel. -/
structure Point where
  /-- Column. -/
  x : Int
  /-- Row. -/
  y : Int
  deriving DecidableEq, Repr, Inhabited

/-- The sample point of a pixel. -/
def Point.ofPixel (px py : Int) : Point := ⟨px * subpixels, py * subpixels⟩

/-- The linear function `a * x + b * y + c` of a position. -/
structure Edge where
  /-- Change per step to the right. -/
  a : Int
  /-- Change per step down. -/
  b : Int
  /-- Value at the origin. -/
  c : Int
  deriving DecidableEq, Repr, Inhabited

namespace Edge

/-- The edge function of the edge from `p` to `q`. -/
def between (p q : Point) : Edge :=
  let a := p.y - q.y
  let b := q.x - p.x
  ⟨a, b, -(a * p.x + b * p.y)⟩

/-- The value at a position. -/
def eval (e : Edge) (p : Point) : Int := e.a * p.x + e.b * p.y + e.c

/-- The value at the sample point of a pixel. -/
def atPixel (e : Edge) (px py : Int) : Int := e.eval (.ofPixel px py)

/-- Change of the value from a pixel to its right neighbour. -/
def stepX (e : Edge) : Int := e.a * subpixels

/-- Change of the value from a pixel to the one below. -/
def stepY (e : Edge) : Int := e.b * subpixels

end Edge

end RasterGpu
