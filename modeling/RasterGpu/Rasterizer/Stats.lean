/-!
# What the rasterizer counts

Counters of one primitive, or of many added up.
-/

namespace RasterGpu

/-- Counters of drawing. -/
structure RasterStats where
  /-- Primitives set up. -/
  primitives : Nat := 0
  /-- Triangles dropped for their orientation. -/
  culled : Nat := 0
  /-- Pixels visited. -/
  tested : Nat := 0
  /-- Pixels inside the shape. -/
  covered : Nat := 0
  /-- Pixels written. -/
  written : Nat := 0
  /-- Pixels that the stipple mask kept out. -/
  discardedStipple : Nat := 0
  /-- Pixels outside the depth range. -/
  discardedDepthRange : Nat := 0
  /-- Pixels that failed the alpha test. -/
  discardedAlpha : Nat := 0
  /-- Pixels that failed the depth test. -/
  discardedDepth : Nat := 0
  /-- Cycles. -/
  busyCycles : Nat := 0
  deriving DecidableEq, Repr, Inhabited

/-- Adds up two sets of counters. -/
def RasterStats.add (s t : RasterStats) : RasterStats where
  primitives := s.primitives + t.primitives
  culled := s.culled + t.culled
  tested := s.tested + t.tested
  covered := s.covered + t.covered
  written := s.written + t.written
  discardedStipple := s.discardedStipple + t.discardedStipple
  discardedDepthRange := s.discardedDepthRange + t.discardedDepthRange
  discardedAlpha := s.discardedAlpha + t.discardedAlpha
  discardedDepth := s.discardedDepth + t.discardedDepth
  busyCycles := s.busyCycles + t.busyCycles

instance : Add RasterStats := ⟨RasterStats.add⟩

end RasterGpu
