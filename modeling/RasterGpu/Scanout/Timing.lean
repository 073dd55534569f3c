/-!
# Video timing

A frame is a raster of lines, a line a row of pixels. Both sweeps have the same four parts: active,
front porch, sync pulse and back porch. The timing generator walks the raster, one pixel every few
core cycles, and tells for each pixel in which parts of the two sweeps it lies.
-/

namespace RasterGpu

/-- The lengths of the four parts of a sweep, in order. -/
structure Sweep where
  /-- Visible part. -/
  active : Nat
  /-- From the visible part to the sync pulse. -/
  frontPorch : Nat
  /-- Sync pulse. -/
  sync : Nat
  /-- From the sync pulse to the next sweep. -/
  backPorch : Nat
  deriving DecidableEq, Repr, Inhabited

namespace Sweep

/-- Length of the sweep. -/
def total (s : Sweep) : Nat := s.active + s.frontPorch + s.sync + s.backPorch

/-- Whether a position is visible. -/
def isActive (s : Sweep) (i : Nat) : Bool := i < s.active

/-- Whether a position lies in the sync pulse. -/
def isSync (s : Sweep) (i : Nat) : Bool :=
  s.active + s.frontPorch ≤ i && i < s.active + s.frontPorch + s.sync

end Sweep

/-- The raster, and how fast it is walked. -/
structure VideoTiming where
  /-- The pixels of a line. -/
  horizontal : Sweep := ⟨640, 16, 96, 48⟩
  /-- The lines of a frame. -/
  vertical : Sweep := ⟨480, 10, 2, 33⟩
  /-- Core cycles per pixel. -/
  clocksPerPixel : Nat := 4
  deriving DecidableEq, Repr, Inhabited

namespace VideoTiming

/-- Core cycles per pixel, at least one. -/
def divisor (t : VideoTiming) : Nat := max t.clocksPerPixel 1

/-- Core cycles per frame. -/
def cyclesPerFrame (t : VideoTiming) : Nat :=
  t.horizontal.total * t.vertical.total * t.divisor

end VideoTiming

/-- What the timing generator tells about a pixel. -/
structure VideoSignals where
  /-- Position in its line. -/
  h : Nat
  /-- Line in its frame. -/
  v : Nat
  /-- It is visible. -/
  active : Bool
  /-- It lies in a horizontal sync pulse. -/
  hsync : Bool
  /-- It lies in the vertical sync pulse. -/
  vsync : Bool
  /-- It is the first of its frame. -/
  frameStart : Bool
  /-- It lies in the vertical sync pulse and the pixel before does not. -/
  vsyncEdge : Bool
  deriving DecidableEq, Repr, Inhabited

/-- The timing generator. -/
structure TimingGenerator where
  /-- The raster. -/
  timing : VideoTiming := {}
  /-- Position of the next pixel in its line. -/
  h : Nat := 0
  /-- Line of the next pixel. -/
  v : Nat := 0
  /-- Core cycles since the last pixel. -/
  divider : Nat := 0
  /-- The last pixel lay in the vertical sync pulse. -/
  vsyncBefore : Bool := false
  /-- Frames completed. -/
  frames : Nat := 0
  deriving DecidableEq, Repr, Inhabited

namespace TimingGenerator

/-- The generator at rest, with the same raster. -/
def reset (g : TimingGenerator) : TimingGenerator := { timing := g.timing }

/-- The signals of the next pixel. -/
def signals (g : TimingGenerator) : VideoSignals :=
  let vsync := g.timing.vertical.isSync g.v
  { h := g.h
    v := g.v
    active := g.timing.horizontal.isActive g.h && g.timing.vertical.isActive g.v
    hsync := g.timing.horizontal.isSync g.h
    vsync
    frameStart := g.h == 0 && g.v == 0
    vsyncEdge := vsync && !g.vsyncBefore }

/-- Moves on from the next pixel to the one after it. -/
def advance (g : TimingGenerator) : TimingGenerator :=
  let vsyncBefore := g.timing.vertical.isSync g.v
  if g.h + 1 < g.timing.horizontal.total then
    { g with divider := 0, vsyncBefore, h := g.h + 1 }
  else if g.v + 1 < g.timing.vertical.total then
    { g with divider := 0, vsyncBefore, h := 0, v := g.v + 1 }
  else
    { g with divider := 0, vsyncBefore, h := 0, v := 0, frames := g.frames + 1 }

/-- Advances by one core cycle, which may emit a pixel. -/
def tick (g : TimingGenerator) : TimingGenerator × Option VideoSignals :=
  if g.divider + 1 < g.timing.divisor then
    ({ g with divider := g.divider + 1 }, none)
  else
    let signals := g.signals
    (g.advance, some signals)

end TimingGenerator

end RasterGpu
