import RasterGpu.Color
import RasterGpu.Scanout.Prefetcher
import RasterGpu.Scanout.Timing

/-!
# The display

The display turns the surface into a stream of pixels. The timing generator paces it; at the start
of each visible line a row of the surface is moved from the prefetcher's buffer into a line buffer,
and the row is stretched over the visible part of the line, each pixel taking the nearest column to
its left. With line doubling an odd line shows the row of the line before. Words that are missing
when a row is loaded are shown black and counted.

A frame of the surface starts in the cycle after the vertical sync edge, with the surface then on
display.

Stretching needs no division: a 32-bit word keeps what the next pixel is past its column. Where the
width of the row does not fit into it any more, the word keeps what is left modulo 2^32 and the line
buffer says so: with checked arithmetic the device stops there, without it the line goes on at a
column too far to the left.
-/

namespace RasterGpu

/-- One pixel of video output. -/
structure Pixel where
  /-- Where it lies in the raster. -/
  signals : VideoSignals
  /-- Its color; black unless it is visible. -/
  color : Rgba
  deriving DecidableEq, Repr, Inhabited

/-- What the display has shown. -/
structure DisplayStats where
  /-- Frames completed. -/
  frames : Nat := 0
  /-- Lines started. -/
  lines : Nat := 0
  /-- Rows loaded with words missing. -/
  underrunLines : Nat := 0
  /-- Words missing. -/
  underrunWords : Nat := 0
  deriving DecidableEq, Repr, Inhabited

/-- The row being shown, and how far. -/
structure LineBuffer where
  /-- The words of the row. -/
  words : Array UInt16 := #[]
  /-- Column of the next pixel. -/
  column : Nat := 0
  /-- Part of a column by which the next pixel is past it, in units of one over the width shown. -/
  remainder : Nat := 0
  /-- The remainder has overflowed. -/
  overflowed : Bool := false
  deriving DecidableEq, Repr, Inhabited

namespace LineBuffer

/-- The word of the next pixel. -/
def word (line : LineBuffer) : UInt16 :=
  line.words[line.column]?.getD 0

/-- Goes on by one pixel of a line that shows the row at `shown` pixels. -/
def advance (line : LineBuffer) (shown : Nat) : LineBuffer :=
  let sum := line.remainder + line.words.size
  let kept := sum % UInt32.size
  { line with
    column := line.column + kept / shown
    remainder := kept % shown
    overflowed := line.overflowed || UInt32.size ≤ sum }

end LineBuffer

/-- The display. -/
structure Display where
  /-- Timing generator. -/
  timing : TimingGenerator
  /-- Prefetcher. -/
  prefetcher : Prefetcher
  /-- The row being shown. -/
  line : LineBuffer := {}
  /-- The next cycle starts a frame of the surface. -/
  restartPending : Bool := true
  /-- Lines started. -/
  lines : Nat := 0
  /-- Rows loaded with words missing. -/
  underrunLines : Nat := 0
  /-- Words missing. -/
  underrunWords : Nat := 0

namespace Display

/-- A display at rest. -/
def ofTiming (timing : VideoTiming) (capacity burst : Nat) : Display where
  timing := { timing }
  prefetcher := .ofCapacity capacity burst

/-- What was shown. -/
def stats (d : Display) : DisplayStats where
  frames := d.timing.frames
  lines := d.lines
  underrunLines := d.underrunLines
  underrunWords := d.underrunWords

/-- Rows of a surface that a frame shows. -/
def rowsPerFrame (d : Display) (surface : DisplaySurface) : Nat :=
  surface.rows d.timing.timing.vertical.active

/-- Starts the visible line `v`: loads the next row, unless the one before is shown again. -/
def startLine (d : Display) (v : Nat) : Display :=
  let surface := d.prefetcher.surface
  if surface.lineDouble && v % 2 == 1 then
    { d with line.column := 0, line.remainder := 0, lines := d.lines + 1 }
  else
    let (words, buffer) := d.prefetcher.buffer.popMany surface.width
    let missing := surface.width - words.length
    { d with
      prefetcher.buffer := buffer
      line := {
        words := (words ++ List.replicate missing 0).toArray
        overflowed := d.line.overflowed }
      lines := d.lines + 1
      underrunLines := d.underrunLines + (if missing = 0 then 0 else 1)
      underrunWords := d.underrunWords + missing }

/-- Shows a pixel. -/
def emit (d : Display) (signals : VideoSignals) : Display × Pixel :=
  if signals.active then
    let d := if signals.h = 0 then d.startLine signals.v else d
    let color := Rgba.ofRgb565 d.line.word
    let shown := max d.timing.timing.horizontal.active 1
    ({ d with line := d.line.advance shown }, ⟨signals, color⟩)
  else
    (d, ⟨signals, .ofRgb565 0⟩)

/-- Starts a frame of the surface, if it is time to. -/
def restart (d : Display) (surface : DisplaySurface) : Display :=
  if d.restartPending then
    { d with
      prefetcher := d.prefetcher.startFrame surface (d.rowsPerFrame surface)
      restartPending := false }
  else
    d

/-- Advances by one cycle with `surface` on display, which may emit a pixel. -/
def tick (d : Display) (a : Arbiter) (surface : DisplaySurface) :
    Display × Arbiter × Option Pixel :=
  let ⟨timing, prefetcher, line, restartPending, lines, underrunLines, underrunWords⟩ :=
    d.restart surface
  let (prefetcher, a) := prefetcher.tick a
  match timing.tick with
  | (timing, none) =>
    ({ timing, prefetcher, line, restartPending, lines, underrunLines, underrunWords }, a, none)
  | (timing, some signals) =>
    let d : Display :=
      { timing, prefetcher, line, lines, underrunLines, underrunWords
        restartPending := restartPending || signals.vsyncEdge }
    let (d, pixel) := d.emit signals
    (d, a, some pixel)

end Display

end RasterGpu
