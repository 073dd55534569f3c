import RasterGpu.Proofs.Arbiter.Work
import RasterGpu.Rasterizer.Job

/-!
# Drawing as a program

What drawing a primitive does to memory, without cycles and without ports: two nested loops over the
clipped box, rows from top to bottom and pixels from left to right. At each pixel the edge functions
are evaluated at its sample point; the tests follow in their order, the depth test reading the depth
that is there; and a fragment that passes reads the color that is there if it is to be blended, and
writes color and depth as they are enabled.

* `span` lists the numbers a loop runs over.
* `Job.plot` does one pixel, `Job.render` the whole box, `DrawEvent.render` a primitive.

Addresses are read and written as they come: color and depth surfaces may overlap each other, and
may wrap around the end of memory.
-/

namespace RasterGpu

/-- The whole numbers from `low` to `high`. -/
def span (low high : Int) : List Int :=
  (List.range (high + 1 - low).toNat).map fun (i : Nat) => low + i

/-- A span without room is empty. -/
theorem span_of_lt {low high : Int} (h : high < low) : span low high = [] := by
  have hn : (high + 1 - low).toNat = 0 := by omega
  rw [span, hn]
  rfl

/-- A span begins with its low end. -/
theorem span_of_le {low high : Int} (h : low ≤ high) :
    span low high = low :: span (low + 1) high := by
  have hn : (high + 1 - low).toNat = (high + 1 - (low + 1)).toNat + 1 := by omega
  rw [span, hn, List.range_succ_eq_map, List.map_cons, List.map_map, span]
  congr 1
  · simp
  · refine List.map_congr_left fun i _ => ?_
    simp only [Function.comp_apply]
    omega

namespace Job

/-- Writes the color of a fragment, combined with the one that is there. -/
def putColor (job : Job) (px py : Int) (f : Fragment) (destination : Rgba) (t : Trace) : Trace :=
  let mode := job.state.mode
  let blended := mode.blend.apply f.color destination
  let dithered := if mode.dither then ditherColor blended px py else blended
  t.write .color (job.colorAddress px py) dithered.toRgb565

/-- Writes the depth of a fragment, if depth is written. -/
def putDepth (job : Job) (px py : Int) (f : Fragment) (t : Trace) : Trace :=
  if job.state.mode.depthWrite then t.write .depth (job.depthAddress px py) f.depth else t

/-- Writes a fragment that has passed all tests. -/
def put (job : Job) (px py : Int) (f : Fragment) (t : Trace) : Trace :=
  let mode := job.state.mode
  if !mode.colorWrite then
    job.putDepth px py f t
  else if mode.blend = .disabled then
    job.putDepth px py f (job.putColor px py f .zero t)
  else
    let (stored, t) := t.read .color (job.colorAddress px py)
    job.putDepth px py f (job.putColor px py f (.ofRgb565 stored) t)

/-- Writes a fragment if its depth compares with the stored one as it should. -/
def putIfVisible (job : Job) (px py : Int) (f : Fragment) (stored : UInt16) (t : Trace) : Trace :=
  if job.state.mode.depthCompare.passes f.depth stored then job.put px py f t else t

/-- Tests a fragment, and writes it if it passes. -/
def plotFragment (job : Job) (px py : Int) (f : Fragment) (t : Trace) : Trace :=
  let mode := job.state.mode
  if !job.state.depthRange.passes f.depth then
    t
  else if !mode.alphaTest.passes f.color.a mode.alphaReference then
    t
  else if mode.depthTest then
    let (stored, t) := t.read .depth (job.depthAddress px py)
    job.putIfVisible px py f stored t
  else
    job.put px py f t

/-- Draws a pixel, if the shape covers it and the stipple mask lets it through. -/
def plot (job : Job) (px py : Int) (t : Trace) : Trace :=
  let values := job.shape.edgeValues px py
  if !job.shape.covers values then
    t
  else if job.state.mode.stipple && !job.state.stipple.passes px py then
    t
  else
    job.plotFragment px py (job.shape.fragment job.state.mode.gouraud (job.shape.weights values)) t

/-- Draws the pixels of a row. -/
def renderRow (job : Job) (py : Int) (t : Trace) : Trace :=
  (span job.box.x0 job.box.x1).foldl (fun t px => job.plot px py t) t

/-- Draws the rows of the box. -/
def render (job : Job) (t : Trace) : Trace :=
  (span job.box.y0 job.box.y1).foldl (fun t py => job.renderRow py t) t

end Job

/-- Draws a primitive. -/
def DrawEvent.render (event : DrawEvent) (t : Trace) : Trace :=
  match event.setup with
  | .job job => job.render t
  | .culled | .nothing => t

end RasterGpu
