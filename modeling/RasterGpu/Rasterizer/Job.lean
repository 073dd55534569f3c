import RasterGpu.Draw
import RasterGpu.Fragment
import RasterGpu.Geometry.Box
import RasterGpu.Memory.Arbiter

/-!
# A primitive prepared for drawing

A `Job` is a draw event after setup: its drawing state, its shape and the box of pixels to visit.
All that drawing does to one pixel of a job is a function here, without any notion of cycles:
whether the shape covers it, what fragment it gets, and what a write of it asks of the memory. The
rasterizer spreads these functions over cycles.
-/

namespace RasterGpu

/-- The geometry of a job. -/
inductive Shape where
  /-- A triangle with its vertices. -/
  | triangle (vertices : Triple Vertex) (geometry : Triangle)
  /-- A box of one color and depth. -/
  | rectangle (fragment : Fragment)
  deriving DecidableEq, Repr, Inhabited

/-- A primitive prepared for drawing. -/
structure Job where
  /-- The drawing state. -/
  state : DrawState
  /-- The shape. -/
  shape : Shape
  /-- The pixels to visit. -/
  box : Box
  deriving DecidableEq, Repr, Inhabited

/-- What setup makes of a draw event. -/
inductive SetupResult where
  /-- A triangle dropped for its orientation. -/
  | culled
  /-- Nothing to visit. -/
  | nothing
  /-- Pixels to visit. -/
  | job (job : Job)
  deriving DecidableEq, Repr, Inhabited

/-- The job of a shape, or nothing if no pixel of its box is on the surface and in the scissor
rectangle. -/
def SetupResult.ofShape (state : DrawState) (shape : Shape) (bounds : Box) : SetupResult :=
  let box := bounds.clip state.framebuffer state.scissor
  if box.isEmpty then .nothing else .job ⟨state, shape, box⟩

/-- Prepares a draw event. A triangle without positive area draws nothing, culled or not. -/
def DrawEvent.setup (event : DrawEvent) : SetupResult :=
  match event.primitive with
  | .triangle vertices _ =>
    let positions := vertices.map Vertex.position
    let geometry := Triangle.ofVertices positions event.state.area
    if event.state.mode.cull.drops geometry.doubledArea then
      .culled
    else if geometry.doubledArea ≤ 0 then
      .nothing
    else
      .ofShape event.state (.triangle vertices geometry) (.ofTriangle positions)
  | .rectangle corner0 corner1 =>
    .ofShape event.state (.rectangle ⟨corner1.color, corner1.z⟩)
      (.ofCorners corner0.position corner1.position)

namespace Shape

/-- The edge values at the sample point of a pixel. A rectangle has no edges, and its values are
zero. -/
def edgeValues (shape : Shape) (px py : Int) : Triple Int :=
  match shape with
  | triangle _ geometry => geometry.edges.map (·.atPixel px py)
  | rectangle _ => ⟨0, 0, 0⟩

/-- The changes of the edge values from a pixel to its right neighbour. -/
def stepsX (shape : Shape) : Triple Int :=
  match shape with
  | triangle _ geometry => geometry.edges.map Edge.stepX
  | rectangle _ => ⟨0, 0, 0⟩

/-- The changes of the edge values from a pixel to the one below. -/
def stepsY (shape : Shape) : Triple Int :=
  match shape with
  | triangle _ geometry => geometry.edges.map Edge.stepY
  | rectangle _ => ⟨0, 0, 0⟩

/-- The weights of the vertices for the given edge values. -/
def weights (shape : Shape) (values : Triple Int) : Triple Int :=
  match shape with
  | triangle _ geometry => geometry.weights values
  | rectangle _ => ⟨0, 0, 0⟩

/-- Whether a pixel with the given edge values lies in the shape. -/
def covers (shape : Shape) (values : Triple Int) : Bool :=
  match shape with
  | triangle .. => values.all (0 ≤ ·)
  | rectangle _ => true

/-- The fragment of a pixel with the given weights. Without interpolated colors the first vertex
colors all of a triangle. -/
def fragment (shape : Shape) (gouraud : Bool) (weights : Triple Int) : Fragment :=
  match shape with
  | triangle vertices _ =>
    { color :=
        if gouraud then interpolateColor (vertices.map Vertex.color) weights else vertices.v0.color
      depth := interpolateDepth (vertices.map Vertex.z) weights }
  | rectangle fragment => fragment

end Shape

/-! ## Writing a pixel -/

/-- The steps of writing a pixel. -/
inductive WriteStep where
  /-- Reads the color that is there, for blending. -/
  | readDestination
  /-- Writes the color, combined with the one that is there. -/
  | writeColor (destination : Rgba)
  /-- Writes the depth. -/
  | writeDepth
  deriving DecidableEq, Repr, Inhabited

/-- The slot that a step uses. -/
def WriteStep.client : WriteStep → Client
  | readDestination => .color
  | writeColor _ => .color
  | writeDepth => .depth

/-- The first step of writing a pixel; there is none if nothing is to be written. -/
def RenderMode.firstWrite? (mode : RenderMode) : Option WriteStep :=
  if mode.colorWrite then
    if mode.blend = .disabled then some (.writeColor .zero) else some .readDestination
  else if mode.depthWrite then
    some .writeDepth
  else
    none

namespace Job

/-- Where a pixel stands in its surface. -/
def pixelOffset (job : Job) (px py : Int) : Nat :=
  py.toNat * job.state.framebuffer.width + px.toNat

/-- Address of a pixel's color. -/
def colorAddress (job : Job) (px py : Int) : Nat :=
  surfaceStart job.state.framebuffer.colorBase + job.pixelOffset px py

/-- Address of a pixel's depth. -/
def depthAddress (job : Job) (px py : Int) : Nat :=
  surfaceStart job.state.framebuffer.depthBase + job.pixelOffset px py

/-- The color word that a pixel gets over a given destination. -/
def colorWord (job : Job) (px py : Int) (f : Fragment) (destination : Rgba) : UInt16 :=
  let color := job.state.mode.blend.apply f.color destination
  (if job.state.mode.dither then ditherColor color px py else color).toRgb565

/-- The access that a step of writing a pixel asks for. -/
def request (job : Job) (px py : Int) (f : Fragment) : WriteStep → Request
  | .readDestination => .read (job.colorAddress px py) 1
  | .writeColor destination =>
    .write (job.colorAddress px py) [job.colorWord px py f destination]
  | .writeDepth => .write (job.depthAddress px py) [f.depth]

/-- The step after one whose access has been answered with `word`; there is none after the last. -/
def nextWrite? (job : Job) (word : UInt16) : WriteStep → Option WriteStep
  | .readDestination => some (.writeColor (.ofRgb565 word))
  | .writeColor _ => if job.state.mode.depthWrite then some .writeDepth else none
  | .writeDepth => none

end Job

end RasterGpu
