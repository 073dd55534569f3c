import RasterGpu.Rasterizer.Job
import RasterGpu.Rasterizer.Stats

/-!
# The rasterizer

The rasterizer draws one primitive at a time. It visits the pixels of the primitive's box, rows from
top to bottom and pixels from left to right, and takes each through the stages edge test, weights,
interpolation with its tests, depth read, depth test and writes. A stage takes one cycle; one that
needs the memory lasts until its response is there. Edge values are not evaluated at each pixel but
carried along.
-/

namespace RasterGpu

/-- Where the rasterizer stands in the box, with the edge values there. -/
structure Cursor where
  /-- Column. -/
  x : Int
  /-- Row. -/
  y : Int
  /-- Edge values at the pixel. -/
  values : Triple Int
  /-- Edge values at the first pixel of the row. -/
  rowValues : Triple Int
  deriving DecidableEq, Repr, Inhabited

/-- How far a pixel has come. -/
inductive Stage where
  /-- Its edge values are to be looked at. -/
  | edgeTest
  /-- Its weights are to be computed. -/
  | weigh
  /-- Its fragment is to be computed and tested. -/
  | interpolate (weights : Triple Int)
  /-- The stored depth is to be read. -/
  | depthRead (f : Fragment) (waiting : Bool)
  /-- The stored depth is to be compared. -/
  | depthTest (f : Fragment) (stored : UInt16)
  /-- It is to be written. -/
  | write (f : Fragment) (step : WriteStep) (waiting : Bool)
  /-- It is done. -/
  | next
  deriving DecidableEq, Repr, Inhabited

/-- How far a primitive has come. -/
inductive Phase where
  /-- There is none. -/
  | idle
  /-- It is to be set up. -/
  | setup (event : DrawEvent)
  /-- Its first pixel is to be visited. -/
  | start (job : Job)
  /-- Its pixels are being visited. -/
  | scan (job : Job) (cursor : Cursor) (stage : Stage)
  deriving DecidableEq, Repr, Inhabited

/-- The rasterizer. -/
structure Rasterizer where
  /-- The primitive being drawn. -/
  phase : Phase := .idle
  /-- Counters of the primitive being drawn, or of the last one. -/
  current : RasterStats := {}
  /-- Counters of all finished primitives. -/
  totals : RasterStats := {}
  deriving DecidableEq, Repr, Inhabited

namespace Cursor

/-- The first pixel of a job. -/
def start (job : Job) : Cursor :=
  let values := job.shape.edgeValues job.box.x0 job.box.y0
  ⟨job.box.x0, job.box.y0, values, values⟩

/-- The pixel after this one, if there is any. -/
def next? (cursor : Cursor) (job : Job) : Option Cursor :=
  if cursor.x < job.box.x1 then
    some { cursor with
      x := cursor.x + 1
      values := cursor.values.zipWith (· + ·) job.shape.stepsX }
  else if cursor.y < job.box.y1 then
    let values := cursor.rowValues.zipWith (· + ·) job.shape.stepsY
    some ⟨job.box.x0, cursor.y + 1, values, values⟩
  else
    none

end Cursor

namespace Rasterizer

/-- Whether a primitive is being drawn. -/
def isBusy (r : Rasterizer) : Bool :=
  match r.phase with
  | .idle => false
  | _ => true

/-- Takes a primitive, unless another is being drawn. -/
def accept? (r : Rasterizer) (event : DrawEvent) : Option Rasterizer :=
  if r.isBusy then none else some { r with phase := .setup event, current := {} }

/-- Ends the primitive being drawn. -/
def finish (r : Rasterizer) : Rasterizer :=
  { r with phase := .idle, totals := r.totals + r.current }

/-- Sets a primitive up. -/
def setup (r : Rasterizer) (event : DrawEvent) : Rasterizer :=
  let r := { r with current.primitives := 1 }
  match event.setup with
  | .culled => { r with current.culled := 1 }.finish
  | .nothing => r.finish
  | .job job => { r with phase := .start job }

/-- Looks at the edge values and the stipple mask. -/
def edgeTest (r : Rasterizer) (job : Job) (cursor : Cursor) : Rasterizer :=
  let tested := r.current.tested + 1
  if job.shape.covers cursor.values then
    let covered := r.current.covered + 1
    if !job.state.mode.stipple || job.state.stipple.passes cursor.x cursor.y then
      { r with
        phase := .scan job cursor .weigh
        current := { r.current with tested, covered } }
    else
      { r with
        phase := .scan job cursor .next
        current := { r.current with
          tested, covered, discardedStipple := r.current.discardedStipple + 1 } }
  else
    { r with phase := .scan job cursor .next, current := { r.current with tested } }

/-- Begins to write a pixel that has passed all tests. -/
def beginWrite (r : Rasterizer) (job : Job) (cursor : Cursor) (f : Fragment) : Rasterizer :=
  match job.state.mode.firstWrite? with
  | some step => { r with phase := .scan job cursor (.write f step false) }
  | none => { r with phase := .scan job cursor .next }

/-- Computes a fragment and applies the tests that need no memory. -/
def interpolate (r : Rasterizer) (job : Job) (cursor : Cursor) (weights : Triple Int) :
    Rasterizer :=
  let mode := job.state.mode
  let f := job.shape.fragment mode.gouraud weights
  if !job.state.depthRange.passes f.depth then
    { r with
      phase := .scan job cursor .next
      current.discardedDepthRange := r.current.discardedDepthRange + 1 }
  else if !mode.alphaTest.passes f.color.a mode.alphaReference then
    { r with
      phase := .scan job cursor .next
      current.discardedAlpha := r.current.discardedAlpha + 1 }
  else if mode.depthTest then
    { r with phase := .scan job cursor (.depthRead f false) }
  else
    r.beginWrite job cursor f

/-- Compares a depth with the stored one. -/
def depthTest (r : Rasterizer) (job : Job) (cursor : Cursor) (f : Fragment) (stored : UInt16) :
    Rasterizer :=
  if job.state.mode.depthCompare.passes f.depth stored then
    r.beginWrite job cursor f
  else
    { r with
      phase := .scan job cursor .next
      current.discardedDepth := r.current.discardedDepth + 1 }

/-- Goes on after an access of a write was answered with `word`. -/
def advanceWrite (r : Rasterizer) (job : Job) (cursor : Cursor) (f : Fragment) (step : WriteStep)
    (word : UInt16) : Rasterizer :=
  match job.nextWrite? word step with
  | some step => { r with phase := .scan job cursor (.write f step false) }
  | none =>
    { r with
      phase := .scan job cursor .next
      current.written := r.current.written + 1 }

/-- Goes on to the next pixel. -/
def advance (r : Rasterizer) (job : Job) (cursor : Cursor) : Rasterizer :=
  match cursor.next? job with
  | some cursor => { r with phase := .scan job cursor .edgeTest }
  | none => r.finish

/-- The first word of a response, zero if it has none. -/
def firstWord (response : Response) : UInt16 :=
  response.data.headD 0

/-- Takes a pixel one cycle further. -/
def step (r : Rasterizer) (job : Job) (cursor : Cursor) (stage : Stage) (a : Arbiter) :
    Rasterizer × Arbiter :=
  match stage with
  | .edgeTest => (r.edgeTest job cursor, a)
  | .weigh =>
    ({ r with phase := .scan job cursor (.interpolate (job.shape.weights cursor.values)) }, a)
  | .interpolate weights => (r.interpolate job cursor weights, a)
  | .depthRead f false =>
    match a.submit? .depth (.read (job.depthAddress cursor.x cursor.y) 1) with
    | some a => ({ r with phase := .scan job cursor (.depthRead f true) }, a)
    | none => (r, a)
  | .depthRead f true =>
    match a.take? .depth with
    | some (response, a) =>
      ({ r with phase := .scan job cursor (.depthTest f (firstWord response)) }, a)
    | none => (r, a)
  | .depthTest f stored => (r.depthTest job cursor f stored, a)
  | .write f step false =>
    match a.submit? step.client (job.request cursor.x cursor.y f step) with
    | some a => ({ r with phase := .scan job cursor (.write f step true) }, a)
    | none => (r, a)
  | .write f step true =>
    match a.take? step.client with
    | some (response, a) => (r.advanceWrite job cursor f step (firstWord response), a)
    | none => (r, a)
  | .next => (r.advance job cursor, a)

/-- Advances by one cycle. -/
def tick (r : Rasterizer) (a : Arbiter) : Rasterizer × Arbiter :=
  match r.phase with
  | .idle => (r, a)
  | phase =>
    let r := { r with current.busyCycles := r.current.busyCycles + 1 }
    match phase with
    | .idle => (r, a)
    | .setup event => (r.setup event, a)
    | .start job => ({ r with phase := .scan job (.start job) .edgeTest }, a)
    | .scan job cursor stage => r.step job cursor stage a

end Rasterizer

end RasterGpu
