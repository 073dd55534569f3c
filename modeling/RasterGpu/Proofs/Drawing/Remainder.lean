import RasterGpu.Proofs.Drawing.Reference
import RasterGpu.Rasterizer.Basic

/-!
# What the rasterizer still has to draw

At every moment of drawing a primitive the rasterizer has a part of `DrawEvent.render` left to do:
the rest of the pixel it is at, and after that the pixels that follow. `Phase.work` is that part.

* `Job.writeRest` is the rest of writing a pixel from a step of its writes on, `Job.renderAfter` is
  what follows a pixel.
* `Cursor.Valid` says that the edge values carried along are the edge functions at the pixel.
* `Stage.work` and `Phase.work` put the two together.

Every function by which the rasterizer moves from one stage to the next leaves the work as it was;
the moves that touch the memory are left to the next file.
-/

namespace RasterGpu

/-! ## The rest of a pixel -/

namespace Job

variable (job : Job) (px py : Int) (f : Fragment)

/-- What is left of writing a pixel after a step that was answered with `word`. -/
def afterWrite (step : WriteStep) (word : UInt16) (t : Trace) : Trace :=
  match step with
  | .readDestination => job.putDepth px py f (job.putColor px py f (.ofRgb565 word) t)
  | .writeColor _ => job.putDepth px py f t
  | .writeDepth => t

/-- Writes a pixel from a step on. -/
def writeFrom (step : WriteStep) (t : Trace) : Trace :=
  let (response, t) := t.perform step.client (job.request px py f step)
  job.afterWrite px py f step (Rasterizer.firstWord response) t

/-- Writes a pixel from a step on, if there is one. -/
def writeRest (step? : Option WriteStep) (t : Trace) : Trace :=
  match step? with
  | some step => job.writeFrom px py f step t
  | none => t

/-- Writing from the depth on writes the depth. -/
theorem writeFrom_writeDepth (t : Trace) :
    job.writeFrom px py f .writeDepth t = t.write .depth (job.depthAddress px py) f.depth := by
  simp only [writeFrom, WriteStep.client, request, Trace.perform_write, afterWrite]

/-- Writing from the color on writes the color, and the depth if it is written. -/
theorem writeFrom_writeColor (destination : Rgba) (t : Trace) :
    job.writeFrom px py f (.writeColor destination) t
      = job.putDepth px py f (job.putColor px py f destination t) := by
  simp only [writeFrom, WriteStep.client, request, Trace.perform_write, afterWrite]
  rfl

/-- Writing from the destination read on reads the color, and goes on with it. -/
theorem writeFrom_readDestination (t : Trace) :
    job.writeFrom px py f .readDestination t
      = let (stored, t) := t.read .color (job.colorAddress px py)
        job.putDepth px py f (job.putColor px py f (.ofRgb565 stored) t) := by
  simp only [writeFrom, WriteStep.client, request, Trace.perform_read, afterWrite]
  rfl

/-- Writing the depth is the only step that the depth enable decides. -/
theorem putDepth_eq (t : Trace) :
    job.putDepth px py f t
      = job.writeRest px py f (if job.state.mode.depthWrite then some .writeDepth else none) t := by
  unfold putDepth
  split
  · exact (job.writeFrom_writeDepth px py f t).symm
  · rfl

/-- A pixel is written from its first step on. -/
theorem put_eq (t : Trace) :
    job.put px py f t = job.writeRest px py f job.state.mode.firstWrite? t := by
  unfold put RenderMode.firstWrite?
  dsimp only
  cases job.state.mode.colorWrite with
  | false =>
    simp only [Bool.not_false, Bool.false_eq_true, if_false, if_true]
    exact job.putDepth_eq px py f t
  | true =>
    simp only [Bool.not_true, Bool.false_eq_true, if_false, if_true]
    by_cases hb : job.state.mode.blend = .disabled
    · rw [if_pos hb, if_pos hb]
      exact (job.writeFrom_writeColor px py f .zero t).symm
    · rw [if_neg hb, if_neg hb]
      exact (job.writeFrom_readDestination px py f t).symm

/-- After a step that was answered the pixel is written from the next step on. -/
theorem afterWrite_eq (step : WriteStep) (word : UInt16) (t : Trace) :
    job.afterWrite px py f step word t = job.writeRest px py f (job.nextWrite? word step) t := by
  cases step with
  | readDestination => exact (job.writeFrom_writeColor px py f _ t).symm
  | writeColor destination => exact job.putDepth_eq px py f t
  | writeDepth => rfl

/-- A pixel that is covered and let through is tested and written. -/
theorem plot_of_covers (hc : job.shape.covers (job.shape.edgeValues px py) = true)
    (hs : (!job.state.mode.stipple || job.state.stipple.passes px py) = true) (t : Trace) :
    job.plot px py t
      = job.plotFragment px py (job.shape.fragment job.state.mode.gouraud
          (job.shape.weights (job.shape.edgeValues px py))) t := by
  have hs' : (job.state.mode.stipple && !job.state.stipple.passes px py) = false := by
    rw [← Bool.not_eq_true', Bool.not_and, Bool.not_not]
    exact hs
  simp only [plot, hc, hs', Bool.not_true, Bool.false_eq_true, if_false]

/-- A pixel that is masked out is left alone. -/
theorem plot_of_stippled
    (hs : ¬ (!job.state.mode.stipple || job.state.stipple.passes px py) = true) (t : Trace) :
    job.plot px py t = t := by
  have hs' : (job.state.mode.stipple && !job.state.stipple.passes px py) = true := by
    rw [← Bool.not_eq_false', Bool.not_and, Bool.not_not]
    exact Bool.eq_false_iff.2 hs
  simp only [plot, hs', if_true, ite_self]

/-- A pixel outside the shape is left alone. -/
theorem plot_of_not_covers (hc : ¬ job.shape.covers (job.shape.edgeValues px py) = true)
    (t : Trace) : job.plot px py t = t := by
  simp only [plot, Bool.eq_false_iff.2 hc, Bool.not_false, if_true]

/-- Reads the depth that is there and goes on with it. -/
def compareDepth (t : Trace) : Trace :=
  let (response, t) := t.perform .depth (.read (job.depthAddress px py) 1)
  job.putIfVisible px py f (Rasterizer.firstWord response) t

/-- The fragment of a pixel that is covered, with its tests. -/
theorem plotFragment_eq (t : Trace) :
    job.plotFragment px py f t
      = if !job.state.depthRange.passes f.depth then t
        else if !job.state.mode.alphaTest.passes f.color.a job.state.mode.alphaReference then t
        else if job.state.mode.depthTest then job.compareDepth px py f t
        else job.put px py f t := by
  simp only [plotFragment, compareDepth, Trace.perform_read]
  rfl

/-! ## The pixels that follow -/

/-- Draws the pixels after one. -/
def renderAfter (t : Trace) : Trace :=
  (span (py + 1) job.box.y1).foldl (fun t py => job.renderRow py t)
    ((span (px + 1) job.box.x1).foldl (fun t px => job.plot px py t) t)

/-- A row is its first pixel and what follows it. -/
theorem renderAfter_row (hx : job.box.x0 ≤ job.box.x1) (t : Trace) :
    job.renderAfter job.box.x0 py (job.plot job.box.x0 py t)
      = (span (py + 1) job.box.y1).foldl (fun t py => job.renderRow py t) (job.renderRow py t) := by
  simp only [renderAfter, renderRow, span_of_le hx, List.foldl_cons]

/-- Drawing a box draws its first pixel and what follows it. -/
theorem render_eq (hx : job.box.x0 ≤ job.box.x1) (hy : job.box.y0 ≤ job.box.y1) (t : Trace) :
    job.render t
      = job.renderAfter job.box.x0 job.box.y0 (job.plot job.box.x0 job.box.y0 t) := by
  rw [job.renderAfter_row _ hx, render, span_of_le hy, List.foldl_cons]

/-- Within a row the pixel to the right comes next. -/
theorem renderAfter_of_lt (hx : px < job.box.x1) (t : Trace) :
    job.renderAfter px py t = job.renderAfter (px + 1) py (job.plot (px + 1) py t) := by
  have hx' : px + 1 ≤ job.box.x1 := by omega
  rw [renderAfter, span_of_le hx', List.foldl_cons, renderAfter]

/-- At the end of a row the first pixel of the row below comes next. -/
theorem renderAfter_wrap (h0 : job.box.x0 ≤ job.box.x1) (hx : ¬ px < job.box.x1)
    (hy : py < job.box.y1) (t : Trace) :
    job.renderAfter px py t
      = job.renderAfter job.box.x0 (py + 1) (job.plot job.box.x0 (py + 1) t) := by
  have hx' : job.box.x1 < px + 1 := by omega
  have hy' : py + 1 ≤ job.box.y1 := by omega
  rw [job.renderAfter_row _ h0, renderAfter, span_of_lt hx', span_of_le hy', List.foldl_nil,
    List.foldl_cons]

/-- After the last pixel nothing comes. -/
theorem renderAfter_last (hx : ¬ px < job.box.x1) (hy : ¬ py < job.box.y1) (t : Trace) :
    job.renderAfter px py t = t := by
  have hx' : job.box.x1 < px + 1 := by omega
  have hy' : job.box.y1 < py + 1 := by omega
  rw [renderAfter, span_of_lt hx', span_of_lt hy', List.foldl_nil, List.foldl_nil]

end Job

/-! ## Edge values that are carried along -/

/-- An edge function one pixel to the right. -/
theorem Edge.atPixel_right (e : Edge) (px py : Int) :
    e.atPixel (px + 1) py = e.atPixel px py + e.stepX := by
  simp only [Edge.atPixel, Edge.eval, Point.ofPixel, Edge.stepX, Int.add_mul, Int.mul_add,
    Int.one_mul]
  omega

/-- An edge function one pixel down. -/
theorem Edge.atPixel_below (e : Edge) (px py : Int) :
    e.atPixel px (py + 1) = e.atPixel px py + e.stepY := by
  simp only [Edge.atPixel, Edge.eval, Point.ofPixel, Edge.stepY, Int.add_mul, Int.mul_add,
    Int.one_mul]
  omega

/-- The edge values one pixel to the right. -/
theorem Shape.edgeValues_right (shape : Shape) (px py : Int) :
    shape.edgeValues (px + 1) py = (shape.edgeValues px py).zipWith (· + ·) shape.stepsX := by
  cases shape with
  | triangle vertices geometry =>
    simp only [Shape.edgeValues, Shape.stepsX, Triple.map, Triple.zipWith, Edge.atPixel_right]
  | rectangle f => rfl

/-- The edge values one pixel down. -/
theorem Shape.edgeValues_below (shape : Shape) (px py : Int) :
    shape.edgeValues px (py + 1) = (shape.edgeValues px py).zipWith (· + ·) shape.stepsY := by
  cases shape with
  | triangle vertices geometry =>
    simp only [Shape.edgeValues, Shape.stepsY, Triple.map, Triple.zipWith, Edge.atPixel_below]
  | rectangle f => rfl

namespace Cursor

/-- The values carried along are those of the edge functions. -/
structure Valid (job : Job) (cursor : Cursor) : Prop where
  /-- At the pixel. -/
  values : cursor.values = job.shape.edgeValues cursor.x cursor.y
  /-- At the first pixel of the row. -/
  rowValues : cursor.rowValues = job.shape.edgeValues job.box.x0 cursor.y

/-- The first pixel. -/
theorem start_valid (job : Job) : (start job).Valid job where
  values := rfl
  rowValues := rfl

/-- Going on to the next pixel carries the values along. -/
theorem Valid.next? {job : Job} {cursor next : Cursor} (h : cursor.Valid job)
    (hn : cursor.next? job = some next) : next.Valid job := by
  unfold Cursor.next? at hn
  split at hn
  · obtain rfl := Option.some.inj hn
    refine ⟨?_, h.rowValues⟩
    dsimp only
    rw [h.values, Shape.edgeValues_right]
  · split at hn
    · obtain rfl := Option.some.inj hn
      have hr : cursor.rowValues.zipWith (· + ·) job.shape.stepsY
          = job.shape.edgeValues job.box.x0 (cursor.y + 1) := by
        rw [h.rowValues, Shape.edgeValues_below]
      exact ⟨hr, hr⟩
    · cases hn

/-- What follows a pixel is the next one and what follows that. -/
theorem renderAfter_next {job : Job} {cursor next : Cursor} (h0 : job.box.x0 ≤ job.box.x1)
    (hn : cursor.next? job = some next) (t : Trace) :
    job.renderAfter cursor.x cursor.y t
      = job.renderAfter next.x next.y (job.plot next.x next.y t) := by
  unfold Cursor.next? at hn
  split at hn
  · rename_i hx
    obtain rfl := Option.some.inj hn
    exact job.renderAfter_of_lt _ _ hx t
  · rename_i hx
    split at hn
    · rename_i hy
      obtain rfl := Option.some.inj hn
      exact job.renderAfter_wrap _ _ h0 hx hy t
    · cases hn

/-- Nothing follows the pixel without a next one. -/
theorem renderAfter_end {job : Job} {cursor : Cursor} (hn : cursor.next? job = none) (t : Trace) :
    job.renderAfter cursor.x cursor.y t = t := by
  unfold Cursor.next? at hn
  split at hn
  · cases hn
  · rename_i hx
    split at hn
    · cases hn
    · rename_i hy
      exact job.renderAfter_last _ _ hx hy t

end Cursor

/-! ## Work -/

/-- What is left to do for the pixel at the cursor. -/
def Stage.work (job : Job) (cursor : Cursor) : Stage → Work
  | .edgeTest => .now (job.plot cursor.x cursor.y)
  | .weigh =>
    .now (job.plotFragment cursor.x cursor.y
      (job.shape.fragment job.state.mode.gouraud (job.shape.weights cursor.values)))
  | .interpolate weights =>
    .now (job.plotFragment cursor.x cursor.y (job.shape.fragment job.state.mode.gouraud weights))
  | .depthRead f false => .now (job.compareDepth cursor.x cursor.y f)
  | .depthRead f true =>
    .await .depth (.read (job.depthAddress cursor.x cursor.y) 1) fun response =>
      job.putIfVisible cursor.x cursor.y f (Rasterizer.firstWord response)
  | .depthTest f stored => .now (job.putIfVisible cursor.x cursor.y f stored)
  | .write f step false => .now (job.writeFrom cursor.x cursor.y f step)
  | .write f step true =>
    .await step.client (job.request cursor.x cursor.y f step) fun response =>
      job.afterWrite cursor.x cursor.y f step (Rasterizer.firstWord response)
  | .next => .now id

/-- What is left to do for a primitive. -/
def Phase.work : Phase → Work
  | .idle => .now id
  | .setup event => .now event.render
  | .start job => .now job.render
  | .scan job cursor stage => (stage.work job cursor).andThen (job.renderAfter cursor.x cursor.y)

/-- A primitive that is set up has pixels, and the cursor carries its edge values along. -/
def Phase.Valid : Phase → Prop
  | .idle | .setup _ => True
  | .start job => job.box.isEmpty = false
  | .scan job cursor _ => job.box.isEmpty = false ∧ cursor.Valid job

/-- The slots that the rasterizer uses. -/
def Client.isDrawing : Client → Bool
  | color | depth => true
  | display | engine => false

/-- The rasterizer waits at its own ports. -/
theorem Phase.work_within (phase : Phase) : phase.work.Within Client.isDrawing := by
  intro c hc
  cases phase with
  | idle => exact absurd rfl hc
  | setup event => exact absurd rfl hc
  | start job => exact absurd rfl hc
  | scan job cursor stage =>
    rw [Phase.work, Work.request?_andThen] at hc
    cases stage with
    | depthRead f waiting =>
      cases waiting with
      | false => exact absurd rfl hc
      | true => cases c <;> first | rfl | exact absurd rfl hc
    | write f step waiting =>
      cases waiting with
      | false => exact absurd rfl hc
      | true => cases step <;> cases c <;> first | rfl | exact absurd rfl hc
    | _ => exact absurd rfl hc

/-- A box with a pixel has a column and a row. -/
theorem Box.le_of_isEmpty {box : Box} (h : box.isEmpty = false) :
    box.x0 ≤ box.x1 ∧ box.y0 ≤ box.y1 := by
  unfold Box.isEmpty at h
  rw [Bool.or_eq_false_iff, decide_eq_false_iff_not, decide_eq_false_iff_not] at h
  exact ⟨by omega, by omega⟩

/-- Setup makes no job without pixels. -/
theorem DrawEvent.isEmpty_of_setup {event : DrawEvent} {job : Job} (h : event.setup = .job job) :
    job.box.isEmpty = false := by
  have ofShape {state : DrawState} {shape : Shape} {bounds : Box}
      (h : SetupResult.ofShape state shape bounds = .job job) : job.box.isEmpty = false := by
    unfold SetupResult.ofShape at h
    dsimp only at h
    split at h
    · cases h
    · rename_i he
      cases h
      exact Bool.eq_false_iff.2 he
  unfold DrawEvent.setup at h
  split at h
  · dsimp only at h
    split at h
    · cases h
    · split at h
      · cases h
      · exact ofShape h
  · exact ofShape h

end RasterGpu
