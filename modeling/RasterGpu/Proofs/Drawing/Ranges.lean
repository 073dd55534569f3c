import RasterGpu.Proofs.Drawing.Coverage
import RasterGpu.Proofs.Drawing.Machine
import RasterGpu.Proofs.Registers.Readback

/-!
# The rasterizer in machine integers

Nothing that the rasterizer computes leaves the machine type that is to hold it, whatever the
vertices, and whatever is written to the registers. The checked computations of a single edge, box,
triangle or fragment are put together here to those of a cycle.

* `DrawEvent.checkedSetup`, `Cursor.checkedStart`, `Cursor.checkedNext` and the checked fragments and
  addresses are what a cycle computes, with every result checked.
* `Phase.Fits` is the invariant. Edge values are carried along from pixel to pixel; they are those of
  the edge functions at the pixel, so they cannot grow beyond what the surface allows.
* `Phase.Exact` says that no check fails and that the results are those of the rasterizer.

`Rasterizer.run_exact` is the theorem about runs. The registers may hold any words, and the arbiter
may be in any state in any cycle.
-/

namespace RasterGpu

open IntegerType

/-! ## Checked computations -/

namespace Shape

/-- The edge values at the sample point of a pixel, checked. -/
def checkedEdgeValues (shape : Shape) (px py : Int) : Option (Triple Int) :=
  match shape with
  | triangle _ geometry => geometry.edges.traverse (·.checkedAtPixel px py)
  | rectangle _ => some ⟨0, 0, 0⟩

/-- The changes of the edge values from a pixel to its right neighbour, checked. -/
def checkedStepsX (shape : Shape) : Option (Triple Int) :=
  match shape with
  | triangle _ geometry => geometry.edges.traverse Edge.checkedStepX
  | rectangle _ => some ⟨0, 0, 0⟩

/-- The changes of the edge values from a pixel to the one below, checked. -/
def checkedStepsY (shape : Shape) : Option (Triple Int) :=
  match shape with
  | triangle _ geometry => geometry.edges.traverse Edge.checkedStepY
  | rectangle _ => some ⟨0, 0, 0⟩

/-- The weights of the vertices for the given edge values, checked. -/
def checkedWeights (shape : Shape) (values : Triple Int) : Option (Triple Int) :=
  match shape with
  | triangle _ geometry => geometry.checkedWeights values
  | rectangle _ => some ⟨0, 0, 0⟩

/-- The fragment of a pixel with the given weights, checked. -/
def checkedFragment (shape : Shape) (gouraud : Bool) (weights : Triple Int) : Option Fragment :=
  match shape with
  | triangle vertices _ => do
    let color ←
      if gouraud then checkedInterpolateColor (vertices.map Vertex.color) weights
      else some vertices.v0.color
    let depth ← checkedInterpolateDepth (vertices.map Vertex.z) weights
    return { color, depth }
  | rectangle fragment => some fragment

end Shape

/-- The job of a shape, checked. -/
def SetupResult.checkedOfShape (state : DrawState) (shape : Shape) (bounds : Box) :
    Option SetupResult := do
  let box ← bounds.checkedClip state.framebuffer state.scissor
  return if box.isEmpty then .nothing else .job ⟨state, shape, box⟩

/-- Prepares a draw event, checked. -/
def DrawEvent.checkedSetup (event : DrawEvent) : Option SetupResult :=
  match event.primitive with
  | .triangle vertices _ => do
    let positions := vertices.map Vertex.position
    let geometry ← Triangle.checkedOfVertices positions event.state.area
    if event.state.mode.cull.drops geometry.doubledArea then
      return .culled
    else if geometry.doubledArea ≤ 0 then
      return .nothing
    else
      SetupResult.checkedOfShape event.state (.triangle vertices geometry)
        (← Box.checkedOfTriangle positions)
  | .rectangle corner0 corner1 => do
    SetupResult.checkedOfShape event.state (.rectangle ⟨corner1.color, corner1.z⟩)
      (← Box.checkedOfCorners corner0.position corner1.position)

namespace Job

/-- Where a pixel stands in its surface, checked. -/
def checkedPixelOffset (job : Job) (px py : Int) : Option Int := do
  let row ← u32.check py
  let start ← shiftLeft row job.state.framebuffer.widthLog2
  let column ← u32.check px
  u32.check (start + column)

/-- Address of a pixel in the surface with the given base, checked. -/
def checkedAddress (job : Job) (base : Nat) (px py : Int) : Option Int := do
  let start ← u32.check (base * wordsPerBaseUnit)
  let offset ← job.checkedPixelOffset px py
  u32.check (start + offset)

end Job

namespace Cursor

/-- Edge values after a step, checked. -/
def checkedAdd (values steps : Triple Int) : Option (Triple Int) :=
  (values.zipWith (· + ·) steps).traverse i64.check

/-- The first pixel of a job, checked. -/
def checkedStart (job : Job) : Option Cursor := do
  let values ← job.shape.checkedEdgeValues job.box.x0 job.box.y0
  return ⟨job.box.x0, job.box.y0, values, values⟩

/-- The pixel after this one, checked: the outer failure is that of a check, the inner one says that
there is none. -/
def checkedNext (cursor : Cursor) (job : Job) : Option (Option Cursor) := do
  let stepsX ← job.shape.checkedStepsX
  let stepsY ← job.shape.checkedStepsY
  let x ← i32.check (cursor.x + 1)
  if job.box.x1 < x then
    let y ← i32.check (cursor.y + 1)
    if job.box.y1 < y then
      return none
    else
      let values ← checkedAdd cursor.rowValues stepsY
      return some ⟨job.box.x0, y, values, values⟩
  else
    let values ← checkedAdd cursor.values stepsX
    return some { cursor with x, values }

end Cursor

/-! ## The invariant -/

/-- The drawing state fits the registers. -/
structure DrawState.Fits (state : DrawState) : Prop where
  /-- The surfaces. -/
  framebuffer : state.framebuffer.Fits
  /-- The scissor rectangle. -/
  scissor : state.scissor.Fits
  /-- The factors. -/
  area : state.area.Fits

/-- Drawing state that was decoded fits. -/
theorem DrawState.ofWords_fits (word : Register → UInt64) : (DrawState.ofWords word).Fits where
  framebuffer := Framebuffer.ofWord_fits _
  scissor := Scissor.ofWord_fits _
  area := AreaFactors.ofWord_fits _

/-- The geometry of a triangle is that of its vertices. -/
def Shape.Fits : Shape → Prop
  | triangle vertices geometry => geometry.Small
    ∧ ∃ programmed, geometry = .ofVertices (vertices.map Vertex.position) programmed
  | rectangle _ => True

/-- A job that setup has made. -/
structure Job.Prepared (job : Job) : Prop where
  /-- The drawing state. -/
  state : job.state.Fits
  /-- The shape. -/
  shape : job.shape.Fits
  /-- There are pixels. -/
  nonempty : job.box.isEmpty = false
  /-- They lie on the surfaces. -/
  onSurface : ∀ px py, (px, py) ∈ job.box.pixels → job.state.framebuffer.Contains px py

/-- A pixel of a job that is being visited. -/
structure Job.Visits (job : Job) (cursor : Cursor) (stage : Stage) : Prop where
  /-- The job. -/
  prepared : job.Prepared
  /-- The pixel is one of the job. -/
  inside : cursor.pixel ∈ job.box.pixels
  /-- The edge values are those of the edge functions. -/
  valid : cursor.Valid job
  /-- Only a pixel in the shape is weighed. -/
  covered : stage = .weigh → job.shape.covers cursor.values = true

/-- What is known of a primitive at any time. -/
def Phase.Fits : Phase → Prop
  | .idle => True
  | .setup event => event.state.Fits
  | .start job => job.Prepared
  | .scan job cursor stage => job.Visits cursor stage

/-! ## Setup -/

/-- **Setting a primitive up.** -/
theorem DrawEvent.checkedSetup_eq {event : DrawEvent} (h : event.state.Fits) :
    event.checkedSetup = some event.setup := by
  have hshape {shape : Shape} {bounds : Box} (hb : bounds.Within (2 ^ 12)) :
      SetupResult.checkedOfShape event.state shape bounds
        = some (.ofShape event.state shape bounds) := by
    rw [SetupResult.checkedOfShape, Box.checkedClip_eq hb h.framebuffer h.scissor]
    rfl
  unfold checkedSetup setup
  cases event.primitive with
  | triangle vertices winding =>
    obtain ⟨hgeometry, -⟩ := Triangle.checkedOfVertices_eq vertices h.area
    obtain ⟨hbox, hwithin⟩ := Box.checkedOfTriangle_eq (p := vertices.map Vertex.position)
      ⟨vertices.v0.position_within, vertices.v1.position_within, vertices.v2.position_within⟩
    dsimp only
    rw [hgeometry, hbox, Option.bind_eq_bind, Option.bind_some, Option.bind_eq_bind,
      Option.bind_some, hshape hwithin]
    split
    · rfl
    · split
      · rfl
      · rfl
  | rectangle corner0 corner1 =>
    obtain ⟨hbox, hwithin⟩ :=
      Box.checkedOfCorners_eq corner0.position_within corner1.position_within
    dsimp only
    rw [hbox, Option.bind_eq_bind, Option.bind_some, hshape hwithin]

/-- What setup makes of a primitive. -/
theorem DrawEvent.setup_prepared {event : DrawEvent} {job : Job} (h : event.state.Fits)
    (hs : event.setup = .job job) : job.Prepared := by
  rcases event.setup_cases with ⟨job', hs', hjob, hnonempty⟩ | ⟨hs' | hs', -⟩
  · rw [hs] at hs'
    obtain rfl : job = job' := SetupResult.job.inj hs'
    obtain ⟨⟨shape, bounds⟩, hshape, rfl⟩ := Option.map_eq_some_iff.1 hjob
    refine ⟨h, ?_, hnonempty, fun px py hp => (Box.mem_pixels_clip.1 hp).2.1⟩
    unfold shape? at hshape
    dsimp only at hshape ⊢
    split at hshape
    · rename_i vertices winding hp
      split at hshape
      · cases hshape
      · obtain ⟨rfl, -⟩ := Prod.mk.inj (Option.some.inj hshape)
        exact ⟨(Triangle.checkedOfVertices_eq vertices h.area).2, _, rfl⟩
    · obtain ⟨rfl, -⟩ := Prod.mk.inj (Option.some.inj hshape)
      trivial
  · rw [hs] at hs'
    cases hs'
  · rw [hs] at hs'
    cases hs'

/-! ## Pixels -/

section Pixel

variable {job : Job} {cursor : Cursor} {stage : Stage} {px py : Int}

/-- Pixels of a surface are not far from the origin. -/
theorem Framebuffer.Contains.natAbs_le {fb : Framebuffer} (h : fb.Contains px py) (hfb : fb.Fits) :
    px.natAbs ≤ 2 ^ 15 ∧ py.natAbs ≤ 2 ^ 15 := by
  have hwidth := hfb.width.2
  have hheight := hfb.height.2
  obtain ⟨hx, hy⟩ := h
  exact ⟨by omega, by omega⟩

/-- **Edge values.** -/
theorem Shape.Fits.edgeValues {shape : Shape} (h : shape.Fits) (hx : px.natAbs ≤ 2 ^ 15)
    (hy : py.natAbs ≤ 2 ^ 15) :
    shape.checkedEdgeValues px py = some (shape.edgeValues px py)
      ∧ (shape.edgeValues px py).All fun e => e.natAbs ≤ 2 ^ 37 := by
  cases shape with
  | triangle vertices geometry =>
    obtain ⟨⟨⟨h0, h1, h2⟩, -⟩, -⟩ := h
    obtain ⟨hvalue0, hsmall0⟩ := Edge.checkedAtPixel_eq h0 hx hy
    obtain ⟨hvalue1, hsmall1⟩ := Edge.checkedAtPixel_eq h1 hx hy
    obtain ⟨hvalue2, hsmall2⟩ := Edge.checkedAtPixel_eq h2 hx hy
    refine ⟨?_, hsmall0, hsmall1, hsmall2⟩
    unfold checkedEdgeValues Shape.edgeValues
    exact Triple.traverse_eq ⟨hvalue0, hvalue1, hvalue2⟩
  | rectangle f => exact ⟨rfl, Nat.zero_le _, Nat.zero_le _, Nat.zero_le _⟩

/-- **Changes of the edge values.** -/
theorem Shape.Fits.steps {shape : Shape} (h : shape.Fits) :
    shape.checkedStepsX = some shape.stepsX ∧ shape.checkedStepsY = some shape.stepsY := by
  cases shape with
  | triangle vertices geometry =>
    obtain ⟨⟨⟨h0, h1, h2⟩, -⟩, -⟩ := h
    obtain ⟨hx0, hy0⟩ := Edge.checkedStep_eq h0
    obtain ⟨hx1, hy1⟩ := Edge.checkedStep_eq h1
    obtain ⟨hx2, hy2⟩ := Edge.checkedStep_eq h2
    exact ⟨Triple.traverse_eq ⟨hx0, hx1, hx2⟩, Triple.traverse_eq ⟨hy0, hy1, hy2⟩⟩
  | rectangle f => exact ⟨rfl, rfl⟩

/-- **Weights.** -/
theorem Shape.Fits.weights {shape : Shape} (h : shape.Fits) {values : Triple Int}
    (hv : values.All fun e => e.natAbs ≤ 2 ^ 37) :
    shape.checkedWeights values = some (shape.weights values) := by
  cases shape with
  | triangle vertices geometry => exact Triangle.checkedWeights_eq h.1.factors hv
  | rectangle f => rfl

/-- **Fragments.** -/
theorem Shape.checkedFragment_eq (shape : Shape) (gouraud : Bool) (weights : Triple Int) :
    shape.checkedFragment gouraud weights = some (shape.fragment gouraud weights) := by
  cases shape with
  | triangle vertices geometry =>
    unfold checkedFragment fragment
    dsimp only
    rw [checkedInterpolateDepth_eq]
    cases gouraud with
    | true =>
      rw [if_pos rfl, if_pos rfl, checkedInterpolateColor_eq]
      rfl
    | false => rfl
  | rectangle f => rfl

/-- Edge values of a pixel in a triangle do not exceed the doubled area. -/
theorem Shape.Fits.values_le {shape : Shape} (h : shape.Fits)
    (hc : shape.covers (shape.edgeValues px py) = true) {vertices : Triple Vertex}
    {geometry : Triangle} (hs : shape = .triangle vertices geometry) :
    (shape.edgeValues px py).All fun e => 0 ≤ e ∧ e ≤ geometry.doubledArea := by
  subst hs
  obtain ⟨-, programmed, rfl⟩ := h
  simp only [Shape.covers, Triple.all, Bool.and_eq_true, decide_eq_true_eq] at hc
  obtain ⟨⟨h0, h1⟩, h2⟩ := hc
  have hsum := Triangle.sum_eval (vertices.map Vertex.position) (.ofPixel px py)
  change _ = (Triangle.ofVertices (vertices.map Vertex.position) programmed).doubledArea at hsum
  rw [← hsum]
  dsimp only [Shape.edgeValues, Triangle.ofVertices, Triple.map, Edge.atPixel] at h0 h1 h2 ⊢
  constructor <;> dsimp only <;> omega

/-- **Where a pixel stands.** -/
theorem Job.checkedPixelOffset_eq (hfb : job.state.framebuffer.Fits)
    (h : job.state.framebuffer.Contains px py) :
    job.checkedPixelOffset px py = some (job.pixelOffset px py : Int)
      ∧ job.pixelOffset px py < 2 ^ 31 := by
  obtain ⟨⟨hx, hx'⟩, hy, hy'⟩ := h
  have hwidth := hfb.width.2
  have hheight := hfb.height.2
  have hcast : (job.state.framebuffer.width : Int) = 2 ^ job.state.framebuffer.widthLog2 := by
    rw [Framebuffer.width, Nat.one_shiftLeft, Int.natCast_pow]
    rfl
  have hrow : (py * job.state.framebuffer.width).natAbs ≤ 2 ^ 15 * 2 ^ 15 :=
    natAbs_mul_le (by omega) (by omega)
  have hrow' : 0 ≤ py * job.state.framebuffer.width := Int.mul_nonneg hy (Int.natCast_nonneg _)
  have hoffset : (job.pixelOffset px py : Int) = py * job.state.framebuffer.width + px := by
    rw [Job.pixelOffset, Int.natCast_add, Int.natCast_mul, Int.toNat_of_nonneg hx,
      Int.toNat_of_nonneg hy]
  refine ⟨?_, by omega⟩
  rw [Job.checkedPixelOffset, check_u32 ⟨hy, by omega⟩, Option.bind_eq_bind, Option.bind_some,
    shiftLeft_of_lt (Nat.lt_trans hfb.widthLog2 (by decide)) ⟨hy, by rw [← hcast]; omega⟩, ← hcast,
    hoffset]
  simp (disch := omega) only [check_u32, Option.bind_some]

/-- **The address of a pixel.** -/
theorem Job.checkedAddress_eq (hfb : job.state.framebuffer.Fits)
    (h : job.state.framebuffer.Contains px py) {base : Nat} (hbase : base < 2 ^ 16) :
    job.checkedAddress base px py = some (surfaceStart base + job.pixelOffset px py : Nat) := by
  obtain ⟨hoffset, hlt⟩ := Job.checkedPixelOffset_eq hfb h
  dsimp only [checkedAddress, surfaceStart, wordsPerBaseUnit]
  rw [hoffset]
  simp (disch := omega) only [check_u32, Option.bind_eq_bind, Option.bind_some]
  rfl

/-- **Going on from pixel to pixel.** -/
theorem Cursor.checkedAdd_eq {values steps : Triple Int}
    (h : (values.zipWith (· + ·) steps).All fun e => e.natAbs ≤ 2 ^ 37) :
    checkedAdd values steps = some (values.zipWith (· + ·) steps) := by
  have hfits {e : Int} (he : e.natAbs ≤ 2 ^ 37) : i64.check e = some e := check_i64 (by omega)
  rw [checkedAdd, Triple.traverse, hfits h.v0, hfits h.v1, hfits h.v2]
  rfl

namespace Job

/-- Edge values at a pixel of the job. -/
theorem Prepared.edgeValues (h : job.Prepared) (hp : (px, py) ∈ job.box.pixels) :
    job.shape.checkedEdgeValues px py = some (job.shape.edgeValues px py)
      ∧ (job.shape.edgeValues px py).All fun e => e.natAbs ≤ 2 ^ 37 := by
  obtain ⟨hx, hy⟩ := (h.onSurface px py hp).natAbs_le h.state.framebuffer
  exact h.shape.edgeValues hx hy

/-- The first pixel is one of the job. -/
theorem Prepared.visits_start (h : job.Prepared) : job.Visits (.start job) .edgeTest := by
  obtain ⟨hx, hy⟩ := Box.le_of_isEmpty h.nonempty
  exact ⟨h, Box.mem_pixels.2 ⟨⟨Int.le_refl _, hx⟩, Int.le_refl _, hy⟩, Cursor.start_valid job, nofun⟩

/-- **Going to the first pixel.** -/
theorem Prepared.checkedStart (h : job.Prepared) : Cursor.checkedStart job = some (.start job) := by
  have hfirst : (job.box.x0, job.box.y0) ∈ job.box.pixels := h.visits_start.inside
  rw [Cursor.checkedStart, (h.edgeValues hfirst).1]
  rfl

/-- The next pixel is one of the job. -/
theorem Visits.next (h : job.Visits cursor stage) {next : Cursor}
    (hn : cursor.next? job = some next) : job.Visits next .edgeTest := by
  refine ⟨h.prepared, ?_, h.valid.next? hn, nofun⟩
  obtain ⟨hx, hy⟩ := Box.mem_pixels.1 h.inside
  obtain ⟨hx0, -⟩ := Box.le_of_isEmpty h.prepared.nonempty
  refine Box.mem_pixels.2 ?_
  unfold Cursor.next? at hn
  split at hn
  · rename_i hlt
    obtain rfl := Option.some.inj hn
    dsimp only
    omega
  · split at hn
    · rename_i hlt
      obtain rfl := Option.some.inj hn
      dsimp only
      omega
    · cases hn

/-- The edge values that are carried along are not large. -/
theorem Visits.values (h : job.Visits cursor stage) :
    cursor.values.All fun e => e.natAbs ≤ 2 ^ 37 := by
  rw [h.valid.values]
  exact (h.prepared.edgeValues h.inside).2

/-- **Going on to the next pixel.** -/
theorem Visits.checkedNext (h : job.Visits cursor stage) :
    cursor.checkedNext job = some (cursor.next? job) := by
  obtain ⟨hstepsX, hstepsY⟩ := h.prepared.shape.steps
  obtain ⟨hx, hy⟩ := (h.prepared.onSurface _ _ h.inside).natAbs_le h.prepared.state.framebuffer
  rw [Cursor.checkedNext, hstepsX, hstepsY]
  simp (disch := omega) only [check_i32, Option.bind_eq_bind, Option.bind_some]
  by_cases hright : cursor.x < job.box.x1
  · have hnext : cursor.next? job = some { cursor with
        x := cursor.x + 1
        values := cursor.values.zipWith (· + ·) job.shape.stepsX } := if_pos hright
    rw [if_neg (by omega), Cursor.checkedAdd_eq (h.next hnext).values, hnext]
    rfl
  · rw [if_pos (by omega)]
    by_cases hbelow : cursor.y < job.box.y1
    · have hnext : cursor.next? job = some ⟨job.box.x0, cursor.y + 1,
          cursor.rowValues.zipWith (· + ·) job.shape.stepsY,
          cursor.rowValues.zipWith (· + ·) job.shape.stepsY⟩ :=
        (if_neg hright).trans (if_pos hbelow)
      rw [if_neg (by omega), Cursor.checkedAdd_eq (h.next hnext).values, hnext]
      rfl
    · have hnext : cursor.next? job = none := (if_neg hright).trans (if_neg hbelow)
      rw [if_pos (by omega), hnext]
      rfl

end Job

end Pixel

/-! ## What a cycle computes -/

/-- What the rasterizer computes at a pixel in machine integers is what it has to compute. -/
structure Job.Exact (job : Job) (cursor : Cursor) (stage : Stage) : Prop where
  /-- The pixel lies on the surfaces: its column and its row are not negative, and less than the
  width and the height. -/
  onSurface : job.state.framebuffer.Contains cursor.x cursor.y
  /-- So does the first pixel of the box -/
  firstOnSurface : job.state.framebuffer.Contains job.box.x0 job.box.y0
  /-- and the last. -/
  lastOnSurface : job.state.framebuffer.Contains job.box.x1 job.box.y1
  /-- The edge values that are carried along are those of the edge functions at the pixel, -/
  values : job.shape.checkedEdgeValues cursor.x cursor.y = some cursor.values
  /-- and those kept for the next row are those at the first pixel of the row. -/
  rowValues : job.shape.checkedEdgeValues job.box.x0 cursor.y = some cursor.rowValues
  /-- The weights. -/
  weights : job.shape.checkedWeights cursor.values = some (job.shape.weights cursor.values)
  /-- Weights are computed only where no edge value is negative or exceeds the doubled area. -/
  weighed : stage = .weigh → ∀ vertices geometry, job.shape = .triangle vertices geometry →
    cursor.values.All fun e => 0 ≤ e ∧ e ≤ geometry.doubledArea
  /-- The fragment, with any weights. -/
  fragment : ∀ weights, job.shape.checkedFragment job.state.mode.gouraud weights
    = some (job.shape.fragment job.state.mode.gouraud weights)
  /-- Where the pixel stands in its surface. -/
  offset : job.checkedPixelOffset cursor.x cursor.y = some (job.pixelOffset cursor.x cursor.y : Int)
  /-- The address of its color. -/
  colorAddress : job.checkedAddress job.state.framebuffer.colorBase cursor.x cursor.y
    = some (job.colorAddress cursor.x cursor.y : Int)
  /-- The address of its depth. -/
  depthAddress : job.checkedAddress job.state.framebuffer.depthBase cursor.x cursor.y
    = some (job.depthAddress cursor.x cursor.y : Int)
  /-- The next pixel. -/
  next : cursor.checkedNext job = some (cursor.next? job)

/-- What the rasterizer computes for a primitive in machine integers is what it has to compute. -/
def Phase.Exact : Phase → Prop
  | .idle => True
  | .setup event => event.checkedSetup = some event.setup
  | .start job => Cursor.checkedStart job = some (.start job)
  | .scan job cursor stage => job.Exact cursor stage

/-- **At a pixel.** -/
theorem Job.Visits.exact {job : Job} {cursor : Cursor} {stage : Stage}
    (h : job.Visits cursor stage) : job.Exact cursor stage := by
  have hfb := h.prepared.state.framebuffer
  have hsurface := h.prepared.onSurface _ _ h.inside
  have hvalues := h.valid.values
  obtain ⟨hx, hy⟩ := Box.mem_pixels.1 h.inside
  obtain ⟨hx0, hy0⟩ := Box.le_of_isEmpty h.prepared.nonempty
  constructor
  case onSurface => exact hsurface
  case firstOnSurface => exact h.prepared.onSurface _ _ (Box.mem_pixels.2 (by omega))
  case lastOnSurface => exact h.prepared.onSurface _ _ (Box.mem_pixels.2 (by omega))
  case values =>
    rw [hvalues]
    exact (h.prepared.edgeValues h.inside).1
  case rowValues =>
    rw [h.valid.rowValues]
    exact (h.prepared.edgeValues (Box.mem_pixels.2 (by omega))).1
  case weights => exact h.prepared.shape.weights h.values
  case weighed =>
    intro hstage vertices geometry hs
    have hcovered := h.covered hstage
    rw [hvalues] at hcovered ⊢
    exact h.prepared.shape.values_le hcovered hs
  case fragment => exact fun weights => job.shape.checkedFragment_eq _ weights
  case offset => exact (Job.checkedPixelOffset_eq hfb hsurface).1
  case colorAddress => exact Job.checkedAddress_eq hfb hsurface hfb.colorBase
  case depthAddress => exact Job.checkedAddress_eq hfb hsurface hfb.depthBase
  case next => exact h.checkedNext

/-- **For a primitive.** -/
theorem Phase.Fits.exact {phase : Phase} (h : phase.Fits) : phase.Exact := by
  cases phase with
  | idle => trivial
  | setup event => exact DrawEvent.checkedSetup_eq h
  | start job => exact Job.Prepared.checkedStart h
  | scan job cursor stage => exact Job.Visits.exact h

/-! ## Runs -/

/-- Only a pixel in the shape goes on to be weighed. -/
theorem Stage.Step.covers_of_weigh {job : Job} {cursor : Cursor} {a a' : Arbiter}
    {stage stage' : Stage} {gain : RasterStats} (h : Step job cursor a stage gain stage' a')
    (hw : stage' = .weigh) : job.shape.covers cursor.values = true := by
  have hfirst (f : Fragment) : job.firstStage f ≠ .weigh := by
    unfold Job.firstStage
    split <;> exact Stage.noConfusion
  cases h with
  | inside hc => exact hc
  | shown => exact absurd hw (hfirst _)
  | visible => exact absurd hw (hfirst _)
  | _ => cases hw

namespace Rasterizer

/-- What may happen to the rasterizer. -/
inductive Call where
  /-- It is given a primitive, with the drawing state that is stored in the registers. -/
  | draw (primitive : Primitive) (word : Register → UInt64)
  /-- A cycle passes. The arbiter may be in any state. -/
  | cycle (a : Arbiter)

/-- One call. A primitive is refused while another is being drawn. -/
def call (r : Rasterizer) : Call → Rasterizer
  | .draw primitive word => (r.accept? ⟨primitive, .ofWords word⟩).getD r
  | .cycle a => (r.tick a).1

/-- Calls one after the other. -/
def run (r : Rasterizer) (calls : List Call) : Rasterizer :=
  calls.foldl call r

variable {r : Rasterizer} {a : Arbiter} {job : Job} {cursor : Cursor} {stage : Stage}

/-- A cycle takes a pixel further, or goes on to the next one. -/
theorem step_fits (hr : r.phase = .scan job cursor stage) (h : job.Visits cursor stage)
    (a : Arbiter) : (r.step job cursor stage a).1.phase.Fits := by
  by_cases hn : stage = .next
  · subst hn
    simp only [step, advance]
    cases hnext : cursor.next? job with
    | none => trivial
    | some next => exact h.next hnext
  · obtain ⟨gain, stage', a', hstep, hcase⟩ := step_cases hr hn a
    rw [hstep]
    exact ⟨h.prepared, h.inside, h.valid, hcase.covers_of_weigh⟩

/-- **A cycle keeps what is known of the primitive.** -/
theorem tick_fits (h : r.phase.Fits) (a : Arbiter) : (r.tick a).1.phase.Fits := by
  cases hr : r.phase with
  | idle =>
    rw [tick_idle hr, hr]
    trivial
  | setup event =>
    rw [hr] at h
    rw [tick_setup hr]
    obtain ⟨culled, -, hphase⟩ := r.clocked.setup_eq event
    dsimp only
    rw [hphase]
    cases hs : event.setup with
    | culled => trivial
    | nothing => trivial
    | job job => exact DrawEvent.setup_prepared h hs
  | start job =>
    rw [hr] at h
    rw [tick_start hr]
    exact Job.Prepared.visits_start h
  | scan job cursor stage =>
    rw [hr] at h
    rw [tick_scan hr]
    exact step_fits (r := r.clocked) hr h a

/-- Every call does. -/
theorem call_fits (h : r.phase.Fits) (c : Call) : (r.call c).phase.Fits := by
  cases c with
  | draw primitive word =>
    unfold call accept?
    dsimp only
    split
    · exact h
    · exact DrawState.ofWords_fits word
  | cycle a => exact tick_fits h a

/-- Any calls do. -/
theorem run_fits (h : r.phase.Fits) (calls : List Call) : (r.run calls).phase.Fits := by
  induction calls generalizing r with
  | nil => exact h
  | cons c calls ih => exact ih (call_fits h c)

/-- **The rasterizer computes in machine integers what it has to compute.** Whatever primitives it is
given, whatever the registers hold, and whatever the arbiter does: no result of the next cycle leaves
its type, so that every check passes, and the checked results are those that the rasterizer uses. -/
theorem run_exact (calls : List Call) : (run {} calls).phase.Exact :=
  Phase.Fits.exact (run_fits (r := {}) trivial calls)

end Rasterizer

end RasterGpu
