import Mathlib.Data.List.Nodup
import RasterGpu.Proofs.Drawing.Remainder

/-!
# The pixels of a primitive

The two loops of drawing pass the pixels of a box, and so does the cursor of the rasterizer, which
knows only how to go on from one pixel to the next. Here both are compared with one list:

* `Box.pixels` lists the pixels of a box in the order in which they are drawn, and
  `Box.following` those after a given one. Every pixel of the box is there once (`mem_pixels`,
  `nodup_pixels`).
* Drawing a box draws the pixels of the list (`Job.render_eq_plotAll`), and the cursor goes through it
  (`Cursor.following_next`, `Cursor.following_end`).
* `DrawEvent.pixels` are the pixels that a primitive has in the end, if it has any.
-/

namespace RasterGpu

/-- A span has the numbers between its ends. -/
theorem mem_span {low high i : Int} : i ∈ span low high ↔ low ≤ i ∧ i ≤ high := by
  unfold span
  simp only [List.mem_map, List.mem_range]
  constructor
  · rintro ⟨k, hk, rfl⟩
    omega
  · intro h
    exact ⟨(i - low).toNat, by omega, by omega⟩

/-- A span has every number once. -/
theorem nodup_span (low high : Int) : (span low high).Nodup := by
  refine List.Nodup.map (fun i j h => ?_) List.nodup_range
  omega

/-- A span has as many numbers as there are from one end to the other. -/
theorem length_span (low high : Int) : (span low high).length = (high - low + 1).toNat := by
  rw [span, List.length_map, List.length_range]
  congr 1
  omega

/-! ## Boxes -/

namespace Box

variable {box : Box} {px py : Int}

/-- The pixels of one row, from left to right. -/
def row (box : Box) (py : Int) : List (Int × Int) :=
  (span box.x0 box.x1).map fun px => (px, py)

/-- The pixels, rows from top to bottom. -/
def pixels (box : Box) : List (Int × Int) :=
  (span box.y0 box.y1).flatMap box.row

/-- The pixels after one. -/
def following (box : Box) (px py : Int) : List (Int × Int) :=
  (span (px + 1) box.x1).map (fun px => (px, py)) ++ (span (py + 1) box.y1).flatMap box.row

/-- The pixels of a box lie between its sides. -/
theorem mem_pixels : (px, py) ∈ box.pixels ↔
    (box.x0 ≤ px ∧ px ≤ box.x1) ∧ box.y0 ≤ py ∧ py ≤ box.y1 := by
  simp only [pixels, row, List.mem_flatMap, List.mem_map, mem_span, Prod.mk.injEq]
  constructor
  · rintro ⟨_, hy, _, hx, rfl, rfl⟩
    exact ⟨hx, hy⟩
  · rintro ⟨hx, hy⟩
    exact ⟨py, hy, px, hx, rfl, rfl⟩

/-- A box has every pixel once. -/
theorem nodup_pixels (box : Box) : box.pixels.Nodup := by
  refine List.nodup_flatMap.2 ⟨fun py _ => ?_, ?_⟩
  · exact (nodup_span _ _).map fun _ _ h => (Prod.mk.inj h).1
  · refine (nodup_span box.y0 box.y1).imp fun hne p hp hp' => ?_
    obtain ⟨_, -, rfl⟩ := List.mem_map.1 hp
    obtain ⟨_, -, heq⟩ := List.mem_map.1 hp'
    exact hne (Prod.mk.inj heq).2.symm

/-- A box has as many pixels as its area says. -/
theorem length_pixels (box : Box) : box.pixels.length = box.area := by
  have hrow (py : Int) : (box.row py).length = (box.x1 - box.x0 + 1).toNat := by
    rw [row, List.length_map, length_span]
  rw [pixels, List.length_flatMap, List.map_congr_left fun py _ => hrow py, List.map_const',
    List.sum_replicate_nat, length_span, Nat.mul_comm]
  rfl

/-- A box whose sides have crossed has no pixel. -/
theorem pixels_of_isEmpty (h : box.isEmpty = true) : box.pixels = [] := by
  refine List.eq_nil_iff_forall_not_mem.2 fun ⟨px, py⟩ hp => ?_
  obtain ⟨hx, hy⟩ := mem_pixels.1 hp
  simp only [isEmpty, Bool.or_eq_true, decide_eq_true_eq] at h
  omega

/-- A row is its first pixel and what follows it. -/
theorem following_row (hx : box.x0 ≤ box.x1) (py : Int) :
    (box.x0, py) :: box.following box.x0 py
      = box.row py ++ (span (py + 1) box.y1).flatMap box.row := by
  rw [following, row, span_of_le hx, List.map_cons, List.cons_append]

/-- A box is its first pixel and what follows it. -/
theorem pixels_eq (h : box.isEmpty = false) :
    box.pixels = (box.x0, box.y0) :: box.following box.x0 box.y0 := by
  obtain ⟨hx, hy⟩ := Box.le_of_isEmpty h
  rw [following_row hx, pixels, span_of_le hy, List.flatMap_cons]

end Box

/-! ## Clipping -/

/-- Whether a pixel lies on the surfaces. -/
structure Framebuffer.Contains (fb : Framebuffer) (px py : Int) : Prop where
  /-- The column does. -/
  column : 0 ≤ px ∧ px < fb.width
  /-- The row does. -/
  row : 0 ≤ py ∧ py < fb.height

/-- Whether a pixel lies in a scissor rectangle. -/
structure Scissor.Contains (scissor : Scissor) (px py : Int) : Prop where
  /-- The column does. -/
  column : scissor.x ≤ px ∧ px < scissor.x + scissor.width
  /-- The row does. -/
  row : scissor.y ≤ py ∧ py < scissor.y + scissor.height

/-- Clipping leaves the pixels of a box that lie on the surfaces and in the scissor rectangle. -/
theorem Box.mem_pixels_clip {box : Box} {fb : Framebuffer} {scissor : Scissor} {px py : Int} :
    (px, py) ∈ (box.clip fb scissor).pixels
      ↔ (px, py) ∈ box.pixels ∧ fb.Contains px py ∧ scissor.Contains px py := by
  rw [mem_pixels, mem_pixels]
  simp only [clip]
  constructor
  · rintro ⟨hx, hy⟩
    exact ⟨⟨by omega, by omega⟩, ⟨by omega, by omega⟩, by omega, by omega⟩
  · rintro ⟨⟨hx, hy⟩, ⟨hcolumn, hrow⟩, hscissorColumn, hscissorRow⟩
    exact ⟨by omega, by omega⟩

/-! ## The cursor -/

namespace Cursor

variable {job : Job} {cursor next : Cursor}

/-- Where the cursor is. -/
def pixel (cursor : Cursor) : Int × Int := (cursor.x, cursor.y)

/-- The pixels after the one that the cursor is at. -/
def following (cursor : Cursor) (job : Job) : List (Int × Int) :=
  job.box.following cursor.x cursor.y

/-- The next pixel is the first of those that follow. -/
theorem following_next (h0 : job.box.x0 ≤ job.box.x1) (hn : cursor.next? job = some next) :
    cursor.following job = next.pixel :: next.following job := by
  unfold Cursor.next? at hn
  split at hn
  · rename_i hx
    obtain rfl := Option.some.inj hn
    have hx' : cursor.x + 1 ≤ job.box.x1 := by omega
    rw [following, Box.following, span_of_le hx', List.map_cons, List.cons_append]
    rfl
  · rename_i hx
    split at hn
    · rename_i hy
      obtain rfl := Option.some.inj hn
      have hx' : job.box.x1 < cursor.x + 1 := by omega
      have hy' : cursor.y + 1 ≤ job.box.y1 := by omega
      change job.box.following cursor.x cursor.y
        = (job.box.x0, cursor.y + 1) :: job.box.following job.box.x0 (cursor.y + 1)
      rw [Box.following_row h0, Box.following, span_of_lt hx', span_of_le hy', List.map_nil,
        List.nil_append, List.flatMap_cons]
    · cases hn

/-- Nothing follows the pixel without a next one. -/
theorem following_end (hn : cursor.next? job = none) : cursor.following job = [] := by
  unfold Cursor.next? at hn
  split at hn
  · cases hn
  · rename_i hx
    split at hn
    · cases hn
    · rename_i hy
      have hx' : job.box.x1 < cursor.x + 1 := by omega
      have hy' : job.box.y1 < cursor.y + 1 := by omega
      rw [following, Box.following, span_of_lt hx', span_of_lt hy']
      rfl

end Cursor

/-- Whether the shape of a job covers a pixel. -/
def Job.contains (job : Job) (pixel : Int × Int) : Bool :=
  job.shape.covers (job.shape.edgeValues pixel.1 pixel.2)

/-- The values that the cursor carries along tell whether the shape covers its pixel. -/
theorem Cursor.Valid.covers_values {job : Job} {cursor : Cursor} (h : cursor.Valid job) :
    job.shape.covers cursor.values = job.contains cursor.pixel := by
  rw [h.values]
  rfl

/-! ## Drawing -/

namespace Job

/-- Draws pixels, one after the other. -/
def plotAll (job : Job) (pixels : List (Int × Int)) (t : Trace) : Trace :=
  pixels.foldl (fun t p => job.plot p.1 p.2 t) t

/-- Drawing a row draws its pixels. -/
theorem plotAll_row (job : Job) (py : Int) (t : Trace) :
    job.plotAll (job.box.row py) t = job.renderRow py t := by
  rw [plotAll, Box.row, List.foldl_map]
  rfl

/-- Drawing rows draws their pixels. -/
theorem plotAll_rows (job : Job) (rows : List Int) (t : Trace) :
    job.plotAll (rows.flatMap job.box.row) t
      = rows.foldl (fun t py => job.renderRow py t) t := by
  rw [plotAll, List.foldl_flatMap]
  congr 1
  funext t py
  exact job.plotAll_row py t

/-- Drawing the box draws its pixels. -/
theorem render_eq_plotAll (job : Job) (t : Trace) :
    job.render t = job.plotAll job.box.pixels t :=
  (job.plotAll_rows _ t).symm

end Job

/-! ## Primitives -/

namespace DrawEvent

/-- The shape of a primitive with the box around it, if it is drawn at all. -/
def shape? (event : DrawEvent) : Option (Shape × Box) :=
  match event.primitive with
  | .triangle vertices _ =>
    let positions := vertices.map Vertex.position
    let geometry := Triangle.ofVertices positions event.state.area
    if event.state.mode.cull.drops geometry.doubledArea || geometry.doubledArea ≤ 0 then none
    else some (.triangle vertices geometry, .ofTriangle positions)
  | .rectangle corner0 corner1 =>
    some (.rectangle ⟨corner1.color, corner1.z⟩, .ofCorners corner0.position corner1.position)

/-- The job of a primitive, even if its box has no pixel. -/
def job? (event : DrawEvent) : Option Job :=
  event.shape?.map fun (shape, bounds) =>
    ⟨event.state, shape, bounds.clip event.state.framebuffer event.state.scissor⟩

/-- The pixels of a primitive. -/
def pixels (event : DrawEvent) : List (Int × Int) :=
  event.job?.elim [] fun job => job.box.pixels

variable {event : DrawEvent} {job : Job}

/-- The pixels of a primitive that has a job. -/
theorem pixels_of_job? (h : event.job? = some job) : event.pixels = job.box.pixels := by
  rw [pixels, h, Option.elim_some]

/-- Setup drops a primitive that is not drawn. -/
theorem setup_of_shape?_eq_none (h : event.shape? = none) :
    event.setup = .culled ∨ event.setup = .nothing := by
  cases hp : event.primitive with
  | triangle vertices _ =>
    rw [shape?, hp] at h
    rw [setup, hp]
    dsimp only at h ⊢
    split at h
    · rename_i hd
      rw [Bool.or_eq_true, decide_eq_true_eq] at hd
      split
      · exact .inl rfl
      · rename_i hd'
        exact .inr (if_pos (hd.resolve_left hd'))
    · cases h
  | rectangle =>
    rw [shape?, hp] at h
    cases h

/-- Setup clips the box of a primitive that is drawn. -/
theorem setup_of_shape?_eq_some {shape : Shape} {bounds : Box}
    (h : event.shape? = some (shape, bounds)) :
    event.setup = .ofShape event.state shape bounds := by
  cases hp : event.primitive with
  | triangle vertices _ =>
    rw [shape?, hp] at h
    rw [setup, hp]
    dsimp only at h ⊢
    split at h
    · cases h
    · rename_i hd
      rw [Bool.or_eq_true, decide_eq_true_eq, not_or] at hd
      obtain ⟨rfl, rfl⟩ := Prod.mk.inj (Option.some.inj h)
      rw [if_neg hd.1, if_neg hd.2]
  | rectangle =>
    rw [shape?, hp] at h
    obtain ⟨rfl, rfl⟩ := Prod.mk.inj (Option.some.inj h)
    rw [setup, hp]

/-- Setup makes a job of a primitive with pixels, and drops one without. -/
theorem setup_cases (event : DrawEvent) :
    (∃ job, event.setup = .job job ∧ event.job? = some job ∧ job.box.isEmpty = false)
      ∨ (event.setup = .culled ∨ event.setup = .nothing) ∧ event.pixels = [] := by
  cases hs : event.shape? with
  | none =>
    refine .inr ⟨setup_of_shape?_eq_none hs, ?_⟩
    rw [pixels, job?, hs]
    rfl
  | some drawn =>
    obtain ⟨shape, bounds⟩ := drawn
    have hj : event.job? = some ⟨event.state, shape,
        bounds.clip event.state.framebuffer event.state.scissor⟩ := by
      rw [job?, hs]
      rfl
    rw [setup_of_shape?_eq_some hs, SetupResult.ofShape]
    split
    · rename_i he
      refine .inr ⟨.inr rfl, ?_⟩
      rw [pixels_of_job? hj, Box.pixels_of_isEmpty he]
    · rename_i he
      exact .inl ⟨_, rfl, hj, Bool.eq_false_iff.2 he⟩

/-- A primitive is drawn by drawing its pixels. -/
theorem render_eq_plotAll (event : DrawEvent) (t : Trace) :
    event.render t = event.job?.elim t fun job => job.plotAll job.box.pixels t := by
  rcases event.setup_cases with ⟨job, hs, hj, -⟩ | ⟨hs, hnone⟩
  · rw [render, hs, hj]
    exact job.render_eq_plotAll t
  · have hleft : event.render t = t := by
      rcases hs with hs | hs <;> rw [render, hs]
    rw [hleft]
    cases hj : event.job? with
    | none => rfl
    | some job =>
      rw [Option.elim_some, ← pixels_of_job? hj, hnone]
      rfl

end DrawEvent

end RasterGpu
