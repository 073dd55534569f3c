import Mathlib.Tactic.Linarith
import Mathlib.Tactic.Ring
import RasterGpu.Proofs.Drawing.Bench
import RasterGpu.Proofs.Drawing.Pixels

/-!
# The pixels that a triangle covers

A triangle covers the pixels whose sample points are inside it, sides included, as far as they lie
on the surface and in the scissor rectangle. Two things stand between this and what the rasterizer
does: it looks only at the pixels of a box, found by rounding the extreme coordinates of the
vertices; and it visits them one by one, carries the edge values along, and may be held up by the
memory at any time.

* `Triangle.Contains` says what inside means, by the three edge functions. Where none of them is
  negative the sample point is the mean of the vertices, with the edge values as weights
  (`Triangle.mean_x`, `Triangle.mean_y`). So it lies between the extreme coordinates, and the box
  loses no pixel (`Triangle.Contains.mem_ofTriangle`).
* `Bench.counted` lists the pixels at which a counter of the rasterizer has gone up. In every move
  the list grows by what is taken off the pixels that are still to be counted
  (`Rasterizer.tick_countedPixel`), so in the end it is what there was to count.

Both together are `Bench.triangle_covers`.
-/

namespace RasterGpu

/-! ## Inside a triangle -/

namespace Triangle

/-- Whether the sample point of a pixel is inside a triangle, sides included. -/
structure Contains (p : Triple Point) (px py : Int) : Prop where
  /-- It is not beyond the side opposite to the first vertex. -/
  edge0 : 0 ≤ (Edge.between p.v1 p.v2).atPixel px py
  /-- It is not beyond the side opposite to the second vertex. -/
  edge1 : 0 ≤ (Edge.between p.v2 p.v0).atPixel px py
  /-- It is not beyond the side opposite to the third vertex. -/
  edge2 : 0 ≤ (Edge.between p.v0 p.v1).atPixel px py

variable (p : Triple Point) (q : Point)

/-- The edge values at a position add up to the doubled area. -/
theorem sum_eval : (Edge.between p.v1 p.v2).eval q + (Edge.between p.v2 p.v0).eval q
    + (Edge.between p.v0 p.v1).eval q = doubledAreaOf p := by
  simp only [doubledAreaOf, Edge.between, Edge.eval]
  ring

/-- With the edge values as weights the columns of the vertices have the column of the position as
their mean. -/
theorem mean_x : (Edge.between p.v1 p.v2).eval q * p.v0.x + (Edge.between p.v2 p.v0).eval q * p.v1.x
    + (Edge.between p.v0 p.v1).eval q * p.v2.x = doubledAreaOf p * q.x := by
  simp only [doubledAreaOf, Edge.between, Edge.eval]
  ring

/-- With the edge values as weights the rows of the vertices have the row of the position as their
mean. -/
theorem mean_y : (Edge.between p.v1 p.v2).eval q * p.v0.y + (Edge.between p.v2 p.v0).eval q * p.v1.y
    + (Edge.between p.v0 p.v1).eval q * p.v2.y = doubledAreaOf p * q.y := by
  simp only [doubledAreaOf, Edge.between, Edge.eval]
  ring

end Triangle

section Mean

variable {e0 e1 e2 x0 x1 x2 x bound : Int}

/-- A mean is not less than a bound that no value is less than. -/
theorem le_mean (h0 : 0 ≤ e0) (h1 : 0 ≤ e1) (h2 : 0 ≤ e2) (hpos : 0 < e0 + e1 + e2)
    (hmean : e0 * x0 + e1 * x1 + e2 * x2 = (e0 + e1 + e2) * x)
    (hb0 : bound ≤ x0) (hb1 : bound ≤ x1) (hb2 : bound ≤ x2) : bound ≤ x := by
  refine Int.le_of_mul_le_mul_left ?_ hpos
  have hw0 := Int.mul_le_mul_of_nonneg_left hb0 h0
  have hw1 := Int.mul_le_mul_of_nonneg_left hb1 h1
  have hw2 := Int.mul_le_mul_of_nonneg_left hb2 h2
  calc (e0 + e1 + e2) * bound = e0 * bound + e1 * bound + e2 * bound := by ring
    _ ≤ e0 * x0 + e1 * x1 + e2 * x2 := by omega
    _ = (e0 + e1 + e2) * x := hmean

/-- A mean is not greater than a bound that no value is greater than. -/
theorem mean_le (h0 : 0 ≤ e0) (h1 : 0 ≤ e1) (h2 : 0 ≤ e2) (hpos : 0 < e0 + e1 + e2)
    (hmean : e0 * x0 + e1 * x1 + e2 * x2 = (e0 + e1 + e2) * x)
    (hb0 : x0 ≤ bound) (hb1 : x1 ≤ bound) (hb2 : x2 ≤ bound) : x ≤ bound := by
  have hneg : e0 * -x0 + e1 * -x1 + e2 * -x2 = (e0 + e1 + e2) * -x := by linarith
  have hle := le_mean h0 h1 h2 hpos hneg (Int.neg_le_neg hb0) (Int.neg_le_neg hb1)
    (Int.neg_le_neg hb2)
  omega

end Mean

namespace Box

/-- A pixel is not before the first one exactly if its sample point is not before the coordinate. -/
theorem ceilPixel_le {v px : Int} : ceilPixel v ≤ px ↔ v ≤ px * subpixels := by
  simp only [ceilPixel, subpixels]
  omega

/-- A pixel is not after the last one exactly if its sample point is not after the coordinate. -/
theorem le_floorPixel {v px : Int} : px ≤ floorPixel v ↔ px * subpixels ≤ v := by
  simp only [floorPixel, subpixels]
  omega

end Box

/-- **The box around a triangle loses no pixel.** -/
theorem Triangle.Contains.mem_ofTriangle {p : Triple Point} {px py : Int}
    (h : Triangle.Contains p px py) (hpos : 0 < Triangle.doubledAreaOf p) :
    (px, py) ∈ (Box.ofTriangle p).pixels := by
  have hsum := Triangle.sum_eval p (.ofPixel px py)
  have hx := Triangle.mean_x p (.ofPixel px py)
  have hy := Triangle.mean_y p (.ofPixel px py)
  rw [← hsum] at hpos hx hy
  rw [Box.mem_pixels]
  simp only [Box.ofTriangle, Box.ceilPixel_le, Box.le_floorPixel]
  refine ⟨⟨?_, ?_⟩, ?_, ?_⟩
  · exact le_mean h.edge0 h.edge1 h.edge2 hpos hx (by omega) (by omega) (by omega)
  · exact mean_le h.edge0 h.edge1 h.edge2 hpos hx (by omega) (by omega) (by omega)
  · exact le_mean h.edge0 h.edge1 h.edge2 hpos hy (by omega) (by omega) (by omega)
  · exact mean_le h.edge0 h.edge1 h.edge2 hpos hy (by omega) (by omega) (by omega)

/-! ## The pixels of a triangle -/

/-- A triangle is dropped by culling or for want of area unless it has an area and is not culled. -/
theorem CullMode.drops_or (mode : CullMode) (doubledArea : Int) :
    (mode.drops doubledArea || doubledArea ≤ 0) = true
      ↔ ¬ (0 < doubledArea ∧ mode ≠ .counterClockwise) := by
  rw [Bool.or_eq_true, decide_eq_true_eq, not_and_or, not_not, Int.not_lt]
  cases mode with
  | none =>
    constructor
    · rintro (hdrops | hle)
      · cases hdrops
      · exact .inl hle
    · rintro (hle | heq)
      · exact .inr hle
      · cases heq
  | clockwise =>
    have hdrops : CullMode.clockwise.drops doubledArea = true ↔ doubledArea < 0 :=
      decide_eq_true_iff
    constructor
    · rintro (hneg | hle)
      · exact .inl (Int.le_of_lt (hdrops.1 hneg))
      · exact .inl hle
    · rintro (hle | heq)
      · exact .inr hle
      · cases heq
  | counterClockwise =>
    have hdrops : CullMode.counterClockwise.drops doubledArea = true ↔ 0 < doubledArea :=
      decide_eq_true_iff
    refine iff_of_true ?_ (.inr rfl)
    rw [hdrops]
    omega

/-- The pixels of a primitive that are picked. -/
def DrawEvent.picked (event : DrawEvent) (picks : Job → Int × Int → Bool) : List (Int × Int) :=
  event.job?.elim [] fun job => job.box.pixels.filter (picks job)

namespace DrawEvent

/-- A primitive picks each of its pixels once at most. -/
theorem nodup_picked (event : DrawEvent) (picks : Job → Int × Int → Bool) :
    (event.picked picks).Nodup := by
  unfold picked
  cases event.job? with
  | none => exact List.nodup_nil
  | some job => exact job.box.nodup_pixels.filter _

/-- A primitive that picks all its pixels. -/
theorem picked_all (event : DrawEvent) : (event.picked fun _ _ => true) = event.pixels := by
  unfold picked pixels
  congr 1
  funext job
  exact List.filter_true _

/-- What a primitive picks are pixels of it. -/
theorem mem_pixels_of_picked {event : DrawEvent} {picks : Job → Int × Int → Bool}
    {pixel : Int × Int} (h : pixel ∈ event.picked picks) : pixel ∈ event.pixels := by
  unfold picked at h
  unfold pixels
  cases hj : event.job? with
  | none =>
    rw [hj] at h
    exact h
  | some job =>
    rw [hj] at h
    exact List.mem_of_mem_filter h

/-- A primitive without pixels picks none. -/
theorem picked_of_pixels_eq_nil {event : DrawEvent} (h : event.pixels = [])
    (picks : Job → Int × Int → Bool) : event.picked picks = [] :=
  List.eq_nil_iff_forall_not_mem.2 fun _ hp => List.not_mem_nil (h ▸ mem_pixels_of_picked hp)

/-- The shape of a triangle covers a pixel if its sample point is inside. -/
theorem contains_triangle {vertices : Triple Vertex} {state : DrawState} {box : Box}
    {px py : Int} :
    Job.contains ⟨state, .triangle vertices
        (.ofVertices (vertices.map Vertex.position) state.area), box⟩ (px, py) = true
      ↔ Triangle.Contains (vertices.map Vertex.position) px py := by
  simp only [Job.contains, Shape.covers, Shape.edgeValues, Triangle.ofVertices, Triple.map,
    Triple.all, Bool.and_eq_true]
  constructor
  · rintro ⟨⟨h0, h1⟩, h2⟩
    exact ⟨of_decide_eq_true h0, of_decide_eq_true h1, of_decide_eq_true h2⟩
  · rintro ⟨h0, h1, h2⟩
    exact ⟨⟨decide_eq_true h0, decide_eq_true h1⟩, decide_eq_true h2⟩

/-- **The pixels that a triangle covers** are those inside it, on the surface and in the scissor
rectangle, provided that it has an area and is not culled. -/
theorem mem_picked_triangle {vertices : Triple Vertex} {winding : Winding} {state : DrawState}
    {px py : Int} :
    (px, py) ∈ DrawEvent.picked ⟨.triangle vertices winding, state⟩ Job.contains
      ↔ (0 < Triangle.doubledAreaOf (vertices.map Vertex.position)
          ∧ state.mode.cull ≠ .counterClockwise)
        ∧ state.framebuffer.Contains px py ∧ state.scissor.Contains px py
        ∧ Triangle.Contains (vertices.map Vertex.position) px py := by
  unfold picked job? shape?
  dsimp only
  have hdropped := CullMode.drops_or state.mode.cull
    (Triangle.doubledAreaOf (vertices.map Vertex.position))
  split
  · rename_i hd
    exact iff_of_false List.not_mem_nil fun h => hdropped.1 hd h.1
  · rename_i hd
    have hdrawn := not_not.1 fun h => hd (hdropped.2 h)
    rw [Option.map_some, Option.elim_some, List.mem_filter, Box.mem_pixels_clip,
      contains_triangle]
    constructor
    · rintro ⟨⟨-, hsurface, hscissor⟩, hc⟩
      exact ⟨hdrawn, hsurface, hscissor, hc⟩
    · rintro ⟨-, hsurface, hscissor, hc⟩
      exact ⟨⟨hc.mem_ofTriangle hdrawn.1, hsurface, hscissor⟩, hc⟩

end DrawEvent

/-! ## Counting pixel by pixel -/

/-- The pixels that a stage and those after it visit: the one at the cursor if its edge values have
not been looked at, and those that follow. -/
def Stage.toVisit (job : Job) (cursor : Cursor) (stage : Stage) : List (Int × Int) :=
  if stage = .edgeTest then cursor.pixel :: cursor.following job else cursor.following job

/-- The pixels that are still to be picked. -/
def Phase.toPick (picks : Job → Int × Int → Bool) : Phase → List (Int × Int)
  | .idle => []
  | .setup event => event.picked picks
  | .start job => job.box.pixels.filter (picks job)
  | .scan job cursor stage => (stage.toVisit job cursor).filter (picks job)

/-- The edge values of a pixel are looked at once. -/
theorem Stage.Step.ne_edgeTest {job : Job} {cursor : Cursor} {a a' : Arbiter}
    {stage stage' : Stage} {gain : RasterStats} (h : Step job cursor a stage gain stage' a') :
    stage' ≠ .edgeTest := by
  have hfirst (f : Fragment) : job.firstStage f ≠ .edgeTest := by
    unfold Job.firstStage
    split <;> exact Stage.noConfusion
  cases h with
  | shown => exact hfirst _
  | visible => exact hfirst _
  | _ => exact Stage.noConfusion

namespace Rasterizer

/-- A counter goes up by one where the edge values of a pixel are looked at and the pixel is picked,
and nowhere else. -/
structure CountsPicked (counter : RasterStats → Nat) (picks : Job → Int × Int → Bool) : Prop where
  /-- It adds up. -/
  add : ∀ s t, counter (s + t) = counter s + counter t
  /-- Cycles do not matter. -/
  busy : ∀ s n, counter { s with busyCycles := n } = counter s
  /-- Setting up does not matter. -/
  setup : ∀ (r : Rasterizer) (event : DrawEvent), counter (r.setup event).current = counter r.current
  /-- What a cycle adds. -/
  step : ∀ {job : Job} {cursor : Cursor} {a a' : Arbiter} {stage stage' : Stage}
    {gain : RasterStats}, cursor.Valid job → Stage.Step job cursor a stage gain stage' a' →
    counter gain = if stage = .edgeTest ∧ picks job cursor.pixel = true then 1 else 0

/-- Every pixel that is visited counts as tested. -/
theorem tested_countsPicked : CountsPicked RasterStats.tested fun _ _ => true where
  add _ _ := rfl
  busy _ _ := rfl
  setup r event := by
    obtain ⟨culled, hcurrent, -⟩ := r.setup_eq event
    rw [hcurrent]
  step _ h := by cases h <;> rfl

/-- Pixels in the shape count as covered. -/
theorem covered_countsPicked : CountsPicked RasterStats.covered Job.contains where
  add _ _ := rfl
  busy _ _ := rfl
  setup r event := by
    obtain ⟨culled, hcurrent, -⟩ := r.setup_eq event
    rw [hcurrent]
  step {job cursor a a' stage stage' gain} hv h := by
    rw [← hv.covers_values]
    cases h with
    | outside hc => rw [hc]; rfl
    | masked hc => rw [hc]; rfl
    | inside hc => rw [hc]; rfl
    | _ => rfl

variable {r : Rasterizer} {a : Arbiter} {counter : RasterStats → Nat}
  {picks : Job → Int × Int → Bool}

/-- The pixel that the rasterizer is at. -/
def pixel? (r : Rasterizer) : Option (Int × Int) :=
  match r.phase with
  | .scan _ cursor _ => some cursor.pixel
  | _ => none

/-- The pixel that the rasterizer was at, if a counter is higher in its next state. -/
def countedPixel (counter : RasterStats → Nat) (r next : Rasterizer) : List (Int × Int) :=
  if counter r.current < counter next.current then r.pixel?.toList else []

/-- Where a counter stays as it is no pixel is counted. -/
theorem countedPixel_of_eq {next : Rasterizer} (h : counter next.current = counter r.current) :
    countedPixel counter r next = [] := by
  rw [countedPixel, h, if_neg (Nat.lt_irrefl _)]

/-- A cycle counts the pixel at the cursor if its edge values are looked at and it is picked. -/
theorem step_countedPixel (hc : CountsPicked counter picks) {job : Job} {cursor : Cursor}
    {stage : Stage} (hr : r.phase = .scan job cursor stage) (hv : r.phase.Valid) :
    let next := (r.step job cursor stage a).1
    countedPixel counter r next ++ next.phase.toPick picks = r.phase.toPick picks := by
  intro next
  rw [hr] at hv ⊢
  by_cases hn : stage = .next
  · subst hn
    have hfollowing : next.current = r.current ∧ next.phase.toPick picks
        = (cursor.following job).filter (picks job) := by
      change (r.advance job cursor).current = _ ∧ (r.advance job cursor).phase.toPick picks = _
      unfold advance
      split
      · rename_i cursor' hcursor
        rw [Cursor.following_next (Box.le_of_isEmpty hv.1).1 hcursor]
        exact ⟨rfl, rfl⟩
      · rename_i hcursor
        rw [Cursor.following_end hcursor]
        exact ⟨rfl, rfl⟩
    rw [countedPixel_of_eq (congrArg counter hfollowing.1), hfollowing.2]
    rfl
  · obtain ⟨gain, stage', a', hstep, hcase⟩ := step_cases hr hn a
    have hnext : next = r.goTo job cursor stage' gain := congrArg Prod.fst hstep
    have hgain : counter next.current
        = counter r.current + if stage = .edgeTest ∧ picks job cursor.pixel = true then 1 else 0 := by
      rw [hnext, ← hc.step hv.2 hcase]
      exact hc.add _ _
    have hleft : next.phase.toPick picks = (cursor.following job).filter (picks job) := by
      rw [hnext]
      change (stage'.toVisit job cursor).filter (picks job) = _
      rw [Stage.toVisit, if_neg hcase.ne_edgeTest]
    rw [hleft, Phase.toPick, Stage.toVisit]
    by_cases hedge : stage = .edgeTest
    · by_cases hpick : picks job cursor.pixel = true
      · rw [if_pos ⟨hedge, hpick⟩] at hgain
        rw [if_pos hedge, List.filter_cons_of_pos hpick, countedPixel, hgain,
          if_pos (Nat.lt_succ_self _), pixel?, hr]
        rfl
      · rw [if_neg fun h => hpick h.2] at hgain
        rw [if_pos hedge, List.filter_cons_of_neg hpick, countedPixel_of_eq hgain]
        rfl
    · rw [if_neg fun h => hedge h.1] at hgain
      rw [if_neg hedge, countedPixel_of_eq hgain]
      rfl

/-- Setting up leaves what is to be picked. -/
theorem toPick_setup (r : Rasterizer) (event : DrawEvent) :
    (r.setup event).phase.toPick picks = event.picked picks := by
  obtain ⟨-, -, hphase⟩ := r.setup_eq event
  rw [hphase]
  rcases event.setup_cases with ⟨job, hs, hj, -⟩ | ⟨hs, hnone⟩
  · rw [hs, DrawEvent.picked, hj]
    rfl
  · rw [DrawEvent.picked_of_pixels_eq_nil hnone]
    rcases hs with hs | hs <;> rw [hs] <;> rfl

/-- **A cycle counts what it takes off the pixels that are still to be picked.** -/
theorem tick_countedPixel (hc : CountsPicked counter picks) (hv : r.phase.Valid) (a : Arbiter) :
    countedPixel counter r (r.tick a).1 ++ (r.tick a).1.phase.toPick picks
      = r.phase.toPick picks := by
  have hbusy : counter r.clocked.current = counter r.current := hc.busy _ _
  cases hr : r.phase with
  | idle =>
    rw [tick_idle hr, countedPixel_of_eq rfl, List.nil_append, hr]
  | setup event =>
    have hcurrent : counter (r.clocked.setup event).current = counter r.current :=
      (hc.setup _ event).trans hbusy
    rw [tick_setup hr]
    dsimp only
    rw [countedPixel_of_eq hcurrent, List.nil_append, toPick_setup]
    rfl
  | start job =>
    rw [hr] at hv
    rw [tick_start hr]
    refine (congrArg (· ++ _) (countedPixel_of_eq hbusy)).trans ?_
    rw [List.nil_append, Phase.toPick, Phase.toPick, Stage.toVisit, if_pos rfl, Box.pixels_eq hv]
    rfl
  | scan job cursor stage =>
    have hpixel : r.clocked.pixel? = r.pixel? := rfl
    have hstep := step_countedPixel (r := r.clocked) (a := a) hc hr hv
    rw [tick_scan hr]
    unfold countedPixel at hstep ⊢
    rw [hbusy, hpixel] at hstep
    exact hstep.trans (congrArg _ hr)

end Rasterizer

/-! ## On the bench -/

namespace Bench

variable {b : Bench} {counter : RasterStats → Nat} {picks : Job → Int × Int → Bool}

/-- The pixels at which a counter of the rasterizer goes up in the course of moves. -/
def counted (counter : RasterStats → Nat) (b : Bench) : List Move → List (Int × Int)
  | [] => []
  | m :: ms =>
    b.rasterizer.countedPixel counter (b.move m).rasterizer ++ (b.move m).counted counter ms

/-- Only its own cycles change the rasterizer. -/
theorem rasterizer_move (b : Bench) {m : Move} (hm : m ≠ .rasterizer) :
    (b.move m).rasterizer = b.rasterizer := by
  cases m with
  | rasterizer => exact absurd rfl hm
  | arbiter => rfl
  | read bystander address length =>
    unfold move
    dsimp only
    split <;> rfl
  | collect bystander =>
    unfold move
    dsimp only
    split <;> rfl

/-- Moves count what they take off the pixels that are still to be picked. -/
theorem Invariant.counted (h : b.Invariant) (hc : Rasterizer.CountsPicked counter picks)
    (ms : List Move) :
    b.counted counter ms ++ (b.moves ms).rasterizer.phase.toPick picks
      = b.rasterizer.phase.toPick picks := by
  induction ms generalizing b with
  | nil => rfl
  | cons m ms ih =>
    rw [Bench.counted, List.append_assoc]
    refine (congrArg _ (ih (h.move m).1)).trans ?_
    by_cases hm : m = .rasterizer
    · subst hm
      exact Rasterizer.tick_countedPixel hc h.valid b.arbiter
    · rw [b.rasterizer_move hm, Rasterizer.countedPixel_of_eq rfl, List.nil_append]

/-- Between two times at rest the counter goes up at the pixels that the primitive picks. -/
theorem Invariant.counted_draw (h : b.Invariant) (hc : Rasterizer.CountsPicked counter picks)
    {event : DrawEvent} {during : List Move} (hidle : b.rasterizer.isBusy = false)
    (hdone : ((b.draw event).moves during).rasterizer.isBusy = false) :
    (b.draw event).counted counter during = event.picked picks := by
  have hcounted := (h.draw event).counted hc during
  rw [Rasterizer.phase_of_idle hdone, Phase.toPick, List.append_nil] at hcounted
  rw [hcounted, draw_of_idle hidle]
  rfl

/-- **A triangle covers the pixels inside it, each of them once.** A triangle is handed to a
rasterizer at rest, after whatever has happened before; then anything happens, in any order. If the
rasterizer is at rest again, as it is after some rounds if the other clients submit nothing, the
pixels at which it has counted coverage are those on the surface and in the scissor rectangle whose
sample points are inside the triangle, sides included, if the triangle has an area and is not culled,
and none otherwise. None of them was counted twice, and each was visited once. -/
theorem triangle_covers (policy : ArbiterPolicy) (memory : Sdram) (before : List Call)
    (vertices : Triple Vertex) (winding : Winding) (state : DrawState) :
    let b := (start policy memory).run before
    let drawn := b.draw ⟨.triangle vertices winding, state⟩
    let p := vertices.map Vertex.position
    b.rasterizer.isBusy = false →
      (∃ n, (drawn.moves (rounds n)).rasterizer.isBusy = false)
      ∧ ∀ during, (drawn.moves during).rasterizer.isBusy = false →
        (∀ px py, (px, py) ∈ drawn.counted RasterStats.covered during ↔
          (0 < Triangle.doubledAreaOf p ∧ state.mode.cull ≠ .counterClockwise)
            ∧ state.framebuffer.Contains px py ∧ state.scissor.Contains px py
            ∧ Triangle.Contains p px py)
        ∧ (drawn.counted RasterStats.covered during).Nodup
        ∧ ∀ pixel ∈ drawn.counted RasterStats.covered during,
            (drawn.counted RasterStats.tested during).count pixel = 1 := by
  intro b drawn p hidle
  have hb : b.Invariant := (start_invariant policy memory).run before
  refine ⟨(hb.draw _).exists_rest, fun during hdone => ?_⟩
  have hcovered := hb.counted_draw Rasterizer.covered_countsPicked hidle hdone
  have htested := hb.counted_draw Rasterizer.tested_countsPicked hidle hdone
  rw [hcovered, htested]
  refine ⟨fun px py => DrawEvent.mem_picked_triangle, DrawEvent.nodup_picked _ _,
    fun pixel hpixel => ?_⟩
  refine List.count_eq_one_of_mem (DrawEvent.nodup_picked _ _) ?_
  rw [DrawEvent.picked_all]
  exact DrawEvent.mem_pixels_of_picked hpixel

/-- A triangle whose vertices lie between pixels, partly left of the surface, cut off by the scissor
rectangle and the surface; it reads and writes depths while scanout reads. -/
theorem triangle_covers_clipped :
    let corner (x y : Int16) : Vertex := { word := { x, y, z := 5 } }
    let vertices : Triple Vertex := ⟨corner (-21) 3, corner 70 (-9), corner 33 50⟩
    let mode : RenderMode := { depthWrite := true, depthTest := true, depthCompare := .always }
    let state : DrawState :=
      { mode, framebuffer := { widthLog2 := 2, heightLog2 := 2 }, scissor := ⟨1, 0, 2, 9⟩ }
    let during : List Move :=
      .read .display 0 2 :: .rasterizer :: (List.replicate 120 [.arbiter, .rasterizer]).flatten
    let drawn := (start .fixedPriority (.zeroed 32 1)).draw ⟨.triangle vertices .order012, state⟩
    let p := vertices.map Vertex.position
    drawn.counted RasterStats.covered during
        = [(1, 0), (2, 0), (1, 1), (2, 1), (1, 2), (2, 2), (2, 3)] ∧
      ∀ px py, (px, py) ∈ drawn.counted RasterStats.covered during ↔
        (0 < Triangle.doubledAreaOf p ∧ state.mode.cull ≠ .counterClockwise)
          ∧ state.framebuffer.Contains px py ∧ state.scissor.Contains px py
          ∧ Triangle.Contains p px py := by
  intro corner vertices mode state during drawn p
  have hdone : (drawn.moves during).rasterizer.isBusy = false := by decide +kernel
  obtain ⟨-, hcovers⟩ :=
    triangle_covers .fixedPriority (.zeroed 32 1) [] vertices .order012 state rfl
  exact ⟨by decide +kernel, (hcovers during hdone).1⟩

end Bench

end RasterGpu
