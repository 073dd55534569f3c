import Mathlib.Tactic.Ring
import RasterGpu.Proofs.Drawing.Coverage
import RasterGpu.Proofs.Registers.Assembly

/-!
# Strips of triangles

In a strip each new vertex draws a triangle with the two before it, and the kicks alternate: the
three vertices are taken by age, and every second time the newest before the one in the middle, so
that all triangles turn the same way. Two triangles that follow one another meet in the edge between
the two vertices that they share. Nothing is drawn well if pixels are missing between them, or if
blended pixels are drawn twice.

* The oldest vertex of the second triangle is the middle one of the first, and its middle one the
  newest (`RegisterFile.process_kick`), whatever else happens to the register file in between, unless
  it is reset (`RegisterFile.ring_run`).
* The common edge is opposite to the oldest vertex of the first triangle and to the newest of the
  second. The two run along it in opposite directions, and so its values are opposite at every pixel
  (`Winding.seam`).

`RegisterFile.strip_watertight` draws the conclusion: there is no crack between the triangles, and
they overlap in nothing but the common edge itself.
-/

namespace RasterGpu

/-! ## Windings -/

namespace Winding

/-- The register that kicks a triangle with this winding. -/
def kick : Winding → Register
  | order012 => .kick012
  | order021 => .kick021

/-- The winding of the next triangle of a strip. -/
def other : Winding → Winding
  | order012 => order021
  | order021 => order012

/-- Brings the values of vertices by age, the oldest first, into drawing order. The same exchange
brings them back. -/
def reorder {α : Type} : Winding → Triple α → Triple α
  | order012, t => t
  | order021, t => ⟨t.v0, t.v2, t.v1⟩

variable {α β : Type} (winding : Winding)

/-- The exchange undoes itself. -/
@[simp] theorem reorder_reorder (t : Triple α) : winding.reorder (winding.reorder t) = t := by
  cases winding <;> rfl

/-- A function can be applied before or after. -/
theorem reorder_map (f : α → β) (t : Triple α) :
    (winding.reorder t).map f = winding.reorder (t.map f) := by
  cases winding <;> rfl

/-- The order does not matter to what all values satisfy. -/
theorem all_reorder (p : α → Bool) (t : Triple α) : (winding.reorder t).all p = t.all p := by
  cases winding with
  | order012 => rfl
  | order021 => simp only [reorder, Triple.all, Bool.and_right_comm]

/-- A triangle with a vertex that is there twice has no area. -/
theorem doubledAreaOf_reorder_twice (p q : Point) :
    Triangle.doubledAreaOf (winding.reorder ⟨p, p, q⟩) = 0 := by
  cases winding <;> simp only [reorder, Triangle.doubledAreaOf, Edge.between, Edge.eval] <;> ring

/-- **The common edge of two triangles of a strip** has opposite values in both. The vertices are
given by age; the first triangle has the first three, and the second the last three. -/
theorem seam (a b c d : Point) (programmed programmed' : AreaFactors) (px py : Int) :
    let t := Triangle.ofVertices (winding.reorder ⟨a, b, c⟩) programmed
    let t' := Triangle.ofVertices (winding.other.reorder ⟨b, c, d⟩) programmed'
    (winding.other.reorder (t'.edges.map fun e => e.atPixel px py)).v2
      = -(winding.reorder (t.edges.map fun e => e.atPixel px py)).v0 := by
  have hopposite (p q : Point) :
      (Edge.between q p).atPixel px py = -(Edge.between p q).atPixel px py := by
    simp only [Edge.between, Edge.atPixel, Edge.eval]
    ring
  cases winding with
  | order012 => exact hopposite b c
  | order021 => exact hopposite c b

end Winding

/-- A shape covers a pixel if no edge value is negative, in any order. -/
theorem Shape.covers_triangle_iff (vertices : Triple Vertex) (t : Triangle) (winding : Winding)
    (values : Triple Int) :
    let byAge := winding.reorder values
    (Shape.triangle vertices t).covers values = true
      ↔ 0 ≤ byAge.v0 ∧ 0 ≤ byAge.v1 ∧ 0 ≤ byAge.v2 := by
  intro byAge
  rw [Shape.covers, ← winding.all_reorder]
  simp only [Triple.all, Bool.and_eq_true, decide_eq_true_eq, and_assoc]
  rfl

/-- **Between two triangles of a strip there is no crack, and no overlap** but the common edge. The
vertices are given by age, as in `Winding.seam`. -/
theorem Winding.watertight (winding : Winding) (a b c d : Vertex)
    (programmed programmed' : AreaFactors) (px py : Int) :
    let vertices := winding.reorder ⟨a, b, c⟩
    let vertices' := winding.other.reorder ⟨b, c, d⟩
    let shape := Shape.triangle vertices (.ofVertices (vertices.map Vertex.position) programmed)
    let shape' := Shape.triangle vertices' (.ofVertices (vertices'.map Vertex.position) programmed')
    let e := winding.reorder (shape.edgeValues px py)
    let e' := winding.other.reorder (shape'.edgeValues px py)
    let inside := shape.covers (shape.edgeValues px py) = true
    let inside' := shape'.covers (shape'.edgeValues px py) = true
    (0 ≤ e.v1 → 0 ≤ e.v2 → 0 ≤ e'.v0 → 0 ≤ e'.v1 → inside ∨ inside')
      ∧ (inside → inside' → e.v0 = 0 ∧ e'.v2 = 0) := by
  intro vertices vertices' shape shape' e e' inside inside'
  have hseam : e'.v2 = -e.v0 := by
    simp only [e, e', shape, shape', vertices, vertices', Shape.edgeValues, reorder_map]
    exact winding.seam _ _ _ _ _ _ px py
  have hinside : inside ↔ 0 ≤ e.v0 ∧ 0 ≤ e.v1 ∧ 0 ≤ e.v2 := Shape.covers_triangle_iff _ _ winding _
  have hinside' : inside' ↔ 0 ≤ e'.v0 ∧ 0 ≤ e'.v1 ∧ 0 ≤ e'.v2 :=
    Shape.covers_triangle_iff _ _ winding.other _
  rw [hinside, hinside']
  constructor
  · intro h1 h2 h0' h1'
    rcases Int.le_total 0 e.v0 with h0 | h0
    · exact .inl ⟨h0, h1, h2⟩
    · exact .inr ⟨h0', h1', by omega⟩
  · rintro ⟨h0, -, -⟩ ⟨-, -, h2'⟩
    omega

/-! ## From one kick to the next -/

namespace RegisterFile

/-- A call that submits no vertex leaves the ring as it is, or empties it. -/
theorem ring_call (regs : RegisterFile) {c : Call} (h : c.submits = false) :
    (regs.call c).ring = regs.ring ∨ (regs.call c).ring = {} := by
  by_cases hc : c = .reset
  · subst hc
    exact .inr rfl
  · exact .inl (regs.call_not_submits hc h).1

/-- Calls that submit no vertex leave the ring as it is, or empty it. -/
theorem ring_run (regs : RegisterFile) {calls : List Call} (h : ∀ c ∈ calls, c.submits = false) :
    (regs.run calls).ring = regs.ring ∨ (regs.run calls).ring = {} := by
  induction calls generalizing regs with
  | nil => exact .inl rfl
  | cons c calls ih =>
    have hrest := ih (regs.call c) fun d hd => h d (List.mem_cons_of_mem _ hd)
    rcases hrest with hsame | hempty
    · rcases regs.ring_call (h c List.mem_cons_self) with hfirst | hfirst
      · exact .inl (hsame.trans hfirst)
      · exact .inr (hsame.trans hfirst)
    · exact .inr hempty

/-- **A kick emits the last three vertices**, the one that it submits and the two before it. -/
theorem process_kick (regs : RegisterFile) (winding : Winding) (word : UInt64) :
    let kicked := regs.process (.write winding.kick.address word)
    let newest : Vertex := ⟨.ofWord word, regs.attributes⟩
    kicked.1.ring = regs.ring.push newest
      ∧ kicked.2.draw = some ⟨.triangle
          (winding.reorder ⟨regs.ring.recent 1, regs.ring.recent 0, newest⟩) winding,
          regs.drawState⟩ := by
  intro kicked newest
  have hkicked : kicked.1.ring = regs.ring.push newest
      ∧ kicked.2.draw = some ⟨.triangle (winding.reorder ⟨(regs.ring.push newest).recent 2,
          (regs.ring.push newest).recent 1, (regs.ring.push newest).recent 0⟩) winding,
          regs.drawState⟩ := by
    cases winding <;> exact ⟨rfl, rfl⟩
  rwa [VertexRing.recent_push_succ _ _ (by decide : 1 < 2),
    VertexRing.recent_push_succ _ _ (by decide : 0 < 2), VertexRing.recent_push_zero] at hkicked

/-- **Strips are watertight.** After whatever has happened to a register file a vertex kicks a
triangle, and the next vertex that is submitted kicks another with the other winding. If both have
an area, the second takes its oldest vertex and the one in the middle from the first. Edges are
named by the age of the vertex opposite to them: the common edge is that of the oldest vertex in the
first triangle, and of the newest in the second. A pixel that is not beyond any of the other four is
inside one of the triangles, and if it is inside both, it lies on the common edge. -/
theorem strip_watertight (policy : SwapPolicy) (before between : List Call) (winding : Winding)
    (word word' : UInt64) :
    let kicked := (run { policy } before).process (.write winding.kick.address word)
    let kicked' := (kicked.1.run between).process (.write winding.other.kick.address word')
    (∀ c ∈ between, c.submits = false) →
      ∃ vertices vertices' state state',
        let t := Triangle.ofVertices (vertices.map Vertex.position) state.area
        let t' := Triangle.ofVertices (vertices'.map Vertex.position) state'.area
        let shape := Shape.triangle vertices t
        let shape' := Shape.triangle vertices' t'
        kicked.2.draw = some ⟨.triangle vertices winding, state⟩
        ∧ kicked'.2.draw = some ⟨.triangle vertices' winding.other, state'⟩
        ∧ (0 < t.doubledArea → 0 < t'.doubledArea →
          ((winding.other.reorder vertices').v0 = (winding.reorder vertices).v1
            ∧ (winding.other.reorder vertices').v1 = (winding.reorder vertices).v2)
          ∧ ∀ px py,
            let e := winding.reorder (shape.edgeValues px py)
            let e' := winding.other.reorder (shape'.edgeValues px py)
            let inside := shape.covers (shape.edgeValues px py) = true
            let inside' := shape'.covers (shape'.edgeValues px py) = true
            (0 ≤ e.v1 → 0 ≤ e.v2 → 0 ≤ e'.v0 → 0 ≤ e'.v1 → inside ∨ inside')
              ∧ (inside → inside' → e.v0 = 0 ∧ e'.v2 = 0)) := by
  intro kicked kicked' hbetween
  let regs := run { policy } before
  obtain ⟨hring, hdraw⟩ := regs.process_kick winding word
  obtain ⟨-, hdraw'⟩ := (kicked.1.run between).process_kick winding.other word'
  refine ⟨_, _, _, _, hdraw, hdraw', fun _ hpos' => ?_⟩
  rcases kicked.1.ring_run hbetween with hsame | hempty
  · have hring' : (kicked.1.run between).ring = regs.ring.push ⟨.ofWord word, regs.attributes⟩ :=
      hsame.trans hring
    rw [hring', VertexRing.recent_push_succ _ _ (by decide : 0 < 2), VertexRing.recent_push_zero]
    simp only [Winding.reorder_reorder]
    exact ⟨⟨trivial, trivial⟩, winding.watertight _ _ _ _ _ _⟩
  · -- after a reset the two vertices before the newest are the same, and the triangle has no area
    rw [hempty, Winding.reorder_map] at hpos'
    exact absurd (winding.other.doubledAreaOf_reorder_twice _ _) (Int.ne_of_gt hpos')

/-- Two halves of a square meet at the pixel in its middle. Between the kicks a vertical sync comes
and the drawing mode is changed. -/
theorem strip_watertight_square :
    let word (x y : Int16) : UInt64 := VertexWord.toWord { x, y }
    let corner (x y : Int16) : Vertex := { word := { x, y } }
    let before : List Call := [.process (.write Register.vertex.address (word 0 0)),
      .process (.write Register.vertex.address (word 64 0))]
    let between : List Call := [.clock true, .process (.write Register.renderMode.address 0x11)]
    let kicked := (run {} before).process (.write Register.kick012.address (word 0 64))
    let kicked' := (kicked.1.run between).process (.write Register.kick021.address (word 64 64))
    let vertices : Triple Vertex := ⟨corner 0 0, corner 64 0, corner 0 64⟩
    let vertices' : Triple Vertex := ⟨corner 64 0, corner 64 64, corner 0 64⟩
    let shape := Shape.triangle vertices (.ofVertices (vertices.map Vertex.position) {})
    let shape' := Shape.triangle vertices' (.ofVertices (vertices'.map Vertex.position) {})
    kicked.2.draw = some ⟨.triangle vertices .order012, {}⟩
      ∧ kicked'.2.draw = some ⟨.triangle vertices' .order021, { mode := .ofWord 0x11 }⟩
      ∧ shape.edgeValues 2 2 = ⟨0, 2048, 2048⟩ ∧ shape'.edgeValues 2 2 = ⟨2048, 0, 2048⟩
      ∧ (shape.covers (shape.edgeValues 2 2) = true ∨ shape'.covers (shape'.edgeValues 2 2) = true)
      ∧ (shape.edgeValues 2 2).v0 = 0 ∧ (shape'.edgeValues 2 2).v1 = 0 := by
  intro word corner before between kicked kicked' vertices vertices' shape shape'
  have hdraw : kicked.2.draw = some ⟨.triangle vertices .order012, {}⟩ := by decide
  have hdraw' : kicked'.2.draw
      = some ⟨.triangle vertices' .order021, { mode := .ofWord 0x11 }⟩ := by decide
  obtain ⟨_, _, _, _, hfirst, hsecond, hseam⟩ :=
    strip_watertight .lastWriteWins before between .order012 (word 0 64) (word 64 64) (by decide)
  obtain ⟨hprimitive, rfl⟩ := DrawEvent.mk.inj (Option.some.inj (hdraw.symm.trans hfirst))
  obtain ⟨hprimitive', rfl⟩ := DrawEvent.mk.inj (Option.some.inj (hdraw'.symm.trans hsecond))
  obtain ⟨rfl, -⟩ := Primitive.triangle.inj hprimitive
  obtain ⟨rfl, -⟩ := Primitive.triangle.inj hprimitive'
  obtain ⟨-, hpixels⟩ := hseam (by decide) (by decide)
  obtain ⟨hcrack, hoverlap⟩ := hpixels 2 2
  exact ⟨hdraw, hdraw', by decide, by decide,
    hcrack (by decide) (by decide) (by decide) (by decide), hoverlap (by decide) (by decide)⟩

end RegisterFile

end RasterGpu
