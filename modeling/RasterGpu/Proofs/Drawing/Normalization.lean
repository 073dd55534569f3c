import Mathlib.Tactic.Linarith
import Mathlib.Tactic.Ring
import RasterGpu.Geometry.Triangle
import RasterGpu.Vertex

/-!
# Factors derived from an area

Unless they are programmed, the factors that turn edge values into weights are derived from the
doubled area of the triangle: a shift that leaves eight bits of it, and the inverse of what is left.
Both have to fit a register, four bits for the shift and sixteen for the inverse, and an inverse of
zero would ask for derived factors again. That this cannot happen is a matter of size. The shift
stops at fifteen, and beyond a shifted area of `2 ^ 17` the inverse would be rounded to zero.

* The doubled area is a difference of two products, and might seem to reach twice the square around
  the vertices. It does not exceed that square (`Triangle.doubledAreaOf_le_square`). So with
  coordinates of sixteen bits the shifted area is less than `2 ^ 17`.
* `AreaFactors.Normalize` is what derived factors have to do with the area: the shifted area times
  the inverse is one, up to half of the shifted area (`AreaFactors.ofDoubledArea_normalize`).
* A register gives back the factors that were written to it (`AreaFactors.ofWord_toWord`).
-/

namespace RasterGpu

/-! ## How large a triangle can be -/

/-- A position lies in a square, sides included. -/
structure Point.InSquare (low side : Int) (q : Point) : Prop where
  /-- Not left of it. -/
  low_le_x : low ≤ q.x
  /-- Not right of it. -/
  x_le : q.x ≤ low + side
  /-- Not above it. -/
  low_le_y : low ≤ q.y
  /-- Not below it. -/
  y_le : q.y ≤ low + side

/-- Coordinates have sixteen bits. -/
theorem Vertex.position_inSquare (v : Vertex) : v.position.InSquare (-32768) 65535 := by
  have hx := v.word.x.le_toInt
  have hx' := v.word.x.toInt_lt
  have hy := v.word.y.le_toInt
  have hy' := v.word.y.toInt_lt
  constructor <;> simp only [Vertex.position] <;> omega

namespace Triangle

/-- The doubled area as a sum over the vertices: their distance from any column, times the
difference of the rows of the other two. -/
theorem doubledAreaOf_eq (p : Triple Point) (column : Int) :
    doubledAreaOf p = (p.v0.x - column) * (p.v1.y - p.v2.y) + (p.v1.x - column) * (p.v2.y - p.v0.y)
      + (p.v2.x - column) * (p.v0.y - p.v1.y) := by
  simp only [doubledAreaOf, Edge.between, Edge.eval]
  ring

/-- **A triangle is not larger than half of a square around it.** -/
theorem doubledAreaOf_le_square {p : Triple Point} {low side : Int} (h0 : p.v0.InSquare low side)
    (h1 : p.v1.InSquare low side) (h2 : p.v2.InSquare low side) :
    doubledAreaOf p ≤ side * side := by
  obtain ⟨hx0, hx0', hy0, hy0'⟩ := h0
  obtain ⟨hx1, hx1', hy1, hy1'⟩ := h1
  obtain ⟨hx2, hx2', hy2, hy2'⟩ := h2
  -- a vertex contributes at most what it would on the far side of the square
  have part {x c : Int} (h : 0 ≤ x) (h' : x ≤ side) : x * c ≤ side * max c 0 := by
    rcases le_total 0 c with hc | hc
    · rw [max_eq_left hc]
      exact mul_le_mul_of_nonneg_right h' hc
    · rw [max_eq_right hc, mul_zero]
      exact mul_nonpos_of_nonneg_of_nonpos h hc
  -- the differences add up to zero, and the positive ones to the height of the triangle
  have hheight : max (p.v1.y - p.v2.y) 0 + max (p.v2.y - p.v0.y) 0 + max (p.v0.y - p.v1.y) 0
      ≤ side := by
    omega
  have hside : 0 ≤ side := by omega
  calc doubledAreaOf p
      = (p.v0.x - low) * (p.v1.y - p.v2.y) + (p.v1.x - low) * (p.v2.y - p.v0.y)
        + (p.v2.x - low) * (p.v0.y - p.v1.y) := doubledAreaOf_eq p low
    _ ≤ side * max (p.v1.y - p.v2.y) 0 + side * max (p.v2.y - p.v0.y) 0
        + side * max (p.v0.y - p.v1.y) 0 := by
      apply add_le_add (add_le_add _ _)
      · exact part (by omega) (by omega)
      · exact part (by omega) (by omega)
      · exact part (by omega) (by omega)
    _ = side * (max (p.v1.y - p.v2.y) 0 + max (p.v2.y - p.v0.y) 0 + max (p.v0.y - p.v1.y) 0) := by
      ring
    _ ≤ side * side := mul_le_mul_of_nonneg_left hheight hside

/-- The doubled area of a triangle of vertices has 32 bits. -/
theorem doubledAreaOf_lt (vertices : Triple Vertex) :
    doubledAreaOf (vertices.map Vertex.position) < 4294967296 := by
  have hle : doubledAreaOf (vertices.map Vertex.position) ≤ 65535 * 65535 :=
    doubledAreaOf_le_square (Vertex.position_inSquare _) (Vertex.position_inSquare _)
      (Vertex.position_inSquare _)
  omega

end Triangle

/-! ## What the factors have to do with the area -/

namespace AreaFactors

/-- Factors are fit for a doubled area: they fit the register, and the inverse is that of the
shifted area. -/
structure Normalize (factors : AreaFactors) (area : Int) : Prop where
  /-- The inverse does not ask for derived factors. -/
  inverse_pos : 0 < factors.inverse
  /-- It has sixteen bits. -/
  inverse_lt : factors.inverse < 65536
  /-- The shift has four bits. -/
  shift_lt : factors.shift < 16
  /-- Something is left of the area. -/
  shifted_pos : 0 < area >>> factors.shift
  /-- The inverse is large enough. -/
  le_product :
    65536 ≤ (area >>> factors.shift) * factors.inverse + ((area >>> factors.shift) + 1) / 2
  /-- The inverse is not too large. -/
  product_le : (area >>> factors.shift) * factors.inverse ≤ 65536 + (area >>> factors.shift) / 2
  /-- Eight bits are left of the area if anything is dropped. -/
  le_shifted : factors.shift = 0 ∨ 128 ≤ area >>> factors.shift
  /-- No more than eight bits are left of an area of 23 bits. -/
  shifted_lt : area < 8388608 → area >>> factors.shift < 256

/-- The shift for an area: it leaves eight bits, or drops fifteen. -/
def shiftFor (area : Nat) : Nat := min (area.log2 + 1 - 8) 15

/-- The inverse of a shifted area, rounded to nearest and limited to sixteen bits. -/
def inverseFor (shifted : Nat) : Nat := min ((65536 + shifted / 2) / shifted) 0xFFFF

variable {area shifted : Nat}

/-- The shift leaves the highest bit of an area. -/
theorem shifted_pos (h : 0 < area) : 0 < area >>> shiftFor area := by
  have hshift : shiftFor area ≤ area.log2 := by
    unfold shiftFor
    omega
  rw [Nat.shiftRight_eq_div_pow]
  apply Nat.div_pos _ (Nat.two_pow_pos _)
  calc 2 ^ shiftFor area ≤ 2 ^ area.log2 := Nat.pow_le_pow_right (by decide) hshift
    _ ≤ area := Nat.log2_self_le (Nat.ne_of_gt h)

/-- The shift leaves no less than eight bits of an area, unless it drops nothing. -/
theorem le_shifted (h : shiftFor area ≠ 0) : 128 ≤ area >>> shiftFor area := by
  have hbits : shiftFor area + 7 ≤ area.log2 := by
    unfold shiftFor at h ⊢
    omega
  have hpos : area ≠ 0 := by
    rintro rfl
    exact h (by decide)
  rw [Nat.shiftRight_eq_div_pow, Nat.le_div_iff_mul_le (Nat.two_pow_pos _)]
  calc 128 * 2 ^ shiftFor area = 2 ^ (shiftFor area + 7) := by
        rw [Nat.pow_add, Nat.mul_comm]
    _ ≤ 2 ^ area.log2 := Nat.pow_le_pow_right (by decide) hbits
    _ ≤ area := Nat.log2_self_le hpos

/-- The shift leaves no more than eight bits of an area, or fifteen bits less than it has. -/
theorem shifted_lt {bits : Nat} (hbits : 8 ≤ bits) (h : area < 2 ^ (bits + 15)) :
    area >>> shiftFor area < 2 ^ bits := by
  have hlog : area.log2 + 1 ≤ bits + shiftFor area := by
    have hlt : area.log2 < bits + 15 := by
      by_cases hzero : area = 0
      · subst hzero
        exact Nat.lt_of_lt_of_le (by decide) (Nat.le_add_left 15 bits)
      · exact (Nat.log2_lt hzero).2 h
    unfold shiftFor
    omega
  rw [Nat.shiftRight_eq_div_pow, Nat.div_lt_iff_lt_mul (Nat.two_pow_pos _), ← Nat.pow_add]
  calc area < 2 ^ (area.log2 + 1) := Nat.lt_log2_self
    _ ≤ 2 ^ (bits + shiftFor area) := Nat.pow_le_pow_right (by decide) hlog

/-- The inverse is not rounded to zero as long as the shifted area has seventeen bits. -/
theorem inverseFor_pos (h : 0 < shifted) (hlt : shifted < 131072) : 0 < inverseFor shifted := by
  unfold inverseFor
  apply Nat.lt_min.2 ⟨Nat.div_pos _ h, by decide⟩
  omega

/-- The inverse is rounded down by no more than half. -/
theorem le_mul_inverseFor (h : 0 < shifted) :
    65536 ≤ shifted * inverseFor shifted + (shifted + 1) / 2 := by
  have hdiv := Nat.lt_div_mul_add (a := 65536 + shifted / 2) h
  rw [Nat.mul_comm] at hdiv
  unfold inverseFor
  rcases Nat.le_total ((65536 + shifted / 2) / shifted) 0xFFFF with hle | hle
  · rw [Nat.min_eq_left hle]
    omega
  · -- only the inverse of one is limited
    have hone : shifted = 1 := by
      have hmul := Nat.div_mul_le_self (65536 + shifted / 2) shifted
      have := Nat.mul_le_mul_right shifted hle
      omega
    subst hone
    decide

/-- The inverse is rounded up by no more than half. -/
theorem mul_inverseFor_le (shifted : Nat) : shifted * inverseFor shifted ≤ 65536 + shifted / 2 := by
  calc shifted * inverseFor shifted
      ≤ shifted * ((65536 + shifted / 2) / shifted) := Nat.mul_le_mul_left _ (Nat.min_le_left _ _)
    _ ≤ 65536 + shifted / 2 := Nat.mul_div_le _ _

/-- The factors that are derived. -/
theorem ofDoubledArea_eq (h : 0 < area) :
    ofDoubledArea area = ⟨inverseFor (area >>> shiftFor area), shiftFor area⟩ := by
  have hpos : ¬ (area : Int) ≤ 0 := by omega
  have hshifted : max (area >>> shiftFor area) 1 = area >>> shiftFor area :=
    Nat.max_eq_left (shifted_pos h)
  rw [ofDoubledArea, if_neg hpos, Int.toNat_natCast]
  dsimp only
  change AreaFactors.mk (inverseFor (max (area >>> shiftFor area) 1)) (shiftFor area) = _
  rw [hshifted]

/-- **Derived factors are fit for their area.** -/
theorem ofDoubledArea_normalize {doubledArea : Int} (hpos : 0 < doubledArea)
    (hlt : doubledArea < 4294967296) : (ofDoubledArea doubledArea).Normalize doubledArea := by
  obtain ⟨area, rfl⟩ := Int.eq_ofNat_of_zero_le (Int.le_of_lt hpos)
  have hpos : 0 < area := by omega
  have hlt : area < 4294967296 := by omega
  have hshifted : (area : Int) >>> shiftFor area = (area >>> shiftFor area : Nat) :=
    (Int.natCast_shiftRight _ _).symm
  rw [ofDoubledArea_eq hpos]
  refine ⟨?_, ?_, ?_, ?_, ?_, ?_, ?_, ?_⟩ <;> dsimp only
  · exact inverseFor_pos (shifted_pos hpos) (shifted_lt (by decide : 8 ≤ 17) hlt)
  · exact Nat.lt_succ_of_le (Nat.min_le_right _ _)
  · exact Nat.lt_succ_of_le (Nat.min_le_right _ _)
  · rw [hshifted]
    exact Int.natCast_pos.2 (shifted_pos hpos)
  · rw [hshifted]
    exact_mod_cast le_mul_inverseFor (shifted_pos hpos)
  · rw [hshifted]
    exact_mod_cast mul_inverseFor_le _
  · by_cases hzero : shiftFor area = 0
    · exact .inl hzero
    · rw [hshifted]
      exact .inr (by exact_mod_cast le_shifted hzero)
  · intro hsmall
    rw [hshifted]
    exact_mod_cast shifted_lt (Nat.le_refl 8) (by omega)

/-! ## In the register -/

/-- The register keeps factors reduced to the widths of its fields. -/
theorem ofWord_toWord (factors : AreaFactors) :
    ofWord factors.toWord = ⟨factors.inverse % 65536, factors.shift % 16⟩ := by
  have hinverse : inverseField.get factors.toWord = factors.inverse % 65536 := by
    rw [toWord, BitField.get_or, BitField.get_put, BitField.get_put_of_disjoint (by decide),
      Nat.or_zero]
    rfl
  have hshift : shiftField.get factors.toWord = factors.shift % 16 := by
    rw [toWord, BitField.get_or, BitField.get_put, BitField.get_put_of_disjoint (by decide),
      Nat.zero_or]
    rfl
  rw [ofWord, hinverse, hshift]

/-- Factors that are fit for an area do not ask for derived ones. -/
theorem Normalize.isAutomatic {factors : AreaFactors} {doubledArea : Int}
    (h : factors.Normalize doubledArea) : factors.isAutomatic = false := by
  unfold AreaFactors.isAutomatic
  exact beq_eq_false_iff_ne.2 (Nat.ne_of_gt h.inverse_pos)

/-- Factors that are fit for an area survive the register. -/
theorem Normalize.ofWord_toWord_eq {factors : AreaFactors} {doubledArea : Int}
    (h : factors.Normalize doubledArea) : ofWord factors.toWord = factors := by
  rw [ofWord_toWord, Nat.mod_eq_of_lt h.inverse_lt, Nat.mod_eq_of_lt h.shift_lt]

end AreaFactors

/-! ## The factors of a triangle -/

namespace Triangle

variable {programmed : AreaFactors}

/-- A triangle has derived factors if the programmed ones ask for them. -/
theorem factors_ofVertices (h : programmed.isAutomatic = true) (p : Triple Point) :
    (ofVertices p programmed).factors = .ofDoubledArea (ofVertices p programmed).doubledArea :=
  if_pos h

/-- Derived factors are fit for the area of any triangle of vertices that has one. -/
theorem normalize_ofVertices (h : programmed.isAutomatic = true) {vertices : Triple Vertex} :
    let t := ofVertices (vertices.map Vertex.position) programmed
    0 < t.doubledArea → t.factors.Normalize t.doubledArea := by
  intro t hpos
  rw [factors_ofVertices h]
  exact AreaFactors.ofDoubledArea_normalize hpos (doubledAreaOf_lt vertices)

end Triangle

end RasterGpu
