import Mathlib.Algebra.Order.Field.Basic
import Mathlib.Algebra.Order.Group.MinMax
import Mathlib.Tactic.FieldSimp
import Mathlib.Tactic.Linarith
import Mathlib.Tactic.Ring
import RasterGpu.Proofs.Drawing.Coverage
import RasterGpu.Proofs.Drawing.Normalization

/-!
# How accurate the weights are

The exact weight of a vertex is its edge value divided by the doubled area. With derived factors the
device comes close to it: it drops bits from both, and multiplies by a rounded inverse. Three things
separate its weight from the exact one.

* Dropping bits changes the quotient. The shifted value and the shifted area have the quotient of
  the value and the area, up to one divided by the shifted area (`abs_shiftRight_mul_sub_le`). If
  nothing is dropped it does not change at all.
* The inverse is rounded. Times the shifted area it is one, up to half of that area
  (`AreaFactors.Normalize.abs_shifted_mul_sub_le`), and a weight has a share of this error.
* The weight is limited to one. The exact weight is too, so that this can only help
  (`abs_clamp_sub_le`).

`Triangle.weights_accurate` adds this up for the pixels inside a triangle.
-/

namespace RasterGpu

/-! ## Values of the vertices -/

/-- The value of the vertex with this number. -/
def Triple.get {α : Type} (t : Triple α) : Fin 3 → α
  | 0 => t.v0
  | 1 => t.v1
  | 2 => t.v2

/-- A function is applied to the value of each vertex. -/
@[simp] theorem Triple.get_map {α β : Type} (f : α → β) (t : Triple α) (i : Fin 3) :
    (t.map f).get i = f (t.get i) := by
  match i with
  | 0 => rfl
  | 1 => rfl
  | 2 => rfl

/-- If no value is negative, none exceeds the sum. -/
theorem Triple.get_le_sum {t : Triple Int} (h : ∀ i, 0 ≤ t.get i) (i : Fin 3) :
    t.get i ≤ t.v0 + t.v1 + t.v2 := by
  have h0 : 0 ≤ t.v0 := h 0
  have h1 : 0 ≤ t.v1 := h 1
  have h2 : 0 ≤ t.v2 := h 2
  match i with
  | 0 => change t.v0 ≤ _; omega
  | 1 => change t.v1 ≤ _; omega
  | 2 => change t.v2 ≤ _; omega

namespace Triangle

variable {p : Triple Point} {px py : Int}

/-- The edge values of a triangle at a pixel add up to its doubled area. -/
theorem sum_values (p : Triple Point) (programmed : AreaFactors) (px py : Int) :
    let t := ofVertices p programmed
    let values := t.edges.map fun e => e.atPixel px py
    values.v0 + values.v1 + values.v2 = t.doubledArea :=
  sum_eval p (.ofPixel px py)

/-- Inside a triangle no edge value is negative. -/
theorem Contains.values_nonneg (h : Contains p px py) (programmed : AreaFactors) (i : Fin 3) :
    0 ≤ ((ofVertices p programmed).edges.map fun e => e.atPixel px py).get i := by
  obtain ⟨h0, h1, h2⟩ := h
  match i with
  | 0 => exact h0
  | 1 => exact h1
  | 2 => exact h2

/-- Inside a triangle no edge value exceeds the doubled area. -/
theorem Contains.values_le (h : Contains p px py) (programmed : AreaFactors) (i : Fin 3) :
    let t := ofVertices p programmed
    (t.edges.map fun e => e.atPixel px py).get i ≤ t.doubledArea :=
  (Triple.get_le_sum (h.values_nonneg programmed) i).trans_eq (sum_values p programmed px py)

end Triangle

/-! ## Dropping bits -/

section Shift

variable {value area : Int}

/-- A number is its shifted value and the bits that were dropped. -/
theorem exists_dropped (value : Int) (bits : Nat) :
    ∃ dropped, 0 ≤ dropped ∧ dropped < 2 ^ bits
      ∧ 2 ^ bits * (value >>> bits) + dropped = value := by
  have hpos : (0 : Int) < 2 ^ bits := by positivity
  refine ⟨value % 2 ^ bits, Int.emod_nonneg _ hpos.ne', Int.emod_lt_of_pos _ hpos, ?_⟩
  rw [Int.shiftRight_eq_div_pow]
  exact_mod_cast Int.mul_ediv_add_emod value (2 ^ bits)

/-- Shifting keeps the order. -/
theorem shiftRight_mono (h : value ≤ area) (bits : Nat) : value >>> bits ≤ area >>> bits := by
  simp only [Int.shiftRight_eq_div_pow]
  exact Int.ediv_le_ediv (by positivity) h

/-- **Dropping bits of a value and an area changes their quotient little.** -/
theorem abs_shiftRight_mul_sub_le (h0 : 0 ≤ value) (hle : value ≤ area) (bits : Nat) :
    |(value >>> bits) * area - (area >>> bits) * value| ≤ area := by
  obtain ⟨r, hr0, hr, hvalue⟩ := exists_dropped value bits
  obtain ⟨q, hq0, hq, harea⟩ := exists_dropped area bits
  have he0 : 0 ≤ value >>> bits := Int.le_shiftRight_of_nonneg h0
  have hes := shiftRight_mono hle bits
  generalize value >>> bits = e at *
  generalize area >>> bits = s at *
  generalize (2 : Int) ^ bits = unit at *
  have hcross : e * area - s * value = e * q - s * r := by
    rw [← hvalue, ← harea]
    ring
  -- what is left are two terms of one sign, neither larger than the part that is kept of the area
  have hs : s * unit ≤ area := by linarith
  have hq' : e * q ≤ s * unit := mul_le_mul hes hq.le hq0 (by omega)
  have hr' : s * r ≤ s * unit := mul_le_mul_of_nonneg_left hr.le (by omega)
  have hq'' : 0 ≤ e * q := mul_nonneg he0 hq0
  have hr'' : 0 ≤ s * r := mul_nonneg (by omega) hr0
  rw [hcross, abs_le]
  constructor <;> linarith

end Shift

/-! ## Limiting -/

/-- Limiting a number brings it no further away from a number within the limits. -/
theorem abs_clamp_sub_le (x : Int) {exact : ℚ} (h0 : 0 ≤ exact) (h1 : exact ≤ 65536) :
    |(clamp 0 weightOne x : ℚ) - exact| ≤ |(x : ℚ) - exact| := by
  have hclamp : ((clamp 0 weightOne x : Int) : ℚ) = max (min (x : ℚ) 65536) 0 := by
    simp [clamp, weightOne, min_comm, max_comm]
  have hexact : max (min exact 65536) 0 = exact := by
    rw [min_eq_left h1, max_eq_left h0]
  calc |(clamp 0 weightOne x : ℚ) - exact|
      = |max (min (x : ℚ) 65536) 0 - max (min exact 65536) 0| := by rw [hclamp, hexact]
    _ ≤ |min (x : ℚ) 65536 - min exact 65536| := abs_max_sub_max_le_abs _ _ _
    _ ≤ max |(x : ℚ) - exact| |65536 - 65536| := abs_min_sub_min_le_max _ _ _ _
    _ = |(x : ℚ) - exact| := by simp

/-- Exact weights are within the limits. -/
theorem exact_within {value area : Int} (h0 : 0 ≤ value) (hle : value ≤ area) (hpos : 0 < area) :
    (0 : ℚ) ≤ 65536 * value / area ∧ (65536 : ℚ) * value / area ≤ 65536 := by
  have hvalue : (0 : ℚ) ≤ value := by exact_mod_cast h0
  have harea : (0 : ℚ) < area := by exact_mod_cast hpos
  have hle' : (value : ℚ) ≤ area := by exact_mod_cast hle
  constructor
  · positivity
  · rw [div_le_iff₀ harea]
    linarith

/-! ## Weights -/

/-- The weight of a vertex, before it is limited. -/
def AreaFactors.weigh (factors : AreaFactors) (value : Int) : Int :=
  (value >>> factors.shift) * factors.inverse

/-- The weights are limited. -/
theorem Triangle.weights_eq (t : Triangle) (values : Triple Int) :
    t.weights values = values.map fun e => clamp 0 weightOne (t.factors.weigh e) := rfl

namespace AreaFactors.Normalize

variable {factors : AreaFactors} {area value : Int}

/-- Only an area of which something is left is an area at all. -/
theorem area_pos (h : factors.Normalize area) : 0 < area := by
  by_contra hneg
  have hshifted := shiftRight_mono (Int.not_lt.1 hneg) factors.shift
  rw [Int.zero_shiftRight] at hshifted
  exact Int.not_lt.2 hshifted h.shifted_pos

/-- The shifted area times the inverse is one, up to half of the shifted area. -/
theorem abs_shifted_mul_sub_le (h : factors.Normalize area) :
    |((area >>> factors.shift : Int) : ℚ) * factors.inverse - 65536|
      ≤ ((area >>> factors.shift : Int) + 1) / 2 := by
  have hle := h.le_product
  have hge := h.product_le
  generalize area >>> factors.shift = s at *
  have hle' : 2 * (65536 : Int) ≤ 2 * (s * factors.inverse) + (s + 1) := by omega
  have hge' : 2 * (s * factors.inverse) ≤ 2 * (65536 : Int) + (s + 1) := by omega
  have hle'' : 2 * (65536 : ℚ) ≤ 2 * (s * factors.inverse) + (s + 1) := by exact_mod_cast hle'
  have hge'' : 2 * ((s : ℚ) * factors.inverse) ≤ 2 * 65536 + (s + 1) := by exact_mod_cast hge'
  rw [abs_le]
  constructor <;> linarith

/-- The error of the inverse, of which a weight has its share. -/
theorem abs_weigh_sub_shifted_le (h : factors.Normalize area) (h0 : 0 ≤ value)
    (hle : value ≤ area) :
    |(factors.weigh value : ℚ)
        - 65536 * ((value >>> factors.shift : Int) / (area >>> factors.shift : Int))|
      ≤ ((area >>> factors.shift : Int) + 1) / 2 := by
  have hproduct := h.abs_shifted_mul_sub_le
  have hs : (0 : ℚ) < (area >>> factors.shift : Int) := Int.cast_pos.2 h.shifted_pos
  have he0 : (0 : ℚ) ≤ (value >>> factors.shift : Int) := by
    exact_mod_cast Int.le_shiftRight_of_nonneg h0
  have hes : ((value >>> factors.shift : Int) : ℚ) ≤ (area >>> factors.shift : Int) := by
    exact_mod_cast shiftRight_mono hle _
  unfold weigh
  push_cast
  generalize ((area >>> factors.shift : Int) : ℚ) = s at *
  generalize ((value >>> factors.shift : Int) : ℚ) = e at *
  have hshare : e * factors.inverse - 65536 * (e / s) = e / s * (s * factors.inverse - 65536) := by
    field_simp
  have hshare0 : 0 ≤ e / s := div_nonneg he0 hs.le
  have hshare1 : e / s ≤ 1 := (div_le_one hs).2 hes
  calc |e * factors.inverse - 65536 * (e / s)|
      = e / s * |s * factors.inverse - 65536| := by rw [hshare, abs_mul, abs_of_nonneg hshare0]
    _ ≤ 1 * |s * factors.inverse - 65536| := mul_le_mul_of_nonneg_right hshare1 (abs_nonneg _)
    _ ≤ (s + 1) / 2 := by rwa [one_mul]

/-- The error of dropping bits. -/
theorem abs_shifted_div_sub_le (h : factors.Normalize area) (h0 : 0 ≤ value)
    (hle : value ≤ area) :
    |((value >>> factors.shift : Int) : ℚ) / (area >>> factors.shift : Int) - value / area|
      ≤ 1 / (area >>> factors.shift : Int) := by
  have hs : (0 : ℚ) < (area >>> factors.shift : Int) := Int.cast_pos.2 h.shifted_pos
  have hpos : (0 : ℚ) < area := Int.cast_pos.2 h.area_pos
  have hcross : |((value >>> factors.shift : Int) : ℚ) * area
      - (area >>> factors.shift : Int) * value| ≤ area := by
    exact_mod_cast abs_shiftRight_mul_sub_le h0 hle factors.shift
  generalize ((area >>> factors.shift : Int) : ℚ) = s at *
  generalize ((value >>> factors.shift : Int) : ℚ) = e at *
  calc |e / s - value / area|
      = |e * area - s * value| / (s * area) := by
        rw [div_sub_div _ _ hs.ne' hpos.ne', abs_div, abs_of_pos (mul_pos hs hpos)]
    _ ≤ area / (s * area) := div_le_div_of_nonneg_right hcross (mul_pos hs hpos).le
    _ = 1 / s := by field_simp

/-- **A weight is accurate before it is limited.** -/
theorem abs_weigh_sub_le (h : factors.Normalize area) (h0 : 0 ≤ value) (hle : value ≤ area) :
    |(factors.weigh value : ℚ) - 65536 * value / area|
      ≤ 65536 / (area >>> factors.shift : Int) + ((area >>> factors.shift : Int) + 1) / 2 := by
  have hinverse := h.abs_weigh_sub_shifted_le h0 hle
  have hdropped := h.abs_shifted_div_sub_le h0 hle
  generalize ((area >>> factors.shift : Int) : ℚ) = s at *
  generalize ((value >>> factors.shift : Int) : ℚ) = e at *
  calc |(factors.weigh value : ℚ) - 65536 * value / area|
      = |65536 * (e / s - value / area) + (factors.weigh value - 65536 * (e / s))| := by
        congr 1
        ring
    _ ≤ |65536 * (e / s - value / area)| + |factors.weigh value - 65536 * (e / s)| :=
        abs_add_le _ _
    _ ≤ 65536 * (1 / s) + (s + 1) / 2 := by
        rw [abs_mul, abs_of_pos (by norm_num : (0 : ℚ) < 65536)]
        linarith
    _ = 65536 / s + (s + 1) / 2 := by ring

/-- A weight of a triangle that is not large is accurate before it is limited: less than nine
thousandths off. -/
theorem abs_weigh_sub_le_small (h : factors.Normalize area) (h0 : 0 ≤ value) (hle : value ≤ area)
    (hsmall : area < 8388608) : |(factors.weigh value : ℚ) - 65536 * value / area| ≤ 577 := by
  have hlt : ((area >>> factors.shift : Int) : ℚ) ≤ 255 := by
    exact_mod_cast Int.le_of_lt_add_one (h.shifted_lt hsmall)
  rcases h.le_shifted with hzero | hge
  · -- nothing is dropped
    have hinverse := h.abs_weigh_sub_shifted_le h0 hle
    rw [hzero, Int.shiftRight_zero, Int.shiftRight_zero, ← mul_div_assoc] at hinverse
    rw [hzero, Int.shiftRight_zero] at hlt
    linarith
  · have hge' : (128 : ℚ) ≤ (area >>> factors.shift : Int) := by exact_mod_cast hge
    have htotal := h.abs_weigh_sub_le h0 hle
    generalize ((area >>> factors.shift : Int) : ℚ) = s at *
    have hdropped : 65536 / s ≤ 577 - (s + 1) / 2 := by
      rw [div_le_iff₀ (by linarith)]
      -- at 128 and at 1024 what depends on the area adds up to 576, and in between to less
      have hroots : 0 ≤ (s - 128) * (1024 - s) := mul_nonneg (by linarith) (by linarith)
      linarith
    linarith

end AreaFactors.Normalize

namespace Triangle

/-- **Derived factors give accurate weights.** At a pixel inside a triangle with an area, drawn with
derived factors, the weight of each vertex is compared with the exact one, which is the edge value
divided by the doubled area. It is off by no more than one divided by the shifted area, for the bits
dropped, and half of the shifted area and one, in units of `2 ^ -16`, for the inverse. If the
doubled area is less than `2 ^ 23` this is 577 units at most, less than nine thousandths. -/
theorem weights_accurate (vertices : Triple Vertex) (programmed : AreaFactors) (px py : Int) :
    let p := vertices.map Vertex.position
    let t := ofVertices p programmed
    let values := t.edges.map fun e => e.atPixel px py
    let s : ℚ := (t.doubledArea >>> t.factors.shift : Int)
    programmed.isAutomatic = true → 0 < t.doubledArea → Contains p px py →
      0 < s ∧ ∀ i,
        let error : ℚ := (t.weights values).get i - 65536 * values.get i / t.doubledArea
        |error| ≤ 65536 / s + (s + 1) / 2 ∧ (t.doubledArea < 8388608 → |error| ≤ 577) := by
  intro p t values s hauto hpos hcontains
  have hfit : t.factors.Normalize t.doubledArea := normalize_ofVertices hauto hpos
  refine ⟨Int.cast_pos.2 hfit.shifted_pos, fun i => ?_⟩
  have h0 : 0 ≤ values.get i := hcontains.values_nonneg programmed i
  have hle : values.get i ≤ t.doubledArea := hcontains.values_le programmed i
  obtain ⟨hexact0, hexact1⟩ := exact_within h0 hle hpos
  have hclamp := abs_clamp_sub_le (t.factors.weigh (values.get i)) hexact0 hexact1
  rw [weights_eq, Triple.get_map]
  exact ⟨hclamp.trans (hfit.abs_weigh_sub_le h0 hle),
    fun hsmall => hclamp.trans (hfit.abs_weigh_sub_le_small h0 hle hsmall)⟩

/-- Two long sides meet in a vertex next to the pixel. The weight of this vertex is off by almost
eight thousandths. -/
theorem weights_accurate_narrow :
    let corner (x y : Int16) : Vertex := { word := { x, y } }
    let vertices : Triple Vertex := ⟨corner (-5) 3, corner 43 (-35), corner 43 55⟩
    let p := vertices.map Vertex.position
    let t := ofVertices p {}
    let values := t.edges.map fun e => e.atPixel 0 0
    let error : ℚ := (t.weights values).get 0 - 65536 * values.get 0 / t.doubledArea
    t.weights values = ⟨58200, 5820, 485⟩ ∧ t.doubledArea = 4320 ∧ t.factors = ⟨485, 5⟩
      ∧ 500 < |error| ∧ |error| ≤ 577
      ∧ |error| ≤ 65536 / ((t.doubledArea >>> t.factors.shift : Int) : ℚ)
        + (((t.doubledArea >>> t.factors.shift : Int) : ℚ) + 1) / 2 := by
  intro corner vertices p t values error
  have hweight : (t.weights values).get 0 = 58200 := by decide
  have hvalue : values.get 0 = 3870 := by decide
  have harea : t.doubledArea = 4320 := by decide
  have hinside : Contains p 0 0 := ⟨by decide, by decide, by decide⟩
  obtain ⟨-, haccurate⟩ := weights_accurate vertices {} 0 0 rfl (by decide) hinside
  obtain ⟨hbound, hsmall⟩ := haccurate 0
  refine ⟨by decide, harea, by decide, ?_, hsmall (by decide), hbound⟩
  simp only [error, hweight, hvalue, harea]
  norm_num

end Triangle

end RasterGpu
