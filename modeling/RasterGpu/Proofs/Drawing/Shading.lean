import Mathlib.Tactic.Linarith
import RasterGpu.Proofs.Drawing.Weights

/-!
# Shades between those of the vertices

Colors are interpolated channel by channel, from the value of the first vertex and the weighted
differences of the other two from it. If two weights do not add up to more than one, the result lies
between the values of the vertices. With derived factors they may add up to more: the inverse is
rounded to nearest, and what it is too large by is multiplied by the shifted area.

* `AreaFactors.excess` is what two weights together can exceed one by (`limited_add_le`). It depends
  on the triangle, not on the pixel.
* An interpolated value leaves the range of the vertices by the excess, as a share of the range
  (`interpolate_within`).
* As long as the shift leaves no more than nine bits of the area the excess is too small to show.
  The shift has four bits, however, so more are left of a large area. Up to the shifted area 552 the
  inverse happens to be good enough (`AreaFactors.excess_ofDoubledArea_le`); at 553 it is not.

`Triangle.shades_within` says this of the colors of a triangle, and `Triangle.shade_above_vertices`
shows one at the first area at which a color is out of range.
-/

namespace RasterGpu

/-! ## Limits -/

section Clamp

variable {x : Int}

/-- A limited weight is not negative. -/
theorem clamp_nonneg : 0 ≤ clamp 0 weightOne x := by
  simp only [clamp, weightOne]
  omega

/-- Limiting does not make a weight larger. -/
theorem clamp_le_self (h : 0 ≤ x) : clamp 0 weightOne x ≤ x := by
  simp only [clamp, weightOne]
  omega

/-- A limited weight stays as it is if it is limited again. -/
theorem clamp_clamp : clamp 0 weightOne (clamp 0 weightOne x) = clamp 0 weightOne x := by
  simp only [clamp, weightOne]
  omega

end Clamp

/-! ## The excess of two weights -/

namespace AreaFactors

variable {factors : AreaFactors} {area a b : Int}

/-- Weights are not negative. -/
theorem weigh_nonneg (h : 0 ≤ a) : 0 ≤ factors.weigh a :=
  mul_nonneg (Int.le_shiftRight_of_nonneg h) (Int.natCast_nonneg _)

/-- A larger value has no smaller weight. -/
theorem weigh_mono (h : a ≤ b) : factors.weigh a ≤ factors.weigh b :=
  mul_le_mul_of_nonneg_right (shiftRight_mono h _) (Int.natCast_nonneg _)

/-- Two values have no larger weights than their sum. -/
theorem weigh_add_le (a b : Int) : factors.weigh a + factors.weigh b ≤ factors.weigh (a + b) := by
  have hshift : a >>> factors.shift + b >>> factors.shift ≤ (a + b) >>> factors.shift := by
    simp only [Int.shiftRight_eq_div_pow]
    exact Int.ediv_add_ediv_le_add_ediv (by exact_mod_cast Nat.two_pow_pos _)
  unfold weigh
  rw [← add_mul]
  exact mul_le_mul_of_nonneg_right hshift (Int.natCast_nonneg _)

/-- What the weights of two vertices together can exceed one by. -/
def excess (factors : AreaFactors) (area : Int) : Int :=
  max 0 (factors.weigh area - weightOne)

/-- **Two weights exceed one by no more than the excess.** -/
theorem limited_add_le (ha : 0 ≤ a) (hb : 0 ≤ b) (hsum : a + b ≤ area) :
    clamp 0 weightOne (factors.weigh a) + clamp 0 weightOne (factors.weigh b)
      ≤ weightOne + factors.excess area := by
  calc clamp 0 weightOne (factors.weigh a) + clamp 0 weightOne (factors.weigh b)
      ≤ factors.weigh a + factors.weigh b :=
        add_le_add (clamp_le_self (weigh_nonneg ha)) (clamp_le_self (weigh_nonneg hb))
    _ ≤ factors.weigh (a + b) := weigh_add_le a b
    _ ≤ factors.weigh area := weigh_mono hsum
    _ ≤ weightOne + factors.excess area := by
        unfold excess
        omega

/-- Up to the shifted area 552 the inverse is too large by no more than 257 of 65536. -/
theorem mul_inverseFor_le_of_le {shifted : Nat} (h : shifted ≤ 552) :
    shifted * inverseFor shifted ≤ 65793 := by
  rcases Nat.lt_or_ge shifted 512 with hlt | hge
  · have hle := mul_inverseFor_le shifted
    omega
  · -- between these only some of the inverses are rounded up, and those by little
    have hsome : ∀ n < 41, (512 + n) * inverseFor (512 + n) ≤ 65793 := by decide
    have hn := hsome (shifted - 512) (by omega)
    rwa [Nat.add_sub_cancel' hge] at hn

/-- **The excess of derived factors is less than one part in 255** as long as the area is less than
`553 * 2 ^ 15`. -/
theorem excess_ofDoubledArea_le {doubledArea : Int} (hpos : 0 < doubledArea)
    (hlt : doubledArea < 18120704) : (ofDoubledArea doubledArea).excess doubledArea ≤ 257 := by
  obtain ⟨area, rfl⟩ := Int.eq_ofNat_of_zero_le (Int.le_of_lt hpos)
  have hpos : 0 < area := by omega
  have hlt : area < 18120704 := by omega
  have hshifted : area >>> shiftFor area ≤ 552 := by
    rcases Nat.lt_or_ge area (2 ^ (9 + 15)) with hsmall | hlarge
    · have hnine := shifted_lt (by decide) hsmall
      omega
    · have hlog : area.log2 = 24 := (Nat.log2_eq_iff (Nat.ne_of_gt hpos)).2 ⟨hlarge, by omega⟩
      have hshift : shiftFor area = 15 := by
        rw [shiftFor, hlog]
        rfl
      rw [hshift, Nat.shiftRight_eq_div_pow]
      omega
  have hproduct := mul_inverseFor_le_of_le hshifted
  have hweigh : (ofDoubledArea area).weigh area
      = (area >>> shiftFor area * inverseFor (area >>> shiftFor area) : Nat) := by
    rw [ofDoubledArea_eq hpos, weigh]
    push_cast
    rfl
  rw [excess, hweigh, weightOne]
  omega

end AreaFactors

/-! ## Interpolation -/

/-- The least of three values. -/
def Triple.low (t : Triple Int) : Int := min t.v0 (min t.v1 t.v2)

/-- The greatest of three values. -/
def Triple.high (t : Triple Int) : Int := max t.v0 (max t.v1 t.v2)

section Interpolation

/-- Weighted differences are bounded as the differences are, up to a share of the excess. -/
theorem weighted_le {w1 w2 d1 d2 bound spread excess : Int} (hw1 : 0 ≤ w1) (hw2 : 0 ≤ w2)
    (hexcess : 0 ≤ excess) (hsum : w1 + w2 ≤ weightOne + excess) (hd1 : d1 ≤ bound)
    (hd2 : d2 ≤ bound) (hbound : 0 ≤ bound) (hspread : bound ≤ spread) :
    w1 * d1 + w2 * d2 ≤ weightOne * bound + spread * excess := by
  calc w1 * d1 + w2 * d2
      ≤ w1 * bound + w2 * bound :=
        add_le_add (mul_le_mul_of_nonneg_left hd1 hw1) (mul_le_mul_of_nonneg_left hd2 hw2)
    _ = (w1 + w2) * bound := (add_mul _ _ _).symm
    _ ≤ (weightOne + excess) * bound := mul_le_mul_of_nonneg_right hsum hbound
    _ = weightOne * bound + bound * excess := by rw [add_mul, mul_comm excess]
    _ ≤ weightOne * bound + spread * excess :=
        add_le_add_right (mul_le_mul_of_nonneg_right hspread hexcess) _

/-- **An interpolated value leaves the range of the vertices by the excess at most**, as a share of
the range. -/
theorem interpolate_within {values weights : Triple Int} {limit excess : Int}
    (h0 : 0 ≤ values.low) (hlimit : values.high ≤ limit) (hexcess : 0 ≤ excess)
    (hsum : clamp 0 weightOne weights.v1 + clamp 0 weightOne weights.v2 ≤ weightOne + excess) :
    let spread := values.high - values.low
    values.low - (spread * excess + 65535) / 65536 ≤ interpolate values weights limit
      ∧ interpolate values weights limit ≤ values.high + spread * excess / 65536 := by
  intro spread
  have hlow : values.low ≤ values.v0 ∧ values.low ≤ values.v1 ∧ values.low ≤ values.v2 := by
    unfold Triple.low
    omega
  have hhigh : values.v0 ≤ values.high ∧ values.v1 ≤ values.high ∧ values.v2 ≤ values.high := by
    unfold Triple.high
    omega
  have hw1 : 0 ≤ clamp 0 weightOne weights.v1 := clamp_nonneg
  have hw2 : 0 ≤ clamp 0 weightOne weights.v2 := clamp_nonneg
  unfold interpolate
  dsimp only
  generalize clamp 0 weightOne weights.v1 = w1 at *
  generalize clamp 0 weightOne weights.v2 = w2 at *
  have hover : w1 * (values.v1 - values.v0) + w2 * (values.v2 - values.v0)
      ≤ weightOne * (values.high - values.v0) + spread * excess := by
    apply weighted_le hw1 hw2 hexcess hsum <;> omega
  have hunder : w1 * (values.v0 - values.v1) + w2 * (values.v0 - values.v2)
      ≤ weightOne * (values.v0 - values.low) + spread * excess := by
    apply weighted_le hw1 hw2 hexcess hsum <;> omega
  have hneg : w1 * (values.v0 - values.v1) + w2 * (values.v0 - values.v2)
      = -(w1 * (values.v1 - values.v0) + w2 * (values.v2 - values.v0)) := by
    ring
  rw [hneg] at hunder
  simp only [Int.shiftRight_eq_div_pow, clamp, weightOne] at *
  generalize w1 * (values.v1 - values.v0) + w2 * (values.v2 - values.v0) = delta at *
  have hpos : 0 ≤ spread * excess := mul_nonneg (by omega) hexcess
  generalize spread * excess = share at *
  omega

end Interpolation

/-- The channels of a color. -/
def Rgba.channels : List (Rgba → UInt8) := [Rgba.r, Rgba.g, Rgba.b, Rgba.a]

/-- A channel of an interpolated color is the interpolated channel. -/
theorem channel_interpolateColor {channel : Rgba → UInt8} (h : channel ∈ Rgba.channels)
    (colors : Triple Rgba) (weights : Triple Int) :
    ((channel (interpolateColor colors weights)).toNat : Int)
      = interpolate (colors.map fun c => ((channel c).toNat : Int)) weights 255 := by
  have hfits (x : Int) : ((UInt8.ofNat (clamp 0 255 x).toNat).toNat : Int) = clamp 0 255 x := by
    simp only [clamp, UInt8.toNat_ofNat']
    omega
  simp only [Rgba.channels, List.mem_cons, List.not_mem_nil, or_false] at h
  rcases h with rfl | rfl | rfl | rfl <;> exact hfits _

/-- The values of a channel have eight bits. -/
theorem channel_range (channel : Rgba → UInt8) (colors : Triple Rgba) :
    let values := colors.map fun c => ((channel c).toNat : Int)
    0 ≤ values.low ∧ values.high ≤ 255 := by
  intro values
  have h0 := (channel colors.v0).toNat_lt
  have h1 := (channel colors.v1).toNat_lt
  have h2 := (channel colors.v2).toNat_lt
  simp only [values, Triple.low, Triple.high, Triple.map]
  omega

/-! ## Colors of a triangle -/

namespace Triangle

/-- Inside a triangle two weights exceed one by no more than the excess. -/
theorem Contains.limited_add_le {p : Triple Point} {px py : Int} (h : Contains p px py)
    (programmed : AreaFactors) :
    let t := ofVertices p programmed
    let weights := t.weights (t.edges.map fun e => e.atPixel px py)
    clamp 0 weightOne weights.v1 + clamp 0 weightOne weights.v2
      ≤ weightOne + t.factors.excess t.doubledArea := by
  intro t weights
  have h0 : 0 ≤ t.edges.v0.atPixel px py := h.edge0
  have h1 : 0 ≤ t.edges.v1.atPixel px py := h.edge1
  have h2 : 0 ≤ t.edges.v2.atPixel px py := h.edge2
  have hsum : t.edges.v0.atPixel px py + t.edges.v1.atPixel px py + t.edges.v2.atPixel px py
      = t.doubledArea := sum_values p programmed px py
  simp only [weights, weights_eq, Triple.map, clamp_clamp]
  apply AreaFactors.limited_add_le h1 h2
  omega

/-- **Interpolated colors stay close to those of the vertices.** A triangle with an area is drawn
with derived factors and interpolated colors. At a pixel inside it each channel of the color leaves
the range of the vertices by no more than the excess, as a share of that range. If the excess is 258
at most, no channel exceeds the greatest of the vertices, and none is less than the least of them by
more than one. The excess is so small as long as the doubled area is less than `553 * 2 ^ 15`. -/
theorem shades_within (vertices : Triple Vertex) (programmed : AreaFactors) (px py : Int) :
    let p := vertices.map Vertex.position
    let t := ofVertices p programmed
    let excess := t.factors.excess t.doubledArea
    let shape := Shape.triangle vertices t
    let color := (shape.fragment true (shape.weights (shape.edgeValues px py))).color
    programmed.isAutomatic = true → 0 < t.doubledArea →
      (t.doubledArea < 18120704 → excess ≤ 258)
      ∧ (Contains p px py → ∀ channel ∈ Rgba.channels,
        let values := vertices.map fun v => ((channel v.color).toNat : Int)
        let spread := values.high - values.low
        (values.low - (spread * excess + 65535) / 65536 ≤ (channel color).toNat
          ∧ (channel color).toNat ≤ values.high + spread * excess / 65536)
        ∧ (excess ≤ 258 →
          values.low - 1 ≤ (channel color).toNat ∧ (channel color).toNat ≤ values.high)) := by
  intro p t excess shape color hauto hpos
  constructor
  · intro hsmall
    have hle : (AreaFactors.ofDoubledArea t.doubledArea).excess t.doubledArea ≤ 257 :=
      AreaFactors.excess_ofDoubledArea_le hpos hsmall
    simp only [excess, t, factors_ofVertices hauto] at hle ⊢
    omega
  intro hcontains channel hchannel values spread
  obtain ⟨h0, hlimit⟩ : 0 ≤ values.low ∧ values.high ≤ 255 :=
    channel_range channel (vertices.map Vertex.color)
  have hordered : values.low ≤ values.high := by
    simp only [Triple.low, Triple.high]
    omega
  have hexcess : 0 ≤ excess := le_max_left _ _
  have hwithin : values.low - (spread * excess + 65535) / 65536 ≤ (channel color).toNat
      ∧ (channel color).toNat ≤ values.high + spread * excess / 65536 := by
    have hcolor := channel_interpolateColor hchannel (vertices.map Vertex.color)
      (shape.weights (shape.edgeValues px py))
    rw [show color = interpolateColor (vertices.map Vertex.color) _ from rfl, hcolor]
    exact interpolate_within h0 hlimit hexcess (hcontains.limited_add_le programmed)
  refine ⟨hwithin, fun hsmall => ?_⟩
  rcases Int.lt_or_le spread 255 with hspread | hspread
  · have hshare : spread * excess ≤ 254 * 258 :=
      mul_le_mul (Int.le_of_lt_add_one hspread) hsmall hexcess (by decide)
    have hshare0 : 0 ≤ spread * excess := mul_nonneg (by omega) hexcess
    omega
  · -- the vertices have the whole range
    have hbits := (channel color).toNat_lt
    omega

/-- In the middle of the side opposite to the first vertex the color is less than the least of the
vertices, by one. -/
theorem shades_within_tight :
    let corner (x y : Int16) (alpha : UInt8) : Vertex :=
      { word := { x, y }, attributes := { color0 := { Rgba.zero with a := alpha } } }
    let vertices : Triple Vertex := ⟨corner (-2048) 0 255, corner 0 (-4144) 1, corner 0 4144 1⟩
    let t := ofVertices (vertices.map Vertex.position) {}
    let shape := Shape.triangle vertices t
    let color := (shape.fragment true (shape.weights (shape.edgeValues 0 0))).color
    t.factors = ⟨127, 15⟩ ∧ t.factors.excess t.doubledArea = 250 ∧ color.a = 0
      ∧ ∀ channel ∈ Rgba.channels,
        let values := vertices.map fun v => ((channel v.color).toNat : Int)
        values.low - 1 ≤ (channel color).toNat ∧ (channel color).toNat ≤ values.high := by
  intro corner vertices t shape color
  have hinside : Contains (vertices.map Vertex.position) 0 0 := ⟨by decide, by decide, by decide⟩
  obtain ⟨hexcess, hshades⟩ := shades_within vertices {} 0 0 (by decide) (by decide)
  refine ⟨by decide, by decide, by decide, fun channel hchannel => ?_⟩
  obtain ⟨-, hrange⟩ := hshades hinside channel hchannel
  exact hrange (hexcess (by decide))

/-- The first area at which a color is out of range. On the side of two vertices with an alpha of
254, seen from a transparent one, the alpha is 255. -/
theorem shade_above_vertices :
    let corner (x y : Int16) (alpha : UInt8) : Vertex :=
      { word := { x, y }, attributes := { color0 := { Rgba.zero with a := alpha } } }
    let vertices : Triple Vertex := ⟨corner (-2048) 0 0, corner 0 (-4416) 254, corner 0 4432 254⟩
    let p := vertices.map Vertex.position
    let t := ofVertices p {}
    let shape := Shape.triangle vertices t
    let color := (shape.fragment true (shape.weights (shape.edgeValues 0 0))).color
    t.doubledArea = 18120704 ∧ Contains p 0 0
      ∧ (vertices.map fun v => (v.color.a.toNat : Int)).high = 254 ∧ color.a = 255 := by
  intro corner vertices p t shape color
  have hinside : Contains p 0 0 := ⟨by decide, by decide, by decide⟩
  exact ⟨by decide, hinside, by decide, by decide⟩

/-- Far from any vertex an alpha of 127 can turn into 253. -/
example :
    let corner (x y : Int16) (alpha : UInt8) : Vertex :=
      { word := { x, y }, attributes := { color0 := { Rgba.zero with a := alpha } } }
    let vertices : Triple Vertex :=
      ⟨corner (-32768) (-32768) 0, corner 32767 (-32767) 127, corner (-32767) 32767 127⟩
    let t := ofVertices (vertices.map Vertex.position) {}
    let shape := Shape.triangle vertices t
    (shape.fragment true (shape.weights (shape.edgeValues 0 0))).color.a = 253 := by
  decide

end Triangle

end RasterGpu
