import RasterGpu.Proofs.Drawing.Normalization
import RasterGpu.Rasterizer.Job

/-!
# Arithmetic in machine integers

Drawing is defined with integers of any size. A device has integers of 64, 32, 16 and 8 bits, and
what it computes is worth nothing once a result does not fit. Here every computation of the drawing
is written down a second time, operation by operation, with a check of each result against the type
that is to hold it. A checked computation fails if a result does not fit, a number loses something
in a narrower type, or a shift drops all bits of a word.

* `IntegerType.check` is the check.
* `Edge`, `Box`, `Triangle` and fragments have a checked computation for each of their own, and each
  of these has one lemma: with vertices of sixteen bits, pixels of the surface and factors that fit
  their register it does not fail, and it computes the same.

The bounds are those of the data. Coordinates are at most `2 ^ 15`, sample points of pixels at most
`2 ^ 19`, so edge values are less than `2 ^ 37`. An inverse has sixteen bits, and a product with it
less than `2 ^ 53`.
-/

namespace RasterGpu

/-! ## Machine integers -/

/-- A machine type: the integers from `low` to `high`. -/
structure IntegerType where
  /-- The least. -/
  low : Int
  /-- The greatest. -/
  high : Int

namespace IntegerType

/-- Signed integers of 64 bits. -/
def i64 : IntegerType := ⟨-2 ^ 63, 2 ^ 63 - 1⟩

/-- Signed integers of 32 bits. -/
def i32 : IntegerType := ⟨-2 ^ 31, 2 ^ 31 - 1⟩

/-- Unsigned integers of 32 bits. -/
def u32 : IntegerType := ⟨0, 2 ^ 32 - 1⟩

/-- Unsigned integers of 16 bits. -/
def u16 : IntegerType := ⟨0, 2 ^ 16 - 1⟩

/-- Unsigned integers of 8 bits. -/
def u8 : IntegerType := ⟨0, 2 ^ 8 - 1⟩

/-- The type has this integer. -/
def Has (t : IntegerType) (x : Int) : Prop := t.low ≤ x ∧ x ≤ t.high

instance (t : IntegerType) (x : Int) : Decidable (t.Has x) := inferInstanceAs (Decidable (_ ∧ _))

/-- A result, if the type has it. -/
def check (t : IntegerType) (x : Int) : Option Int :=
  if t.Has x then some x else none

/-- The bits of a number shifted right, if that leaves a bit of a 64-bit word. -/
def shiftRight (x : Int) (bits : Nat) : Option Int :=
  if bits < 64 then some (x >>> bits) else none

/-- The bits of a number shifted left in a 32-bit word, if none is lost. -/
def shiftLeft (x : Int) (bits : Nat) : Option Int :=
  if bits < 32 then u32.check (x * 2 ^ bits) else none

variable {t : IntegerType} {x : Int} {bits : Nat}

/-- A result that the type has is the result. -/
theorem check_of_has (h : t.Has x) : t.check x = some x := if_pos h

/-- A result of 64 bits. -/
theorem check_i64 (h : x.natAbs < 2 ^ 63) : i64.check x = some x :=
  check_of_has ⟨by dsimp only [i64]; omega, by dsimp only [i64]; omega⟩

/-- A result of 32 bits. -/
theorem check_i32 (h : x.natAbs < 2 ^ 31) : i32.check x = some x :=
  check_of_has ⟨by dsimp only [i32]; omega, by dsimp only [i32]; omega⟩

/-- A result of 32 bits without a sign. -/
theorem check_u32 (h : 0 ≤ x ∧ x < 2 ^ 32) : u32.check x = some x :=
  check_of_has ⟨h.1, by dsimp only [u32]; omega⟩

/-- A result of 16 bits without a sign. -/
theorem check_u16 (h : 0 ≤ x ∧ x < 2 ^ 16) : u16.check x = some x :=
  check_of_has ⟨h.1, by dsimp only [u16]; omega⟩

/-- A result of 8 bits without a sign. -/
theorem check_u8 (h : 0 ≤ x ∧ x < 2 ^ 8) : u8.check x = some x :=
  check_of_has ⟨h.1, by dsimp only [u8]; omega⟩

/-- Not all bits of a word are dropped. -/
theorem shiftRight_of_lt (h : bits < 64) : shiftRight x bits = some (x >>> bits) := if_pos h

/-- No bit of a word is lost. -/
theorem shiftLeft_of_lt (h : bits < 32) (hx : 0 ≤ x ∧ x * 2 ^ bits < 2 ^ 32) :
    shiftLeft x bits = some (x * 2 ^ bits) := by
  rw [shiftLeft, if_pos h]
  exact check_u32 ⟨Int.mul_nonneg hx.1 (Int.pow_nonneg (by decide)), hx.2⟩

/-- Shifting right does not make a number larger. -/
theorem natAbs_shiftRight_le (x : Int) (bits : Nat) : (x >>> bits).natAbs ≤ x.natAbs := by
  rw [Int.shiftRight_eq_div_pow]
  exact Int.natAbs_ediv_le_natAbs x _

/-- How large a product is. -/
theorem natAbs_mul_le {x y : Int} {m n : Nat} (hx : x.natAbs ≤ m) (hy : y.natAbs ≤ n) :
    (x * y).natAbs ≤ m * n := by
  rw [Int.natAbs_mul]
  exact Nat.mul_le_mul hx hy

/-- The lesser of two numbers is no further from zero than they are. -/
theorem natAbs_min_le {x y : Int} {n : Nat} (hx : x.natAbs ≤ n) (hy : y.natAbs ≤ n) :
    (min x y).natAbs ≤ n := by omega

/-- Nor is the greater. -/
theorem natAbs_max_le {x y : Int} {n : Nat} (hx : x.natAbs ≤ n) (hy : y.natAbs ≤ n) :
    (max x y).natAbs ≤ n := by omega

end IntegerType

open IntegerType

/-! ## Triples -/

namespace Triple

variable {α β : Type}

/-- Each of the three values is as it should be. -/
structure All (P : α → Prop) (t : Triple α) : Prop where
  /-- The first. -/
  v0 : P t.v0
  /-- The second. -/
  v1 : P t.v1
  /-- The third. -/
  v2 : P t.v2

/-- Applies a computation that may fail to each value. -/
def traverse (f : α → Option β) (t : Triple α) : Option (Triple β) := do
  return ⟨← f t.v0, ← f t.v1, ← f t.v2⟩

/-- A computation that fails for no value. -/
theorem traverse_eq {f : α → Option β} {g : α → β} {t : Triple α}
    (h : t.All fun x => f x = some (g x)) : t.traverse f = some (t.map g) := by
  rw [traverse, h.v0, h.v1, h.v2]
  rfl

end Triple

/-! ## Edges -/

/-- How far a position is from the origin, at most. -/
structure Point.Within (n : Nat) (p : Point) : Prop where
  /-- By columns. -/
  x : p.x.natAbs ≤ n
  /-- By rows. -/
  y : p.y.natAbs ≤ n

/-- Coordinates of vertices have sixteen bits. -/
theorem Vertex.position_within (v : Vertex) : v.position.Within (2 ^ 15) := by
  have h := v.position_inSquare
  exact ⟨by have := h.low_le_x; have := h.x_le; omega, by have := h.low_le_y; have := h.y_le; omega⟩

namespace Edge

/-- The edge function of the edge from `p` to `q`, checked. -/
def checkedBetween (p q : Point) : Option Edge := do
  let a ← i64.check (p.y - q.y)
  let b ← i64.check (q.x - p.x)
  let alongX ← i64.check (a * p.x)
  let alongY ← i64.check (b * p.y)
  let sum ← i64.check (alongX + alongY)
  let c ← i64.check (-sum)
  return ⟨a, b, c⟩

/-- The value at a position, checked. -/
def checkedEval (e : Edge) (p : Point) : Option Int := do
  let alongX ← i64.check (e.a * p.x)
  let alongY ← i64.check (e.b * p.y)
  let sum ← i64.check (alongX + alongY)
  i64.check (sum + e.c)

/-- The value at the sample point of a pixel, checked. -/
def checkedAtPixel (e : Edge) (px py : Int) : Option Int := do
  let x ← i64.check (px * subpixels)
  let y ← i64.check (py * subpixels)
  e.checkedEval ⟨x, y⟩

/-- Change of the value from a pixel to its right neighbour, checked. -/
def checkedStepX (e : Edge) : Option Int := i64.check (e.a * subpixels)

/-- Change of the value from a pixel to the one below, checked. -/
def checkedStepY (e : Edge) : Option Int := i64.check (e.b * subpixels)

/-- The coefficients are those of an edge between vertices. -/
structure Small (e : Edge) : Prop where
  /-- The change per step to the right. -/
  a : e.a.natAbs ≤ 2 ^ 16
  /-- The change per step down. -/
  b : e.b.natAbs ≤ 2 ^ 16
  /-- The value at the origin. -/
  c : e.c.natAbs ≤ 2 ^ 32

variable {e : Edge} {p q : Point} {px py : Int}

/-- **The edge between two vertices.** -/
theorem checkedBetween_eq (hp : p.Within (2 ^ 15)) (hq : q.Within (2 ^ 15)) :
    checkedBetween p q = some (between p q) ∧ (between p q).Small := by
  obtain ⟨hpx, hpy⟩ := hp
  obtain ⟨hqx, hqy⟩ := hq
  have ha : (p.y - q.y).natAbs ≤ 2 ^ 16 := by omega
  have hb : (q.x - p.x).natAbs ≤ 2 ^ 16 := by omega
  have halong : ((p.y - q.y) * p.x).natAbs ≤ 2 ^ 16 * 2 ^ 15 := natAbs_mul_le ha hpx
  have halong' : ((q.x - p.x) * p.y).natAbs ≤ 2 ^ 16 * 2 ^ 15 := natAbs_mul_le hb hpy
  constructor
  · simp (disch := omega) only [checkedBetween, check_i64, Option.bind_eq_bind, Option.bind_some]
    rfl
  · refine ⟨ha, hb, ?_⟩
    dsimp only [between]
    omega

/-- With coordinates of forty bits a product does not fit. -/
example : checkedBetween ⟨1099511627776, 0⟩ ⟨0, 1099511627776⟩ = none := by decide

/-- **The value at a position.** -/
theorem checkedEval_eq (he : e.Small) (hp : p.Within (2 ^ 19)) :
    e.checkedEval p = some (e.eval p) ∧ (e.eval p).natAbs ≤ 2 ^ 37 := by
  have halong : (e.a * p.x).natAbs ≤ 2 ^ 16 * 2 ^ 19 := natAbs_mul_le he.a hp.x
  have halong' : (e.b * p.y).natAbs ≤ 2 ^ 16 * 2 ^ 19 := natAbs_mul_le he.b hp.y
  have hc := he.c
  constructor
  · simp (disch := omega) only [checkedEval, check_i64, Option.bind_eq_bind, Option.bind_some]
    rfl
  · unfold eval
    omega

/-- **The value at a pixel.** -/
theorem checkedAtPixel_eq (he : e.Small) (hx : px.natAbs ≤ 2 ^ 15) (hy : py.natAbs ≤ 2 ^ 15) :
    e.checkedAtPixel px py = some (e.atPixel px py) ∧ (e.atPixel px py).natAbs ≤ 2 ^ 37 := by
  have hp : (Point.ofPixel px py).Within (2 ^ 19) := by
    constructor
    · dsimp only [Point.ofPixel, subpixels]
      omega
    · dsimp only [Point.ofPixel, subpixels]
      omega
  obtain ⟨heval, hsmall⟩ := checkedEval_eq he hp
  refine ⟨?_, hsmall⟩
  obtain ⟨hpx, hpy⟩ := hp
  dsimp only [Point.ofPixel] at hpx hpy
  simp (disch := omega) only [checkedAtPixel, check_i64, Option.bind_eq_bind, Option.bind_some]
  exact heval

/-- **The changes from pixel to pixel.** -/
theorem checkedStep_eq (he : e.Small) :
    e.checkedStepX = some e.stepX ∧ e.checkedStepY = some e.stepY := by
  have ha := he.a
  have hb := he.b
  constructor
  · exact check_i64 (by dsimp only [subpixels]; omega)
  · exact check_i64 (by dsimp only [subpixels]; omega)

end Edge

/-! ## Registers -/

/-- The surfaces fit their register. -/
structure Framebuffer.Fits (fb : Framebuffer) : Prop where
  /-- The base of the color surface. -/
  colorBase : fb.colorBase < 2 ^ 16
  /-- The base of the depth surface. -/
  depthBase : fb.depthBase < 2 ^ 16
  /-- The width. -/
  widthLog2 : fb.widthLog2 < 16
  /-- The height. -/
  heightLog2 : fb.heightLog2 < 16

/-- The scissor rectangle fits its register. -/
structure Scissor.Fits (scissor : Scissor) : Prop where
  /-- The leftmost column. -/
  x : scissor.x < 2 ^ 10
  /-- The topmost row. -/
  y : scissor.y < 2 ^ 10
  /-- The number of columns. -/
  width : scissor.width < 2 ^ 10
  /-- The number of rows. -/
  height : scissor.height < 2 ^ 10

/-- The factors fit their register. -/
structure AreaFactors.Fits (factors : AreaFactors) : Prop where
  /-- The inverse. -/
  inverse : factors.inverse < 2 ^ 16
  /-- The shift. -/
  shift : factors.shift < 16

/-- Surfaces that were decoded fit. -/
theorem Framebuffer.ofWord_fits (word : UInt64) : (Framebuffer.ofWord word).Fits where
  colorBase := colorBaseField.get_lt word
  depthBase := depthBaseField.get_lt word
  widthLog2 := widthField.get_lt word
  heightLog2 := heightField.get_lt word

/-- A scissor rectangle that was decoded fits. -/
theorem Scissor.ofWord_fits (word : UInt64) : (Scissor.ofWord word).Fits where
  x := xField.get_lt word
  y := yField.get_lt word
  width := widthField.get_lt word
  height := heightField.get_lt word

/-- Factors that were decoded fit. -/
theorem AreaFactors.ofWord_fits (word : UInt64) : (AreaFactors.ofWord word).Fits where
  inverse := inverseField.get_lt word
  shift := shiftField.get_lt word

/-- A dimension of four bits. -/
theorem shiftLeft_dimension {log2 : Nat} (h : log2 < 16) :
    shiftLeft 1 log2 = some ((1 <<< log2 : Nat) : Int) ∧ 1 <<< log2 ≤ 2 ^ 15 := by
  have hpow : 2 ^ log2 ≤ 2 ^ 15 := Nat.pow_le_pow_right (by decide) (by omega)
  have hcast : (1 : Int) * 2 ^ log2 = ((2 ^ log2 : Nat) : Int) := by
    rw [Int.one_mul, Int.natCast_pow]
    rfl
  rw [Nat.one_shiftLeft]
  refine ⟨?_, hpow⟩
  rw [shiftLeft_of_lt (by omega) (by rw [hcast]; omega), hcast]

/-- The width of a surface. -/
theorem Framebuffer.Fits.width {fb : Framebuffer} (h : fb.Fits) :
    shiftLeft 1 fb.widthLog2 = some (fb.width : Int) ∧ fb.width ≤ 2 ^ 15 :=
  shiftLeft_dimension h.widthLog2

/-- The height of a surface. -/
theorem Framebuffer.Fits.height {fb : Framebuffer} (h : fb.Fits) :
    shiftLeft 1 fb.heightLog2 = some (fb.height : Int) ∧ fb.height ≤ 2 ^ 15 :=
  shiftLeft_dimension h.heightLog2

/-! ## Boxes -/

namespace Box

/-- The first pixel whose sample point is at or after a coordinate, checked. -/
def checkedCeilPixel (v : Int) : Option Int := do
  let negated ← i64.check (-v)
  let pixel ← i64.check (-(negated / subpixels))
  i32.check pixel

/-- The last pixel whose sample point is at or before a coordinate, checked. -/
def checkedFloorPixel (v : Int) : Option Int := i32.check (v / subpixels)

/-- The pixels in the bounding rectangle of a triangle, checked. -/
def checkedOfTriangle (p : Triple Point) : Option Box := do
  let x0 ← checkedCeilPixel (min (min p.v0.x p.v1.x) p.v2.x)
  let y0 ← checkedCeilPixel (min (min p.v0.y p.v1.y) p.v2.y)
  let x1 ← checkedFloorPixel (max (max p.v0.x p.v1.x) p.v2.x)
  let y1 ← checkedFloorPixel (max (max p.v0.y p.v1.y) p.v2.y)
  return ⟨x0, y0, x1, y1⟩

/-- The pixels in the rectangle with the given opposite corners, checked. -/
def checkedOfCorners (p q : Point) : Option Box := do
  let x0 ← checkedCeilPixel (min p.x q.x)
  let y0 ← checkedCeilPixel (min p.y q.y)
  let right ← checkedCeilPixel (max p.x q.x)
  let x1 ← i32.check (right - 1)
  let bottom ← checkedCeilPixel (max p.y q.y)
  let y1 ← i32.check (bottom - 1)
  return ⟨x0, y0, x1, y1⟩

/-- The last of `count` columns or rows from `first` on, checked. -/
def checkedLast (first count : Int) : Option Int := do
  let sum ← i32.check (first + count)
  i32.check (sum - 1)

/-- The pixels of the box on the surface and inside the scissor rectangle, checked. -/
def checkedClip (box : Box) (fb : Framebuffer) (scissor : Scissor) : Option Box := do
  let right ← checkedLast scissor.x scissor.width
  let bottom ← checkedLast scissor.y scissor.height
  let width ← i32.check (← shiftLeft 1 fb.widthLog2)
  let lastColumn ← i32.check (width - 1)
  let height ← i32.check (← shiftLeft 1 fb.heightLog2)
  let lastRow ← i32.check (height - 1)
  let x0 ← i32.check (max (max box.x0 0) scissor.x)
  let y0 ← i32.check (max (max box.y0 0) scissor.y)
  let x1 ← i32.check (min (min box.x1 lastColumn) right)
  let y1 ← i32.check (min (min box.y1 lastRow) bottom)
  return ⟨x0, y0, x1, y1⟩

/-- How far the sides are from the origin, at most. -/
structure Within (n : Nat) (box : Box) : Prop where
  /-- The leftmost column. -/
  x0 : box.x0.natAbs ≤ n
  /-- The topmost row. -/
  y0 : box.y0.natAbs ≤ n
  /-- The rightmost column. -/
  x1 : box.x1.natAbs ≤ n
  /-- The bottommost row. -/
  y1 : box.y1.natAbs ≤ n

variable {v : Int} {p q : Point}

/-- A coordinate is rounded up to a pixel. -/
theorem checkedCeilPixel_eq (h : v.natAbs ≤ 2 ^ 15) :
    checkedCeilPixel v = some (ceilPixel v) ∧ (ceilPixel v).natAbs ≤ 2 ^ 11 := by
  have hpixel : (ceilPixel v).natAbs ≤ 2 ^ 11 := by
    dsimp only [ceilPixel, subpixels]
    omega
  refine ⟨?_, hpixel⟩
  dsimp only [ceilPixel] at hpixel
  simp (disch := omega) only [checkedCeilPixel, check_i64, check_i32, Option.bind_eq_bind,
    Option.bind_some]
  rfl

/-- A coordinate is rounded down to a pixel. -/
theorem checkedFloorPixel_eq (h : v.natAbs ≤ 2 ^ 15) :
    checkedFloorPixel v = some (floorPixel v) ∧ (floorPixel v).natAbs ≤ 2 ^ 11 := by
  have hpixel : (floorPixel v).natAbs ≤ 2 ^ 11 := by
    dsimp only [floorPixel, subpixels]
    omega
  refine ⟨check_i32 ?_, hpixel⟩
  dsimp only [floorPixel] at hpixel
  omega

/-- **The box of a triangle.** -/
theorem checkedOfTriangle_eq {p : Triple Point} (h : p.All (Point.Within (2 ^ 15))) :
    checkedOfTriangle p = some (ofTriangle p) ∧ (ofTriangle p).Within (2 ^ 12) := by
  obtain ⟨⟨hx0, hy0⟩, ⟨hx1, hy1⟩, hx2, hy2⟩ := h
  obtain ⟨hleft, hleft'⟩ := checkedCeilPixel_eq (natAbs_min_le (natAbs_min_le hx0 hx1) hx2)
  obtain ⟨htop, htop'⟩ := checkedCeilPixel_eq (natAbs_min_le (natAbs_min_le hy0 hy1) hy2)
  obtain ⟨hright, hright'⟩ := checkedFloorPixel_eq (natAbs_max_le (natAbs_max_le hx0 hx1) hx2)
  obtain ⟨hbottom, hbottom'⟩ := checkedFloorPixel_eq (natAbs_max_le (natAbs_max_le hy0 hy1) hy2)
  have hfar : 2 ^ 11 ≤ 2 ^ 12 := by decide
  constructor
  · rw [checkedOfTriangle, hleft, htop, hright, hbottom]
    rfl
  · exact ⟨hleft'.trans hfar, htop'.trans hfar, hright'.trans hfar, hbottom'.trans hfar⟩

/-- **The box of a rectangle.** -/
theorem checkedOfCorners_eq (hp : p.Within (2 ^ 15)) (hq : q.Within (2 ^ 15)) :
    checkedOfCorners p q = some (ofCorners p q) ∧ (ofCorners p q).Within (2 ^ 12) := by
  obtain ⟨hpx, hpy⟩ := hp
  obtain ⟨hqx, hqy⟩ := hq
  obtain ⟨hleft, hleft'⟩ := checkedCeilPixel_eq (natAbs_min_le hpx hqx)
  obtain ⟨htop, htop'⟩ := checkedCeilPixel_eq (natAbs_min_le hpy hqy)
  obtain ⟨hright, hright'⟩ := checkedCeilPixel_eq (natAbs_max_le hpx hqx)
  obtain ⟨hbottom, hbottom'⟩ := checkedCeilPixel_eq (natAbs_max_le hpy hqy)
  constructor
  · rw [checkedOfCorners, hleft, htop, hright, hbottom]
    simp (disch := omega) only [check_i32, Option.bind_eq_bind, Option.bind_some]
    rfl
  · constructor <;> dsimp only [ofCorners] <;> omega

/-- The last column or row of a scissor rectangle. -/
theorem checkedLast_eq {first count : Nat} (hf : first < 2 ^ 10) (hc : count < 2 ^ 10) :
    checkedLast first count = some (first + count - 1 : Int) := by
  simp (disch := omega) only [checkedLast, check_i32, Option.bind_eq_bind, Option.bind_some]

/-- **Clipping.** -/
theorem checkedClip_eq {box : Box} {fb : Framebuffer} {scissor : Scissor}
    (h : box.Within (2 ^ 12)) (hfb : fb.Fits) (hs : scissor.Fits) :
    box.checkedClip fb scissor = some (box.clip fb scissor) := by
  obtain ⟨hx0, hy0, hx1, hy1⟩ := h
  obtain ⟨hwidth, hwidth'⟩ := hfb.width
  obtain ⟨hheight, hheight'⟩ := hfb.height
  obtain ⟨hx, hy, hcolumns, hrows⟩ := hs
  have hnear {v : Int} (hv : v.natAbs ≤ 2 ^ 15) : i32.check v = some v := check_i32 (by omega)
  have hfar : 2 ^ 12 ≤ 2 ^ 15 := by decide
  have hlastColumn : ((fb.width : Int) - 1).natAbs ≤ 2 ^ 15 := by omega
  have hlastRow : ((fb.height : Int) - 1).natAbs ≤ 2 ^ 15 := by omega
  -- each side is one of three numbers, none of which is far from the origin
  have hleft := hnear (natAbs_max_le (natAbs_max_le (hx0.trans hfar) (y := 0) (by decide))
    (y := scissor.x) (by omega))
  have htop := hnear (natAbs_max_le (natAbs_max_le (hy0.trans hfar) (y := 0) (by decide))
    (y := scissor.y) (by omega))
  have hright := hnear (natAbs_min_le (natAbs_min_le (hx1.trans hfar) hlastColumn)
    (y := scissor.x + scissor.width - 1) (by omega))
  have hbottom := hnear (natAbs_min_le (natAbs_min_le (hy1.trans hfar) hlastRow)
    (y := scissor.y + scissor.height - 1) (by omega))
  rw [checkedClip, checkedLast_eq hx hcolumns, checkedLast_eq hy hrows, hwidth, hheight]
  simp only [hnear (v := fb.width) hwidth', hnear hlastColumn, hnear (v := fb.height) hheight',
    hnear hlastRow, hleft, htop, hright, hbottom, Option.bind_eq_bind, Option.bind_some]
  rfl

end Box

/-! ## Triangles -/

/-- The factors for a triangle of the given doubled area, checked. -/
def AreaFactors.checkedOfDoubledArea (doubledArea : Int) : Option AreaFactors :=
  if doubledArea ≤ 0 then
    some {}
  else do
    -- the number of bits of the area
    let bits ← i64.check (doubledArea.toNat.log2 + 1)
    let excess ← i64.check (bits - 8)
    let shift := clamp 0 15 excess
    let shifted := max (← shiftRight doubledArea shift.toNat) 1
    let rounded ← i64.check (65536 + shifted / 2)
    let inverse ← u16.check (min (rounded / shifted) 0xFFFF)
    let shift ← u8.check shift
    return ⟨inverse.toNat, shift.toNat⟩

namespace Triangle

/-- The doubled signed area of the triangle with the given vertices, checked. -/
def checkedDoubledArea (p : Triple Point) : Option Int := do
  let edge ← Edge.checkedBetween p.v0 p.v1
  edge.checkedEval p.v2

/-- The triangle with the given vertices, checked. -/
def checkedOfVertices (p : Triple Point) (programmed : AreaFactors) : Option Triangle := do
  let doubledArea ← checkedDoubledArea p
  let factors ←
    if programmed.isAutomatic then AreaFactors.checkedOfDoubledArea doubledArea
    else some programmed
  let edge0 ← Edge.checkedBetween p.v1 p.v2
  let edge1 ← Edge.checkedBetween p.v2 p.v0
  let edge2 ← Edge.checkedBetween p.v0 p.v1
  return ⟨⟨edge0, edge1, edge2⟩, doubledArea, factors⟩

/-- The weights for the given edge values, checked. -/
def checkedWeights (t : Triangle) (values : Triple Int) : Option (Triple Int) :=
  values.traverse fun e => do
    let shifted ← shiftRight e t.factors.shift
    let product ← i64.check (shifted * t.factors.inverse)
    return clamp 0 weightOne product

end Triangle

/-- **Factors of an area of 32 bits.** -/
theorem AreaFactors.checkedOfDoubledArea_eq {area : Int} (h : area < 2 ^ 32) :
    checkedOfDoubledArea area = some (ofDoubledArea area) := by
  by_cases hpos : area ≤ 0
  · rw [checkedOfDoubledArea, ofDoubledArea, if_pos hpos, if_pos hpos]
  · obtain ⟨area, rfl⟩ := Int.eq_ofNat_of_zero_le (a := area) (by omega)
    have hbits : area.log2 < 32 := (Nat.log2_lt (by omega)).2 (by omega)
    have hshift : clamp 0 15 ((area.log2 + 1 : Int) - 8) = shiftFor area := by
      dsimp only [clamp, shiftFor]
      omega
    have hlt : shiftFor area < 16 := by
      dsimp only [shiftFor]
      omega
    have hshifted : max ((area : Int) >>> shiftFor area) 1 = (area >>> shiftFor area : Nat) := by
      have hpos : 0 < area >>> shiftFor area := shifted_pos (by omega)
      rw [← Int.natCast_shiftRight]
      omega
    rw [checkedOfDoubledArea, if_neg hpos, ofDoubledArea_eq (by omega), Int.toNat_natCast]
    simp (disch := omega) only [check_i64, hshift, Int.toNat_natCast, shiftRight_of_lt, hshifted,
      Option.bind_eq_bind, Option.bind_some]
    have hle : area >>> shiftFor area ≤ area := Nat.shiftRight_le area _
    generalize area >>> shiftFor area = shifted at hle ⊢
    have hinverse : min ((65536 + (shifted : Int) / 2) / shifted) 0xFFFF = inverseFor shifted := by
      unfold inverseFor
      push_cast
      rfl
    have hinverse' : inverseFor shifted ≤ 0xFFFF := Nat.min_le_right _ _
    simp (disch := omega) only [check_i64, check_u16, check_u8, hinverse, Int.toNat_natCast,
      Option.bind_some]
    rfl

/-- Factors of an area of 32 bits fit their register. -/
theorem AreaFactors.ofDoubledArea_fits {area : Int} (h : area < 2 ^ 32) :
    (ofDoubledArea area).Fits := by
  by_cases hpos : 0 < area
  · have hfit := ofDoubledArea_normalize hpos h
    exact ⟨hfit.inverse_lt, hfit.shift_lt⟩
  · rw [ofDoubledArea, if_pos (Int.not_lt.1 hpos)]
    exact ⟨by decide, by decide⟩

namespace Triangle

/-- The numbers of a triangle are those of a triangle between vertices. -/
structure Small (t : Triangle) : Prop where
  /-- The edges. -/
  edges : t.edges.All Edge.Small
  /-- The factors. -/
  factors : t.factors.Fits

/-- **The triangle between three vertices.** -/
theorem checkedOfVertices_eq (vertices : Triple Vertex) {programmed : AreaFactors}
    (hf : programmed.Fits) :
    let p := vertices.map Vertex.position
    checkedOfVertices p programmed = some (ofVertices p programmed)
      ∧ (ofVertices p programmed).Small := by
  intro p
  have h0 : p.v0.Within (2 ^ 15) := vertices.v0.position_within
  have h1 : p.v1.Within (2 ^ 15) := vertices.v1.position_within
  have h2 : p.v2.Within (2 ^ 15) := vertices.v2.position_within
  have harea : doubledAreaOf p < 2 ^ 32 := doubledAreaOf_lt vertices
  obtain ⟨hedge0, hsmall0⟩ := Edge.checkedBetween_eq h1 h2
  obtain ⟨hedge1, hsmall1⟩ := Edge.checkedBetween_eq h2 h0
  obtain ⟨hedge2, hsmall2⟩ := Edge.checkedBetween_eq h0 h1
  have hchecked : checkedDoubledArea p = some (doubledAreaOf p) := by
    have h2' : p.v2.Within (2 ^ 19) := ⟨h2.x.trans (by decide), h2.y.trans (by decide)⟩
    rw [checkedDoubledArea, hedge2]
    exact (Edge.checkedEval_eq hsmall2 h2').1
  rw [checkedOfVertices, ofVertices, hchecked, hedge0, hedge1, hedge2]
  dsimp only [Option.bind_eq_bind, Option.bind_some]
  cases hauto : programmed.isAutomatic with
  | true =>
    rw [if_pos rfl, if_pos rfl, AreaFactors.checkedOfDoubledArea_eq harea]
    exact ⟨rfl, ⟨hsmall0, hsmall1, hsmall2⟩, AreaFactors.ofDoubledArea_fits harea⟩
  | false =>
    rw [if_neg Bool.false_ne_true, if_neg Bool.false_ne_true]
    exact ⟨rfl, ⟨hsmall0, hsmall1, hsmall2⟩, hf⟩

/-- **Weights.** -/
theorem checkedWeights_eq {t : Triangle} {values : Triple Int} (hf : t.factors.Fits)
    (h : values.All fun e => e.natAbs ≤ 2 ^ 37) :
    t.checkedWeights values = some (t.weights values) := by
  obtain ⟨hinverse, hshift⟩ := hf
  have hweight {e : Int} (he : e.natAbs ≤ 2 ^ 37) : (do
      let shifted ← shiftRight e t.factors.shift
      let product ← i64.check (shifted * t.factors.inverse)
      return clamp 0 weightOne product)
        = some (clamp 0 weightOne ((e >>> t.factors.shift) * t.factors.inverse)) := by
    have hproduct : ((e >>> t.factors.shift) * (t.factors.inverse : Int)).natAbs ≤ 2 ^ 37 * 2 ^ 16 :=
      natAbs_mul_le ((natAbs_shiftRight_le e _).trans he) (by omega)
    rw [shiftRight_of_lt (by omega), Option.bind_eq_bind, Option.bind_some, check_i64 (by omega)]
    rfl
  exact Triple.traverse_eq ⟨hweight h.v0, hweight h.v1, hweight h.v2⟩

end Triangle

/-! ## Fragments -/

/-- The attribute between three vertex values, checked. -/
def checkedInterpolate (values weights : Triple Int) (high : Int) : Option Int := do
  let w1 := clamp 0 weightOne weights.v1
  let w2 := clamp 0 weightOne weights.v2
  let difference1 ← i64.check (values.v1 - values.v0)
  let product1 ← i64.check (w1 * difference1)
  let difference2 ← i64.check (values.v2 - values.v0)
  let product2 ← i64.check (w2 * difference2)
  let delta ← i64.check (product1 + product2)
  let sum ← i64.check (values.v0 + (← shiftRight delta 16))
  return clamp 0 high sum

/-- The color between three vertex colors, checked. -/
def checkedInterpolateColor (colors : Triple Rgba) (weights : Triple Int) : Option Rgba := do
  let channel (f : Rgba → UInt8) : Option UInt8 := do
    let value ← checkedInterpolate (colors.map fun c => ((f c).toNat : Int)) weights 255
    return .ofNat (← u8.check value).toNat
  return ⟨← channel Rgba.r, ← channel Rgba.g, ← channel Rgba.b, ← channel Rgba.a⟩

/-- The depth between three vertex depths, checked. -/
def checkedInterpolateDepth (depths : Triple UInt16) (weights : Triple Int) : Option UInt16 := do
  let value ← checkedInterpolate (depths.map fun z => (z.toNat : Int)) weights 0xFFFF
  return .ofNat (← u16.check value).toNat

/-- The attribute between three values of sixteen bits. -/
theorem checkedInterpolate_eq {values weights : Triple Int} {high : Int}
    (h : values.All u16.Has) (hhigh : 0 ≤ high) :
    checkedInterpolate values weights high = some (interpolate values weights high)
      ∧ 0 ≤ interpolate values weights high ∧ interpolate values weights high ≤ high := by
  obtain ⟨⟨h0, h0'⟩, ⟨h1, h1'⟩, h2, h2'⟩ := h
  dsimp only [u16] at h0 h0' h1 h1' h2 h2'
  have hweight (w : Int) : (clamp 0 weightOne w).natAbs ≤ 2 ^ 16 := by
    dsimp only [clamp, weightOne]
    omega
  have hproduct1 : (clamp 0 weightOne weights.v1 * (values.v1 - values.v0)).natAbs
      ≤ 2 ^ 16 * 2 ^ 16 := natAbs_mul_le (hweight _) (by omega)
  have hproduct2 : (clamp 0 weightOne weights.v2 * (values.v2 - values.v0)).natAbs
      ≤ 2 ^ 16 * 2 ^ 16 := natAbs_mul_le (hweight _) (by omega)
  have hshifted := natAbs_shiftRight_le (clamp 0 weightOne weights.v1 * (values.v1 - values.v0)
    + clamp 0 weightOne weights.v2 * (values.v2 - values.v0)) 16
  constructor
  · simp (disch := omega) only [checkedInterpolate, check_i64, shiftRight_of_lt,
      Option.bind_eq_bind, Option.bind_some]
    rfl
  · dsimp only [interpolate]
    generalize values.v0 + _ = x
    dsimp only [clamp]
    omega

/-- **Colors.** -/
theorem checkedInterpolateColor_eq (colors : Triple Rgba) (weights : Triple Int) :
    checkedInterpolateColor colors weights = some (interpolateColor colors weights) := by
  have hchannel (f : Rgba → UInt8) : (do
      let value ← checkedInterpolate (colors.map fun c => ((f c).toNat : Int)) weights 255
      return UInt8.ofNat (← u8.check value).toNat)
        = some (.ofNat
          (interpolate (colors.map fun c => ((f c).toNat : Int)) weights 255).toNat) := by
    have hbyte (c : Rgba) : u16.Has ((f c).toNat : Int) := by
      have := (f c).toNat_lt
      exact ⟨by dsimp only [u16]; omega, by dsimp only [u16]; omega⟩
    have hall : (colors.map fun c => ((f c).toNat : Int)).All u16.Has :=
      ⟨hbyte colors.v0, hbyte colors.v1, hbyte colors.v2⟩
    have hnonneg : (0 : Int) ≤ 255 := by decide
    obtain ⟨hvalue, hlow, hhigh⟩ := checkedInterpolate_eq hall hnonneg
    rw [hvalue, Option.bind_eq_bind, Option.bind_some, check_u8 ⟨hlow, by omega⟩]
    rfl
  rw [checkedInterpolateColor]
  dsimp only
  rw [hchannel Rgba.r, hchannel Rgba.g, hchannel Rgba.b, hchannel Rgba.a]
  rfl

/-- **Depths.** -/
theorem checkedInterpolateDepth_eq (depths : Triple UInt16) (weights : Triple Int) :
    checkedInterpolateDepth depths weights = some (interpolateDepth depths weights) := by
  have hword (z : UInt16) : u16.Has (z.toNat : Int) := by
    have := z.toNat_lt
    exact ⟨by dsimp only [u16]; omega, by dsimp only [u16]; omega⟩
  have hall : (depths.map fun z => (z.toNat : Int)).All u16.Has :=
    ⟨hword depths.v0, hword depths.v1, hword depths.v2⟩
  have hnonneg : (0 : Int) ≤ 0xFFFF := by decide
  obtain ⟨hvalue, hlow, hhigh⟩ := checkedInterpolate_eq hall hnonneg
  rw [checkedInterpolateDepth, hvalue, Option.bind_eq_bind, Option.bind_some,
    check_u16 ⟨hlow, by omega⟩]
  rfl

end RasterGpu
