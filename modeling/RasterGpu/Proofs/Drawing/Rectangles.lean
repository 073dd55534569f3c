import Mathlib.Data.Fin.SuccPred
import Mathlib.Data.Fin.VecNotation
import Mathlib.Order.Fin.Basic
import RasterGpu.Proofs.Drawing.Coverage

/-!
# Rectangles that tile

A rectangle has the pixels whose sample points lie between its corners, near sides included and far
sides excluded. So a picture may be put together from rectangles: where two of them share a side, no
pixel is drawn twice and none is left out, wherever between the pixels the side lies.

* `Box.mem_pixels_ofCorners` says which pixels a rectangle has, by its corners as they are given.
* `Grid` cuts a rectangle into cells. A coordinate lies in one gap between neighbouring cuts
  (`exists_gap`), and in no other (`gap_unique`).
* `Box.Tiles` is what the cells are to the whole, and clipping keeps it (`Box.Tiles.clip`).

`Grid.rectangles_tile` puts the three together.
-/

namespace RasterGpu

/-! ## The pixels of a rectangle -/

/-- Two points are opposite corners of the rectangle between two columns and two rows. -/
structure Point.Opposite (p q : Point) (left right top bottom : Int) : Prop where
  /-- One is on the left side and the other on the right side. -/
  columns : p.x = left ∧ q.x = right ∨ p.x = right ∧ q.x = left
  /-- One is on the upper side and the other on the lower side. -/
  rows : p.y = top ∧ q.y = bottom ∨ p.y = bottom ∧ q.y = top

namespace Box

/-- A pixel is before the first one at or after a coordinate exactly if its sample point is before
the coordinate. -/
theorem le_ceilPixel_sub_one {v px : Int} : px ≤ ceilPixel v - 1 ↔ px * subpixels < v := by
  rw [Int.le_sub_one_iff, ← Int.not_le, ceilPixel_le, Int.not_le]

/-- **A rectangle has the pixels whose sample points lie between its corners**, near sides included
and far sides excluded. -/
theorem mem_pixels_ofCorners {p q : Point} {px py : Int} :
    (px, py) ∈ (ofCorners p q).pixels
      ↔ (min p.x q.x ≤ 16 * px ∧ 16 * px < max p.x q.x)
        ∧ min p.y q.y ≤ 16 * py ∧ 16 * py < max p.y q.y := by
  rw [mem_pixels, ofCorners, ceilPixel_le, ceilPixel_le, le_ceilPixel_sub_one,
    le_ceilPixel_sub_one, subpixels, Int.mul_comm 16 px, Int.mul_comm 16 py]

/-- It does not matter which opposite corners a rectangle is given by. -/
theorem mem_pixels_of_opposite {p q : Point} {left right top bottom px py : Int}
    (h : p.Opposite q left right top bottom) (hx : left ≤ right) (hy : top ≤ bottom) :
    (px, py) ∈ (ofCorners p q).pixels
      ↔ (left ≤ 16 * px ∧ 16 * px < right) ∧ top ≤ 16 * py ∧ 16 * py < bottom := by
  have hcolumns : min p.x q.x = left ∧ max p.x q.x = right := by
    rcases h.columns with ⟨hp, hq⟩ | ⟨hp, hq⟩ <;> omega
  have hrows : min p.y q.y = top ∧ max p.y q.y = bottom := by
    rcases h.rows with ⟨hp, hq⟩ | ⟨hp, hq⟩ <;> omega
  rw [mem_pixels_ofCorners, hcolumns.1, hcolumns.2, hrows.1, hrows.2]

/-! ## Tiling -/

/-- Boxes cut another one up: every pixel of it is in one of them, and no other is. -/
structure Tiles {ι : Type} (cells : ι → Box) (whole : Box) : Prop where
  /-- No pixel is in two of them. -/
  disjoint : Pairwise fun i j => (cells i).pixels.Disjoint (cells j).pixels
  /-- Together they are the whole. -/
  union : ∀ pixel, pixel ∈ whole.pixels ↔ ∃ i, pixel ∈ (cells i).pixels

/-- Clipping keeps a tiling. -/
theorem Tiles.clip {ι : Type} {cells : ι → Box} {whole : Box} (h : Tiles cells whole)
    (fb : Framebuffer) (scissor : Scissor) :
    Tiles (fun i => (cells i).clip fb scissor) (whole.clip fb scissor) where
  disjoint i j hij := by
    rintro ⟨px, py⟩ hi hj
    exact h.disjoint hij (mem_pixels_clip.1 hi).1 (mem_pixels_clip.1 hj).1
  union := by
    rintro ⟨px, py⟩
    simp only [mem_pixels_clip, h.union, exists_and_right]

end Box

/-! ## Grids -/

/-- A rectangle with the lines that cut it into columns and rows, its own sides included. Lines may
coincide. -/
structure Grid (columns rows : Nat) where
  /-- Where columns begin and end. -/
  x : Fin (columns + 1) → Int
  /-- Where rows begin and end. -/
  y : Fin (rows + 1) → Int
  /-- Columns are listed from left to right. -/
  monotone_x : ∀ i j, i ≤ j → x i ≤ x j
  /-- Rows are listed from top to bottom. -/
  monotone_y : ∀ i j, i ≤ j → y i ≤ y j

section Gaps

variable {n : Nat} {cuts : Fin (n + 1) → Int} {v : Int}

/-- What lies between the first cut and the last lies between two neighbours. -/
theorem exists_gap (hfirst : cuts 0 ≤ v) (hlast : v < cuts (Fin.last n)) :
    ∃ i : Fin n, cuts i.castSucc ≤ v ∧ v < cuts i.succ := by
  induction n with
  | zero => exact absurd hlast (Int.not_lt.2 hfirst)
  | succ n ih =>
    by_cases hv : v < cuts (Fin.last n).castSucc
    · obtain ⟨i, hi⟩ := @ih (fun i => cuts i.castSucc) hfirst hv
      exact ⟨i.castSucc, hi⟩
    · exact ⟨Fin.last n, Int.not_lt.1 hv, hlast⟩

/-- What lies between two neighbouring cuts lies between no other two. -/
theorem gap_unique (hmono : ∀ i j, i ≤ j → cuts i ≤ cuts j) {i j : Fin n}
    (hi : cuts i.castSucc ≤ v ∧ v < cuts i.succ) (hj : cuts j.castSucc ≤ v ∧ v < cuts j.succ) :
    i = j := by
  have hle {i j : Fin n} (hij : i < j) : cuts i.succ ≤ cuts j.castSucc :=
    hmono _ _ (Fin.succ_le_castSucc_iff.2 hij)
  rcases lt_trichotomy i j with hij | hij | hij
  · have := hle hij
    omega
  · exact hij
  · have := hle hij
    omega

/-- A gap lies between the first cut and the last. -/
theorem gap_within (hmono : ∀ i j, i ≤ j → cuts i ≤ cuts j) {i : Fin n}
    (hi : cuts i.castSucc ≤ v ∧ v < cuts i.succ) : cuts 0 ≤ v ∧ v < cuts (Fin.last n) :=
  ⟨(hmono _ _ (Fin.zero_le _)).trans hi.1, hi.2.trans_le (hmono _ _ (Fin.le_last _))⟩

end Gaps

namespace Grid

variable {columns rows : Nat}

/-- Two points are opposite corners of the whole rectangle. -/
def IsWhole (g : Grid columns rows) (p q : Point) : Prop :=
  p.Opposite q (g.x 0) (g.x (Fin.last columns)) (g.y 0) (g.y (Fin.last rows))

/-- Two points are opposite corners of a cell. -/
def IsCell (g : Grid columns rows) (cell : Fin columns × Fin rows) (p q : Point) : Prop :=
  p.Opposite q (g.x cell.1.castSucc) (g.x cell.1.succ) (g.y cell.2.castSucc) (g.y cell.2.succ)

variable {g : Grid columns rows} {p q : Point} {px py : Int} {cell : Fin columns × Fin rows}

/-- The pixels of the whole rectangle. -/
theorem IsWhole.mem_pixels (h : g.IsWhole p q) :
    (px, py) ∈ (Box.ofCorners p q).pixels
      ↔ (g.x 0 ≤ 16 * px ∧ 16 * px < g.x (Fin.last columns))
        ∧ g.y 0 ≤ 16 * py ∧ 16 * py < g.y (Fin.last rows) :=
  Box.mem_pixels_of_opposite h (g.monotone_x _ _ (Fin.zero_le _))
    (g.monotone_y _ _ (Fin.zero_le _))

/-- The pixels of a cell. -/
theorem IsCell.mem_pixels (h : g.IsCell cell p q) :
    (px, py) ∈ (Box.ofCorners p q).pixels
      ↔ (g.x cell.1.castSucc ≤ 16 * px ∧ 16 * px < g.x cell.1.succ)
        ∧ g.y cell.2.castSucc ≤ 16 * py ∧ 16 * py < g.y cell.2.succ :=
  Box.mem_pixels_of_opposite h (g.monotone_x _ _ (Fin.castSucc_le_succ _))
    (g.monotone_y _ _ (Fin.castSucc_le_succ _))

/-- The cells of a grid tile the whole rectangle. -/
theorem tiles (corners : Fin columns × Fin rows → Point × Point)
    (hcells : ∀ cell, g.IsCell cell (corners cell).1 (corners cell).2) (hwhole : g.IsWhole p q) :
    Box.Tiles (fun cell => .ofCorners (corners cell).1 (corners cell).2) (.ofCorners p q) where
  disjoint i j hij := by
    rintro ⟨px, py⟩ hi hj
    obtain ⟨hix, hiy⟩ := (hcells i).mem_pixels.1 hi
    obtain ⟨hjx, hjy⟩ := (hcells j).mem_pixels.1 hj
    exact hij (Prod.ext (gap_unique g.monotone_x hix hjx) (gap_unique g.monotone_y hiy hjy))
  union := by
    rintro ⟨px, py⟩
    rw [hwhole.mem_pixels]
    constructor
    · rintro ⟨hx, hy⟩
      obtain ⟨i, hi⟩ := exists_gap hx.1 hx.2
      obtain ⟨j, hj⟩ := exists_gap hy.1 hy.2
      exact ⟨(i, j), (hcells (i, j)).mem_pixels.2 ⟨hi, hj⟩⟩
    · rintro ⟨cell, hcell⟩
      obtain ⟨hx, hy⟩ := (hcells cell).mem_pixels.1 hcell
      exact ⟨gap_within g.monotone_x hx, gap_within g.monotone_y hy⟩

/-- **Rectangles tile exactly.** The rectangle between two vertices has the pixels whose sample
points lie between them, near sides included and far sides excluded. So if a rectangle is cut into
columns and rows, and each cell is given by any two opposite corners of it, every pixel of the whole
is in one cell and no other pixel in any; and the same holds of what is left of the cells and of the
whole on a surface and in a scissor rectangle. -/
theorem rectangles_tile :
    (∀ (v w : Vertex) (px py : Int), (px, py) ∈ (Box.ofCorners v.position w.position).pixels
      ↔ (min v.word.x.toInt w.word.x.toInt ≤ 16 * px
          ∧ 16 * px < max v.word.x.toInt w.word.x.toInt)
        ∧ min v.word.y.toInt w.word.y.toInt ≤ 16 * py
          ∧ 16 * py < max v.word.y.toInt w.word.y.toInt)
    ∧ ∀ {columns rows : Nat} (g : Grid columns rows) (v w : Vertex)
        (corners : Fin columns × Fin rows → Vertex × Vertex),
      g.IsWhole v.position w.position →
      (∀ cell, g.IsCell cell (corners cell).1.position (corners cell).2.position) →
        Box.Tiles (fun cell => .ofCorners (corners cell).1.position (corners cell).2.position)
          (.ofCorners v.position w.position)
        ∧ ∀ fb scissor, Box.Tiles
          (fun cell => (Box.ofCorners (corners cell).1.position
            (corners cell).2.position).clip fb scissor)
          ((Box.ofCorners v.position w.position).clip fb scissor) := by
  refine ⟨fun v w px py => Box.mem_pixels_ofCorners, ?_⟩
  intro columns rows g v w corners hwhole hcells
  have htiles := tiles
    (fun cell => ((corners cell).1.position, (corners cell).2.position)) hcells hwhole
  exact ⟨htiles, fun fb scissor => htiles.clip fb scissor⟩

/-- Three columns, one of them without width, and two rows, with sides between the pixels and left
of the first one; the cells of the upper row are given from the lower right, the others from the
lower left. The scissor rectangle cuts through a cell. -/
theorem rectangles_tile_between_pixels :
    let corner (x y : Int16) : Vertex := { word := { x, y } }
    let xs : Fin 4 → Int16 := ![-21, 5, 5, 40]
    let ys : Fin 3 → Int16 := ![-3, 17, 50]
    let g : Grid 3 2 :=
      { x := fun i => (xs i).toInt
        y := fun j => (ys j).toInt
        monotone_x := by decide
        monotone_y := by decide }
    let corners (cell : Fin 3 × Fin 2) : Vertex × Vertex :=
      if cell.2 = 0 then
        (corner (xs cell.1.succ) (ys cell.2.succ), corner (xs cell.1.castSucc) (ys cell.2.castSucc))
      else
        (corner (xs cell.1.castSucc) (ys cell.2.succ), corner (xs cell.1.succ) (ys cell.2.castSucc))
    let v := corner 40 (-3)
    let w := corner (-21) 50
    let clipped (v w : Vertex) :=
      (Box.ofCorners v.position w.position).clip ⟨0, 0, 2, 2⟩ ⟨0, 1, 2, 9⟩
    let cells (cell : Fin 3 × Fin 2) : Box := clipped (corners cell).1 (corners cell).2
    g.IsWhole v.position w.position
      ∧ (∀ cell, g.IsCell cell (corners cell).1.position (corners cell).2.position)
      ∧ (clipped v w).pixels = [(0, 1), (1, 1), (0, 2), (1, 2), (0, 3), (1, 3)]
      ∧ (cells (2, 0)).pixels = [(1, 1)] ∧ (cells (1, 1)).pixels = []
      ∧ Box.Tiles cells (clipped v w) := by
  intro corner xs ys g corners v w clipped cells
  have hwhole : g.IsWhole v.position w.position := ⟨.inr ⟨rfl, rfl⟩, .inl ⟨rfl, rfl⟩⟩
  have hcells : ∀ cell, g.IsCell cell (corners cell).1.position (corners cell).2.position := by
    rintro ⟨i, j⟩
    by_cases hj : j = 0
    · have hcorners : corners (i, j) = (corner (xs i.succ) (ys j.succ),
          corner (xs i.castSucc) (ys j.castSucc)) := if_pos hj
      rw [hcorners]
      exact ⟨.inr ⟨rfl, rfl⟩, .inr ⟨rfl, rfl⟩⟩
    · have hcorners : corners (i, j) = (corner (xs i.castSucc) (ys j.succ),
          corner (xs i.succ) (ys j.castSucc)) := if_neg hj
      rw [hcorners]
      exact ⟨.inl ⟨rfl, rfl⟩, .inr ⟨rfl, rfl⟩⟩
  obtain ⟨-, htiles⟩ := rectangles_tile.2 g v w corners hwhole hcells
  exact ⟨hwhole, hcells, by decide, by decide, by decide, htiles _ _⟩

end Grid

end RasterGpu
