import Mathlib.Data.List.Nodup
import RasterGpu.Memory.Sdram
import RasterGpu.Register.Surface

/-!
# The words of a pixel

A pixel of the surfaces that are drawn to has a color word and a depth word, its *texel*. As long as
no two of these words share a place in memory, drawing over one pixel leaves the others alone, and a
primitive can be described pixel by pixel.

* `Framebuffer.Separate` says that the words of both surfaces have places of their own.
* `Framebuffer.texel` reads the two words of a pixel. A write to one of them changes that word and
  nothing else on the surfaces (`texel_write_color`, `texel_write_depth`).
* `Shade` is what a primitive offers a pixel, and `Texel.shade` is what becomes of the texel if the
  nearer of the two is kept. Offered many shades a texel ends up with the least depth
  (`Texel.shadeAll_depth`); and if their depths are pairwise distinct, or if only depths count, the
  order in which they are offered does not matter (`Texel.shadeAll_perm`).
-/

namespace RasterGpu

/-! ## Reading after writing -/

namespace Sdram

/-- A write does not move the places of a device. -/
@[simp] theorem index_write (m : Sdram) (address other : Nat) (value : UInt16) :
    (m.write address value).index other = m.index other := by
  simp [index, write]

/-- A word reads as it was written last, and a word at another place as before. -/
theorem read_write (m : Sdram) (address other : Nat) (value : UInt16) :
    (m.write address value).read other
      = if m.index address = m.index other then value else m.read other := by
  unfold read
  simp only [index_write]
  simp only [write, Array.getElem_set]

end Sdram

/-! ## Surfaces -/

/-- The two surfaces that are drawn to. -/
inductive Plane where
  /-- Colors. -/
  | color
  /-- Depths. -/
  | depth
  deriving DecidableEq, Repr

/-- The two words of a pixel. -/
@[ext]
structure Texel where
  /-- The color word. -/
  color : UInt16
  /-- The depth word. -/
  depth : UInt16
  deriving DecidableEq, Repr

namespace Framebuffer

variable {fb : Framebuffer} {m : Sdram} {x y x' y' : Nat}

/-- Base of a surface. -/
def base (fb : Framebuffer) : Plane → Nat
  | .color => fb.colorBase
  | .depth => fb.depthBase

/-- Address of a word of a pixel. -/
def address (fb : Framebuffer) (plane : Plane) (x y : Nat) : Nat :=
  surfaceStart (fb.base plane) + (y * fb.width + x)

/-- Whether a pixel lies on the surfaces. -/
def Has (fb : Framebuffer) (x y : Nat) : Prop :=
  x < fb.width ∧ y < fb.height

instance (fb : Framebuffer) (x y : Nat) : Decidable (fb.Has x y) :=
  inferInstanceAs (Decidable (_ ∧ _))

/-- No two words of the surfaces share a place in memory. -/
def Separate (fb : Framebuffer) (m : Sdram) : Prop :=
  ∀ (plane plane' : Plane) (x y x' y' : Nat), fb.Has x y → fb.Has x' y' →
    m.index (fb.address plane x y) = m.index (fb.address plane' x' y') →
      plane = plane' ∧ x = x' ∧ y = y'

/-- A write does not move the words. -/
theorem Separate.write (h : fb.Separate m) (address : Nat) (value : UInt16) :
    fb.Separate (m.write address value) := by
  intro plane plane' x y x' y' hp hp' heq
  rw [m.index_write, m.index_write] at heq
  exact h plane plane' x y x' y' hp hp' heq

/-- A write to a word of the surfaces changes that word and no other. -/
theorem Separate.read_write (h : fb.Separate m) {plane plane' : Plane} (hp : fb.Has x y)
    (hp' : fb.Has x' y') (value : UInt16) :
    (m.write (fb.address plane x y) value).read (fb.address plane' x' y')
      = if plane = plane' ∧ x = x' ∧ y = y' then value
        else m.read (fb.address plane' x' y') := by
  rw [m.read_write]
  by_cases hsame : plane = plane' ∧ x = x' ∧ y = y'
  · obtain ⟨rfl, rfl, rfl⟩ := hsame
    simp
  · rw [if_neg hsame, if_neg]
    intro heq
    exact hsame (h plane plane' x y x' y' hp hp' heq)

/-- The texel of a pixel. -/
def texel (fb : Framebuffer) (m : Sdram) (x y : Nat) : Texel :=
  ⟨m.read (fb.address .color x y), m.read (fb.address .depth x y)⟩

/-- Writing the color of a pixel. -/
theorem texel_write_color (h : fb.Separate m) (hp : fb.Has x y) (hp' : fb.Has x' y')
    (value : UInt16) : fb.texel (m.write (fb.address .color x y) value) x' y'
      = if x = x' ∧ y = y' then { fb.texel m x' y' with color := value }
        else fb.texel m x' y' := by
  unfold texel
  rw [h.read_write hp hp', h.read_write hp hp']
  by_cases hsame : x = x' ∧ y = y'
  · simp [hsame]
  · simp [hsame]

/-- Writing the depth of a pixel. -/
theorem texel_write_depth (h : fb.Separate m) (hp : fb.Has x y) (hp' : fb.Has x' y')
    (value : UInt16) : fb.texel (m.write (fb.address .depth x y) value) x' y'
      = if x = x' ∧ y = y' then { fb.texel m x' y' with depth := value }
        else fb.texel m x' y' := by
  unfold texel
  rw [h.read_write hp hp', h.read_write hp hp']
  by_cases hsame : x = x' ∧ y = y'
  · simp [hsame]
  · simp [hsame]

end Framebuffer

/-! ## Keeping what is nearer -/

/-- What a primitive offers a pixel: a depth, and a color word if it writes colors. -/
structure Shade where
  /-- The depth. -/
  depth : UInt16
  /-- The color word. -/
  color : Option UInt16
  deriving DecidableEq, Repr

namespace Texel

variable {t : Texel} {s : Shade} {shades : List Shade}

/-- Takes what is offered if it is nearer. -/
def shade (t : Texel) (s : Shade) : Texel :=
  if s.depth < t.depth then ⟨s.color.getD t.color, s.depth⟩ else t

/-- Takes what is nearer, of one offer after the other. -/
def shadeAll (t : Texel) (shades : List Shade) : Texel :=
  shades.foldl shade t

/-- Takes what is offered, if anything is, and if it is nearer. -/
def offer (t : Texel) (shade? : Option Shade) : Texel :=
  shade?.elim t t.shade

/-- An offer does not make a texel deeper, and leaves it no deeper than itself. -/
theorem shade_depth_le (t : Texel) (s : Shade) :
    (t.shade s).depth ≤ t.depth ∧ (t.shade s).depth ≤ s.depth := by
  unfold shade
  split
  · rename_i hlt
    exact ⟨UInt16.le_of_lt hlt, UInt16.le_refl _⟩
  · rename_i hge
    exact ⟨UInt16.le_refl _, UInt16.not_lt.1 hge⟩

/-- After an offer the depth is the one before or the one offered. -/
theorem shade_depth_eq (t : Texel) (s : Shade) :
    (t.shade s).depth = t.depth ∨ (t.shade s).depth = s.depth := by
  unfold shade
  split
  · exact .inr rfl
  · exact .inl rfl

/-- **The least depth is kept.** -/
theorem shadeAll_depth (t : Texel) (shades : List Shade) :
    (t.shadeAll shades).depth ∈ t.depth :: shades.map Shade.depth
      ∧ ∀ d ∈ t.depth :: shades.map Shade.depth, (t.shadeAll shades).depth ≤ d := by
  induction shades generalizing t with
  | nil =>
    refine ⟨List.mem_singleton_self _, fun d hd => ?_⟩
    obtain rfl := List.mem_singleton.1 hd
    exact UInt16.le_refl _
  | cons s shades ih =>
    obtain ⟨hmem, hle⟩ := ih (t.shade s)
    obtain ⟨hbefore, hoffer⟩ := t.shade_depth_le s
    have hfirst := hle _ List.mem_cons_self
    constructor
    · rcases List.mem_cons.1 hmem with heq | hrest
      · change ((t.shade s).shadeAll shades).depth ∈ _
        rcases t.shade_depth_eq s with h | h
        · rw [heq, h]
          exact List.mem_cons_self
        · rw [heq, h]
          exact List.mem_cons_of_mem _ List.mem_cons_self
      · exact List.mem_cons_of_mem _ (List.mem_cons_of_mem _ hrest)
    · intro d hd
      rcases List.mem_cons.1 hd with rfl | hd
      · exact UInt16.le_trans hfirst hbefore
      · rcases List.mem_cons.1 hd with rfl | hd
        · exact UInt16.le_trans hfirst hoffer
        · exact hle d (List.mem_cons_of_mem _ hd)

/-- The least depth does not depend on the order of the offers. -/
theorem shadeAll_depth_perm {shades' : List Shade} (h : shades.Perm shades') (t : Texel) :
    (t.shadeAll shades).depth = (t.shadeAll shades').depth := by
  obtain ⟨hmem, hle⟩ := t.shadeAll_depth shades
  obtain ⟨hmem', hle'⟩ := t.shadeAll_depth shades'
  have hsame : (t.depth :: shades.map Shade.depth).Perm (t.depth :: shades'.map Shade.depth) :=
    (h.map Shade.depth).cons t.depth
  apply UInt16.le_antisymm
  · exact hle _ (hsame.mem_iff.2 hmem')
  · exact hle' _ (hsame.mem_iff.1 hmem)

/-- Two offers of colors may change places if their depths differ. -/
theorem shade_comm {s s' : Shade} (hne : s.depth ≠ s'.depth) (hs : s.color.isSome = true)
    (hs' : s'.color.isSome = true) (t : Texel) : (t.shade s).shade s' = (t.shade s').shade s := by
  obtain ⟨c, hc⟩ := Option.isSome_iff_exists.1 hs
  obtain ⟨c', hc'⟩ := Option.isSome_iff_exists.1 hs'
  have hne' : s.depth.toNat ≠ s'.depth.toNat := fun heq => hne (UInt16.toNat_inj.1 heq)
  unfold shade
  simp only [hc, hc', Option.getD_some, UInt16.lt_iff_toNat_lt]
  -- which of the two is nearer than the texel, and which of them is the nearer one
  by_cases hlt : s.depth.toNat < t.depth.toNat
  · by_cases hlt' : s'.depth.toNat < t.depth.toNat
    · by_cases hnear : s.depth.toNat < s'.depth.toNat
      · simp [hlt, hlt', hnear, Nat.not_lt_of_lt hnear]
      · have hnear' : s'.depth.toNat < s.depth.toNat := by omega
        simp [hlt, hlt', hnear, hnear']
    · have hfar : ¬ s'.depth.toNat < s.depth.toNat := by omega
      simp [hlt, hlt', hfar]
  · by_cases hlt' : s'.depth.toNat < t.depth.toNat
    · have hfar : ¬ s.depth.toNat < s'.depth.toNat := by omega
      simp [hlt, hlt', hfar]
    · simp [hlt, hlt']

/-- **The order of offers does not matter** if all of them have colors and their depths are pairwise
distinct. -/
theorem shadeAll_perm {shades' : List Shade} (h : shades.Perm shades')
    (hcolor : ∀ s ∈ shades, s.color.isSome = true) (hdepth : (shades.map Shade.depth).Nodup)
    (t : Texel) : t.shadeAll shades = t.shadeAll shades' := by
  refine h.foldl_eq' (fun s hs s' hs' t => ?_) t
  by_cases heq : s.depth = s'.depth
  · rw [List.inj_on_of_nodup_map hdepth hs hs' heq]
  · exact shade_comm heq (hcolor s hs) (hcolor s' hs') t

end Texel

end RasterGpu
