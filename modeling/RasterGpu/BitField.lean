/-!
# Bit fields of register words

Every register of the device is a 64-bit word whose meaning is given by disjoint runs of bits. This
file holds the one definition that all register formats share: a `BitField` names a run by its
offset and width, `get` reads the number stored there, one of `size` many, and `put` builds the word
that holds a number there and zero elsewhere. A format writes a word as the bitwise "or" of its
fields.

The lemmas say what a format needs to know of its fields: reading distributes over "or"
(`get_or`), a field reads back what was put into it, reduced to its width (`get_put`), and a field
reads zero from a word built for a disjoint one (`get_put_of_disjoint`).
-/

namespace RasterGpu

/-- A run of `width` bits of a 64-bit word, the lowest of which is bit `offset`. -/
structure BitField where
  /-- Position of the lowest bit. -/
  offset : Nat
  /-- Number of bits. -/
  width : Nat
  /-- The run lies inside the word. -/
  fits : offset + width ≤ 64

namespace BitField

/-- The run of some bits from an offset on. That it lies inside the word is found by computing. -/
def run (offset width : Nat) (h : (offset + width).ble 64 = true := by exact Eq.refl true) :
    BitField :=
  ⟨offset, width, Nat.le_of_ble_eq_true h⟩

/-- The single bit at a position. -/
def bit (i : Nat) (h : (i + 1).ble 64 = true := by exact Eq.refl true) : BitField := run i 1 h

/-- How many numbers the field tells apart. -/
def size (f : BitField) : Nat := 1 <<< f.width

/-- The number a word stores in the field. -/
def get (f : BitField) (word : UInt64) : Nat :=
  word.toNat >>> f.offset % f.size

/-- The word that stores `value` in the field, reduced to the field's width, and zero elsewhere. -/
def put (f : BitField) (value : Nat) : UInt64 :=
  UInt64.ofNat ((value % f.size) <<< f.offset)

/-- A one-bit field read as a flag. -/
def flag (f : BitField) (word : UInt64) : Bool :=
  f.get word != 0

/-- The word that stores a flag in the field. -/
def putFlag (f : BitField) (b : Bool) : UInt64 :=
  f.put b.toNat

/-- Two fields share no bit. -/
def Disjoint (f g : BitField) : Prop :=
  f.offset + f.width ≤ g.offset ∨ g.offset + g.width ≤ f.offset

instance (f g : BitField) : Decidable (f.Disjoint g) :=
  inferInstanceAs (Decidable (_ ∨ _))

/-! ## Reading what was written -/

/-- A field holds at least one number. -/
theorem size_pos (f : BitField) : 0 < f.size := by
  unfold size
  rw [Nat.one_shiftLeft]
  exact Nat.two_pow_pos _

/-- A field's number fits its width. -/
theorem get_lt (f : BitField) (word : UInt64) : f.get word < f.size :=
  Nat.mod_lt _ f.size_pos

/-- The shifted number that `put` stores still fits the word. -/
theorem shifted_lt (f : BitField) (value : Nat) :
    (value % f.size) <<< f.offset < UInt64.size := by
  have hv : value % f.size < f.size := Nat.mod_lt _ f.size_pos
  calc (value % f.size) <<< f.offset
      = value % f.size * 2 ^ f.offset := Nat.shiftLeft_eq _ _
    _ < f.size * 2 ^ f.offset := Nat.mul_lt_mul_of_pos_right hv (Nat.two_pow_pos _)
    _ = 2 ^ f.width * 2 ^ f.offset := by rw [size, Nat.one_shiftLeft]
    _ = 2 ^ (f.offset + f.width) := by rw [← Nat.pow_add, Nat.add_comm]
    _ ≤ 2 ^ 64 := Nat.pow_le_pow_right (by decide) f.fits

/-- The word `put` builds, as a number. -/
theorem toNat_put (f : BitField) (value : Nat) :
    (f.put value).toNat = (value % f.size) <<< f.offset := by
  unfold put
  rw [UInt64.toNat_ofNat']
  exact Nat.mod_eq_of_lt (f.shifted_lt value)

/-- Reading a field distributes over the "or" that assembles a word. -/
theorem get_or (f : BitField) (a b : UInt64) : f.get (a ||| b) = f.get a ||| f.get b := by
  unfold get size
  rw [Nat.one_shiftLeft, UInt64.toNat_or, Nat.shiftRight_or_distrib, Nat.or_mod_two_pow]

/-- A field reads back what was put into it, reduced to its width. -/
theorem get_put (f : BitField) (value : Nat) : f.get (f.put value) = value % f.size := by
  unfold get
  rw [toNat_put, Nat.shiftLeft_shiftRight, Nat.mod_mod]

/-- A field reads zero from a word built for a disjoint field. -/
theorem get_put_of_disjoint {f g : BitField} (h : f.Disjoint g) (value : Nat) :
    f.get (g.put value) = 0 := by
  apply Nat.eq_of_testBit_eq
  intro i
  unfold get
  rw [toNat_put, size, size, Nat.one_shiftLeft, Nat.one_shiftLeft, Nat.testBit_mod_two_pow,
    Nat.testBit_shiftRight, Nat.testBit_shiftLeft, Nat.testBit_mod_two_pow, Nat.zero_testBit]
  rcases h with h | h <;> by_cases hi : i < f.width <;> simp [hi] <;> omega

end BitField

end RasterGpu
