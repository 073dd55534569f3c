import Mathlib.Data.Bool.Basic
import Mathlib.Data.Nat.Bitwise
import RasterGpu.Register.RenderMode
import RasterGpu.Register.Surface
import RasterGpu.Register.VertexWord

/-!
# What a register format keeps

Eight formats store a value in a register word and read it back. They have one shape: the word is
put together from numbers, each in a field of its own, and what it means can be told from these
numbers alone. So what a format keeps is shown once for all.

* `BitField.pack` is a word put together from numbers in fields. A field reads back its own number,
  reduced to its width (`BitField.get_pack`); nothing spills over from another. The numbers of a
  word, put together again, are the word on the bits of the fields (`BitField.pack_get`).
* `RegisterFormat` is a format: how a word is read and written, which numbers it is put together
  from, and which bits of a word have a meaning. `RegisterFormat.Faithful` says what is to be
  proved of it, and `RegisterFormat.Lawful.faithful` proves it from a few laws.
* The eight formats follow, each with its laws, and `RegisterFormat.formats_faithful` is the result.
-/

namespace RasterGpu

/-! ## Codes -/

/-- Each way of culling has a code of its own. -/
theorem CullMode.code_spec (mode : CullMode) : mode.code < 4 ∧ ofCode mode.code = mode := by
  cases mode <;> exact ⟨by decide, rfl⟩

/-- Each way of blending has a code of its own. -/
theorem BlendMode.code_spec (mode : BlendMode) : mode.code < 8 ∧ ofCode mode.code = mode := by
  cases mode <;> exact ⟨by decide, rfl⟩

/-- Each comparison of depths has a code of its own. -/
theorem DepthCompare.code_spec (compare : DepthCompare) :
    compare.code < 8 ∧ ofCode compare.code = compare := by
  cases compare <;> exact ⟨by decide, rfl⟩

/-- Each alpha test has a code of its own. -/
theorem AlphaTest.code_spec (test : AlphaTest) : test.code < 4 ∧ ofCode test.code = test := by
  cases test <;> exact ⟨by decide, rfl⟩

/-- Every code of three bits is that of a comparison of depths. -/
theorem DepthCompare.code_ofCode : ∀ code < 8, (ofCode code).code = code := by decide

/-- Every code of two bits is that of an alpha test. -/
theorem AlphaTest.code_ofCode : ∀ code < 4, (ofCode code).code = code := by decide

/-- The last code of two bits stands for no culling. -/
theorem CullMode.code_ofCode : ∀ code < 4, (ofCode code).code = if code = 3 then 0 else code := by
  decide

/-- The upper half of the codes of three bits stands for no blending. -/
theorem BlendMode.code_ofCode : ∀ code < 8, (ofCode code).code = if 4 ≤ code then 0 else code := by
  decide

/-! ## Words put together from fields -/

namespace BitField

/-- The bits of a field. -/
def mask (f : BitField) : UInt64 := f.put (f.size - 1)

/-- The bits of some fields. -/
def masks (fields : List BitField) : UInt64 := fields.foldr (fun f bits => f.mask ||| bits) 0

/-- The word that stores a number in each of some fields. -/
def pack (parts : List (BitField × Nat)) : UInt64 :=
  parts.foldr (fun part word => part.1.put part.2 ||| word) 0

/-- The bits of a number in a field. -/
theorem testBit_get (f : BitField) (word : UInt64) (i : Nat) :
    (f.get word).testBit i = (decide (i < f.width) && word.toNat.testBit (f.offset + i)) := by
  rw [get, size, Nat.one_shiftLeft, Nat.testBit_mod_two_pow, Nat.testBit_shiftRight]

/-- The bits of a word that stores a number in a field. -/
theorem testBit_put (f : BitField) (value i : Nat) :
    (f.put value).toNat.testBit i
      = (decide (f.offset ≤ i ∧ i < f.offset + f.width) && value.testBit (i - f.offset)) := by
  rw [toNat_put, size, Nat.one_shiftLeft, Nat.testBit_shiftLeft, Nat.testBit_mod_two_pow]
  by_cases hlow : f.offset ≤ i
  · have hiff : i - f.offset < f.width ↔ i < f.offset + f.width := by omega
    simp [hlow, hiff]
  · simp [hlow]

/-- Storing the number of a field again leaves the bits of the field. -/
theorem put_get (f : BitField) (word : UInt64) : f.put (f.get word) = word &&& f.mask := by
  apply UInt64.toNat_inj.1
  apply Nat.eq_of_testBit_eq
  intro i
  rw [UInt64.toNat_and, Nat.testBit_and, mask, testBit_put, testBit_put, testBit_get, size,
    Nat.one_shiftLeft, Nat.testBit_two_pow_sub_one]
  by_cases hin : f.offset ≤ i ∧ i < f.offset + f.width
  · have hplace : f.offset + (i - f.offset) = i := by omega
    have hlt : i - f.offset < f.width := by omega
    simp [hin, hplace, hlt]
  · simp [hin]

/-- The number of a field with the given width. -/
theorem get_lt_of_width {f : BitField} {width : Nat} (hf : f.width = width) (word : UInt64) :
    f.get word < 1 <<< width := by
  rw [← hf]
  exact f.get_lt word

/-- Reading a field of the bits that two words share. -/
theorem get_and (f : BitField) (a b : UInt64) : f.get (a &&& b) = f.get a &&& f.get b := by
  unfold get size
  rw [Nat.one_shiftLeft, UInt64.toNat_and, Nat.shiftRight_and_distrib, Nat.and_mod_two_pow]

/-- If all bits of a field are kept it reads as before. -/
theorem get_and_of_full {f : BitField} {bits : UInt64} (h : f.get bits = f.size - 1)
    (word : UInt64) : f.get (word &&& bits) = f.get word := by
  have hlt := get_lt_of_width (f := f) rfl word
  rw [Nat.one_shiftLeft] at hlt
  rw [get_and, h, size, Nat.one_shiftLeft, Nat.and_two_pow_sub_one_eq_mod, Nat.mod_eq_of_lt hlt]

/-- The bits of a word among those of two words. -/
theorem and_or (word a b : UInt64) : word &&& (a ||| b) = word &&& a ||| word &&& b := by
  apply UInt64.toNat_inj.1
  rw [UInt64.toNat_and, UInt64.toNat_or, UInt64.toNat_or, UInt64.toNat_and, UInt64.toNat_and,
    Nat.and_or_distrib_left]

/-- **The numbers of a word, put together again,** are the word on the bits of their fields. -/
theorem pack_get (fields : List BitField) (word : UInt64) :
    pack (fields.map fun f => (f, f.get word)) = word &&& masks fields := by
  induction fields with
  | nil => exact UInt64.and_zero.symm
  | cons f fields ih =>
    change f.put (f.get word) ||| pack (fields.map fun f => (f, f.get word)) = _
    rw [ih, put_get]
    exact (and_or word f.mask (masks fields)).symm

/-- A field that is disjoint to all others reads zero. -/
theorem get_pack_of_disjoint {f : BitField} {parts : List (BitField × Nat)}
    (h : ∀ part ∈ parts, f.Disjoint part.1) : f.get (pack parts) = 0 := by
  induction parts with
  | nil => simp [pack, get]
  | cons part parts ih =>
    change f.get (part.1.put part.2 ||| pack parts) = 0
    rw [get_or, get_put_of_disjoint (h part List.mem_cons_self),
      ih fun other hother => h other (List.mem_cons_of_mem _ hother)]
    rfl

/-- **A field reads back its own number,** reduced to its width, whatever the others store. -/
theorem get_pack {parts : List (BitField × Nat)}
    (hd : (parts.map Prod.fst).Pairwise Disjoint) {part : BitField × Nat} (h : part ∈ parts) :
    part.1.get (pack parts) = part.2 % part.1.size := by
  induction parts with
  | nil => cases h
  | cons first parts ih =>
    rw [List.map_cons, List.pairwise_cons] at hd
    obtain ⟨hfirst, hd⟩ := hd
    have hapart : ∀ other ∈ parts, first.1.Disjoint other.1 := fun other hother =>
      hfirst other.1 (List.mem_map_of_mem hother)
    change part.1.get (first.1.put first.2 ||| pack parts) = _
    rw [get_or]
    rcases List.mem_cons.1 h with rfl | hlater
    · rw [get_put, get_pack_of_disjoint hapart, Nat.or_zero]
    · rw [get_put_of_disjoint (hapart part hlater).symm, ih hd hlater, Nat.zero_or]

end BitField

/-! ## Formats -/

/-- A format of register words. -/
structure RegisterFormat (α : Type) where
  /-- The value stored in a word. -/
  ofWord : UInt64 → α
  /-- The word that stores a value. -/
  toWord : α → UInt64
  /-- The number that a value has for each field. -/
  parts : α → List (BitField × Nat)
  /-- The value with its numbers reduced to the widths of their fields. -/
  reduce : α → α
  /-- The bits of a word that have a meaning: those of the fields, less a number that is not
  defined. -/
  defined : UInt64 → UInt64

namespace RegisterFormat

open BitField

variable {α : Type} {format : RegisterFormat α}

/-- Whether the numbers of a value fit their fields. -/
def Fits (format : RegisterFormat α) (v : α) : Prop :=
  ∀ part ∈ format.parts v, part.2 < part.1.size

/-- Numbers that fit are not changed by being reduced. -/
theorem Fits.map_mod {v : α} (h : format.Fits v) :
    format.parts v = (format.parts v).map fun part => (part.1, part.2 % part.1.size) :=
  calc format.parts v
      = (format.parts v).map id := (List.map_id _).symm
    _ = (format.parts v).map fun part => (part.1, part.2 % part.1.size) := by
        refine List.map_congr_left fun part hpart => ?_
        rw [Nat.mod_eq_of_lt (h part hpart)]
        rfl

/-- What a format keeps. -/
structure Faithful (format : RegisterFormat α) : Prop where
  /-- A value is read back with its numbers reduced, -/
  ofWord_toWord : ∀ v, format.ofWord (format.toWord v) = format.reduce v
  /-- each to the width of its own field. -/
  parts_reduce : ∀ v,
    format.parts (format.reduce v) = (format.parts v).map fun part => (part.1, part.2 % part.1.size)
  /-- A value whose numbers fit is read back as it is. -/
  ofWord_toWord_of_fits : ∀ v, format.Fits v → format.ofWord (format.toWord v) = v
  /-- A word is written back with the bits that have a meaning. -/
  toWord_ofWord : ∀ word, format.toWord (format.ofWord word) = word &&& format.defined word
  /-- It has the same value then. -/
  ofWord_toWord_ofWord : ∀ word, format.ofWord (format.toWord (format.ofWord word))
    = format.ofWord word

/-- The laws of a format with given fields. -/
structure Lawful (format : RegisterFormat α) (fields : List BitField) : Prop where
  /-- No two fields share a bit. -/
  disjoint : fields.Pairwise BitField.Disjoint
  /-- A value has a number for each field. -/
  fields_eq : ∀ v, (format.parts v).map Prod.fst = fields
  /-- A word is put together from the numbers. -/
  toWord_eq : ∀ v, format.toWord v = pack (format.parts v)
  /-- A value is known by its numbers. -/
  parts_inj : ∀ v v', format.parts v = format.parts v' → v = v'
  /-- Reducing a value reduces its numbers. -/
  parts_reduce : ∀ v,
    format.parts (format.reduce v) = (format.parts v).map fun part => (part.1, part.2 % part.1.size)
  /-- The numbers of the value in a word are those in its fields, where they have a meaning. -/
  parts_ofWord : ∀ word, format.parts (format.ofWord word)
    = fields.map fun f => (f, f.get (word &&& format.defined word))
  /-- Only bits of fields have a meaning. -/
  defined_and : ∀ word, format.defined word &&& masks fields = format.defined word
  /-- All that is written has a meaning. -/
  get_defined : ∀ v, ∀ f ∈ fields,
    f.get (format.toWord v &&& format.defined (format.toWord v)) = f.get (format.toWord v)

variable {fields : List BitField}

/-- The numbers in the word of a value are those of the value, reduced. -/
theorem Lawful.parts_toWord (h : format.Lawful fields) (v : α) :
    (fields.map fun f => (f, f.get (format.toWord v)))
      = (format.parts v).map fun part => (part.1, part.2 % part.1.size) := by
  have hd : ((format.parts v).map Prod.fst).Pairwise BitField.Disjoint := by
    rw [h.fields_eq]
    exact h.disjoint
  rw [← h.fields_eq v, List.map_map, h.toWord_eq]
  refine List.map_congr_left fun part hpart => ?_
  exact congrArg (Prod.mk part.1) (get_pack hd hpart)

/-- A value is read back with its numbers reduced. -/
theorem Lawful.ofWord_toWord (h : format.Lawful fields) (v : α) :
    format.ofWord (format.toWord v) = format.reduce v := by
  apply h.parts_inj
  calc format.parts (format.ofWord (format.toWord v))
      = fields.map fun f => (f, f.get (format.toWord v)) := by
        rw [h.parts_ofWord]
        exact List.map_congr_left fun f hf => congrArg (Prod.mk f) (h.get_defined v f hf)
    _ = (format.parts v).map fun part => (part.1, part.2 % part.1.size) := h.parts_toWord v
    _ = format.parts (format.reduce v) := (h.parts_reduce v).symm

/-- A value whose numbers fit is read back as it is. -/
theorem Lawful.ofWord_toWord_of_fits (h : format.Lawful fields) {v : α} (hv : format.Fits v) :
    format.ofWord (format.toWord v) = v := by
  rw [h.ofWord_toWord]
  apply h.parts_inj
  rw [h.parts_reduce]
  exact hv.map_mod.symm

/-- The numbers of the value in a word fit. -/
theorem Lawful.fits_ofWord (h : format.Lawful fields) (word : UInt64) :
    format.Fits (format.ofWord word) := by
  intro part hpart
  rw [h.parts_ofWord] at hpart
  obtain ⟨f, -, rfl⟩ := List.mem_map.1 hpart
  exact f.get_lt _

/-- A word is written back with the bits that have a meaning. -/
theorem Lawful.toWord_ofWord (h : format.Lawful fields) (word : UInt64) :
    format.toWord (format.ofWord word) = word &&& format.defined word := by
  rw [h.toWord_eq, h.parts_ofWord, pack_get, UInt64.and_assoc, h.defined_and]

/-- **A lawful format is faithful.** -/
theorem Lawful.faithful (h : format.Lawful fields) : format.Faithful where
  ofWord_toWord := h.ofWord_toWord
  parts_reduce := h.parts_reduce
  ofWord_toWord_of_fits _ := h.ofWord_toWord_of_fits
  toWord_ofWord := h.toWord_ofWord
  ofWord_toWord_ofWord word := h.ofWord_toWord_of_fits (h.fits_ofWord word)

/-- A format in which every number is defined, and that shows each number as it is. -/
theorem Lawful.of_constant {bits : UInt64} (disjoint : fields.Pairwise BitField.Disjoint)
    (hbits : ∀ word, format.defined word = bits) (hmasks : bits &&& masks fields = bits)
    (hfull : ∀ f ∈ fields, f.get bits = f.size - 1)
    (fields_eq : ∀ v, (format.parts v).map Prod.fst = fields)
    (toWord_eq : ∀ v, format.toWord v = pack (format.parts v))
    (parts_inj : ∀ v v', format.parts v = format.parts v' → v = v')
    (parts_reduce : ∀ v, format.parts (format.reduce v)
      = (format.parts v).map fun part => (part.1, part.2 % part.1.size))
    (parts_ofWord : ∀ word, format.parts (format.ofWord word)
      = fields.map fun f => (f, f.get word)) : format.Lawful fields where
  disjoint := disjoint
  fields_eq := fields_eq
  toWord_eq := toWord_eq
  parts_inj := parts_inj
  parts_reduce := parts_reduce
  parts_ofWord word := by
    rw [parts_ofWord, hbits]
    exact List.map_congr_left fun f hf =>
      congrArg (Prod.mk f) (get_and_of_full (hfull f hf) word).symm
  defined_and word := by rw [hbits, hmasks]
  get_defined v f hf := by rw [hbits, get_and_of_full (hfull f hf)]

/-! ## The eight formats -/

/-- A vertex: every bit of a word is used. -/
def vertexWord : RegisterFormat VertexWord where
  ofWord := VertexWord.ofWord
  toWord := VertexWord.toWord
  parts v := [(VertexWord.xField, v.x.toUInt16.toNat), (VertexWord.yField, v.y.toUInt16.toNat),
    (VertexWord.zField, v.z.toNat), (VertexWord.qField, v.q.toUInt16.toNat)]
  reduce v := v
  defined _ := 0xFFFFFFFFFFFFFFFF

/-- The area factors. -/
def areaFactors : RegisterFormat AreaFactors where
  ofWord := AreaFactors.ofWord
  toWord := AreaFactors.toWord
  parts v := [(AreaFactors.inverseField, v.inverse), (AreaFactors.shiftField, v.shift)]
  reduce v := ⟨v.inverse % 65536, v.shift % 16⟩
  defined _ := 0xFFFFF

/-- The drawing mode. One code for culling and four for blending are not defined. -/
def renderMode : RegisterFormat RenderMode where
  ofWord := RenderMode.ofWord
  toWord := RenderMode.toWord
  parts v := [(RenderMode.gouraudBit, v.gouraud.toNat), (RenderMode.depthTestBit, v.depthTest.toNat),
    (RenderMode.depthWriteBit, v.depthWrite.toNat), (RenderMode.colorWriteBit, v.colorWrite.toNat),
    (RenderMode.cullField, v.cull.code), (RenderMode.blendField, v.blend.code),
    (RenderMode.ditherBit, v.dither.toNat), (RenderMode.ditherPatternField, v.ditherPattern),
    (RenderMode.depthCompareField, v.depthCompare.code), (RenderMode.stippleBit, v.stipple.toNat),
    (RenderMode.alphaTestField, v.alphaTest.code),
    (RenderMode.alphaReferenceField, v.alphaReference.toNat)]
  reduce v := { v with ditherPattern := v.ditherPattern % 4 }
  defined word := 0x7FFFFFD
    &&& (if RenderMode.cullField.get word = 3 then ~~~0x60 else ~~~0)
    &&& (if 4 ≤ RenderMode.blendField.get word then ~~~0x380 else ~~~0)

/-- The depth range. -/
def depthRange : RegisterFormat DepthRange where
  ofWord := DepthRange.ofWord
  toWord := DepthRange.toWord
  parts v := [(DepthRange.minField, v.min.toNat), (DepthRange.maxField, v.max.toNat)]
  reduce v := v
  defined _ := 0xFFFFFFFF

/-- The surfaces that are drawn to. -/
def framebuffer : RegisterFormat Framebuffer where
  ofWord := Framebuffer.ofWord
  toWord := Framebuffer.toWord
  parts v := [(Framebuffer.colorBaseField, v.colorBase), (Framebuffer.depthBaseField, v.depthBase),
    (Framebuffer.widthField, v.widthLog2), (Framebuffer.heightField, v.heightLog2)]
  reduce v := ⟨v.colorBase % 65536, v.depthBase % 65536, v.widthLog2 % 16, v.heightLog2 % 16⟩
  defined _ := 0xFFFFFFFFFF

/-- The surface on display. -/
def displaySurface : RegisterFormat DisplaySurface where
  ofWord := DisplaySurface.ofWord
  toWord := DisplaySurface.toWord
  parts v := [(DisplaySurface.colorGradeBit, v.colorGrade.toNat),
    (DisplaySurface.lineDoubleBit, v.lineDouble.toNat), (DisplaySurface.tableBaseField, v.tableBase),
    (DisplaySurface.baseField, v.base), (DisplaySurface.widthField, v.widthLog2)]
  reduce v := { v with
    tableBase := v.tableBase % 65536, base := v.base % 65536, widthLog2 := v.widthLog2 % 16 }
  defined _ := 0xFFFFFFFFF0003

/-- The clipping rectangle. -/
def scissor : RegisterFormat Scissor where
  ofWord := Scissor.ofWord
  toWord := Scissor.toWord
  parts v := [(Scissor.xField, v.x), (Scissor.yField, v.y), (Scissor.widthField, v.width),
    (Scissor.heightField, v.height)]
  reduce v := ⟨v.x % 1024, v.y % 1024, v.width % 1024, v.height % 1024⟩
  defined _ := 0xFFFFFFFFFF

/-- A fill. -/
def fill : RegisterFormat Fill where
  ofWord := Fill.ofWord
  toWord := Fill.toWord
  parts v := [(Fill.baseField, v.base), (Fill.valueField, v.value.toNat), (Fill.countField, v.count)]
  reduce v := ⟨v.base % 65536, v.value, v.count % 1048576⟩
  defined _ := 0xFFFFFFFFFFFFF

/-! ## Their laws -/

/-- A flag is the number in its bit. -/
theorem toNat_flag {f : BitField} (hf : f.width = 1) (word : UInt64) :
    (f.flag word).toNat = f.get word := by
  have hlt : f.get word < 2 := get_lt_of_width hf word
  have hbit : f.get word = 0 ∨ f.get word = 1 := by omega
  unfold flag
  rcases hbit with h | h
  · rw [h]
    rfl
  · rw [h]
    rfl

/-- A flag is known by its number. -/
theorem flag_inj {b b' : Bool} (h : b.toNat = b'.toNat) : b = b' := by
  rw [← b.toNat_bne_zero, h, b'.toNat_bne_zero]

/-- A number of sixteen bits is not cut off. -/
theorem toNat_get16 {f : BitField} (hf : f.width = 16) (word : UInt64) :
    (UInt16.ofNat (f.get word)).toNat = f.get word := by
  have hlt : f.get word < 65536 := get_lt_of_width hf word
  rw [UInt16.toNat_ofNat', Nat.mod_eq_of_lt hlt]

/-- A number of eight bits is not cut off. -/
theorem toNat_get8 {f : BitField} (hf : f.width = 8) (word : UInt64) :
    (UInt8.ofNat (f.get word)).toNat = f.get word := by
  have hlt : f.get word < 256 := get_lt_of_width hf word
  rw [UInt8.toNat_ofNat', Nat.mod_eq_of_lt hlt]

/-- The laws of vertices. -/
theorem vertexWord_lawful : vertexWord.Lawful
    [VertexWord.xField, VertexWord.yField, VertexWord.zField, VertexWord.qField] := by
  refine .of_constant (by decide) (fun _ => rfl) (by decide) (by decide) (fun _ => rfl)
    (fun v => ?_) (fun v v' h => ?_) (fun v => Fits.map_mod ?_) (fun word => ?_)
  · simp only [vertexWord, VertexWord.toWord, pack, List.foldr, UInt64.or_zero, UInt64.or_assoc]
  · simp only [vertexWord, List.cons.injEq, Prod.mk.injEq, true_and, and_true,
      UInt16.toNat_inj] at h
    obtain ⟨hx, hy, hz, hq⟩ := h
    obtain ⟨x, y, z, q⟩ := v
    obtain ⟨x', y', z', q'⟩ := v'
    obtain rfl : x = x' := congrArg UInt16.toInt16 hx
    obtain rfl : y = y' := congrArg UInt16.toInt16 hy
    obtain rfl : z = z' := hz
    obtain rfl : q = q' := congrArg UInt16.toInt16 hq
    rfl
  · simp only [Fits, vertexWord, List.forall_mem_cons]
    exact ⟨UInt16.toNat_lt _, UInt16.toNat_lt _, UInt16.toNat_lt _, UInt16.toNat_lt _,
      fun _ hpart => absurd hpart List.not_mem_nil⟩
  · simp only [vertexWord, VertexWord.ofWord, UInt16.toUInt16_toInt16, List.map_cons, List.map_nil]
    rw [toNat_get16 rfl, toNat_get16 rfl, toNat_get16 rfl, toNat_get16 rfl]

/-- The laws of area factors. -/
theorem areaFactors_lawful :
    areaFactors.Lawful [AreaFactors.inverseField, AreaFactors.shiftField] := by
  refine .of_constant (by decide) (fun _ => rfl) (by decide) (by decide) (fun _ => rfl)
    (fun v => ?_) (fun v v' h => ?_) (fun _ => rfl) (fun _ => rfl)
  · simp only [areaFactors, AreaFactors.toWord, pack, List.foldr, UInt64.or_zero]
  · simp only [areaFactors, List.cons.injEq, Prod.mk.injEq, true_and, and_true] at h
    obtain ⟨inverse, shift⟩ := v
    obtain ⟨rfl, rfl⟩ := h
    rfl

/-- The laws of depth ranges. -/
theorem depthRange_lawful : depthRange.Lawful [DepthRange.minField, DepthRange.maxField] := by
  refine .of_constant (by decide) (fun _ => rfl) (by decide) (by decide) (fun _ => rfl)
    (fun v => ?_) (fun v v' h => ?_) (fun v => Fits.map_mod ?_) (fun word => ?_)
  · simp only [depthRange, DepthRange.toWord, pack, List.foldr, UInt64.or_zero]
  · simp only [depthRange, List.cons.injEq, Prod.mk.injEq, true_and, and_true,
      UInt16.toNat_inj] at h
    obtain ⟨least, greatest⟩ := v
    obtain ⟨rfl, rfl⟩ := h
    rfl
  · simp only [Fits, depthRange, List.forall_mem_cons]
    exact ⟨UInt16.toNat_lt _, UInt16.toNat_lt _, fun _ hpart => absurd hpart List.not_mem_nil⟩
  · simp only [depthRange, DepthRange.ofWord, List.map_cons, List.map_nil]
    rw [toNat_get16 rfl, toNat_get16 rfl]

/-- The laws of framebuffers. -/
theorem framebuffer_lawful : framebuffer.Lawful [Framebuffer.colorBaseField,
    Framebuffer.depthBaseField, Framebuffer.widthField, Framebuffer.heightField] := by
  refine .of_constant (by decide) (fun _ => rfl) (by decide) (by decide) (fun _ => rfl)
    (fun v => ?_) (fun v v' h => ?_) (fun _ => rfl) (fun _ => rfl)
  · simp only [framebuffer, Framebuffer.toWord, pack, List.foldr, UInt64.or_zero, UInt64.or_assoc]
  · simp only [framebuffer, List.cons.injEq, Prod.mk.injEq, true_and, and_true] at h
    obtain ⟨colorBase, depthBase, widthLog2, heightLog2⟩ := v
    obtain ⟨rfl, rfl, rfl, rfl⟩ := h
    rfl

/-- The laws of surfaces on display. -/
theorem displaySurface_lawful : displaySurface.Lawful [DisplaySurface.colorGradeBit,
    DisplaySurface.lineDoubleBit, DisplaySurface.tableBaseField, DisplaySurface.baseField,
    DisplaySurface.widthField] := by
  refine .of_constant (by decide) (fun _ => rfl) (by decide) (by decide) (fun _ => rfl)
    (fun v => ?_) (fun v v' h => ?_) (fun v => ?_) (fun word => ?_)
  · simp only [displaySurface, DisplaySurface.toWord, putFlag, pack, List.foldr, UInt64.or_zero,
      UInt64.or_assoc]
  · simp only [displaySurface, List.cons.injEq, Prod.mk.injEq, true_and, and_true] at h
    obtain ⟨colorGrade, lineDouble, tableBase, base, widthLog2⟩ := v
    obtain ⟨colorGrade', lineDouble', _, _, _⟩ := v'
    obtain ⟨hgrade, hdouble, rfl, rfl, rfl⟩ := h
    obtain rfl : colorGrade = colorGrade' := flag_inj hgrade
    obtain rfl : lineDouble = lineDouble' := flag_inj hdouble
    rfl
  · obtain ⟨colorGrade, lineDouble, tableBase, base, widthLog2⟩ := v
    cases colorGrade <;> cases lineDouble <;> rfl
  · simp only [displaySurface, DisplaySurface.ofWord, List.map_cons, List.map_nil]
    rw [toNat_flag rfl, toNat_flag rfl]

/-- The laws of clipping rectangles. -/
theorem scissor_lawful : scissor.Lawful
    [Scissor.xField, Scissor.yField, Scissor.widthField, Scissor.heightField] := by
  refine .of_constant (by decide) (fun _ => rfl) (by decide) (by decide) (fun _ => rfl)
    (fun v => ?_) (fun v v' h => ?_) (fun _ => rfl) (fun _ => rfl)
  · simp only [scissor, Scissor.toWord, pack, List.foldr, UInt64.or_zero, UInt64.or_assoc]
  · simp only [scissor, List.cons.injEq, Prod.mk.injEq, true_and, and_true] at h
    obtain ⟨x, y, width, height⟩ := v
    obtain ⟨rfl, rfl, rfl, rfl⟩ := h
    rfl

/-- The laws of fills. -/
theorem fill_lawful : fill.Lawful [Fill.baseField, Fill.valueField, Fill.countField] := by
  refine .of_constant (by decide) (fun _ => rfl) (by decide) (by decide) (fun _ => rfl)
    (fun v => ?_) (fun v v' h => ?_) (fun v => ?_) (fun word => ?_)
  · simp only [fill, Fill.toWord, pack, List.foldr, UInt64.or_zero, UInt64.or_assoc]
  · simp only [fill, List.cons.injEq, Prod.mk.injEq, true_and, and_true, UInt16.toNat_inj] at h
    obtain ⟨base, value, count⟩ := v
    obtain ⟨rfl, rfl, rfl⟩ := h
    rfl
  · have hvalue : v.value.toNat % Fill.valueField.size = v.value.toNat :=
      Nat.mod_eq_of_lt v.value.toNat_lt
    simp only [fill, List.map_cons, List.map_nil, hvalue]
    rfl
  · simp only [fill, Fill.ofWord, List.map_cons, List.map_nil]
    rw [toNat_get16 rfl]

/-- The fields of a drawing mode. -/
def modeFields : List BitField := [RenderMode.gouraudBit, RenderMode.depthTestBit,
  RenderMode.depthWriteBit, RenderMode.colorWriteBit, RenderMode.cullField, RenderMode.blendField,
  RenderMode.ditherBit, RenderMode.ditherPatternField, RenderMode.depthCompareField,
  RenderMode.stippleBit, RenderMode.alphaTestField, RenderMode.alphaReferenceField]

/-- Those in which every number is defined: all but culling and blending. -/
def plainFields : List BitField := [RenderMode.gouraudBit, RenderMode.depthTestBit,
  RenderMode.depthWriteBit, RenderMode.colorWriteBit, RenderMode.ditherBit,
  RenderMode.ditherPatternField, RenderMode.depthCompareField, RenderMode.stippleBit,
  RenderMode.alphaTestField, RenderMode.alphaReferenceField]

/-- Every bit of these has a meaning, -/
theorem get_plain (word : UInt64) {f : BitField} (hf : f ∈ plainFields) :
    f.get (word &&& renderMode.defined word) = f.get word := by
  apply get_and_of_full
  revert f
  unfold renderMode
  dsimp only
  split
  · split <;> decide
  · split <;> decide

/-- the last code for culling has none and means no culling, -/
theorem get_cull (word : UInt64) : RenderMode.cullField.get (word &&& renderMode.defined word)
    = (CullMode.ofCode (RenderMode.cullField.get word)).code := by
  rw [CullMode.code_ofCode _ (RenderMode.cullField.get_lt word)]
  by_cases hlast : RenderMode.cullField.get word = 3
  · have hnone : RenderMode.cullField.get (renderMode.defined word) = 0 := by
      unfold renderMode
      dsimp only
      rw [if_pos hlast]
      split <;> decide
    rw [get_and, hnone, Nat.and_zero, if_pos hlast]
  · have hfull : RenderMode.cullField.get (renderMode.defined word) = 3 := by
      unfold renderMode
      dsimp only
      rw [if_neg hlast]
      split <;> decide
    rw [get_and_of_full hfull, if_neg hlast]

/-- and the upper half of the codes for blending has none and means no blending. -/
theorem get_blend (word : UInt64) : RenderMode.blendField.get (word &&& renderMode.defined word)
    = (BlendMode.ofCode (RenderMode.blendField.get word)).code := by
  rw [BlendMode.code_ofCode _ (RenderMode.blendField.get_lt word)]
  by_cases hupper : 4 ≤ RenderMode.blendField.get word
  · have hnone : RenderMode.blendField.get (renderMode.defined word) = 0 := by
      unfold renderMode
      dsimp only
      rw [if_pos hupper]
      split <;> decide
    rw [get_and, hnone, Nat.and_zero, if_pos hupper]
  · have hfull : RenderMode.blendField.get (renderMode.defined word) = 7 := by
      unfold renderMode
      dsimp only
      rw [if_neg hupper]
      split <;> decide
    rw [get_and_of_full hfull, if_neg hupper]

/-- The numbers of a drawing mode fit if that of its dither pattern does. -/
theorem fits_renderMode {v : RenderMode} (h : v.ditherPattern < 4) : renderMode.Fits v := by
  simp only [Fits, renderMode, List.forall_mem_cons]
  exact ⟨v.gouraud.toNat_lt, v.depthTest.toNat_lt, v.depthWrite.toNat_lt, v.colorWrite.toNat_lt,
    v.cull.code_spec.1, v.blend.code_spec.1, v.dither.toNat_lt, h, v.depthCompare.code_spec.1,
    v.stipple.toNat_lt, v.alphaTest.code_spec.1, v.alphaReference.toNat_lt,
    fun _ hpart => absurd hpart List.not_mem_nil⟩

/-- The word of a drawing mode is put together from its numbers. -/
theorem toWord_renderMode (v : RenderMode) : renderMode.toWord v = pack (renderMode.parts v) := by
  simp only [renderMode, RenderMode.toWord, putFlag, pack, List.foldr, UInt64.or_zero,
    UInt64.or_assoc]

/-- The laws of drawing modes. -/
theorem renderMode_lawful : renderMode.Lawful modeFields where
  disjoint := by decide
  fields_eq _ := rfl
  toWord_eq := toWord_renderMode
  parts_inj v v' h := by
    simp only [renderMode, List.cons.injEq, Prod.mk.injEq, true_and, and_true, UInt8.toNat_inj] at h
    obtain ⟨gouraud, depthTest, depthWrite, colorWrite, cull, blending, dither, ditherPattern,
      depthCompare, stipple, alphaTest, alphaReference⟩ := v
    obtain ⟨gouraud', depthTest', depthWrite', colorWrite', cull', blending', dither', _,
      depthCompare', stipple', alphaTest', _⟩ := v'
    obtain ⟨h0, h2, h3, h4, hcull, hblend, h10, rfl, hdepth, h16, halpha, rfl⟩ := h
    obtain rfl : gouraud = gouraud' := flag_inj h0
    obtain rfl : depthTest = depthTest' := flag_inj h2
    obtain rfl : depthWrite = depthWrite' := flag_inj h3
    obtain rfl : colorWrite = colorWrite' := flag_inj h4
    obtain rfl : cull = cull' := by
      rw [← cull.code_spec.2, hcull, cull'.code_spec.2]
    obtain rfl : blending = blending' := by
      rw [← blending.code_spec.2, hblend, blending'.code_spec.2]
    obtain rfl : dither = dither' := flag_inj h10
    obtain rfl : depthCompare = depthCompare' := by
      rw [← depthCompare.code_spec.2, hdepth, depthCompare'.code_spec.2]
    obtain rfl : stipple = stipple' := flag_inj h16
    obtain rfl : alphaTest = alphaTest' := by
      rw [← alphaTest.code_spec.2, halpha, alphaTest'.code_spec.2]
    rfl
  parts_reduce v := by
    refine (fits_renderMode (Nat.mod_lt _ (by decide))).map_mod.trans ?_
    have hpattern : v.ditherPattern % 4 % RenderMode.ditherPatternField.size
        = v.ditherPattern % RenderMode.ditherPatternField.size := Nat.mod_mod _ 4
    simp only [renderMode, List.map_cons, List.map_nil, hpattern]
  parts_ofWord word := by
    have hplain := fun f (hf : f ∈ plainFields) => get_plain word hf
    simp only [plainFields, List.forall_mem_cons] at hplain
    obtain ⟨h0, h2, h3, h4, h10, h11, h13, h16, h17, h19, -⟩ := hplain
    simp only [modeFields, List.map_cons, List.map_nil, h0, h2, h3, h4, h10, h11, h13, h16, h17,
      h19, get_cull, get_blend]
    simp only [renderMode, RenderMode.ofWord]
    rw [toNat_flag rfl, toNat_flag rfl, toNat_flag rfl, toNat_flag rfl, toNat_flag rfl,
      toNat_flag rfl, toNat_get8 rfl, DepthCompare.code_ofCode _ (get_lt _ _),
      AlphaTest.code_ofCode _ (get_lt _ _)]
  defined_and word := by
    unfold renderMode
    dsimp only
    split
    · split <;> decide
    · split <;> decide
  get_defined v f hf := by
    have hd : ((renderMode.parts v).map Prod.fst).Pairwise BitField.Disjoint :=
      (by decide : modeFields.Pairwise BitField.Disjoint)
    have hparts (f : BitField) (code : Nat) (hpart : (f, code) ∈ renderMode.parts v)
        (hlt : code < f.size) : f.get (renderMode.toWord v) = code := by
      rw [toWord_renderMode, get_pack hd hpart, Nat.mod_eq_of_lt hlt]
    have hcases : f = RenderMode.cullField ∨ f = RenderMode.blendField ∨ f ∈ plainFields := by
      simp only [modeFields, plainFields, List.mem_cons] at hf ⊢
      tauto
    rcases hcases with rfl | rfl | hplain
    · have hcode : RenderMode.cullField.get (renderMode.toWord v) = v.cull.code :=
        hparts _ _ (by simp [renderMode]) v.cull.code_spec.1
      rw [get_cull, hcode, v.cull.code_spec.2]
    · have hcode : RenderMode.blendField.get (renderMode.toWord v) = v.blend.code :=
        hparts _ _ (by simp [renderMode]) v.blend.code_spec.1
      rw [get_blend, hcode, v.blend.code_spec.2]
    · exact get_plain _ hplain

/-- **Every register format is faithful.** For vertices, area factors, drawing modes, depth ranges,
framebuffers, surfaces on display, clipping rectangles and fills: a value is read back from its word
as it is if its numbers fit their fields, and otherwise with each number reduced to the width of its
own field, so that none spills over into another. Every word is written back as it is on the bits
that have a meaning, and with zeros elsewhere: on the reserved bits, and in place of a code for
culling or blending that is not defined. So what is read from a word is read again from the word that
is written for it. -/
theorem formats_faithful :
    vertexWord.Faithful ∧ areaFactors.Faithful ∧ renderMode.Faithful ∧ depthRange.Faithful
      ∧ framebuffer.Faithful ∧ displaySurface.Faithful ∧ scissor.Faithful ∧ fill.Faithful :=
  ⟨vertexWord_lawful.faithful, areaFactors_lawful.faithful, renderMode_lawful.faithful,
    depthRange_lawful.faithful, framebuffer_lawful.faithful, displaySurface_lawful.faithful,
    scissor_lawful.faithful, fill_lawful.faithful⟩

end RegisterFormat

end RasterGpu
