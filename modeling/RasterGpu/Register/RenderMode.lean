import RasterGpu.BitField
import RasterGpu.Register.FragmentTest

/-!
# The render mode register

`RenderMode` is the drawing mode that a primitive carries: which writes and tests are on, how colors
are shaded and combined, and which triangles are dropped. `ofWord` reads it from a register word and
`toWord` writes it back; bits that no field names are ignored by the one and zero in the other.
-/

namespace RasterGpu

/-- Which triangles are dropped for their orientation, beside those of no or negative area, which
never draw. -/
inductive CullMode where
  /-- None further. -/
  | none
  /-- Those of negative signed area, which is none further. -/
  | clockwise
  /-- Those of positive signed area, which is all. -/
  | counterClockwise
  deriving DecidableEq, Repr, Inhabited

namespace CullMode

/-- The mode with a given two-bit code; the undefined code drops nothing. -/
def ofCode : Nat → CullMode
  | 1 => clockwise
  | 2 => counterClockwise
  | _ => none

/-- The two-bit code of a mode. -/
def code : CullMode → Nat
  | none => 0
  | clockwise => 1
  | counterClockwise => 2

/-- Whether a triangle of the given doubled signed area is dropped. -/
def drops (mode : CullMode) (doubledArea : Int) : Bool :=
  match mode with
  | none => false
  | clockwise => doubledArea < 0
  | counterClockwise => doubledArea > 0

end CullMode

/-- How a color write combines a fragment with the color already there. -/
inductive BlendMode where
  /-- The fragment replaces it. -/
  | disabled
  /-- The sum, saturating. -/
  | add
  /-- The difference, saturating. -/
  | subtract
  /-- The mean weighted by the fragment's alpha. -/
  | blend
  deriving DecidableEq, Repr, Inhabited

namespace BlendMode

/-- The mode with a given three-bit code; the undefined codes do not blend. -/
def ofCode : Nat → BlendMode
  | 1 => add
  | 2 => subtract
  | 3 => blend
  | _ => disabled

/-- The three-bit code of a mode. -/
def code : BlendMode → Nat
  | disabled => 0
  | add => 1
  | subtract => 2
  | blend => 3

end BlendMode

/-- The drawing mode of a primitive. -/
structure RenderMode where
  /-- Colors are interpolated between the vertices; otherwise the first vertex colors all. -/
  gouraud : Bool := false
  /-- Fragments are compared with the stored depth. -/
  depthTest : Bool := false
  /-- Depths are written. -/
  depthWrite : Bool := false
  /-- Colors are written. -/
  colorWrite : Bool := false
  /-- Which triangles are dropped for their orientation. -/
  cull : CullMode := .none
  /-- How colors combine with what is there. -/
  blend : BlendMode := .disabled
  /-- Colors are dithered before they lose their low bits. -/
  dither : Bool := false
  /-- Dither pattern; every selection uses the same one. -/
  ditherPattern : Nat := 0
  /-- The comparison of the depth test. -/
  depthCompare : DepthCompare := .less
  /-- Fragments have to pass the stipple mask. -/
  stipple : Bool := false
  /-- The comparison of the alpha test. -/
  alphaTest : AlphaTest := .always
  /-- The reference of the alpha test. -/
  alphaReference : UInt8 := 0
  deriving DecidableEq, Repr, Inhabited

namespace RenderMode

/-! ## Where each setting is stored -/

/-- Bit 0: interpolated colors. -/
def gouraudBit : BitField := .bit 0

/-- Bit 2: depth test. -/
def depthTestBit : BitField := .bit 2

/-- Bit 3: depth writes. -/
def depthWriteBit : BitField := .bit 3

/-- Bit 4: color writes. -/
def colorWriteBit : BitField := .bit 4

/-- Bits 5 and 6: culling. -/
def cullField : BitField := .run 5 2

/-- Bits 7 to 9: blending. -/
def blendField : BitField := .run 7 3

/-- Bit 10: dithering. -/
def ditherBit : BitField := .bit 10

/-- Bits 11 and 12: dither pattern. -/
def ditherPatternField : BitField := .run 11 2

/-- Bits 13 to 15: comparison of the depth test. -/
def depthCompareField : BitField := .run 13 3

/-- Bit 16: stipple mask. -/
def stippleBit : BitField := .bit 16

/-- Bits 17 and 18: comparison of the alpha test. -/
def alphaTestField : BitField := .run 17 2

/-- Bits 19 to 26: reference of the alpha test. -/
def alphaReferenceField : BitField := .run 19 8

/-! ## The register word -/

/-- The mode stored in a register word. -/
def ofWord (word : UInt64) : RenderMode where
  gouraud := gouraudBit.flag word
  depthTest := depthTestBit.flag word
  depthWrite := depthWriteBit.flag word
  colorWrite := colorWriteBit.flag word
  cull := .ofCode (cullField.get word)
  blend := .ofCode (blendField.get word)
  dither := ditherBit.flag word
  ditherPattern := ditherPatternField.get word
  depthCompare := .ofCode (depthCompareField.get word)
  stipple := stippleBit.flag word
  alphaTest := .ofCode (alphaTestField.get word)
  alphaReference := .ofNat (alphaReferenceField.get word)

/-- The register word that stores a mode. -/
def toWord (mode : RenderMode) : UInt64 :=
  gouraudBit.putFlag mode.gouraud
    ||| depthTestBit.putFlag mode.depthTest
    ||| depthWriteBit.putFlag mode.depthWrite
    ||| colorWriteBit.putFlag mode.colorWrite
    ||| cullField.put mode.cull.code
    ||| blendField.put mode.blend.code
    ||| ditherBit.putFlag mode.dither
    ||| ditherPatternField.put mode.ditherPattern
    ||| depthCompareField.put mode.depthCompare.code
    ||| stippleBit.putFlag mode.stipple
    ||| alphaTestField.put mode.alphaTest.code
    ||| alphaReferenceField.put mode.alphaReference.toNat

end RenderMode

namespace DepthRange

/-- Bits 0 to 15: the least depth. -/
def minField : BitField := .run 0 16

/-- Bits 16 to 31: the greatest depth. -/
def maxField : BitField := .run 16 16

/-- The depth range stored in a register word. -/
def ofWord (word : UInt64) : DepthRange where
  min := .ofNat (minField.get word)
  max := .ofNat (maxField.get word)

/-- The register word that stores a depth range. -/
def toWord (range : DepthRange) : UInt64 :=
  minField.put range.min.toNat ||| maxField.put range.max.toNat

end DepthRange

end RasterGpu
