import RasterGpu.BitField

/-!
# Surfaces and rectangles in the registers

The registers name surfaces in memory by a base, counted in units of 256 words, and by dimensions
that are powers of two: the target of drawing (`Framebuffer`), the surface on display
(`DisplaySurface`), the clipping rectangle of drawing (`Scissor`) and a run of memory to be filled
(`Fill`). Numbers may be wider than the bits a register has for them; a register word stores them
reduced to its width.
-/

namespace RasterGpu

/-- Number of memory words in one unit of a surface base. -/
def wordsPerBaseUnit : Nat := 256

/-- First word address of the surface with the given base. -/
def surfaceStart (base : Nat) : Nat :=
  base * wordsPerBaseUnit

/-! ## The target of drawing -/

/-- The color and depth surfaces that primitives are drawn to. Both have the same dimensions, and a
row is as long as the surface is wide. -/
structure Framebuffer where
  /-- Base of the color surface. -/
  colorBase : Nat := 0
  /-- Base of the depth surface. -/
  depthBase : Nat := 0
  /-- Binary logarithm of the width. -/
  widthLog2 : Nat := 0
  /-- Binary logarithm of the height. -/
  heightLog2 : Nat := 0
  deriving DecidableEq, Repr, Inhabited

namespace Framebuffer

/-- Pixels in a row. -/
def width (fb : Framebuffer) : Nat := 1 <<< fb.widthLog2

/-- Number of rows. -/
def height (fb : Framebuffer) : Nat := 1 <<< fb.heightLog2

/-- Bits 0 to 15: base of the color surface. -/
def colorBaseField : BitField := .run 0 16

/-- Bits 16 to 31: base of the depth surface. -/
def depthBaseField : BitField := .run 16 16

/-- Bits 32 to 35: width. -/
def widthField : BitField := .run 32 4

/-- Bits 36 to 39: height. -/
def heightField : BitField := .run 36 4

/-- The surfaces stored in a register word. -/
def ofWord (word : UInt64) : Framebuffer where
  colorBase := colorBaseField.get word
  depthBase := depthBaseField.get word
  widthLog2 := widthField.get word
  heightLog2 := heightField.get word

/-- The register word that stores the surfaces. -/
def toWord (fb : Framebuffer) : UInt64 :=
  colorBaseField.put fb.colorBase
    ||| depthBaseField.put fb.depthBase
    ||| widthField.put fb.widthLog2
    ||| heightField.put fb.heightLog2

end Framebuffer

/-! ## The surface on display -/

/-- The surface that scanout shows. Its height is what the video timing asks for. -/
structure DisplaySurface where
  /-- Pixels are meant to pass a color table; scanout carries the setting and does not act on it. -/
  colorGrade : Bool := false
  /-- Each row is shown on two lines. -/
  lineDouble : Bool := false
  /-- Base of the color table. -/
  tableBase : Nat := 0
  /-- Base of the surface. -/
  base : Nat := 0
  /-- Binary logarithm of the width. -/
  widthLog2 : Nat := 0
  deriving DecidableEq, Repr, Inhabited

namespace DisplaySurface

/-- Pixels in a row. -/
def width (surface : DisplaySurface) : Nat := 1 <<< surface.widthLog2

/-- Number of rows that a frame of `lines` lines shows. -/
def rows (surface : DisplaySurface) (lines : Nat) : Nat :=
  if surface.lineDouble then (lines + 1) / 2 else lines

/-- Bit 0: color table. -/
def colorGradeBit : BitField := .bit 0

/-- Bit 1: line doubling. -/
def lineDoubleBit : BitField := .bit 1

/-- Bits 16 to 31: base of the color table. -/
def tableBaseField : BitField := .run 16 16

/-- Bits 32 to 47: base of the surface. -/
def baseField : BitField := .run 32 16

/-- Bits 48 to 51: width. -/
def widthField : BitField := .run 48 4

/-- The surface stored in a register word. -/
def ofWord (word : UInt64) : DisplaySurface where
  colorGrade := colorGradeBit.flag word
  lineDouble := lineDoubleBit.flag word
  tableBase := tableBaseField.get word
  base := baseField.get word
  widthLog2 := widthField.get word

/-- The register word that stores a surface. -/
def toWord (surface : DisplaySurface) : UInt64 :=
  colorGradeBit.putFlag surface.colorGrade
    ||| lineDoubleBit.putFlag surface.lineDouble
    ||| tableBaseField.put surface.tableBase
    ||| baseField.put surface.base
    ||| widthField.put surface.widthLog2

end DisplaySurface

/-! ## The clipping rectangle -/

/-- The rectangle that drawing is clipped to: the pixels `(px, py)` with `x ≤ px < x + width` and
`y ≤ py < y + height`. -/
structure Scissor where
  /-- Leftmost column. -/
  x : Nat := 0
  /-- Topmost row. -/
  y : Nat := 0
  /-- Number of columns. -/
  width : Nat := 0
  /-- Number of rows. -/
  height : Nat := 0
  deriving DecidableEq, Repr, Inhabited

namespace Scissor

/-- Bits 0 to 9: leftmost column. -/
def xField : BitField := .run 0 10

/-- Bits 10 to 19: topmost row. -/
def yField : BitField := .run 10 10

/-- Bits 20 to 29: number of columns. -/
def widthField : BitField := .run 20 10

/-- Bits 30 to 39: number of rows. -/
def heightField : BitField := .run 30 10

/-- The rectangle stored in a register word. -/
def ofWord (word : UInt64) : Scissor where
  x := xField.get word
  y := yField.get word
  width := widthField.get word
  height := heightField.get word

/-- The register word that stores a rectangle. -/
def toWord (scissor : Scissor) : UInt64 :=
  xField.put scissor.x
    ||| yField.put scissor.y
    ||| widthField.put scissor.width
    ||| heightField.put scissor.height

end Scissor

/-! ## Filling memory -/

/-- A run of memory words to be set to one value. -/
structure Fill where
  /-- Base of the run. -/
  base : Nat := 0
  /-- The value. -/
  value : UInt16 := 0
  /-- Number of words. -/
  count : Nat := 0
  deriving DecidableEq, Repr, Inhabited

namespace Fill

/-- Bits 0 to 15: base of the run. -/
def baseField : BitField := .run 0 16

/-- Bits 16 to 31: the value. -/
def valueField : BitField := .run 16 16

/-- Bits 32 to 51: number of words. -/
def countField : BitField := .run 32 20

/-- The fill stored in a register word. -/
def ofWord (word : UInt64) : Fill where
  base := baseField.get word
  value := .ofNat (valueField.get word)
  count := countField.get word

/-- The register word that stores a fill. -/
def toWord (fill : Fill) : UInt64 :=
  baseField.put fill.base ||| valueField.put fill.value.toNat ||| countField.put fill.count

end Fill

end RasterGpu
