import RasterGpu.BitField

/-!
# Vertices in the registers

A vertex is submitted as one register word that holds its position, depth and perspective term
(`VertexWord`). Positions are in sixteenths of a pixel. A second register holds the factors that
turn edge values into barycentric weights (`AreaFactors`).
-/

namespace RasterGpu

/-- Position, depth and perspective term of a submitted vertex. -/
structure VertexWord where
  /-- Column in sixteenths of a pixel. -/
  x : Int16 := 0
  /-- Row in sixteenths of a pixel. -/
  y : Int16 := 0
  /-- Depth. -/
  z : UInt16 := 0
  /-- Perspective term, a signed fraction of one. -/
  q : Int16 := 0
  deriving DecidableEq, Repr, Inhabited

namespace VertexWord

/-- Bits 0 to 15: column. -/
def xField : BitField := .run 0 16

/-- Bits 16 to 31: row. -/
def yField : BitField := .run 16 16

/-- Bits 32 to 47: depth. -/
def zField : BitField := .run 32 16

/-- Bits 48 to 63: perspective term. -/
def qField : BitField := .run 48 16

/-- The vertex stored in a register word. -/
def ofWord (word : UInt64) : VertexWord where
  x := (UInt16.ofNat (xField.get word)).toInt16
  y := (UInt16.ofNat (yField.get word)).toInt16
  z := .ofNat (zField.get word)
  q := (UInt16.ofNat (qField.get word)).toInt16

/-- The register word that stores a vertex. -/
def toWord (v : VertexWord) : UInt64 :=
  xField.put v.x.toUInt16.toNat
    ||| yField.put v.y.toUInt16.toNat
    ||| zField.put v.z.toNat
    ||| qField.put v.q.toUInt16.toNat

/-- The vertex at a whole pixel, with the largest perspective term. Coordinates wrap around. -/
def ofPixel (x y : Int16) (z : UInt16) : VertexWord where
  x := x * 16
  y := y * 16
  z := z
  q := 0x7FFF

end VertexWord

/-- Factors that turn the edge values of a triangle into weights: an edge value is shifted right by
`shift` and multiplied by `inverse`. -/
structure AreaFactors where
  /-- Inverse of the shifted area, in units of `2 ^ -16`; zero asks for derived factors. -/
  inverse : Nat := 0
  /-- Bits dropped from an edge value. -/
  shift : Nat := 0
  deriving DecidableEq, Repr, Inhabited

namespace AreaFactors

/-- Whether the factors are to be derived from each triangle. -/
def isAutomatic (factors : AreaFactors) : Bool :=
  factors.inverse == 0

/-- Bits 0 to 15: inverse. -/
def inverseField : BitField := .run 0 16

/-- Bits 16 to 19: shift. -/
def shiftField : BitField := .run 16 4

/-- The factors stored in a register word. -/
def ofWord (word : UInt64) : AreaFactors where
  inverse := inverseField.get word
  shift := shiftField.get word

/-- The register word that stores the factors. -/
def toWord (factors : AreaFactors) : UInt64 :=
  inverseField.put factors.inverse ||| shiftField.put factors.shift

end AreaFactors

end RasterGpu
