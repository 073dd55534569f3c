import RasterGpu.Color
import RasterGpu.Memory.Sdram

/-!
# Images

An image is a list of pixels, row by row. It is what a surface in memory looks like, and what can be
written to a file.
-/

namespace RasterGpu

/-- A picture of `width` by `height` pixels. -/
structure Image where
  /-- Pixels in a row. -/
  width : Nat
  /-- Number of rows. -/
  height : Nat
  /-- The pixels, row by row. -/
  pixels : List Rgba
  deriving DecidableEq, Repr, Inhabited

namespace Image

/-- The picture in the words from an address on. -/
def ofMemory (m : Sdram) (address width height : Nat) : Image where
  width := width
  height := height
  pixels := (m.fetch address (width * height)).map Rgba.ofRgb565

/-- The channels red, green and blue of every pixel. -/
def bytes (image : Image) : List UInt8 :=
  image.pixels.flatMap fun c => [c.r, c.g, c.b]

end Image

end RasterGpu
