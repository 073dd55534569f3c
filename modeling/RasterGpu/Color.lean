/-!
# Colors

Colors have eight bits per channel inside the device and are stored in memory as 16-bit RGB565
words. This file holds the color type and its two word formats: the packed form of the registers,
red in the lowest byte and alpha in the highest, and the RGB565 form of surfaces, which drops alpha
and the low bits of each channel.
-/

namespace RasterGpu

/-- A color with eight bits per channel. -/
structure Rgba where
  /-- Red. -/
  r : UInt8
  /-- Green. -/
  g : UInt8
  /-- Blue. -/
  b : UInt8
  /-- Alpha, the coverage of the color. -/
  a : UInt8
  deriving DecidableEq, Repr, Inhabited

namespace Rgba

/-- The color with every channel zero. -/
def zero : Rgba := ⟨0, 0, 0, 0⟩

/-- The color packed in a 32-bit word, red in the lowest byte. -/
def ofPacked (word : UInt32) : Rgba where
  r := word.toUInt8
  g := (word >>> 8).toUInt8
  b := (word >>> 16).toUInt8
  a := (word >>> 24).toUInt8

/-- Packs a color into a 32-bit word, red in the lowest byte. -/
def toPacked (c : Rgba) : UInt32 :=
  c.r.toUInt32 ||| c.g.toUInt32 <<< 8 ||| c.b.toUInt32 <<< 16 ||| c.a.toUInt32 <<< 24

/-- The RGB565 word of a color: each channel loses its low bits, and alpha is dropped. -/
def toRgb565 (c : Rgba) : UInt16 :=
  (c.r.toUInt16 >>> 3) <<< 11 ||| (c.g.toUInt16 >>> 2) <<< 5 ||| c.b.toUInt16 >>> 3

/-- The opaque color of an RGB565 word. Each channel fills its missing low bits with its own high
bits, so that the largest channel value becomes 255. -/
def ofRgb565 (word : UInt16) : Rgba :=
  let r := (word >>> 11 &&& 0x1F).toUInt8
  let g := (word >>> 5 &&& 0x3F).toUInt8
  let b := (word &&& 0x1F).toUInt8
  ⟨r <<< 3 ||| r >>> 2, g <<< 2 ||| g >>> 4, b <<< 3 ||| b >>> 2, 0xFF⟩

end Rgba

end RasterGpu
