import RasterGpu.Color
import RasterGpu.Geometry.Triangle
import RasterGpu.Register.RenderMode

/-!
# Fragment arithmetic

What happens to the color and the depth of a single pixel: attributes are interpolated between the
vertices of a triangle, a color is combined with the one already on the surface, and an ordered
dither offsets it before it loses its low bits.
-/

namespace RasterGpu

/-- The color and depth that a primitive gives to a pixel. -/
structure Fragment where
  /-- Color. -/
  color : Rgba
  /-- Depth. -/
  depth : UInt16
  deriving DecidableEq, Repr, Inhabited

/-! ## Interpolation -/

/-- The attribute between three vertex values, limited to `0 … high`. It is the first value plus the
weighted differences of the others from it, so that equal values stay as they are whatever the
rounding of the weights. Weights are limited to `0 … 1`. -/
def interpolate (values weights : Triple Int) (high : Int) : Int :=
  let w1 := clamp 0 weightOne weights.v1
  let w2 := clamp 0 weightOne weights.v2
  let delta := w1 * (values.v1 - values.v0) + w2 * (values.v2 - values.v0)
  clamp 0 high (values.v0 + delta >>> (16 : Nat))

/-- The color between three vertex colors, channel by channel. -/
def interpolateColor (colors : Triple Rgba) (weights : Triple Int) : Rgba :=
  let channel (f : Rgba → UInt8) : UInt8 :=
    .ofNat (interpolate (colors.map fun c => ((f c).toNat : Int)) weights 255).toNat
  ⟨channel Rgba.r, channel Rgba.g, channel Rgba.b, channel Rgba.a⟩

/-- The depth between three vertex depths. -/
def interpolateDepth (depths : Triple UInt16) (weights : Triple Int) : UInt16 :=
  .ofNat (interpolate (depths.map fun z => (z.toNat : Int)) weights 0xFFFF).toNat

/-! ## Blending -/

/-- Combines one channel of a source color, whose alpha is `a`, with the destination. -/
def BlendMode.mix (mode : BlendMode) (a s d : Nat) : Nat :=
  match mode with
  | .disabled => s
  | .add => min (s + d) 255
  | .subtract => s - d
  | .blend => (s * a + d * (255 - a) + 127) / 255

/-- Combines a source color with the destination; the source keeps its alpha. -/
def BlendMode.apply (mode : BlendMode) (source destination : Rgba) : Rgba :=
  let channel (f : Rgba → UInt8) : UInt8 :=
    .ofNat (mode.mix source.a.toNat (f source).toNat (f destination).toNat)
  ⟨channel Rgba.r, channel Rgba.g, channel Rgba.b, source.a⟩

/-! ## Dithering -/

/-- The ordered dither threshold of a pixel, from a pattern of four by four, row by row. -/
def ditherThreshold (px py : Int) : Nat :=
  let pattern : Vector Nat 16 := #v[0, 8, 2, 10, 12, 4, 14, 6, 3, 11, 1, 9, 15, 7, 13, 5]
  pattern.get ⟨((py % 4) * 4 + px % 4).toNat % 16, Nat.mod_lt _ (by decide)⟩

/-- Offsets a color by the dither threshold of its pixel, scaled to the bits that each channel is
about to lose: three of red and blue, two of green. -/
def ditherColor (c : Rgba) (px py : Int) : Rgba :=
  let threshold := ditherThreshold px py
  let raise (channel : UInt8) (offset : Nat) : UInt8 := .ofNat (min (channel.toNat + offset) 255)
  { r := raise c.r (threshold / 2)
    g := raise c.g (threshold / 4)
    b := raise c.b (threshold / 2)
    a := c.a }

end RasterGpu
