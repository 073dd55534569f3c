import RasterGpu.Transaction

/-!
# The registers

`Register` lists the registers of the device, and `Register.ofAddress?` says which of them an
address selects. Most addresses select none: writes to them are counted and ignored, and they read
as zero.
-/

namespace RasterGpu

/-- The registers of the device. -/
inductive Register where
  /-- Both colors of the next vertex. -/
  | color
  /-- Both texture coordinates of the next vertex. -/
  | texCoord
  /-- Factors from edge values to weights. -/
  | areaFactors
  /-- Submits a vertex. -/
  | vertex
  /-- Submits a vertex and draws the last three, oldest, middle, newest. -/
  | kick012
  /-- Submits a vertex and draws the last three, oldest, newest, middle. -/
  | kick021
  /-- Submits a vertex and draws the rectangle spanned by the last two. -/
  | kickRectangle
  /-- Settings of the first texture, kept for readback. -/
  | texture0
  /-- Settings of the second texture, kept for readback. -/
  | texture1
  /-- Settings of the color combiner, kept for readback. -/
  | combiner
  /-- Constant color, kept for readback. -/
  | constantColor
  /-- Drawing mode. -/
  | renderMode
  /-- Depths that are drawn. -/
  | depthRange
  /-- Stipple mask. -/
  | stipple
  /-- Surfaces that are drawn to. -/
  | framebuffer
  /-- Surface on display, from the next vertical sync on. -/
  | display
  /-- Clipping rectangle. -/
  | scissor
  /-- Fills memory. -/
  | fill
  /-- Stores the frame's cycle count in memory, and reads as it. -/
  | timestamp
  /-- Pointer of the memory window. -/
  | windowAddress
  /-- Data of the memory window. -/
  | windowData
  /-- Identifies the device. -/
  | identity
  deriving DecidableEq, Repr, Inhabited

namespace Register

/-- The address that selects a register. -/
def address : Register → Address
  | color => 0x00
  | texCoord => 0x01
  | areaFactors => 0x05
  | vertex => 0x06
  | kick012 => 0x07
  | kick021 => 0x08
  | kickRectangle => 0x09
  | texture0 => 0x10
  | texture1 => 0x11
  | combiner => 0x18
  | constantColor => 0x19
  | renderMode => 0x30
  | depthRange => 0x31
  | stipple => 0x32
  | framebuffer => 0x40
  | display => 0x41
  | scissor => 0x43
  | fill => 0x44
  | timestamp => 0x50
  | windowAddress => 0x70
  | windowData => 0x71
  | identity => 0x7F

/-- The register that an address selects, if any. -/
def ofAddress? (address : Address) : Option Register :=
  match address.val with
  | 0x00 => some color
  | 0x01 => some texCoord
  | 0x05 => some areaFactors
  | 0x06 => some vertex
  | 0x07 => some kick012
  | 0x08 => some kick021
  | 0x09 => some kickRectangle
  | 0x10 => some texture0
  | 0x11 => some texture1
  | 0x18 => some combiner
  | 0x19 => some constantColor
  | 0x30 => some renderMode
  | 0x31 => some depthRange
  | 0x32 => some stipple
  | 0x40 => some framebuffer
  | 0x41 => some display
  | 0x43 => some scissor
  | 0x44 => some fill
  | 0x50 => some timestamp
  | 0x70 => some windowAddress
  | 0x71 => some windowData
  | 0x7F => some identity
  | _ => none

/-- A register is selected by its own address. -/
theorem ofAddress?_address (r : Register) : ofAddress? r.address = some r := by
  cases r <;> rfl

/-- An address that selects a register is that register's own. -/
theorem address_of_ofAddress? : ∀ {a : Address} {r : Register}, ofAddress? a = some r →
    r.address = a := by
  decide

end Register

/-- The word in the identity register. -/
def deviceIdentity : UInt64 := 0x0A006702

end RasterGpu
