import RasterGpu.Error
import RasterGpu.Register.Name
import RasterGpu.Register.RenderMode
import RasterGpu.Vertex

/-!
# Command scripts

A script is a list of steps for the host to take: register accesses, and waits that only concern the
host. A step's address may have eight bits; a script that addresses no register is found by
`Script.fault?`. The functions of the second half build the writes whose data a register decodes, so
that scripts can be put together from the values they mean.
-/

namespace RasterGpu

/-- A step of a script. -/
inductive ScriptStep where
  /-- Writes a register. -/
  | write (address : UInt8) (data : UInt64)
  /-- Reads a register; the answers are collected in order. -/
  | read (address : UInt8)
  /-- Waits until everything submitted is done. -/
  | waitIdle
  /-- Waits for a number of frames. -/
  | waitFrames (count : UInt32)
  deriving DecidableEq, Repr, Inhabited

/-- A list of steps. -/
structure Script where
  /-- The steps, in order. -/
  steps : List ScriptStep
  deriving DecidableEq, Repr, Inhabited

namespace ScriptStep

/-- The address of a register access. -/
def address? : ScriptStep → Option UInt8
  | write address _ => some address
  | read address => some address
  | _ => none

/-- The transaction of a register access. -/
def transaction? : ScriptStep → Option Transaction
  | write address data => some (.write (.ofNat address.toNat) data)
  | read address => some (.read (.ofNat address.toNat))
  | _ => none

end ScriptStep

namespace Script

/-- The largest register address. -/
def maxAddress : UInt8 := 0x7F

/-- The transactions of a script, waits left out. -/
def transactions (script : Script) : List Transaction :=
  script.steps.filterMap ScriptStep.transaction?

/-- The first step whose address is too large, counted from zero. -/
def fault? (script : Script) : Option GpuError :=
  script.steps.zipIdx.findSome? fun (step, index) =>
    step.address?.bind fun address =>
      if maxAddress < address then some (.invalidScript index address.toNat) else none

end Script

/-! ## Steps with a meaning -/

namespace ScriptStep

/-- Writes a word to a register. -/
def writeRegister (r : Register) (data : UInt64) : ScriptStep :=
  .write (.ofNat r.address.val) data

/-- Sets both colors of the vertices to come. -/
def setColors (color0 color1 : Rgba) : ScriptStep :=
  writeRegister .color (color0.toPacked.toUInt64 ||| color1.toPacked.toUInt64 <<< 32)

/-- Sets one color for the vertices to come. -/
def setColor (color : Rgba) : ScriptStep := setColors color color

/-- Submits a vertex at a whole pixel. -/
def submitVertex (x y : Int16) (z : UInt16) : ScriptStep :=
  writeRegister .vertex (VertexWord.ofPixel x y z).toWord

/-- Submits a vertex at a whole pixel and draws oldest, middle, newest. -/
def kick012 (x y : Int16) (z : UInt16) : ScriptStep :=
  writeRegister .kick012 (VertexWord.ofPixel x y z).toWord

/-- Submits a vertex at a whole pixel and draws oldest, newest, middle. -/
def kick021 (x y : Int16) (z : UInt16) : ScriptStep :=
  writeRegister .kick021 (VertexWord.ofPixel x y z).toWord

/-- Submits a vertex at a whole pixel and draws a rectangle. -/
def kickRectangle (x y : Int16) (z : UInt16) : ScriptStep :=
  writeRegister .kickRectangle (VertexWord.ofPixel x y z).toWord

/-- Sets the drawing mode. -/
def setRenderMode (mode : RenderMode) : ScriptStep := writeRegister .renderMode mode.toWord

/-- Sets the depths that are drawn. -/
def setDepthRange (least greatest : UInt16) : ScriptStep :=
  writeRegister .depthRange (DepthRange.toWord ⟨least, greatest⟩)

/-- Sets the surfaces that are drawn to. -/
def setFramebuffer (fb : Framebuffer) : ScriptStep := writeRegister .framebuffer fb.toWord

/-- Sets the surface on display. -/
def setDisplay (surface : DisplaySurface) : ScriptStep := writeRegister .display surface.toWord

/-- Sets the clipping rectangle. -/
def setScissor (scissor : Scissor) : ScriptStep := writeRegister .scissor scissor.toWord

/-- Fills memory. -/
def fillMemory (fill : Fill) : ScriptStep := writeRegister .fill fill.toWord

/-- Stores the frame's cycle count at a 32-bit word address. -/
def storeTimestamp (address : UInt32) : ScriptStep := writeRegister .timestamp address.toUInt64

end ScriptStep

/-! ## The boot sequence -/

/-- The surfaces that the boot sequence draws to: 512 by 512 pixels of color at the start of memory,
and of depth after it. -/
def bootFramebuffer : Framebuffer where
  colorBase := 0
  depthBase := 0x400
  widthLog2 := 9
  heightLog2 := 9

/-- What a device does before any transaction of the host: it points drawing and scanout at the boot
surfaces, opens the clipping rectangle and the depth range, turns on interpolated color writes
without depth test, and clears both surfaces. -/
def bootScript : Script where
  steps :=
    let fb := bootFramebuffer
    let words := fb.width * fb.height
    [ .setFramebuffer fb,
      .setDisplay { base := fb.colorBase, widthLog2 := fb.widthLog2 },
      .setScissor ⟨0, 0, fb.width, fb.height⟩,
      .setDepthRange 0 0xFFFF,
      .setRenderMode { gouraud := true, colorWrite := true, depthCompare := .always },
      .fillMemory ⟨fb.colorBase, 0, words⟩,
      .fillMemory ⟨fb.depthBase, 0xFFFF, words⟩ ]

end RasterGpu
