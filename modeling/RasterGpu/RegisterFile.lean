import RasterGpu.Draw
import RasterGpu.Memory.Command
import RasterGpu.Register.Name

/-!
# The register file

The register file executes one transaction at a time. It keeps the words written to the registers of
drawing state, assembles vertices, and turns an access into effects on the rest of the device: a
primitive to draw, commands to the memory engine, the answer to a read.

A register of drawing state is kept twice: the word as it was written, for reading back, and what it
stands for, decoded at the write, for the vertices and primitives to come.

Three registers are more than a word. A write to the display register is staged and takes effect at
the next vertical sync. The timestamp register reads as the cycles since the last vertical sync. The
memory window reads ahead: each access to its pointer or its data asks for the dword that the next
read returns, and of the values that come back only the one asked for last is kept.
-/

namespace RasterGpu

/-- What becomes of a staged display surface when another follows it. -/
inductive SwapPolicy where
  /-- The later one replaces it. -/
  | lastWriteWins
  /-- No transaction is executed until the staged one has taken effect. -/
  | blockUntilVsync
  deriving DecidableEq, Repr, Inhabited

/-- The value that the memory window has read ahead. -/
inductive ReadAhead where
  /-- None was asked for. -/
  | empty
  /-- It was asked for and has not come back. -/
  | pending
  /-- It has come back. -/
  | ready (value : UInt64)
  deriving DecidableEq, Repr, Inhabited

/-- What a transaction asks of the rest of the device. -/
structure Effects where
  /-- A primitive to be drawn. -/
  draw : Option DrawEvent := none
  /-- Commands to the memory engine, in order. -/
  commands : List MemoryCommand := []
  /-- The answer to a read. -/
  response : Option UInt64 := none
  deriving DecidableEq, Repr, Inhabited

/-- What was executed. -/
structure RegisterStats where
  /-- Writes. -/
  writes : Nat := 0
  /-- Reads. -/
  reads : Nat := 0
  /-- Vertices submitted. -/
  vertices : Nat := 0
  /-- Primitives kicked. -/
  draws : Nat := 0
  /-- Writes to addresses that cannot be written. -/
  ignoredWrites : Nat := 0
  deriving DecidableEq, Repr, Inhabited

/-- The words of the registers that read back as written. -/
structure RegisterWords where
  /-- Colors of the next vertex. -/
  color : UInt64 := 0
  /-- Texture coordinates of the next vertex. -/
  texCoord : UInt64 := 0
  /-- Factors from edge values to weights. -/
  areaFactors : UInt64 := 0
  /-- Settings of the first texture. -/
  texture0 : UInt64 := 0
  /-- Settings of the second texture. -/
  texture1 : UInt64 := 0
  /-- Settings of the color combiner. -/
  combiner : UInt64 := 0
  /-- Constant color. -/
  constantColor : UInt64 := 0
  /-- Drawing mode. -/
  renderMode : UInt64 := 0
  /-- Depths that are drawn: all of them at reset. -/
  depthRange : UInt64 := 0xFFFF0000
  /-- Stipple mask: every pixel at reset. -/
  stipple : UInt64 := 0xFFFFFFFFFFFFFFFF
  /-- Surfaces that are drawn to. -/
  framebuffer : UInt64 := 0
  /-- Surface on display or staged for it. -/
  display : UInt64 := 0
  /-- Clipping rectangle: 1023 columns and rows at reset. -/
  scissor : UInt64 := 0xFFFFF00000
  deriving DecidableEq, Repr, Inhabited

/-- The largest cycle count. -/
def maxFrameCycles : Nat := UInt32.size - 1

/-- Number of dwords that the memory window can point to. -/
def windowDwords : Nat := 1 <<< 22

/-- Number of 32-bit words that a timestamp can be stored in. -/
def timestampWordCount : Nat := 1 <<< 23

/-- The register file. -/
structure RegisterFile where
  /-- Policy for staged display surfaces. -/
  policy : SwapPolicy := .lastWriteWins
  /-- The registers that read back as written. -/
  words : RegisterWords := {}
  /-- The attributes that the next vertex takes. -/
  attributes : Attributes := {}
  /-- The state that a primitive kicked now is drawn with. -/
  drawState : DrawState := {}
  /-- Recent vertices. -/
  ring : VertexRing := {}
  /-- Surface on display. -/
  display : DisplaySurface := {}
  /-- Surface that goes on display at the next vertical sync. -/
  staged : Option DisplaySurface := none
  /-- Cycles since the last vertical sync. -/
  frameCycles : Nat := 0
  /-- Dword that the memory window points to. -/
  window : Nat := 0
  /-- Value read ahead for the memory window. -/
  readAhead : ReadAhead := .empty
  /-- Read-aheads asked for that have not come back. -/
  readAheads : Nat := 0
  /-- What was executed. -/
  stats : RegisterStats := {}
  deriving DecidableEq, Repr

namespace RegisterFile

/-- The register file at reset, with the same policy. -/
def reset (regs : RegisterFile) : RegisterFile := { policy := regs.policy }

/-! ## What the registers read as -/

/-- The value in the memory window: zero unless a read-ahead has come back. -/
def windowValue (regs : RegisterFile) : UInt64 :=
  match regs.readAhead with
  | .ready value => value
  | _ => 0

/-- The word that an address reads as, without the effects of reading it. -/
def peek (regs : RegisterFile) (address : Address) : UInt64 :=
  match Register.ofAddress? address with
  | some .color => regs.words.color
  | some .texCoord => regs.words.texCoord
  | some .areaFactors => regs.words.areaFactors
  | some .texture0 => regs.words.texture0
  | some .texture1 => regs.words.texture1
  | some .combiner => regs.words.combiner
  | some .constantColor => regs.words.constantColor
  | some .renderMode => regs.words.renderMode
  | some .depthRange => regs.words.depthRange
  | some .stipple => regs.words.stipple
  | some .framebuffer => regs.words.framebuffer
  | some .display => regs.words.display
  | some .scissor => regs.words.scissor
  | some .timestamp => .ofNat regs.frameCycles
  | some .windowAddress => .ofNat regs.window
  | some .windowData => regs.windowValue
  | some .identity => deviceIdentity
  | _ => 0

/-- A staged display surface keeps transactions from being executed. -/
def isSwapBlocked (regs : RegisterFile) : Bool :=
  regs.policy == .blockUntilVsync && regs.staged.isSome

/-- Whether a transaction can be executed in this cycle: not while a staged display surface forbids
it, and a read of the memory window not before its value has come back. -/
def canProcess (regs : RegisterFile) (t : Transaction) : Bool :=
  !regs.isSwapBlocked && !(t == .read Register.windowData.address && regs.readAhead == .pending)

/-! ## Cycles -/

/-- Advances by one cycle. At a vertical sync the cycle count starts again and the staged display
surface takes effect. -/
def clock (regs : RegisterFile) (vsyncEdge : Bool) : RegisterFile :=
  if vsyncEdge then
    { regs with
      frameCycles := 0
      display := regs.staged.getD regs.display
      staged := none }
  else
    { regs with frameCycles := min (regs.frameCycles + 1) maxFrameCycles }

/-- Takes in the value of the oldest outstanding read-ahead. It is kept only if no later one is
outstanding. -/
def completeReadAhead (regs : RegisterFile) (value : UInt64) : RegisterFile :=
  if regs.readAheads ≤ 1 then
    { regs with readAheads := 0, readAhead := .ready value }
  else
    { regs with readAheads := regs.readAheads - 1 }

/-! ## Transactions -/

/-- Moves the memory window to a dword and asks for its value. -/
def moveWindow (regs : RegisterFile) (dword : Nat) : RegisterFile :=
  { regs with
    window := dword % windowDwords
    readAhead := .pending
    readAheads := regs.readAheads + 1 }

/-- Latches a vertex with the attributes in force. -/
def submitVertex (regs : RegisterFile) (data : UInt64) : RegisterFile :=
  { regs with
    ring := regs.ring.push ⟨.ofWord data, regs.attributes⟩
    stats.vertices := regs.stats.vertices + 1 }

/-- Emits a primitive with the drawing state in force. -/
def kick (regs : RegisterFile) (primitive : Primitive) : RegisterFile × Effects :=
  ({ regs with stats.draws := regs.stats.draws + 1 },
    { draw := some ⟨primitive, regs.drawState⟩ })

/-- Executes a write to a register. -/
def writeRegister (regs : RegisterFile) (r : Register) (data : UInt64) : RegisterFile × Effects :=
  match r with
  | .color =>
    ({ regs with words.color := data, attributes := regs.attributes.setColors data }, {})
  | .texCoord =>
    ({ regs with words.texCoord := data, attributes := regs.attributes.setTexCoords data }, {})
  | .areaFactors => ({ regs with words.areaFactors := data, drawState.area := .ofWord data }, {})
  | .texture0 => ({ regs with words.texture0 := data }, {})
  | .texture1 => ({ regs with words.texture1 := data }, {})
  | .combiner => ({ regs with words.combiner := data }, {})
  | .constantColor => ({ regs with words.constantColor := data }, {})
  | .renderMode => ({ regs with words.renderMode := data, drawState.mode := .ofWord data }, {})
  | .depthRange =>
    ({ regs with words.depthRange := data, drawState.depthRange := .ofWord data }, {})
  | .stipple => ({ regs with words.stipple := data, drawState.stipple := ⟨data⟩ }, {})
  | .framebuffer =>
    ({ regs with words.framebuffer := data, drawState.framebuffer := .ofWord data }, {})
  | .scissor => ({ regs with words.scissor := data, drawState.scissor := .ofWord data }, {})
  | .display => ({ regs with words.display := data, staged := some (.ofWord data) }, {})
  | .vertex => (regs.submitVertex data, {})
  | .kick012 =>
    let regs := regs.submitVertex data
    regs.kick (.triangle ⟨regs.ring.recent 2, regs.ring.recent 1, regs.ring.recent 0⟩ .order012)
  | .kick021 =>
    let regs := regs.submitVertex data
    regs.kick (.triangle ⟨regs.ring.recent 2, regs.ring.recent 0, regs.ring.recent 1⟩ .order021)
  | .kickRectangle =>
    let regs := regs.submitVertex data
    regs.kick (.rectangle (regs.ring.recent 1) (regs.ring.recent 0))
  | .fill => (regs, { commands := [.fill (.ofWord data)] })
  | .timestamp =>
    (regs, { commands := [.timestamp (data.toNat % timestampWordCount) regs.frameCycles] })
  | .windowAddress =>
    let regs := regs.moveWindow data.toNat
    (regs, { commands := [.readAhead regs.window] })
  | .windowData =>
    let written := MemoryCommand.store regs.window data
    let regs := regs.moveWindow (regs.window + 1)
    (regs, { commands := [written, .readAhead regs.window] })
  | .identity =>
    ({ regs with stats.ignoredWrites := regs.stats.ignoredWrites + 1 }, {})

/-- Executes a transaction. -/
def process (regs : RegisterFile) : Transaction → RegisterFile × Effects
  | .write address data =>
    let regs := { regs with stats.writes := regs.stats.writes + 1 }
    match Register.ofAddress? address with
    | some r => regs.writeRegister r data
    | none => ({ regs with stats.ignoredWrites := regs.stats.ignoredWrites + 1 }, {})
  | .read address =>
    let regs := { regs with stats.reads := regs.stats.reads + 1 }
    let value := regs.peek address
    if address = Register.windowData.address then
      let regs := regs.moveWindow (regs.window + 1)
      (regs, { commands := [.readAhead regs.window], response := some value })
    else
      (regs, { response := some value })

end RegisterFile

end RasterGpu
