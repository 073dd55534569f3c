import RasterGpu.Image
import RasterGpu.Rasterizer.Basic
import RasterGpu.Script.Basic

/-!
# The device

The device owns all components and advances them together, one core cycle at a time. In a cycle the
arbiter goes first, then the display, whose vertical sync edge clocks the register file, then the
rasterizer and the memory engine, and last the command stage, which gives the register file at most
one transaction.

The command stage waits while the rasterizer is busy, a fill is under way, a display surface is
staged under the blocking policy, the memory engine has no room for the commands of a transaction,
or a read of the memory window has no value yet. Waiting transactions stay in the command queue.
-/

namespace RasterGpu

/-- The device. -/
structure Gpu where
  /-- The configuration it was built from. -/
  config : Config
  /-- Transactions from the host. -/
  commands : CommandQueue
  /-- Register file. -/
  registers : RegisterFile
  /-- Rasterizer. -/
  rasterizer : Rasterizer
  /-- A primitive that the rasterizer has not taken yet. -/
  held : Option DrawEvent
  /-- The last primitive that the rasterizer has taken. -/
  lastDraw : Option DrawEvent
  /-- Memory engine. -/
  engine : MemoryEngine
  /-- Memory arbiter. -/
  arbiter : Arbiter
  /-- Memory. -/
  memory : Sdram
  /-- Display. -/
  display : Display
  /-- Answers to reads that were not collected yet. -/
  responses : Queue UInt64
  /-- The last pixel lay in the vertical sync pulse. -/
  vsync : Bool
  /-- Vertical sync edges since reset. -/
  frames : Nat
  /-- Cycles since reset. -/
  cycles : Nat
  /-- Cycles in which a transaction waited. -/
  stallCycles : Nat

/-- The counters of all components. -/
structure GpuStats where
  /-- Cycles since reset. -/
  cycles : Nat
  /-- Cycles in which a transaction waited. -/
  stallCycles : Nat
  /-- Counters of the register file. -/
  registers : RegisterStats
  /-- Counters of all finished primitives. -/
  rasterizer : RasterStats
  /-- Counters of the memory engine. -/
  engine : EngineStats
  /-- Counters of the display. -/
  display : DisplayStats
  /-- Grants given to each client of the memory. -/
  grants : PerClient Nat
  deriving DecidableEq, Repr

namespace Gpu

/-- The command queue of a configuration. -/
def commandQueue (config : Config) : CommandQueue :=
  let boot := if config.bootSequence then bootScript.transactions else []
  (CommandQueue.withBoot config.commandCapacity boot).setMargin config.commandMargin

/-- The display of a configuration. -/
def displayOf (config : Config) : Display :=
  .ofTiming config.timing config.scanoutCapacity config.scanoutBurst

/-- The device of a configuration, with its memory zero. -/
def ofConfig (config : Config) : Gpu where
  config := config
  commands := commandQueue config
  registers := { policy := config.swapPolicy }
  rasterizer := {}
  held := none
  lastDraw := none
  engine := .ofCapacity config.engineCapacity
  arbiter := { policy := config.arbiterPolicy }
  memory := .zeroed config.memoryWords config.memoryLatency
  display := displayOf config
  responses := .empty
  vsync := false
  frames := 0
  cycles := 0
  stallCycles := 0

/-- The device of a configuration, if it describes one. -/
def build (config : Config) : Except GpuError Gpu :=
  match config.fault? with
  | some fault => .error (.invalidConfig fault)
  | none => .ok (ofConfig config)

/-- Brings every component back to its state at reset. Memory keeps its contents, and the boot
sequence is queued again. -/
def reset (g : Gpu) : Gpu :=
  { g with
    commands := g.commands.reset
    registers := g.registers.reset
    rasterizer := {}
    held := none
    lastDraw := none
    engine := g.engine.reset
    arbiter := g.arbiter.reset
    display := displayOf g.config
    responses := .empty
    vsync := false
    frames := 0
    cycles := 0
    stallCycles := 0 }

/-! ## The command stage -/

/-- Gives a primitive to the rasterizer, or holds it until the rasterizer takes it. -/
def draw (g : Gpu) (event : DrawEvent) : Gpu :=
  match g.rasterizer.accept? event with
  | some rasterizer => { g with rasterizer, lastDraw := some event }
  | none => { g with held := some event }

/-- Whether the device cannot take a transaction in this cycle, whatever it is. -/
def isGated (g : Gpu) : Bool :=
  g.rasterizer.isBusy || g.held.isSome || g.engine.isFilling || g.registers.isSwapBlocked
    || !g.engine.hasRoom 2

/-- Executes a transaction and passes its effects on. -/
def execute (g : Gpu) (t : Transaction) : Gpu :=
  let (registers, effects) := g.registers.process t
  let g := { g with
    registers
    engine := effects.commands.foldl (fun engine c => (engine.push? c).getD engine) g.engine
    responses := effects.response.elim g.responses g.responses.push }
  effects.draw.elim g g.draw

/-- The command stage: tries again to draw a held primitive, or else executes the oldest transaction
unless something makes it wait. -/
def dispatch (g : Gpu) : Gpu :=
  match g.held with
  | some event =>
    let g := { g with held := none }.draw event
    if g.commands.isEmpty then g else { g with stallCycles := g.stallCycles + 1 }
  | none =>
    match g.commands.pop? with
    | none => g
    | some (t, commands) =>
      if g.isGated || !g.registers.canProcess t then
        { g with stallCycles := g.stallCycles + 1 }
      else
        { g with commands }.execute t

/-! ## Cycles -/

/-- Advances by one core cycle, which may emit a pixel. -/
def tick (g : Gpu) : Gpu × Option Pixel :=
  let ⟨config, commands, registers, rasterizer, held, lastDraw, engine, arbiter, memory, display,
    responses, vsync, frames, cycles, stallCycles⟩ := g
  let (arbiter, memory) := arbiter.tick memory
  let (display, arbiter, pixel) := display.tick arbiter registers.display
  let edge := pixel.any (·.signals.vsyncEdge)
  let registers := registers.clock edge
  let (rasterizer, arbiter) := rasterizer.tick arbiter
  let (engine, arbiter) := engine.tick arbiter
  let (engine, registers) :=
    match engine.takeFetched? with
    | some (value, engine) => (engine, registers.completeReadAhead value)
    | none => (engine, registers)
  let g : Gpu :=
    { config, commands, registers, rasterizer, held, lastDraw, engine, arbiter, memory, display
      responses, stallCycles
      vsync := pixel.elim vsync (·.signals.vsync)
      frames := if edge then frames + 1 else frames
      cycles := cycles + 1 }
  (g.dispatch, pixel)

/-- Advances by one core cycle, whatever it emits. -/
def next (g : Gpu) : Gpu := g.tick.1

/-- Whether everything submitted is done. Scanout goes on and does not count. -/
def isIdle (g : Gpu) : Bool :=
  g.commands.isEmpty && g.held.isNone && !g.rasterizer.isBusy && g.engine.isIdle
    && !g.arbiter.isPending .engine && !g.arbiter.isGranted .engine

/-! ## What the host sees -/

/-- Offers a transaction to the command queue. -/
def offer (g : Gpu) (t : Transaction) : Gpu × Bool :=
  let (commands, taken) := g.commands.offer t
  ({ g with commands }, taken)

/-- Takes as many transactions as fit from a host link, and tells how many. -/
def drainHost (g : Gpu) (link : Queue Transaction) : Gpu × Queue Transaction × Nat :=
  let (commands, link, count) := g.commands.drain link
  ({ g with commands }, link, count)

/-- Collects the oldest answer. -/
def takeResponse? (g : Gpu) : Option (UInt64 × Gpu) :=
  g.responses.pop?.map fun (value, responses) => (value, { g with responses })

/-- Collects all answers, oldest first. -/
def drainResponses (g : Gpu) : List UInt64 × Gpu :=
  (g.responses.toList, { g with responses := .empty })

/-- The word that a register reads as, past the command queue. -/
def peek (g : Gpu) (address : Address) : UInt64 := g.registers.peek address

/-- The counters of all components. -/
def stats (g : Gpu) : GpuStats where
  cycles := g.cycles
  stallCycles := g.stallCycles
  registers := g.registers.stats
  rasterizer := g.rasterizer.totals
  engine := g.engine.stats
  display := g.display.stats
  grants := g.arbiter.grants

/-- The surface on display, as many rows as a frame shows. -/
def picture (g : Gpu) : Image :=
  let surface := g.registers.display
  .ofMemory g.memory (surfaceStart surface.base) surface.width (g.display.rowsPerFrame surface)

/-! ## Status outputs -/

/-- The status outputs of the device. -/
structure Status where
  /-- The command queue is nearly full. -/
  nearlyFull : Bool
  /-- The command queue is empty. -/
  empty : Bool
  /-- The display is in vertical sync. -/
  vsync : Bool
  /-- A primitive is being drawn or waits. -/
  drawing : Bool
  /-- A display surface is staged. -/
  swapPending : Bool
  /-- A fill waits or is being written. -/
  filling : Bool
  deriving DecidableEq, Repr

/-- The status outputs now. -/
def status (g : Gpu) : Status where
  nearlyFull := g.commands.isNearlyFull
  empty := g.commands.isEmpty
  vsync := g.vsync
  drawing := g.rasterizer.isBusy || g.held.isSome
  swapPending := g.registers.staged.isSome
  filling := g.engine.isFilling

/-- The status outputs as a word, the first in the lowest bit. -/
def Status.toWord (s : Status) : Nat :=
  s.nearlyFull.toNat + 2 * s.empty.toNat + 4 * s.vsync.toNat + 8 * s.drawing.toNat
    + 16 * s.swapPending.toNat + 32 * s.filling.toNat

end Gpu

end RasterGpu
