import RasterGpu.CommandQueue
import RasterGpu.Memory.Engine
import RasterGpu.Memory.Sdram
import RasterGpu.RegisterFile
import RasterGpu.Scanout.Display

/-!
# Configurations

A configuration fixes the sizes, latencies and policies of a device for its lifetime. Every setting
has a default. Not every combination describes a device: `Config.fault?` finds the first thing that
is wrong with one.
-/

namespace RasterGpu

/-- The sizes, latencies and policies of a device. -/
structure Config where
  /-- Transactions that fit into the command queue. -/
  commandCapacity : Nat := CommandQueue.defaultCapacity
  /-- Margin at which the command queue is nearly full. -/
  commandMargin : Nat := CommandQueue.defaultMargin
  /-- The command queue holds the boot sequence at reset. -/
  bootSequence : Bool := true
  /-- Words of memory. -/
  memoryWords : Nat := Sdram.defaultSize
  /-- Cycles between a grant and its data. -/
  memoryLatency : Nat := Sdram.defaultLatency
  /-- How the memory is shared. -/
  arbiterPolicy : ArbiterPolicy := .fixedPriority
  /-- What becomes of a staged display surface when another follows it. -/
  swapPolicy : SwapPolicy := .lastWriteWins
  /-- Commands that the memory engine can hold. -/
  engineCapacity : Nat := MemoryEngine.defaultCapacity
  /-- Words that the scanout buffer can hold. -/
  scanoutCapacity : Nat := Prefetcher.defaultCapacity
  /-- Words of a scanout burst. -/
  scanoutBurst : Nat := Prefetcher.defaultBurst
  /-- Video timing. -/
  timing : VideoTiming := {}
  deriving DecidableEq, Repr, Inhabited

/-- What can be wrong with a configuration. -/
inductive ConfigFault where
  /-- The command queue has no room. -/
  | noCommandSlot
  /-- There is no memory. -/
  | noMemory
  /-- The memory engine cannot hold the two commands of one transaction. -/
  | engineTooShallow
  /-- The scanout buffer cannot hold a burst, or a burst has no words. -/
  | scanoutTooShallow
  /-- There is no pixel clock. -/
  | noPixelClock
  /-- Nothing is visible. -/
  | nothingVisible
  deriving DecidableEq, Repr, Inhabited

/-- The fault in words. -/
def ConfigFault.message : ConfigFault → String
  | noCommandSlot => "fifo_capacity must be at least 1"
  | noMemory => "memory_words must be at least 1"
  | engineTooShallow => "aux_queue_depth must be at least 2"
  | scanoutTooShallow => "scanout_fifo_words must hold at least one scanout burst"
  | noPixelClock => "display.core_clocks_per_pixel must be at least 1"
  | nothingVisible => "display active area must not be empty"

/-- The first thing that is wrong with a configuration. -/
def Config.fault? (c : Config) : Option ConfigFault :=
  if c.commandCapacity = 0 then some .noCommandSlot
  else if c.memoryWords = 0 then some .noMemory
  else if c.engineCapacity < 2 then some .engineTooShallow
  else if c.scanoutBurst = 0 ∨ c.scanoutCapacity < c.scanoutBurst then some .scanoutTooShallow
  else if c.timing.clocksPerPixel = 0 then some .noPixelClock
  else if c.timing.horizontal.active = 0 ∨ c.timing.vertical.active = 0 then some .nothingVisible
  else none

/-- A configuration without fault. -/
def Config.IsValid (c : Config) : Prop := c.fault? = none

instance (c : Config) : Decidable c.IsValid :=
  inferInstanceAs (Decidable (c.fault? = none))

end RasterGpu
