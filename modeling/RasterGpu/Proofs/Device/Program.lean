import RasterGpu.Proofs.Drawing.Reference
import RasterGpu.RegisterFile

/-!
# The device as a program

What a stream of transactions does to memory if each is finished before the next begins, and what it
answers. The register file executes them as it does in the device; a primitive is drawn at once with
the drawing state of its kick, by `DrawEvent.render`, and a memory command is carried out at once.

* `Fill.apply` and `MemoryCommand.apply` say what commands do to memory.
* `Sequential` is the state of the program, `Sequential.step` one transaction and `Sequential.run`
  a stream.
-/

namespace RasterGpu

/-- Writes a value to a run of words, one after the other. -/
def Fill.apply (fill : Fill) (m : Sdram) : Sdram :=
  (List.range fill.count).foldl (fun m i => m.write (surfaceStart fill.base + i) fill.value) m

/-- Carries out a memory command. -/
def MemoryCommand.apply (m : Sdram) : MemoryCommand → Sdram
  | store dword value => m.store (4 * dword) (dwordWords value)
  | readAhead _ => m
  | timestamp address cycles => m.store (2 * address) (timestampWords cycles)
  | fill f => f.apply m

/-- Draws a primitive. -/
def DrawEvent.apply (event : DrawEvent) (m : Sdram) : Sdram :=
  (event.render ⟨[], m⟩).memory

/-- The state of the program. -/
structure Sequential where
  /-- The register file. -/
  registers : RegisterFile := {}
  /-- The memory. -/
  memory : Sdram
  /-- The answers to reads, oldest first. -/
  responses : List UInt64 := []

namespace Sequential

/-- Executes a transaction to its end. -/
def step (s : Sequential) (t : Transaction) : Sequential :=
  let (registers, effects) := s.registers.process t
  let memory := effects.commands.foldl MemoryCommand.apply s.memory
  { registers
    memory := effects.draw.elim memory (·.apply memory)
    responses := s.responses ++ effects.response.toList }

/-- The memory after a transaction. -/
theorem memory_step (s : Sequential) (t : Transaction) :
    (s.step t).memory
      = (s.registers.process t).2.draw.elim
          ((s.registers.process t).2.commands.foldl MemoryCommand.apply s.memory)
          (·.apply ((s.registers.process t).2.commands.foldl MemoryCommand.apply s.memory)) := rfl

/-- The answers after a transaction. -/
theorem responses_step (s : Sequential) (t : Transaction) :
    (s.step t).responses = s.responses ++ (s.registers.process t).2.response.toList := rfl

/-- Executes transactions, one after the other. -/
def run (s : Sequential) (stream : List Transaction) : Sequential :=
  stream.foldl step s

/-- The last transaction is executed last. -/
theorem run_concat (s : Sequential) (stream : List Transaction) (t : Transaction) :
    s.run (stream ++ [t]) = (s.run stream).step t := by
  rw [run, List.foldl_append]
  rfl

end Sequential

end RasterGpu
