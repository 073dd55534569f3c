import RasterGpu.Memory.Arbiter
import RasterGpu.Memory.Sdram

/-!
# The memory bus

A bus is the arbiter with the memory behind it and a record of the writes performed. It is what a
component sees when it works without the rest of the device: `Bus.drive` advances the bus and one
component on it by a cycle.
-/

namespace RasterGpu

/-- An arbiter, its memory, and the words written so far. -/
structure Bus where
  /-- The arbiter. -/
  arbiter : Arbiter := {}
  /-- The memory. -/
  memory : Sdram
  /-- The words written, oldest first, each with its address. -/
  writes : Array (Nat × UInt16) := #[]

namespace Bus

/-- The words that a request writes, each with its address. -/
def wordsOf : Request → List (Nat × UInt16)
  | .write address data =>
    data.zipIdx.map fun (word, index) => ((address + index) % addressSpace, word)
  | .read .. => []

/-- Advances by a cycle. -/
def tick (b : Bus) : Bus :=
  let ⟨arbiter, memory, writes⟩ := b
  let writes := match arbiter.due? with
    | some grant => writes.appendList (wordsOf grant.request)
    | none => writes
  let (arbiter, memory) := arbiter.tick memory
  ⟨arbiter, memory, writes⟩

/-- Submits a request and tells whether it was taken. -/
def submit (b : Bus) (client : Client) (request : Request) : Bus × Bool :=
  match b.arbiter.submit? client request with
  | some arbiter => ({ b with arbiter }, true)
  | none => (b, false)

/-- Collects the response for a client. -/
def take (b : Bus) (client : Client) : Bus × Option Response :=
  match b.arbiter.take? client with
  | some (response, arbiter) => ({ b with arbiter }, some response)
  | none => (b, none)

/-- Forgets the words written so far. -/
def forget (b : Bus) : Bus := { b with writes := #[] }

variable {σ : Type}

/-- Advances the bus by a cycle and then a component on it. -/
def drive (step : σ → Arbiter → σ × Arbiter) : σ × Bus → σ × Bus := fun (component, bus) =>
  let ⟨arbiter, memory, writes⟩ := bus.tick
  let (component, arbiter) := step component arbiter
  (component, ⟨arbiter, memory, writes⟩)

/-- Drives a component until a condition holds, `limit` times at most. Returns how often, added to
`count`. -/
def driveUntil (step : σ → Arbiter → σ × Arbiter) (done : σ × Bus → Bool) :
    (limit count : Nat) → σ × Bus → (σ × Bus) × Nat
  | 0, count, s => (s, count)
  | limit + 1, count, s =>
    if done s then (s, count) else driveUntil step done limit (count + 1) (drive step s)

end Bus

end RasterGpu
