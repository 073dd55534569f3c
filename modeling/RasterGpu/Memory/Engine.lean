import RasterGpu.Memory.Arbiter
import RasterGpu.Memory.Command
import RasterGpu.Queue

/-!
# The memory engine

The memory engine executes memory commands in the order it was given them, through the slot of
lowest priority. It has at most one request at the arbiter; a fill is cut into bursts, and the
command after it starts when its last burst is done.
-/

namespace RasterGpu

/-- Words written by one burst of a fill. -/
def fillBurstWords : Nat := 64

/-- What the engine's outstanding request is for. -/
inductive EngineRequest where
  /-- A write of any kind. -/
  | store
  /-- A read for the memory window. -/
  | readAhead
  deriving DecidableEq, Repr, Inhabited

/-- What is left of a fill. -/
structure FillProgress where
  /-- Address of the next word. -/
  address : Nat
  /-- Words still to be written. -/
  remaining : Nat
  /-- The value. -/
  value : UInt16
  deriving DecidableEq, Repr, Inhabited

/-- What the engine has done. -/
structure EngineStats where
  /-- Words written. -/
  wordsWritten : Nat := 0
  /-- Words read. -/
  wordsRead : Nat := 0
  /-- Fills of at least one word. -/
  fillsCompleted : Nat := 0
  deriving DecidableEq, Repr, Inhabited

/-- The memory engine. -/
structure MemoryEngine where
  /-- Commands not started. -/
  queue : Queue MemoryCommand := .empty
  /-- Commands that the queue can hold. -/
  capacity : Nat
  /-- The request at the arbiter. -/
  outstanding : Option EngineRequest := none
  /-- The fill being written. -/
  fill : Option FillProgress := none
  /-- A value fetched for the memory window and not collected yet. -/
  fetched : Option UInt64 := none
  /-- What was done. -/
  stats : EngineStats := {}

namespace MemoryEngine

/-- Commands that the default engine can hold. -/
def defaultCapacity : Nat := 8

/-- An engine at rest that can hold `capacity` commands, at least two. -/
def ofCapacity (capacity : Nat) : MemoryEngine := { capacity := max capacity 2 }

/-- The engine at rest, of the same capacity. -/
def reset (e : MemoryEngine) : MemoryEngine := { capacity := e.capacity }

/-- Whether `n` more commands fit. -/
def hasRoom (e : MemoryEngine) (n : Nat) : Bool :=
  e.queue.size + n ≤ e.capacity

/-- Takes a command, if it fits. -/
def push? (e : MemoryEngine) (command : MemoryCommand) : Option MemoryEngine :=
  if e.queue.size < e.capacity then
    some { e with queue := e.queue.push command }
  else
    none

/-- A fill waits or is being written. -/
def isFilling (e : MemoryEngine) : Bool :=
  e.fill.isSome || e.queue.any MemoryCommand.isFill

/-- Nothing waits and nothing is under way. -/
def isIdle (e : MemoryEngine) : Bool :=
  e.queue.isEmpty && e.outstanding.isNone && e.fill.isNone

/-- Collects the value fetched for the memory window. -/
def takeFetched? (e : MemoryEngine) : Option (UInt64 × MemoryEngine) :=
  e.fetched.map fun value => (value, { e with fetched := none })

/-! ## Cycles -/

/-- Presents a request at the arbiter and counts the words of a write. -/
def issue (e : MemoryEngine) (a : Arbiter) (kind : EngineRequest) (request : Request) :
    MemoryEngine × Arbiter :=
  let e := match kind with
    | .store => { e with stats.wordsWritten := e.stats.wordsWritten + request.beats }
    | .readAhead => e
  match a.submit? .engine request with
  | some a => ({ e with outstanding := some kind }, a)
  | none => (e, a)

/-- Starts the oldest command. -/
def start (e : MemoryEngine) (a : Arbiter) : MemoryEngine × Arbiter :=
  match e.queue.pop? with
  | none => (e, a)
  | some (command, queue) =>
    let e := { e with queue }
    match command with
    | .store dword value => e.issue a .store (.write (4 * dword) (dwordWords value))
    | .readAhead dword => e.issue a .readAhead (.read (4 * dword) 4)
    | .timestamp address cycles => e.issue a .store (.write (2 * address) (timestampWords cycles))
    | .fill fill =>
      if fill.count = 0 then
        (e, a)
      else
        ({ e with fill := some ⟨surfaceStart fill.base, fill.count, fill.value⟩ }, a)

/-- Goes on with the fill being written, or starts the oldest command. -/
def advance (e : MemoryEngine) (a : Arbiter) : MemoryEngine × Arbiter :=
  if a.isFree .engine then
    match e.fill with
    | none => e.start a
    | some progress =>
      if progress.remaining = 0 then
        { e with fill := none, stats.fillsCompleted := e.stats.fillsCompleted + 1 }.start a
      else
        let count := min progress.remaining fillBurstWords
        let fill := some { progress with
          address := (progress.address + count) % addressSpace
          remaining := progress.remaining - count }
        { e with fill }.issue a .store
          (.write progress.address (.replicate count progress.value))
  else
    (e, a)

/-- Takes in the response to the outstanding request. -/
def collect (e : MemoryEngine) (kind : EngineRequest) (response : Response) : MemoryEngine :=
  match kind with
  | .store => { e with outstanding := none }
  | .readAhead =>
    { e with
      outstanding := none
      fetched := some (dwordOfWords response.data)
      stats.wordsRead := e.stats.wordsRead + response.data.length }

/-- Advances by one cycle: waits for the outstanding response, then goes on. -/
def tick (e : MemoryEngine) (a : Arbiter) : MemoryEngine × Arbiter :=
  match e.outstanding with
  | none => e.advance a
  | some kind =>
    match a.take? .engine with
    | none => (e, a)
    | some (response, a) => (e.collect kind response).advance a

end MemoryEngine

end RasterGpu
