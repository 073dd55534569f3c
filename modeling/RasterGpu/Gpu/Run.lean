import RasterGpu.Gpu.Basic

/-!
# Running the device

Runs of many cycles: a fixed number of them, until a condition holds or a budget is used up, until a
number of frames has passed, until a transaction is taken, and through the steps of a script.
-/

namespace RasterGpu

namespace Gpu

/-- Runs a number of cycles. -/
def run : (cycles : Nat) → Gpu → Gpu
  | 0, g => g
  | cycles + 1, g => run cycles g.next

/-- Runs until a condition holds, for a budget of cycles at most. Tells whether it held in the
end. -/
@[specialize] def runUntil (done : Gpu → Bool) : (budget : Nat) → Gpu → Gpu × Bool
  | 0, g =>
    let held := done g
    (g, held)
  | budget + 1, g => if done g then (g, true) else runUntil done budget g.next

/-- Runs until the device is idle, for a budget of cycles at most. Tells how many it took. -/
def runUntilIdle (budget : Nat) (g : Gpu) : Gpu × Except GpuError Nat :=
  let before := g.cycles
  let (g, idle) := runUntil isIdle budget g
  let spent := g.cycles - before
  (g, if idle then .ok spent else .error (.timeout budget))

/-- Runs until `count` more vertical sync edges have passed. With a vertical sync pulse every frame
brings one, so that the budget of one frame more is never used up. Without a pulse none ever comes:
the device itself has no budget here, it waits for ever. The budget and the error stand for that; they
make the run a function and are not part of what the device does. -/
def runFrames (count : Nat) (g : Gpu) : Gpu × Except GpuError Unit :=
  let target := g.frames + count
  let budget := (count + 1) * g.config.timing.cyclesPerFrame
  let (g, passed) := runUntil (fun g => target ≤ g.frames) budget g
  (g, if passed then .ok () else .error .noFrame)

/-- Offers a transaction again after each cycle, `retries` times at most. -/
def offerUntilTaken (t : Transaction) : (retries : Nat) → Gpu → Gpu × Bool
  | 0, g =>
    let (g, taken) := g.offer t
    if taken then (g, true) else (g.next, false)
  | retries + 1, g =>
    let (g, taken) := g.offer t
    if taken then (g, true) else offerUntilTaken t retries g.next

/-- Submits a transaction: offers it until it is taken, with one cycle after each refusal. It is
offered once more than the budget has cycles. -/
def submit (t : Transaction) (budget : Nat) (g : Gpu) : Gpu × Except GpuError Unit :=
  let (g, taken) := offerUntilTaken t budget g
  (g, if taken then .ok () else .error (.timeout budget))

end Gpu

/-! ## Running a script -/

/-- Cycles that each wait of a script may take. -/
def waitBudget : Nat := 50000000

/-- What a script brought in. -/
structure ScriptOutcome where
  /-- The answers to its reads, in order. -/
  reads : List UInt64
  /-- The cycles it took. -/
  cycles : Nat
  deriving DecidableEq, Repr, Inhabited

/-- Takes a step. -/
def ScriptStep.run (step : ScriptStep) (g : Gpu) : Gpu × Except GpuError Unit :=
  match step with
  | waitIdle =>
    let (g, result) := g.runUntilIdle waitBudget
    (g, result.map fun _ => ())
  | waitFrames count => g.runFrames count.toNat
  | write address data => g.submit (.write (.ofNat address.toNat) data) waitBudget
  | read address => g.submit (.read (.ofNat address.toNat)) waitBudget

/-- Takes steps one after the other, up to the first that fails. After each, the answers that have
come are added to those collected before. -/
def runSteps : List ScriptStep → (reads : List UInt64) → Gpu → Gpu × Except GpuError (List UInt64)
  | [], reads, g => (g, .ok reads)
  | step :: rest, reads, g =>
    match step.run g with
    | (g, .error e) => (g, .error e)
    | (g, .ok ()) =>
      let (new, g) := g.drainResponses
      runSteps rest (reads ++ new) g

/-- Runs a script: takes its steps and waits until the device is idle. -/
def Script.run (script : Script) (g : Gpu) : Gpu × Except GpuError ScriptOutcome :=
  let before := g.cycles
  match runSteps (script.steps ++ [.waitIdle]) [] g with
  | (g, .error e) => (g, .error e)
  | (g, .ok reads) =>
    let spent := g.cycles - before
    (g, .ok ⟨reads, spent⟩)

end RasterGpu
