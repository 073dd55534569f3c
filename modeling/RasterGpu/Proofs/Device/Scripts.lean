import RasterGpu.Proofs.Device.Budget

/-!
# Scripts

Running a script is made of a few things that a host does over and over: it offers a transaction,
lets a cycle pass, and collects the answers that have come. How many cycles pass depends on the
device, since its queue may be full; what is delivered does not.

* `Script.calls` is the list of these calls. `Audit.Leads` tells where calls lead to and what they
  have handed over meanwhile; running a script leads where its calls lead (`Audit.leads_steps`).
* `Audit.Serves` is what the account of any device shows that is kept since some moment: what waited
  in the queue then is processed first, and answers come in the order of the reads.
* While nothing is accepted that depends on the clock, any steps keep a device in line with the
  program that executes the transactions one after the other (`Audit.Steps.tracks`). So what waits
  do to the timing does not show (`Gpu.Orderly.script_eq_program`).

`Gpu.Reachable.scripts_deliver` is the theorem on scripts that succeed.
-/

namespace RasterGpu

namespace Audit

/-! ## Where calls lead to -/

/-- A call lets a cycle pass. -/
def Call.isTick : Call → Bool
  | tick => true
  | _ => false

variable {x : Audit} {calls calls' : List Call} {g g' : Gpu} {more more' : List Transaction}
  {new new' : List UInt64}

/-- Calls lead to the device `g`. Meanwhile the transactions `more` were accepted and the answers
`new` were collected. -/
structure Leads (x : Audit) (calls : List Call) (g : Gpu) (more : List Transaction)
    (new : List UInt64) : Prop where
  /-- The calls are steps. -/
  steps : x.Steps (x.run calls)
  /-- The device. -/
  device : (x.run calls).device = g
  /-- The transactions. -/
  accepted : (x.run calls).account.accepted = x.account.accepted ++ more
  /-- The answers. -/
  collected : (x.run calls).account.collected = x.account.collected ++ new
  /-- The cycles that have passed. -/
  cycles : g.cycles = x.device.cycles + calls.countP Call.isTick

/-- No call leads anywhere else. -/
theorem leads_nil (x : Audit) : x.Leads [] x.device [] [] where
  steps := .refl
  device := rfl
  accepted := (List.append_nil _).symm
  collected := (List.append_nil _).symm
  cycles := rfl

/-- Calls after calls. -/
theorem Leads.append (h : x.Leads calls g more new)
    (h' : (x.run calls).Leads calls' g' more' new') :
    x.Leads (calls ++ calls') g' (more ++ more') (new ++ new') := by
  have hrun : x.run (calls ++ calls') = (x.run calls).run calls' := List.foldl_append
  constructor
  · rw [hrun]
    exact h.steps.trans h'.steps
  · rw [hrun]
    exact h'.device
  · rw [hrun, h'.accepted, h.accepted, List.append_assoc]
  · rw [hrun, h'.collected, h.collected, List.append_assoc]
  · rw [h'.cycles, h.device, h.cycles, List.countP_append, Nat.add_assoc]

/-- A cycle. -/
theorem leads_tick (x : Audit) : x.Leads [.tick] x.device.next [] [] := by
  obtain ⟨haccepted, hcollected⟩ := x.host_tick
  exact
    { steps := .single .tick
      device := x.device_tick
      accepted := haccepted.trans (List.append_nil _).symm
      collected := hcollected.trans (List.append_nil _).symm
      cycles := x.device.next_cycles }

/-- A transaction is offered. -/
theorem leads_offer (x : Audit) (t : Transaction) :
    x.Leads [.offer t] (x.device.offer t).1 (if (x.device.offer t).2 then [t] else []) [] where
  steps := .single (x.offer_step t)
  device := rfl
  accepted := by
    change (x.offer t).1.account.accepted = _
    unfold offer
    dsimp only
    split
    · rfl
    · exact (List.append_nil _).symm
  collected := (List.append_nil _).symm
  cycles := rfl

/-- All answers are collected. -/
theorem leads_drain (x : Audit) :
    x.Leads [.drainResponses] x.device.drainResponses.2 [] x.device.responses.toList where
  steps := .single (.collect (List.append_nil _).symm)
  device := rfl
  accepted := (List.append_nil _).symm
  collected := rfl
  cycles := rfl

end Audit

/-! ## The calls of a script -/

namespace Gpu

/-- The calls that wait for a condition. -/
def waitCalls (done : Gpu → Bool) : (budget : Nat) → Gpu → List Audit.Call
  | 0, _ => []
  | budget + 1, g => if done g then [] else .tick :: waitCalls done budget g.next

/-- The calls that offer a transaction until it is taken. -/
def offerCalls (t : Transaction) : (retries : Nat) → Gpu → List Audit.Call
  | 0, g => if (g.offer t).2 then [.offer t] else [.offer t, .tick]
  | retries + 1, g =>
    if (g.offer t).2 then [.offer t]
    else .offer t :: .tick :: offerCalls t retries (g.offer t).1.next

end Gpu

/-- The calls of a step. -/
def ScriptStep.calls (step : ScriptStep) (g : Gpu) : List Audit.Call :=
  match step with
  | waitIdle => g.waitCalls Gpu.isIdle waitBudget
  | waitFrames count =>
    let target := g.frames + count.toNat
    let budget := (count.toNat + 1) * g.config.timing.cyclesPerFrame
    g.waitCalls (fun g => target ≤ g.frames) budget
  | write address data => g.offerCalls (.write (.ofNat address.toNat) data) waitBudget
  | read address => g.offerCalls (.read (.ofNat address.toNat)) waitBudget

/-- The calls of steps, up to the first that fails. After each that succeeds the answers are
collected. -/
def stepCalls : List ScriptStep → Gpu → List Audit.Call
  | [], _ => []
  | step :: rest, g =>
    step.calls g ++ match step.run g with
      | (_, .error _) => []
      | (g, .ok ()) => .drainResponses :: stepCalls rest g.drainResponses.2

/-- The calls of a script. -/
def Script.calls (script : Script) (g : Gpu) : List Audit.Call :=
  stepCalls (script.steps ++ [.waitIdle]) g

namespace Audit

variable {x x' : Audit} {config : Config}

/-- Waiting for a condition. -/
theorem leads_waitCalls (done : Gpu → Bool) (budget : Nat) (x : Audit) :
    x.Leads (x.device.waitCalls done budget) (x.device.runUntil done budget).1 [] [] := by
  induction budget generalizing x with
  | zero => exact x.leads_nil
  | succ budget ih =>
    unfold Gpu.waitCalls Gpu.runUntil
    cases done x.device with
    | true => exact x.leads_nil
    | false =>
      have hrest := ih x.tick
      rw [device_tick] at hrest
      exact x.leads_tick.append hrest

/-- A transaction that is taken when it is offered. -/
theorem leads_offer_of_taken {t : Transaction} (ht : (x.device.offer t).2 = true) :
    x.Leads [.offer t] (x.device.offer t).1 [t] [] := by
  have hoffer := x.leads_offer t
  rw [if_pos ht] at hoffer
  exact hoffer

/-- A transaction that is refused when it is offered, and the cycle after it. -/
theorem leads_offer_of_refused {t : Transaction} (ht : (x.device.offer t).2 = false) :
    x.Leads [.offer t, .tick] (x.device.offer t).1.next [] [] := by
  have hoffer := x.leads_offer t
  rw [ht, if_neg Bool.false_ne_true] at hoffer
  exact hoffer.append (x.offer t).1.leads_tick

/-- Offering a transaction until it is taken. -/
theorem leads_offerCalls (t : Transaction) (retries : Nat) (x : Audit) :
    x.Leads (x.device.offerCalls t retries) (x.device.offerUntilTaken t retries).1
      (if (x.device.offerUntilTaken t retries).2 then [t] else []) [] := by
  induction retries generalizing x with
  | zero =>
    unfold Gpu.offerCalls Gpu.offerUntilTaken
    by_cases ht : (x.device.offer t).2 = true
    · simp only [ht, if_true]
      exact leads_offer_of_taken ht
    · rw [Bool.not_eq_true] at ht
      simp only [ht, Bool.false_eq_true, if_false]
      exact leads_offer_of_refused ht
  | succ retries ih =>
    unfold Gpu.offerCalls Gpu.offerUntilTaken
    by_cases ht : (x.device.offer t).2 = true
    · simp only [ht, if_true]
      exact leads_offer_of_taken ht
    · rw [Bool.not_eq_true] at ht
      simp only [ht, Bool.false_eq_true, if_false]
      have hrest := ih (x.offer t).1.tick
      rw [device_tick] at hrest
      exact (leads_offer_of_refused ht).append hrest

/-- **A step that succeeds** has delivered its transaction, if it has one. -/
theorem leads_step (step : ScriptStep) (x : Audit) :
    x.Leads (step.calls x.device) (step.run x.device).1
      (if (step.run x.device).2.isOk then step.transaction?.toList else []) [] := by
  have hwait (done : Gpu → Bool) (budget : Nat) (more : List Transaction) (hmore : more = []) :
      x.Leads (x.device.waitCalls done budget) (x.device.runUntil done budget).1 more [] := by
    rw [hmore]
    exact leads_waitCalls done budget x
  have hsubmit (t : Transaction) : x.Leads (x.device.offerCalls t waitBudget)
      (x.device.submit t waitBudget).1
      (if (x.device.submit t waitBudget).2.isOk then [t] else []) [] := by
    have htaken : (x.device.submit t waitBudget).2.isOk
        = (x.device.offerUntilTaken t waitBudget).2 := by
      unfold Gpu.submit
      dsimp only
      cases (x.device.offerUntilTaken t waitBudget).2 <;> rfl
    rw [htaken]
    exact leads_offerCalls t waitBudget x
  cases step with
  | waitIdle => exact hwait _ _ _ (ite_self _)
  | waitFrames count => exact hwait _ _ _ (ite_self _)
  | write address data => exact hsubmit _
  | read address => exact hsubmit _

/-- **Steps that all succeed** have delivered their transactions, and have brought in the answers
that were collected meanwhile. -/
theorem leads_steps (steps : List ScriptStep) (reads : List UInt64) (x : Audit) :
    ∃ more new, x.Leads (stepCalls steps x.device) (runSteps steps reads x.device).1 more new
      ∧ ∀ all, (runSteps steps reads x.device).2 = .ok all →
          more = steps.filterMap ScriptStep.transaction? ∧ all = reads ++ new := by
  induction steps generalizing reads x with
  | nil =>
    refine ⟨[], [], x.leads_nil, ?_⟩
    intro all hall
    rw [List.append_nil]
    exact ⟨rfl, (Except.ok.inj hall).symm⟩
  | cons step steps ih =>
    have hstep := leads_step step x
    unfold stepCalls runSteps
    cases hrun : step.run x.device with
    | mk g result =>
      rw [hrun] at hstep
      cases result with
      | error e =>
        refine ⟨[], [], ?_, ?_⟩
        · dsimp only
          rw [List.append_nil]
          exact hstep
        · intro all hall
          cases hall
      | ok u =>
        let y := x.run (step.calls x.device)
        have hy : y.device = g := hstep.device
        have hdrain := y.leads_drain
        obtain ⟨more, new, hrest, hall⟩ := ih (reads ++ g.responses.toList)
          (y.run [.drainResponses])
        rw [hdrain.device, hy] at hrest hall
        rw [hy] at hdrain
        refine ⟨step.transaction?.toList ++ more, g.responses.toList ++ new,
          hstep.append (hdrain.append hrest), ?_⟩
        intro all hok
        obtain ⟨hmore, hnew⟩ := hall all hok
        constructor
        · rw [hmore, List.filterMap_cons]
          cases step.transaction? <;> rfl
        · rw [hnew, List.append_assoc]

end Audit

namespace Gpu

variable {g : Gpu}

/-- A wait for the device to be idle that succeeds leaves it idle. -/
theorem idle_of_waitIdle {g' : Gpu} (h : ScriptStep.waitIdle.run g = (g', .ok ())) :
    g'.isIdle = true := by
  have hrun : ScriptStep.waitIdle.run g
      = ((g.runUntilIdle waitBudget).1, (g.runUntilIdle waitBudget).2.map fun _ => ()) := rfl
  rw [hrun, runUntilIdle_eq] at h
  cases hfirst : firstWithin isIdle waitBudget g with
  | none =>
    rw [hfirst] at h
    obtain ⟨-, hresult⟩ := Prod.mk.inj h
    cases hresult
  | some n =>
    rw [hfirst] at h
    obtain ⟨rfl, -⟩ := Prod.mk.inj h
    obtain ⟨-, hidle, -⟩ := firstWithin_eq_some_iff.1 hfirst
    exact hidle

/-- A script that succeeds leaves the device idle, with all answers collected. -/
theorem idle_of_runSteps {steps : List ScriptStep} {reads all : List UInt64}
    (h : (runSteps (steps ++ [.waitIdle]) reads g).2 = .ok all) :
    (runSteps (steps ++ [.waitIdle]) reads g).1.isIdle = true
      ∧ (runSteps (steps ++ [.waitIdle]) reads g).1.responses.toList = [] := by
  induction steps generalizing reads g with
  | nil =>
    rw [List.nil_append] at h ⊢
    unfold runSteps at h ⊢
    cases hrun : ScriptStep.waitIdle.run g with
    | mk g' result =>
      rw [hrun] at h
      cases result with
      | error e => cases h
      | ok u =>
        have hidle : g'.isIdle = true := idle_of_waitIdle hrun
        exact ⟨hidle, rfl⟩
  | cons step steps ih =>
    rw [List.cons_append] at h ⊢
    unfold runSteps at h ⊢
    cases hrun : step.run g with
    | mk g' result =>
      rw [hrun] at h
      cases result with
      | error e => cases h
      | ok u => exact ih h

end Gpu

/-! ## What is delivered -/

namespace Audit

variable {x x' : Audit} {queued : List Transaction} {waiting : List UInt64}

/-- What an account shows that was begun when the transactions `queued` were in the command queue
and the answers `waiting` had not been collected. -/
structure Serves (queued : List Transaction) (waiting : List UInt64) (x : Audit) : Prop where
  /-- No primitive is held. -/
  held : x.device.held = none
  /-- What was processed and what waits is what waited then and what was accepted since, in this
  order. -/
  stream : x.account.processed.map Prod.fst ++ x.device.commands.entries.toList
    = queued ++ x.account.accepted
  /-- What was collected and what waits to be are the answers of then and those to what was
  processed since, in order. -/
  answers : x.account.collected ++ x.device.responses.toList
    = waiting ++ x.account.processed.filterMap (·.2.response)
  /-- Reads are answered, once each, and nothing else is. -/
  reads : ∀ p ∈ x.account.processed, p.2.response.isSome = p.1.isRead

/-- An account that has just been begun. -/
theorem serves_start {g : Gpu} (hheld : g.held = none) :
    Serves g.commands.entries.toList g.responses.toList { device := g } where
  held := hheld
  stream := (List.append_nil _).symm
  answers := (List.append_nil _).symm
  reads _ hp := absurd hp List.not_mem_nil

/-- A cycle. -/
theorem Serves.tick (h : x.Serves queued waiting) : x.tick.Serves queued waiting := by
  obtain ⟨haccepted, hcollected⟩ := x.host_tick
  cases tick_cases h.held with
  | rest stallCycles hd ha =>
    refine ⟨?_, ?_, ?_, ?_⟩
    · rw [hd]
      exact h.held
    · rw [hd, ha]
      exact h.stream
    · rw [hd, ha]
      exact h.answers
    · rw [ha]
      exact h.reads
  | @execute t commands hq ho hp hx hprocessed =>
    refine ⟨hx.held.trans h.held, ?_, ?_, ?_⟩
    · rw [hx.commands, hprocessed, haccepted, ← h.stream, hq, List.map_append, List.append_assoc]
      rfl
    · have hlist : x.tick.device.responses.toList = x.device.responses.toList
          ++ (x.device.settled.registers.process t).2.response.toList := hx.toList_responses
      rw [hlist, hcollected, hprocessed, filterMap_concat, ← List.append_assoc, h.answers,
        List.append_assoc]
    · rw [hprocessed]
      exact List.forall_mem_append.2
        ⟨h.reads, List.forall_mem_singleton.2 (RegisterFile.isSome_response _ t)⟩

/-- A step. -/
theorem Serves.step (h : x.Serves queued waiting) (hs : x.Step x') : x'.Serves queued waiting := by
  cases hs with
  | tick => exact h.tick
  | host hboot hq hr =>
    refine ⟨h.held, ?_, ?_, h.reads⟩
    · dsimp only
      rw [hq, ← List.append_assoc, h.stream, List.append_assoc]
    · rw [← h.answers, hr, List.append_assoc]

/-- Steps. -/
theorem Serves.steps (h : x.Serves queued waiting) (hs : x.Steps x') :
    x'.Serves queued waiting := by
  induction hs with
  | refl => exact h
  | tail _ hs ih => exact ih.step hs

/-- What the account knows of a device that is fed transactions. -/
def feed (x : Audit) : Feed where
  device := x.device
  delivered := x.account.accepted
  collected := x.account.collected

/-- A step keeps the device in line with the program. -/
theorem Step.tracks {program : Sequential} {executed : List Transaction} (hs : x.Step x')
    (h : x.feed.Tracks program [] executed) (ht : ∀ t ∈ x.account.accepted, t.IsTimeless) :
    ∃ executed, x'.feed.Tracks program [] executed := by
  cases hs with
  | host hboot hq hr => exact ⟨executed, h.between hq hr⟩
  | tick =>
    have hfeed : x.tick.feed = x.feed.call .tick := by
      rw [feed, x.device_tick, x.host_tick.1, x.host_tick.2]
      rfl
    rw [hfeed]
    exact h.tick ht

/-- Steps keep the device in line with the program as long as nothing that is accepted depends on
the clock. -/
theorem Steps.tracks {program : Sequential} {executed : List Transaction} (hs : x.Steps x')
    (h : x.feed.Tracks program [] executed) (ht : ∀ t ∈ x'.account.accepted, t.IsTimeless) :
    ∃ executed, x'.feed.Tracks program [] executed := by
  induction hs with
  | refl => exact ⟨executed, h⟩
  | tail _ hs ih =>
    have hbefore := fun t hmem => ht t (hs.accepted_prefix.subset hmem)
    obtain ⟨executed, htracks⟩ := ih hbefore
    exact hs.tracks htracks hbefore

end Audit

namespace Gpu

variable {g : Gpu} {config : Config}

/-- The program that an idle device goes on with. -/
def program (g : Gpu) : Sequential where
  registers := g.registers
  memory := g.memory
  responses := g.responses.toList

/-- An idle device leaves the memory as it is, and nothing of a primitive or a fill is left. -/
theorem Orderly.coupled_of_idle (h : g.Orderly config) (hi : g.isIdle = true) :
    Coupled g.rasterizer g.engine g.arbiter g.memory g.memory := by
  obtain ⟨hqueue, -⟩ := MemoryEngine.isIdle_iff.1 (h.isIdle_iff.1 hi).2.2
  have hport := h.port_of_idle hi (c := .engine) (by decide)
  refine { h.apart with plain := ⟨fun c hc => ?_, fun _ r hr => ?_⟩, outcome := ⟨[], ?_⟩ }
  · rw [MemoryEngine.view, hqueue] at hc
    exact absurd hc List.not_mem_nil
  · rw [MemoryEngine.view, hport] at hr
    exact absurd hr List.not_mem_nil
  · exact Feed.finish_of_idle hi []

/-- An idle device is in line with its program. -/
theorem Orderly.tracks (h : g.Orderly config) (hi : g.isIdle = true) :
    (Audit.feed { device := g }).Tracks g.program [] [] where
  stream := ((h.isIdle_iff.1 hi).1).symm
  held := h.held
  registers := ⟨rfl, rfl, rfl, rfl, rfl⟩
  coupled := h.coupled_of_idle hi
  answers := rfl

/-- A script that succeeds, where it leads to, and what it has brought in. -/
theorem leads_script {script : Script} {outcome : ScriptOutcome}
    (hok : (script.run g).2 = .ok outcome) :
    Audit.Leads { device := g } (script.calls g) (script.run g).1 script.transactions outcome.reads
      ∧ outcome.cycles = (script.calls g).countP Audit.Call.isTick
      ∧ (script.run g).1.isIdle = true ∧ (script.run g).1.responses.toList = [] := by
  obtain ⟨more, new, hleads, hall⟩ :=
    Audit.leads_steps (script.steps ++ [.waitIdle]) [] { device := g }
  have hidle (all : List UInt64) := @idle_of_runSteps g script.steps [] all
  have hwait : (script.steps ++ [ScriptStep.waitIdle]).filterMap ScriptStep.transaction?
      = script.transactions := by
    rw [List.filterMap_append]
    exact List.append_nil _
  unfold Script.run at hok ⊢
  cases hrun : runSteps (script.steps ++ [.waitIdle]) [] g with
  | mk g' result =>
    rw [hrun] at hok hleads hall hidle
    cases result with
    | error e => cases hok
    | ok reads =>
      obtain rfl := Except.ok.inj hok
      obtain ⟨rfl, rfl⟩ := hall reads rfl
      obtain ⟨hdone, hempty⟩ := hidle _ rfl
      have hcycles := hleads.cycles
      rw [hwait] at hleads
      refine ⟨hleads, ?_, hdone, hempty⟩
      dsimp only at hcycles ⊢
      rw [hcycles, Nat.add_sub_cancel_left]
      rfl

/-- A script that succeeds on an idle device has done what the program does that executes its
transactions one after the other. -/
theorem Orderly.script_eq_program (h : g.Orderly config) (hi : g.isIdle = true) {script : Script}
    {outcome : ScriptOutcome} (hok : (script.run g).2 = .ok outcome)
    (ht : ∀ t ∈ script.transactions, t.IsTimeless) :
    outcome.reads = (g.program.run script.transactions).responses
      ∧ (script.run g).1.memory = (g.program.run script.transactions).memory := by
  obtain ⟨hleads, -, hidle, hempty⟩ := leads_script hok
  let x := Audit.run { device := g } (script.calls g)
  have hdevice : x.device = (script.run g).1 := hleads.device
  have haccepted : x.account.accepted = script.transactions := hleads.accepted
  have hcollected : x.account.collected = outcome.reads := hleads.collected
  have hidle' : x.device.isIdle = true := by
    rw [hdevice]
    exact hidle
  have htime : ∀ t ∈ x.account.accepted, t.IsTimeless := by
    rw [haccepted]
    exact ht
  obtain ⟨executed, htracks⟩ := hleads.steps.tracks (h.tracks hi) htime
  obtain ⟨hmemory, hanswers⟩ : x.device.memory = (g.program.run x.account.accepted).memory
      ∧ x.account.collected ++ x.device.responses.toList
        = (g.program.run x.account.accepted).responses := htracks.idle hidle'
  rw [haccepted, hdevice] at hmemory hanswers
  rw [hempty, List.append_nil, hcollected] at hanswers
  exact ⟨hanswers, hmemory⟩

/-- **Scripts deliver every command and bring in exactly the answers.** A script that succeeds on a
reachable device leaves it idle. Meanwhile the device has processed what was in its queue and then
the transactions of the script, in order. The script brings in the answers that had not been
collected and then one for each read that was processed, in order; none is left; and it tells how
many cycles have passed. If the device was idle and the transactions of the script do not depend on
the clock, a script with the same transactions and other waits brings in the same answers, and
leaves the same memory, if it succeeds. -/
theorem Reachable.scripts_deliver (h : g.Reachable config) (script : Script)
    (outcome : ScriptOutcome) (hok : (script.run g).2 = .ok outcome) :
    let x := Audit.run { device := g } (script.calls g)
    x.device = (script.run g).1 ∧ x.device.isIdle = true ∧ x.device.responses.toList = []
      ∧ x.account.processed.map Prod.fst = g.commands.entries.toList ++ script.transactions
      ∧ (∀ p ∈ x.account.processed, p.2.response.isSome = p.1.isRead)
      ∧ outcome.reads = g.responses.toList ++ x.account.processed.filterMap (·.2.response)
      ∧ outcome.cycles = (script.calls g).countP Audit.Call.isTick
      ∧ (g.isIdle = true → (∀ t ∈ script.transactions, t.IsTimeless) →
          ∀ (script' : Script) (outcome' : ScriptOutcome),
            script'.transactions = script.transactions → (script'.run g).2 = .ok outcome' →
            outcome'.reads = outcome.reads
              ∧ (script'.run g).1.memory = (script.run g).1.memory) := by
  intro x
  obtain ⟨hleads, hcycles, hidle, hempty⟩ := leads_script hok
  have hserves := (Audit.serves_start h.orderly.held).steps hleads.steps
  have hdevice : x.device = (script.run g).1 := hleads.device
  have haccepted : x.account.accepted = script.transactions := hleads.accepted
  have hcollected : x.account.collected = outcome.reads := hleads.collected
  have hidle' : x.device.isIdle = true := by
    rw [hdevice]
    exact hidle
  have hempty' : x.device.responses.toList = [] := by
    rw [hdevice]
    exact hempty
  have hqueue : x.device.commands.entries.toList = [] := (isIdle_spec hidle').1
  have hstream := hserves.stream
  have hanswers := hserves.answers
  rw [hqueue, List.append_nil, haccepted] at hstream
  rw [hempty', List.append_nil, hcollected] at hanswers
  refine ⟨hdevice, hidle', hempty', hstream, hserves.reads, hanswers, hcycles, ?_⟩
  -- both scripts do what the program does that executes the transactions one after the other
  intro hi ht script' outcome' hsame hok'
  obtain ⟨hreads, hmemory⟩ := h.orderly.script_eq_program hi hok ht
  obtain ⟨hreads', hmemory'⟩ := h.orderly.script_eq_program hi hok' (hsame ▸ ht)
  rw [hsame] at hreads' hmemory'
  exact ⟨hreads'.trans hreads.symm, hmemory'.trans hmemory.symm⟩

/-- A fill and a pixel drawn over its first word, on a device whose queue has room for two. After
each access the second script waits for the device to be idle and for a frame to pass. -/
theorem scripts_deliver_waiting :
    let config : Config :=
      { commandCapacity := 2, bootSequence := false, memoryWords := 16, memoryLatency := 1
        scanoutCapacity := 1, scanoutBurst := 1, timing := ⟨⟨3, 0, 0, 0⟩, ⟨2, 0, 1, 0⟩, 4⟩ }
    let steps : List ScriptStep :=
      [.writeRegister .fill 0x500070000, .setColor ⟨255, 255, 255, 255⟩,
        .writeRegister .renderMode 0x10, .writeRegister .kickRectangle 0x100010, .read 0x30]
    let script : Script := ⟨steps⟩
    let script' : Script := ⟨steps.flatMap fun step => [step, .waitIdle, .waitFrames 1]⟩
    let g := ofConfig config
    (script.run g).2 = .ok ⟨[0x10], 23⟩ ∧ (script'.run g).2 = .ok ⟨[0x10], 172⟩
      ∧ (Audit.run { device := g } (script.calls g)).account.processed.map Prod.fst
        = script.transactions
      ∧ (script'.run g).1.memory = (script.run g).1.memory := by
  intro config steps script script' g
  have hok : (script.run g).2 = .ok ⟨[0x10], 23⟩ := by decide +kernel
  have hok' : (script'.run g).2 = .ok ⟨[0x10], 172⟩ := by decide +kernel
  have htime : ∀ t ∈ script.transactions, t.IsTimeless := by decide
  have hsame : script'.transactions = script.transactions := by decide
  have hidle : g.isIdle = true := by decide
  have hqueue : g.commands.entries.toList = [] := by decide
  have hreach : g.Reachable config := .start (ofConfig config).memory
  -- from here on the runs are not to be evaluated
  clear_value g
  obtain ⟨-, -, -, hprocessed, -, -, -, hwaits⟩ := hreach.scripts_deliver script _ hok
  rw [hqueue] at hprocessed
  exact ⟨hok, hok', hprocessed, (hwaits hidle htime script' _ hsame hok').2⟩

end Gpu

end RasterGpu
