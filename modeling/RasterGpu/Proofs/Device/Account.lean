import Mathlib.Logic.Relation
import RasterGpu.Gpu.Run
import RasterGpu.Proofs.Device.Ledger
import RasterGpu.Proofs.Device.Sequential
import RasterGpu.Proofs.Drawing.Primitives

/-!
# Nothing is lost on the way

A transaction passes the command queue, the register file and then, by its effects, the memory
engine, the rasterizer or the list of answers. At each station the device could drop something: the
queue of the engine may be full, the rasterizer may be busy. An *account* enters what happens at each
station, and the theorem is that its columns agree.

* `Account` has a column for each station. What the engine refuses has a column of its own.
* `Audit` is a device with its account. `Audit.give`, `Audit.draw`, `Audit.execute` and
  `Audit.dispatch` are the command stage of the device, entry by entry; `device_dispatch` says that
  the account does not change what the device does.
* `Audit.Call` lists what a host can do, a reset included, which begins a new account. `Call.perform`
  is the same call on a device without account, and `device_run` says that both end up with the same
  device.
* `Audit.Step` lists the steps that calls are made of. What they preserve is preserved by calls
  (`run_induction`).
* `Account.Balances` says how the columns agree. `Audit.run_balances` says that they do after any
  calls.
-/

namespace RasterGpu

/-! ## Lists -/

/-- What the last entry has comes last. -/
theorem filterMap_concat {α β : Type} (f : α → Option β) (l : List α) (a : α) :
    (l ++ [a]).filterMap f = l.filterMap f ++ (f a).toList := by
  rw [List.filterMap_append, List.filterMap_cons]
  cases f a with
  | none => rfl
  | some b => rfl

/-! ## What a transaction asks for -/

/-- Whether a transaction asks for a word. -/
def Transaction.isRead : Transaction → Bool
  | read _ => true
  | write _ _ => false

/-- Memory commands that the effects of one transaction have room for. -/
def effectSlots : Nat := 2

namespace RegisterFile

/-- A transaction is answered exactly if it is a read. -/
theorem isSome_response (regs : RegisterFile) (t : Transaction) :
    (regs.process t).2.response.isSome = t.isRead := by
  cases t with
  | write address data =>
    unfold process
    dsimp only
    split
    · rename_i r _
      cases r <;> rfl
    · rfl
  | read address =>
    unfold process
    dsimp only
    split <;> rfl

end RegisterFile

/-! ## Accounts -/

/-- What has happened since reset, station by station. -/
structure Account where
  /-- The transactions that the command queue has taken. -/
  accepted : List Transaction := []
  /-- The transactions that the register file has processed, with their effects. -/
  processed : List (Transaction × Effects) := []
  /-- The memory commands that the engine has taken. -/
  given : List MemoryCommand := []
  /-- The memory commands that the engine had no room for. -/
  refused : List MemoryCommand := []
  /-- The primitives that the rasterizer has taken. -/
  drawn : List DrawEvent := []
  /-- The answers that were collected. -/
  collected : List UInt64 := []

/-- A device with its account. -/
structure Audit where
  /-- The device. -/
  device : Gpu
  /-- The account. -/
  account : Account := {}

namespace Audit

/-! ## The command stage -/

/-- Gives a command to the memory engine, which takes it or not. -/
def give (x : Audit) (c : MemoryCommand) : Audit :=
  match x.device.engine.push? c with
  | some engine =>
    { device := { x.device with engine }
      account := { x.account with given := x.account.given ++ [c] } }
  | none => { x with account.refused := x.account.refused ++ [c] }

/-- Gives a primitive to the rasterizer, or holds it. -/
def draw (x : Audit) (event : DrawEvent) : Audit :=
  match x.device.rasterizer.accept? event with
  | some rasterizer =>
    { device := { x.device with rasterizer, lastDraw := some event }
      account := { x.account with drawn := x.account.drawn ++ [event] } }
  | none => { x with device.held := some event }

/-- Has the register file process a transaction, and keeps the answer for the host. -/
def process (x : Audit) (t : Transaction) : Audit :=
  let (registers, effects) := x.device.registers.process t
  { device := { x.device with
      registers
      responses := effects.response.elim x.device.responses x.device.responses.push }
    account := { x.account with processed := x.account.processed ++ [(t, effects)] } }

/-- Executes a transaction. -/
def execute (x : Audit) (t : Transaction) : Audit :=
  let effects := (x.device.registers.process t).2
  let given := effects.commands.foldl give (x.process t)
  effects.draw.elim given given.draw

/-- The command stage. -/
def dispatch (x : Audit) : Audit :=
  match x.device.held with
  | some event =>
    let x := { x with device.held := none }.draw event
    if x.device.commands.isEmpty then x
    else { x with device.stallCycles := x.device.stallCycles + 1 }
  | none =>
    match x.device.commands.pop? with
    | none => x
    | some (t, commands) =>
      if x.device.isGated || !x.device.registers.canProcess t then
        { x with device.stallCycles := x.device.stallCycles + 1 }
      else
        { x with device.commands := commands }.execute t

/-- A cycle of the device. -/
def tick (x : Audit) : Audit :=
  { x with device := x.device.settled }.dispatch

variable {x : Audit}

/-- The engine takes commands as it does without account. -/
theorem device_foldl_give (x : Audit) (commands : List MemoryCommand) :
    (commands.foldl give x).device = { x.device with
      engine := commands.foldl (fun e c => (e.push? c).getD e) x.device.engine } := by
  induction commands generalizing x with
  | nil => rfl
  | cons c commands ih =>
    rw [List.foldl_cons, ih, List.foldl_cons]
    unfold give
    cases x.device.engine.push? c with
    | none => rfl
    | some engine => rfl

/-- The rasterizer takes a primitive as it does without account. -/
theorem device_draw (x : Audit) (event : DrawEvent) :
    (x.draw event).device = x.device.draw event := by
  unfold draw Gpu.draw
  cases x.device.rasterizer.accept? event with
  | none => rfl
  | some rasterizer => rfl

/-- A transaction is executed as it is without account. -/
theorem device_execute (x : Audit) (t : Transaction) :
    (x.execute t).device = x.device.execute t := by
  unfold execute Gpu.execute
  dsimp only
  cases (x.device.registers.process t).2.draw with
  | none => exact device_foldl_give _ _
  | some event =>
    simp only [Option.elim_some]
    rw [device_draw, device_foldl_give]
    rfl

/-- The command stage does what it does without account. -/
theorem device_dispatch (x : Audit) : x.dispatch.device = x.device.dispatch := by
  unfold dispatch Gpu.dispatch
  cases hheld : x.device.held with
  | some event =>
    have hdraw : (draw { x with device.held := none } event).device
        = Gpu.draw { x.device with held := none } event := device_draw _ _
    dsimp only
    rw [← hdraw]
    split
    · rfl
    · rfl
  | none =>
    dsimp only
    rw [← hheld]
    cases x.device.commands.pop? with
    | none => rfl
    | some pair =>
      dsimp only
      split
      · rfl
      · exact device_execute _ _

/-- A cycle does what it does without account. -/
theorem device_tick (x : Audit) : x.tick.device = x.device.next := by
  rw [tick, device_dispatch, Gpu.next_eq]

/-- The engine takes commands, of which the host sees nothing. -/
theorem host_foldl_give (x : Audit) (commands : List MemoryCommand) :
    (commands.foldl give x).account.accepted = x.account.accepted
      ∧ (commands.foldl give x).account.collected = x.account.collected := by
  induction commands generalizing x with
  | nil => exact ⟨rfl, rfl⟩
  | cons c commands ih =>
    obtain ⟨haccepted, hcollected⟩ := ih (x.give c)
    rw [List.foldl_cons, haccepted, hcollected, give]
    cases x.device.engine.push? c with
    | none => exact ⟨rfl, rfl⟩
    | some engine => exact ⟨rfl, rfl⟩

/-- So does the rasterizer take a primitive. -/
theorem host_draw (x : Audit) (event : DrawEvent) :
    (x.draw event).account.accepted = x.account.accepted
      ∧ (x.draw event).account.collected = x.account.collected := by
  unfold draw
  cases x.device.rasterizer.accept? event with
  | none => exact ⟨rfl, rfl⟩
  | some rasterizer => exact ⟨rfl, rfl⟩

/-- So is a transaction executed. -/
theorem host_execute (x : Audit) (t : Transaction) :
    (x.execute t).account.accepted = x.account.accepted
      ∧ (x.execute t).account.collected = x.account.collected := by
  have hgiven := host_foldl_give (x.process t) (x.device.registers.process t).2.commands
  unfold execute
  dsimp only
  cases (x.device.registers.process t).2.draw with
  | none => exact hgiven
  | some event =>
    have hdrawn := host_draw
      ((x.device.registers.process t).2.commands.foldl give (x.process t)) event
    exact ⟨hdrawn.1.trans hgiven.1, hdrawn.2.trans hgiven.2⟩

/-- In a cycle no transaction is taken from the host and no answer is given to it. -/
theorem host_tick (x : Audit) :
    x.tick.account.accepted = x.account.accepted
      ∧ x.tick.account.collected = x.account.collected := by
  unfold tick dispatch
  split
  · rename_i event hheld
    dsimp only
    split
    · exact host_draw _ event
    · exact host_draw _ event
  · split
    · exact ⟨rfl, rfl⟩
    · split
      · exact ⟨rfl, rfl⟩
      · exact host_execute _ _

/-- What the command stage does when no primitive is held. -/
inductive Dispatches (x : Audit) : Audit → Prop where
  /-- There is no transaction. -/
  | rest : Dispatches x x
  /-- A transaction waits. -/
  | wait : Dispatches x { x with device.stallCycles := x.device.stallCycles + 1 }
  /-- The oldest transaction is executed. -/
  | execute {t : Transaction} {commands : CommandQueue}
    (hq : x.device.commands.entries.toList = t :: commands.entries.toList)
    (hboot : commands.boot = x.device.commands.boot) (ho : x.device.Open)
    (hp : x.device.registers.canProcess t = true) :
    Dispatches x (execute { x with device.commands := commands } t)

/-- The command stage does one of the three things. -/
theorem dispatch_cases (h : x.device.held = none) : x.Dispatches x.dispatch := by
  unfold dispatch
  split
  · rename_i event he
    rw [h] at he
    cases he
  · split
    · exact .rest
    · rename_i t commands hp
      split
      · exact .wait
      · rename_i hgate
        rw [Bool.not_eq_true, Bool.or_eq_false_iff, Bool.not_eq_false'] at hgate
        unfold CommandQueue.pop? at hp
        rw [Option.map_eq_some_iff] at hp
        obtain ⟨⟨t', entries⟩, hpop, heq⟩ := hp
        obtain ⟨rfl, rfl⟩ := Prod.mk.inj heq
        exact .execute (Queue.pop?_eq_some hpop) rfl (Gpu.open_of_isGated hgate.1) hgate.2

/-! ## What a host does -/

/-- What a host does. -/
inductive Call where
  /-- It offers a transaction once. -/
  | offer (t : Transaction)
  /-- It submits a transaction, waiting for `budget` cycles at most. -/
  | submit (t : Transaction) (budget : Nat)
  /-- It lets the command queue take what fits from a host link. -/
  | drainHost (link : Queue Transaction)
  /-- It collects an answer, if there is one. -/
  | takeResponse
  /-- It collects all answers. -/
  | drainResponses
  /-- It lets a cycle pass. -/
  | tick
  /-- It resets the device. -/
  | reset

/-- What a call does to a device. -/
def Call.perform (g : Gpu) : Call → Gpu
  | offer t => (g.offer t).1
  | submit t budget => (g.submit t budget).1
  | drainHost link => (g.drainHost link).1
  | takeResponse => (g.takeResponse?.map Prod.snd).getD g
  | drainResponses => g.drainResponses.2
  | tick => g.next
  | reset => g.reset

/-- Offers a transaction, and enters it if it was taken. -/
def offer (x : Audit) (t : Transaction) : Audit × Bool :=
  let (device, taken) := x.device.offer t
  let accepted := if taken then x.account.accepted ++ [t] else x.account.accepted
  ({ device, account := { x.account with accepted } }, taken)

/-- Offers a transaction again after each cycle, `retries` times at most. -/
def submit (t : Transaction) : (retries : Nat) → Audit → Audit
  | 0, x =>
    let (x, taken) := x.offer t
    if taken then x else x.tick
  | retries + 1, x =>
    let (x, taken) := x.offer t
    if taken then x else submit t retries x.tick

/-- Makes a call. -/
def call (x : Audit) : Call → Audit
  | .offer t => (x.offer t).1
  | .submit t budget => x.submit t budget
  | .drainHost link =>
    let (device, _, count) := x.device.drainHost link
    let accepted := x.account.accepted ++ link.toList.take count
    { device, account := { x.account with accepted } }
  | .takeResponse =>
    match x.device.takeResponse? with
    | some (value, device) =>
      { device, account := { x.account with collected := x.account.collected ++ [value] } }
    | none => x
  | .drainResponses =>
    let (values, device) := x.device.drainResponses
    { device, account := { x.account with collected := x.account.collected ++ values } }
  | .tick => x.tick
  | .reset => { device := x.device.reset }

/-- Makes calls, one after the other. -/
def run (x : Audit) (calls : List Call) : Audit :=
  calls.foldl call x

/-- A device that was just built, with any memory. -/
def start (config : Config) (memory : Sdram) : Audit where
  device := { Gpu.ofConfig config with memory }

/-- Submitting does what it does without account. -/
theorem device_submit (t : Transaction) (retries : Nat) (x : Audit) :
    (submit t retries x).device = (Gpu.offerUntilTaken t retries x.device).1 := by
  induction retries generalizing x with
  | zero =>
    unfold submit Gpu.offerUntilTaken offer
    dsimp only
    split
    · rfl
    · exact device_tick _
  | succ retries ih =>
    unfold submit Gpu.offerUntilTaken offer
    dsimp only
    split
    · rfl
    · rw [ih, device_tick]

/-- A call does what it does without account. -/
theorem device_call (x : Audit) (c : Call) : (x.call c).device = c.perform x.device := by
  cases c with
  | offer t => rfl
  | submit t budget => exact device_submit t budget x
  | drainHost link => rfl
  | takeResponse =>
    unfold call Call.perform
    cases x.device.takeResponse? with
    | none => rfl
    | some pair => rfl
  | drainResponses => rfl
  | tick => exact device_tick x
  | reset => rfl

/-- Calls do what they do without account. -/
theorem device_run (x : Audit) (calls : List Call) :
    (x.run calls).device = calls.foldl Call.perform x.device := by
  induction calls generalizing x with
  | nil => rfl
  | cons c calls ih =>
    change ((x.call c).run calls).device = calls.foldl Call.perform (c.perform x.device)
    rw [ih, device_call]

/-! ## Steps -/

/-- What calls are made of, resets apart. -/
inductive Step (x : Audit) : Audit → Prop where
  /-- Transactions are accepted and answers are collected. -/
  | host {commands : CommandQueue} {responses : Queue UInt64} {more : List Transaction}
    {taken : List UInt64} (hboot : commands.boot = x.device.commands.boot)
    (hq : commands.entries.toList = x.device.commands.entries.toList ++ more)
    (hr : x.device.responses.toList = taken ++ responses.toList) :
    Step x {
      device := { x.device with commands, responses }
      account := { x.account with
        accepted := x.account.accepted ++ more
        collected := x.account.collected ++ taken } }
  /-- A cycle passes. -/
  | tick : Step x x.tick

/-- A chain of steps. -/
abbrev Steps : Audit → Audit → Prop :=
  Relation.ReflTransGen Step

/-- Accepting transactions is a step. -/
theorem Step.accept {commands : CommandQueue} {more : List Transaction}
    (hboot : commands.boot = x.device.commands.boot)
    (hq : commands.entries.toList = x.device.commands.entries.toList ++ more) :
    x.Step {
      device := { x.device with commands }
      account := { x.account with accepted := x.account.accepted ++ more } } := by
  have hr : x.device.responses.toList = [] ++ x.device.responses.toList := rfl
  have hstep := Step.host hboot hq hr
  rw [List.append_nil] at hstep
  exact hstep

/-- Collecting answers is a step. -/
theorem Step.collect {responses : Queue UInt64} {taken : List UInt64}
    (hr : x.device.responses.toList = taken ++ responses.toList) :
    x.Step {
      device := { x.device with responses }
      account := { x.account with collected := x.account.collected ++ taken } } := by
  have hboot : x.device.commands.boot = x.device.commands.boot := rfl
  have hq : x.device.commands.entries.toList = x.device.commands.entries.toList ++ [] :=
    (List.append_nil _).symm
  have hstep := Step.host hboot hq hr
  rw [List.append_nil] at hstep
  exact hstep

/-- Offering a transaction is a step. -/
theorem offer_step (x : Audit) (t : Transaction) : x.Step (x.offer t).1 := by
  unfold offer Gpu.offer CommandQueue.offer
  cases x.device.commands.isFull with
  | true =>
    have hstep : x.Step {
        device := { x.device with
          commands := { x.device.commands with rejected := x.device.commands.rejected + 1 } }
        account := { x.account with accepted := x.account.accepted ++ [] } } :=
      .accept rfl (List.append_nil _).symm
    rw [List.append_nil] at hstep
    exact hstep
  | false => exact .accept rfl (Queue.toList_push _ t)

/-- Submitting a transaction is a chain of steps. -/
theorem submit_steps (t : Transaction) (retries : Nat) (x : Audit) :
    x.Steps (submit t retries x) := by
  have hoffer : x.Steps (x.offer t).1 := .single (x.offer_step t)
  induction retries generalizing x with
  | zero =>
    unfold submit
    dsimp only
    split
    · exact hoffer
    · exact hoffer.tail .tick
  | succ retries ih =>
    unfold submit
    dsimp only
    split
    · exact hoffer
    · exact (hoffer.tail .tick).trans (ih _ (.single (offer_step _ t)))

/-- A call that does not reset the device is a chain of steps. -/
theorem call_steps (x : Audit) {c : Call} (hc : c ≠ .reset) : x.Steps (x.call c) := by
  cases c with
  | offer t => exact .single (x.offer_step t)
  | submit t budget => exact submit_steps t budget x
  | drainHost link =>
    have hlink := link.toList_popMany
      (x.device.commands.capacity - x.device.commands.entries.size)
    refine .single ?_
    unfold call Gpu.drainHost CommandQueue.drain
    dsimp only
    rw [hlink, List.take_left]
    exact .accept rfl (Queue.toList_pushMany _ _)
  | takeResponse =>
    unfold call Gpu.takeResponse?
    cases hp : x.device.responses.pop? with
    | none => exact .refl
    | some pair => exact .single (.collect (Queue.pop?_eq_some hp))
  | drainResponses => exact .single (.collect (List.append_nil _).symm)
  | tick => exact .single .tick
  | reset => exact absurd rfl hc

/-- What steps and resets preserve is preserved by calls. -/
theorem run_induction {motive : Audit → Prop} {calls : List Call}
    (hstep : ∀ x x' : Audit, motive x → x.Step x' → motive x')
    (hreset : Call.reset ∈ calls → ∀ x : Audit, motive x → motive (x.call .reset))
    (h : motive x) : motive (x.run calls) := by
  induction calls generalizing x with
  | nil => exact h
  | cons c calls ih =>
    refine ih (fun hmem => hreset (List.mem_cons_of_mem _ hmem)) ?_
    by_cases hc : c = .reset
    · subst hc
      exact hreset List.mem_cons_self x h
    · have hs := x.call_steps hc
      generalize x.call c = x' at hs ⊢
      induction hs with
      | refl => exact h
      | tail _ hs ih => exact hstep _ _ ih hs

end Audit

/-! ## The balance -/

/-- The columns of an account agree with each other and with a device that begins with the
transactions `boot`. -/
structure Account.Balances (boot : List Transaction) (g : Gpu) (a : Account) : Prop where
  /-- What was processed and what waits is what was there at the beginning and what was accepted,
  in this order. -/
  stream : a.processed.map Prod.fst ++ g.commands.entries.toList = boot ++ a.accepted
  /-- What was collected and what waits are the answers to what was processed, in order. -/
  answers : a.collected ++ g.responses.toList = a.processed.filterMap (·.2.response)
  /-- Reads are answered, once each, and nothing else is. -/
  reads : ∀ p ∈ a.processed, p.2.response.isSome = p.1.isRead
  /-- The effects of a transaction have room for its memory commands. -/
  slots : ∀ p ∈ a.processed, p.2.commands.length ≤ effectSlots
  /-- The engine has taken the memory commands of what was processed, in order. -/
  given : a.given = a.processed.flatMap (·.2.commands)
  /-- The engine has refused none. -/
  refused : a.refused = []
  /-- Kicks draw, once each, and nothing else does. -/
  kicks : ∀ p ∈ a.processed, p.2.draw.isSome = p.1.isKick
  /-- The rasterizer has taken the primitives of what was processed, in order. -/
  drawn : a.drawn = a.processed.filterMap (·.2.draw)
  /-- No primitive is held back. -/
  held : g.held = none
  /-- The primitives that have ended and the one being drawn are those that were kicked. -/
  primitives : g.rasterizer.totals.primitives + g.rasterizer.isBusy.toNat
    = g.registers.stats.draws
  /-- As many were kicked as were taken. -/
  draws : g.registers.stats.draws = a.drawn.length

namespace Audit

/-- What a call preserves: the columns agree, the queue keeps its boot sequence for the next reset,
and the primitive that is being drawn is counted. -/
structure Sound (boot : List Transaction) (x : Audit) : Prop
    extends x.account.Balances boot x.device where
  /-- The boot sequence. -/
  boot_eq : x.device.commands.boot = boot
  /-- The primitive being drawn. -/
  counted : x.device.rasterizer.Counted

variable {x : Audit} {boot : List Transaction}

/-- A device whose queue holds its boot sequence balances with an empty account. -/
theorem sound_of_rest {g : Gpu} (hq : g.commands.entries.toList = boot)
    (hboot : g.commands.boot = boot) (hresponses : g.responses = .empty) (hheld : g.held = none)
    (hrasterizer : g.rasterizer = {}) (hstats : g.registers.stats = {}) :
    Sound boot { device := g } where
  stream := by simp [hq]
  answers := by simp [hresponses]
  reads := by simp
  slots := by simp
  given := rfl
  refused := rfl
  kicks := by simp
  drawn := rfl
  held := hheld
  primitives := by
    rw [hrasterizer, hstats]
    rfl
  draws := by
    rw [hstats]
    rfl
  boot_eq := hboot
  counted := by
    rw [hrasterizer]
    trivial

/-! ## The command stage keeps the balance -/

/-- An engine with room takes all commands, and all are entered. -/
theorem foldl_give {commands : List MemoryCommand}
    (h : x.device.engine.queue.size + commands.length ≤ x.device.engine.capacity) :
    (commands.foldl give x).account
      = { x.account with given := x.account.given ++ commands } := by
  induction commands generalizing x with
  | nil => simp
  | cons c commands ih =>
    have hroom : x.device.engine.queue.size < x.device.engine.capacity := by
      rw [List.length_cons] at h
      omega
    have hgive : x.give c
        = { device := { x.device with
              engine := { x.device.engine with queue := x.device.engine.queue.push c } }
            account := { x.account with given := x.account.given ++ [c] } } := by
      rw [give, MemoryEngine.push?, if_pos hroom]
    rw [List.foldl_cons, hgive, ih]
    · simp
    · rw [List.length_cons] at h
      change x.device.engine.queue.size + 1 + commands.length ≤ x.device.engine.capacity
      omega

/-- A rasterizer at rest takes a primitive, which is entered. -/
theorem account_draw (h : x.device.rasterizer.isBusy = false) (event : DrawEvent) :
    (x.draw event).account = { x.account with drawn := x.account.drawn ++ [event] } := by
  rw [draw, Rasterizer.accept?, h, if_neg Bool.false_ne_true]

/-- Executing a transaction on an open device enters it with all that it asks for. -/
theorem account_execute (h : x.device.Open) (t : Transaction) :
    (x.execute t).account =
      { x.account with
        processed := x.account.processed ++ [(t, (x.device.registers.process t).2)]
        given := x.account.given ++ (x.device.registers.process t).2.commands
        drawn := x.account.drawn ++ (x.device.registers.process t).2.draw.toList } := by
  have hroom : (x.process t).device.engine.queue.size
      + (x.device.registers.process t).2.commands.length
        ≤ (x.process t).device.engine.capacity := by
    have hlength := x.device.registers.length_commands_le t
    have hroom := h.room
    change x.device.engine.queue.size + _ ≤ x.device.engine.capacity
    omega
  unfold execute
  dsimp only
  cases (x.device.registers.process t).2.draw with
  | none =>
    rw [Option.elim_none, foldl_give hroom, Option.toList_none, List.append_nil]
    rfl
  | some event =>
    rw [Option.elim_some, account_draw, foldl_give hroom]
    · rfl
    · rw [device_foldl_give]
      exact h.idle

/-- Executing the oldest transaction keeps the balance. -/
theorem Sound.execute (h : x.Sound boot) {t : Transaction} {commands : CommandQueue}
    (hq : x.device.commands.entries.toList = t :: commands.entries.toList)
    (hboot : commands.boot = x.device.commands.boot) (ho : x.device.Open) :
    (Audit.execute { x with device.commands := commands } t).Sound boot := by
  let y : Audit := { x with device.commands := commands }
  have hopen : y.device.Open := ⟨ho.idle, ho.noFill, ho.room⟩
  have haccount := account_execute hopen t
  have hx := hopen.execute t
  have hdevice := y.device_execute t
  change (y.execute t).Sound boot
  generalize y.execute t = y' at haccount hdevice
  obtain ⟨g', account'⟩ := y'
  dsimp only at haccount hdevice
  subst haccount hdevice
  have htaken : (y.device.execute t).rasterizer.Counted
      ∧ (y.device.execute t).rasterizer.taken = x.device.rasterizer.taken
        + (x.device.registers.process t).2.draw.toList.length := by
    rw [hx.rasterizer]
    cases (y.device.registers.process t).2.draw with
    | none => exact ⟨h.counted, rfl⟩
    | some event =>
      have haccept : y.device.rasterizer.accept? event
          = some { y.device.rasterizer with phase := .setup event, current := {} } := by
        rw [Rasterizer.accept?, ho.idle, if_neg Bool.false_ne_true]
      exact Rasterizer.accept?_counted haccept
  have hdraws : (y.device.execute t).registers.stats.draws = x.device.registers.stats.draws
      + (x.device.registers.process t).2.draw.toList.length := by
    rw [hx.registers]
    exact x.device.registers.draws_process t
  exact
    { stream := by
        rw [hx.commands, List.map_append, List.append_assoc]
        change _ ++ t :: commands.entries.toList = _
        rw [← hq]
        exact h.stream
      answers := by
        have hlist : (y.device.execute t).responses.toList = x.device.responses.toList
            ++ (x.device.registers.process t).2.response.toList := hx.toList_responses
        rw [hlist, filterMap_concat, ← h.answers, List.append_assoc]
      reads := List.forall_mem_append.2
        ⟨h.reads, List.forall_mem_singleton.2 (x.device.registers.isSome_response t)⟩
      slots := List.forall_mem_append.2
        ⟨h.slots, List.forall_mem_singleton.2 (x.device.registers.length_commands_le t)⟩
      given := by
        rw [List.flatMap_append, List.flatMap_singleton, ← h.given]
      refused := h.refused
      kicks := List.forall_mem_append.2
        ⟨h.kicks, List.forall_mem_singleton.2 (x.device.registers.isSome_draw t)⟩
      drawn := by
        rw [filterMap_concat, ← h.drawn]
      held := hx.held.trans h.held
      primitives := by
        have htotal := h.primitives
        have hsum := htaken.2
        unfold Rasterizer.taken at hsum
        dsimp only
        omega
      draws := by
        have hold := h.draws
        dsimp only
        rw [hdraws, hold, List.length_append]
      boot_eq := by
        rw [hx.commands]
        exact hboot.trans h.boot_eq
      counted := htaken.1 }

/-- The command stage keeps the balance. -/
theorem Sound.dispatch (h : x.Sound boot) : x.dispatch.Sound boot := by
  have hd := dispatch_cases h.held
  generalize x.dispatch = x' at hd ⊢
  cases hd with
  | rest => exact h
  | wait => exact ⟨{ h with }, h.boot_eq, h.counted⟩
  | execute hq hboot ho => exact h.execute hq hboot ho

/-- The components keep the balance. -/
theorem Sound.settled (h : x.Sound boot) : Sound boot { x with device := x.device.settled } := by
  have hraster := Rasterizer.tick_counted h.counted x.device.scanned.2.1
  have hstats : x.device.settled.registers.stats = x.device.registers.stats := by
    have hclock : (x.device.registers.clock x.device.edge).stats = x.device.registers.stats := by
      unfold RegisterFile.clock
      split <;> rfl
    unfold Gpu.settled
    dsimp only
    cases x.device.fetched.1.fetched with
    | none => exact hclock
    | some value =>
      rw [Option.elim_some, ← hclock]
      unfold RegisterFile.completeReadAhead
      split <;> rfl
  refine ⟨{ h with primitives := ?_, draws := ?_ }, h.boot_eq, hraster.1⟩
  · have htaken := hraster.2
    have htotal := h.primitives
    unfold Rasterizer.taken at htaken
    rw [hstats, ← htotal, ← htaken]
    rfl
  · rw [hstats]
    exact h.draws

/-- A cycle keeps the balance. -/
theorem Sound.tick (h : x.Sound boot) : x.tick.Sound boot :=
  h.settled.dispatch

/-! ## The host keeps the balance -/

/-- A step keeps the balance. -/
theorem Sound.step {x' : Audit} (h : x.Sound boot) (hs : x.Step x') : x'.Sound boot := by
  cases hs with
  | @host commands responses more taken hboot hq hr =>
    refine ⟨{ h with stream := ?_, answers := ?_ }, hboot.trans h.boot_eq, h.counted⟩
    · dsimp only
      rw [hq, ← List.append_assoc, h.stream, List.append_assoc]
    · dsimp only
      rw [← h.answers, hr, List.append_assoc]
  | tick => exact h.tick

/-- A reset begins a new account, which balances. -/
theorem Sound.reset (h : x.Sound boot) : (x.call .reset).Sound boot := by
  refine sound_of_rest ?_ h.boot_eq rfl rfl rfl rfl
  change (Queue.ofList x.device.commands.boot).toList = boot
  rw [Queue.toList_ofList, h.boot_eq]

/-- **Calls keep the balance.** -/
theorem Sound.run (h : x.Sound boot) (calls : List Call) : (x.run calls).Sound boot :=
  run_induction (fun _ _ h hs => h.step hs) (fun _ _ h => h.reset) h

/-- A device that was just built balances. -/
theorem start_sound (config : Config) (memory : Sdram) :
    (start config memory).Sound config.boot :=
  sound_of_rest (Queue.toList_ofList _) rfl rfl rfl rfl rfl

/-- **Everything that is accepted is processed once and in order, and no effect of it is lost.** A
device of any configuration, with anything in its memory, is called by a host in any way, resets
included. Keeping the account does not change what the device does, and since the last reset its
columns agree: on transactions, answers, memory commands and primitives. -/
theorem run_balances (config : Config) (memory : Sdram) (calls : List Call) :
    let x := (start config memory).run calls
    x.device = calls.foldl Call.perform { Gpu.ofConfig config with memory }
      ∧ x.account.Balances config.boot x.device := by
  intro x
  constructor
  · exact device_run _ _
  · exact ((start_sound config memory).run calls).toBalances

end Audit

end RasterGpu
