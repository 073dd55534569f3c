import RasterGpu.Gpu.Basic
import RasterGpu.Proofs.Device.Engine

/-!
# Cycles of the device

A cycle of the device takes each component one cycle further, one after the other, and then runs the
command stage. `Gpu.settled` is the device before the command stage, and `Gpu.next_eq` cuts a cycle
in two there. The stages before are named by what they have just done: `Gpu.served` for the arbiter,
`Gpu.scanned` for the display, `Gpu.drawn` for the rasterizer and `Gpu.fetched` for the memory
engine.

When no primitive is held the command stage does one of three things, which `Dispatches` lists:
nothing, or it waits, or it executes the oldest transaction. `Executes` says what that does.
-/

namespace RasterGpu

/-! ## Scanout -/

/-- Scanout has done something at its own port, where it only reads. -/
structure Arbiter.Scans (a a' : Arbiter) : Prop where
  /-- Other ports are as they were. -/
  changes : ChangesOnly .display a a'
  /-- Scanout reads. -/
  reads : (a.port .display).ReadsOnly → (a'.port .display).ReadsOnly

/-- The prefetcher asks for the next burst, or does not. -/
theorem Prefetcher.advance_scans (p : Prefetcher) {a : Arbiter} (hw : a.WellFormed) :
    a.Scans (p.advance a).2 := by
  unfold advance
  dsimp only
  split
  · exact ⟨.refl hw _, id⟩
  · split
    · exact ⟨.refl hw _, id⟩
    · rename_i a' hs
      refine ⟨.submit? hw hs, fun _ => ?_⟩
      rw [Arbiter.port_submit? hs, Function.update_self]
      intro r hr
      obtain rfl := List.mem_singleton.1 hr
      rfl

/-- The prefetcher collects a burst before it asks for the next. -/
theorem Prefetcher.tick_scans (p : Prefetcher) {a : Arbiter} (hw : a.WellFormed) :
    a.Scans (p.tick a).2 := by
  unfold tick
  split
  · exact p.advance_scans hw
  · split
    · exact ⟨.refl hw _, id⟩
    · rename_i response a' ht
      have hc := Arbiter.ChangesOnly.take? hw ht
      have hs := (p.collect response).advance_scans hc.wellFormed
      refine ⟨hc.trans hs.changes, fun _ => hs.reads ?_⟩
      rw [Arbiter.port_take? hw ht, Function.update_self]
      exact fun r hr => absurd hr List.not_mem_nil

/-- The display uses the memory through its prefetcher. -/
theorem Display.tick_scans (d : Display) {a : Arbiter} (hw : a.WellFormed)
    (surface : DisplaySurface) : a.Scans (d.tick a surface).2.1 := by
  unfold tick
  dsimp only
  split
  · exact Prefetcher.tick_scans _ hw
  · exact Prefetcher.tick_scans _ hw

namespace Gpu

/-! ## The components -/

/-- The arbiter and the memory after the arbiter's cycle. -/
def served (g : Gpu) : Arbiter × Sdram :=
  g.arbiter.tick g.memory

/-- The display and the arbiter after the display's cycle. -/
def scanned (g : Gpu) : Display × Arbiter × Option Pixel :=
  g.display.tick g.served.1 g.registers.display

/-- The rasterizer and the arbiter after the rasterizer's cycle. -/
def drawn (g : Gpu) : Rasterizer × Arbiter :=
  g.rasterizer.tick g.scanned.2.1

/-- The memory engine and the arbiter after the engine's cycle. -/
def fetched (g : Gpu) : MemoryEngine × Arbiter :=
  g.engine.tick g.drawn.2

/-- Whether this cycle brings a vertical sync edge. -/
def edge (g : Gpu) : Bool :=
  g.scanned.2.2.any (·.signals.vsyncEdge)

/-- The device before the command stage. -/
def settled (g : Gpu) : Gpu :=
  { g with
    registers := g.fetched.1.fetched.elim (g.registers.clock g.edge)
      (g.registers.clock g.edge).completeReadAhead
    rasterizer := g.drawn.1
    engine := { g.fetched.1 with fetched := none }
    arbiter := g.fetched.2
    memory := g.served.2
    display := g.scanned.1
    vsync := g.scanned.2.2.elim g.vsync (·.signals.vsync)
    frames := if g.edge then g.frames + 1 else g.frames
    cycles := g.cycles + 1 }

/-- A cycle is a cycle of each component, and then the command stage. -/
theorem next_eq (g : Gpu) : g.next = g.settled.dispatch := by
  have hnone : g.fetched.1.fetched = none → { g.fetched.1 with fetched := none } = g.fetched.1 := by
    intro h
    rw [← h]
  unfold settled
  cases h : g.fetched.1.fetched with
  | none =>
    have ht : g.fetched.1.takeFetched? = none := by rw [MemoryEngine.takeFetched?, h]; rfl
    rw [hnone h]
    unfold next tick
    unfold fetched drawn scanned served at ht
    dsimp only
    rw [ht]
    rfl
  | some value =>
    have ht : g.fetched.1.takeFetched? = some (value, { g.fetched.1 with fetched := none }) := by
      rw [MemoryEngine.takeFetched?, h]
      rfl
    unfold next tick
    unfold fetched drawn scanned served at ht
    dsimp only
    rw [ht]
    rfl

end Gpu

/-! ## What a transaction asks for -/

/-- A transaction makes at most two memory commands. -/
theorem RegisterFile.length_commands_le (regs : RegisterFile) (t : Transaction) :
    (regs.process t).2.commands.length ≤ 2 := by
  cases t with
  | write address data =>
    unfold process
    dsimp only
    split
    · rename_i r _
      cases r <;> simp [writeRegister, kick]
    · exact Nat.zero_le _
  | read address =>
    unfold process
    dsimp only
    split <;> simp

/-- A transaction that kicks a primitive makes no memory command. -/
theorem RegisterFile.commands_of_draw {regs : RegisterFile} {t : Transaction} {event : DrawEvent}
    (h : (regs.process t).2.draw = some event) : (regs.process t).2.commands = [] := by
  cases t with
  | write address data =>
    unfold process at h ⊢
    dsimp only at h ⊢
    split at h
    · rename_i r hr
      cases r <;> first | rfl | cases h
    · cases h
  | read address =>
    unfold process at h
    dsimp only at h
    split at h <;> cases h

/-- An engine with room for commands takes all of them. -/
theorem MemoryEngine.foldl_push? {e : MemoryEngine} {commands : List MemoryCommand}
    (h : e.queue.size + commands.length ≤ e.capacity) :
    commands.foldl (fun e c => (e.push? c).getD e) e
      = { e with queue := e.queue.pushMany commands } := by
  induction commands generalizing e with
  | nil => rfl
  | cons c commands ih =>
    have hroom : e.queue.size < e.capacity := by
      rw [List.length_cons] at h
      omega
    have hpush : (e.push? c).getD e = { e with queue := e.queue.push c } := by
      rw [push?, if_pos hroom, Option.getD_some]
    rw [List.foldl_cons, hpush, ih]
    · rfl
    · have hsize : (e.queue.push c).size = e.queue.size + 1 := rfl
      rw [List.length_cons] at h
      dsimp only
      omega

namespace Gpu

/-! ## The command stage -/

variable {g g' : Gpu}

/-- What is known of a device that takes transactions. -/
structure Open (g : Gpu) : Prop where
  /-- The rasterizer is at rest. -/
  idle : g.rasterizer.isBusy = false
  /-- No fill waits or is under way. -/
  noFill : g.engine.isFilling = false
  /-- The engine has room for two commands. -/
  room : g.engine.queue.size + 2 ≤ g.engine.capacity

/-- A device that is not gated is open. -/
theorem open_of_isGated (h : g.isGated = false) : g.Open := by
  unfold isGated at h
  simp only [Bool.or_eq_false_iff, Bool.not_eq_false', MemoryEngine.hasRoom,
    decide_eq_true_eq] at h
  obtain ⟨⟨⟨⟨hidle, -⟩, hfill⟩, -⟩, hroom⟩ := h
  exact ⟨hidle, hfill, hroom⟩

/-- What executing a transaction does to an open device. -/
structure Executes (g : Gpu) (t : Transaction) (g' : Gpu) : Prop where
  /-- The register file processes it. -/
  registers : g'.registers = (g.registers.process t).1
  /-- The engine takes its commands. -/
  engine : g'.engine
    = { g.engine with queue := g.engine.queue.pushMany (g.registers.process t).2.commands }
  /-- An answer is kept for the host. -/
  responses : g'.responses
    = (g.registers.process t).2.response.elim g.responses g.responses.push
  /-- A primitive goes to the rasterizer. -/
  rasterizer : g'.rasterizer = (g.registers.process t).2.draw.elim g.rasterizer fun event =>
    { g.rasterizer with phase := .setup event, current := {} }
  /-- No primitive is held that was not before. -/
  held : g'.held = g.held
  /-- The command queue is as it was. -/
  commands : g'.commands = g.commands
  /-- The arbiter is as it was. -/
  arbiter : g'.arbiter = g.arbiter
  /-- The memory is as it was. -/
  memory : g'.memory = g.memory

/-- Executing a transaction. -/
theorem Open.execute (h : g.Open) (t : Transaction) : g.Executes t (g.execute t) := by
  have hlength := g.registers.length_commands_le t
  have hroom : g.engine.queue.size + (g.registers.process t).2.commands.length
      ≤ g.engine.capacity := by
    have := h.room
    omega
  have hpush := MemoryEngine.foldl_push? hroom
  have haccept (event : DrawEvent) : g.rasterizer.accept? event
      = some { g.rasterizer with phase := .setup event, current := {} } := by
    rw [Rasterizer.accept?, h.idle, if_neg Bool.false_ne_true]
  unfold Gpu.execute
  dsimp only
  rw [hpush]
  cases hd : (g.registers.process t).2.draw with
  | none => constructor <;> simp [hd]
  | some event => constructor <;> simp [hd, draw, haccept]

/-- An answer comes after those that the host has not collected. -/
theorem Executes.toList_responses {t : Transaction} {g' : Gpu} (h : g.Executes t g') :
    g'.responses.toList
      = g.responses.toList ++ (g.registers.process t).2.response.toList := by
  rw [h.responses]
  cases (g.registers.process t).2.response with
  | none => exact (List.append_nil _).symm
  | some value => exact Queue.toList_push _ _

/-- The commands come after those that the engine has. -/
theorem Executes.toList_queue {t : Transaction} {g' : Gpu} (h : g.Executes t g') :
    g'.engine.queue.toList = g.engine.queue.toList ++ (g.registers.process t).2.commands := by
  rw [h.engine]
  exact Queue.toList_pushMany _ _

/-- What the command stage does when no primitive is held. -/
inductive Dispatches (g : Gpu) : Gpu → Prop where
  /-- There is no transaction. -/
  | rest (h : g.commands.entries.toList = []) : Dispatches g g
  /-- A transaction waits. -/
  | wait (h : g.commands.entries.toList ≠ []) :
    Dispatches g { g with stallCycles := g.stallCycles + 1 }
  /-- The oldest transaction is executed. -/
  | execute {t : Transaction} {commands : CommandQueue} {g' : Gpu}
    (h : g.commands.entries.toList = t :: commands.entries.toList) (ho : g.Open)
    (hx : Executes { g with commands } t g') : Dispatches g g'

/-- The command stage does one of the three things. -/
theorem dispatch_cases (h : g.held = none) : g.Dispatches g.dispatch := by
  unfold dispatch CommandQueue.pop?
  split
  · rename_i event he
    rw [h] at he
    cases he
  · cases hp : g.commands.entries.pop? with
    | none => exact .rest ((g.commands.entries.pop?_eq_none_iff).1 hp)
    | some pair =>
      obtain ⟨t, entries⟩ := pair
      have hl : g.commands.entries.toList
          = t :: ({ g.commands with entries } : CommandQueue).entries.toList :=
        Queue.pop?_eq_some hp
      dsimp only [Option.map_some]
      split
      · exact .wait (by rw [hl]; exact List.cons_ne_nil _ _)
      · rename_i hgate
        rw [Bool.not_eq_true, Bool.or_eq_false_iff, Bool.not_eq_false'] at hgate
        have ho := open_of_isGated hgate.1
        have ho' : Open { g with commands := { g.commands with entries } } :=
          ⟨ho.idle, ho.noFill, ho.room⟩
        exact .execute hl ho (ho'.execute t)

/-- An idle device has no transaction and no primitive, and its engine has nothing to do. -/
theorem isIdle_spec (h : g.isIdle = true) :
    g.commands.entries.toList = [] ∧ g.rasterizer.isBusy = false ∧ g.engine.queue.toList = []
      ∧ g.engine.fill = none ∧ (g.arbiter.port .engine).requests = [] := by
  unfold isIdle MemoryEngine.isIdle at h
  simp only [Bool.and_eq_true, Bool.not_eq_true', Option.isNone_iff_eq_none] at h
  obtain ⟨⟨⟨⟨⟨hcommands, -⟩, hraster⟩, ⟨⟨hqueue, -⟩, hfill⟩⟩, hpending⟩, hgranted⟩ := h
  exact ⟨(Queue.isEmpty_iff _).1 hcommands, hraster, (Queue.isEmpty_iff _).1 hqueue, hfill,
    Arbiter.requests_eq_nil hpending hgranted⟩

end Gpu

end RasterGpu
