import RasterGpu.Proofs.Arbiter.Turn
import RasterGpu.Proofs.Device.EngineLoad
import RasterGpu.Proofs.Scanout.Edge

/-!
# A device that is left alone comes to rest

No component of the device waits forever. That the waiting is never in a circle shows in
`Gpu.rank`, which has what is left to be done in the order in which one thing waits for another.

* Transactions wait for the rasterizer and the engine. Each that is executed may bring them more to
  do, so transactions count first.
* The rasterizer and the engine wait for the memory. What they have left, `Gpu.load`, counts next.
* They get the memory when it is their turn. Under the rotating policy scanout cannot keep it from
  them, and `Arbiter.turn` counts how long it takes.
* If they have nothing left to do, a transaction can only wait for a staged surface, which waits for
  the next vertical sync edge. Until then `TimingGenerator.untilEdge` counts.

A cycle of a device that is not idle makes the rank less (`Lively.rank_next`). So the device becomes
idle (`Reachable.comes_to_rest`).
-/

namespace RasterGpu

/-! ## Scanout -/

/-- Asking for a burst leaves it the same client's turn. -/
theorem Prefetcher.advance_sameTurn (p : Prefetcher) (a : Arbiter) :
    a.SameTurn (p.advance a).2 := by
  rcases p.advance_cases a with hsame | ⟨count, a', -, -, -, hs, hmore⟩
  · rw [hsame]
    exact .refl a
  · rw [hmore]
    exact .submit? hs

/-- A cycle of the prefetcher leaves it the same client's turn. -/
theorem Prefetcher.tick_sameTurn (p : Prefetcher) (a : Arbiter) : a.SameTurn (p.tick a).2 := by
  unfold tick
  split
  · exact p.advance_sameTurn a
  · split
    · exact .refl a
    · rename_i ht
      exact (Arbiter.SameTurn.take? ht).trans (advance_sameTurn _ _)

/-- A cycle of the display leaves it the same client's turn. -/
theorem Display.tick_sameTurn (d : Display) (a : Arbiter) (surface : DisplaySurface) :
    a.SameTurn (d.tick a surface).2.1 := by
  unfold tick
  dsimp only
  split
  · exact Prefetcher.tick_sameTurn _ a
  · exact Prefetcher.tick_sameTurn _ a

/-- A valid configuration with a vertical sync pulse has vertical sync edges. -/
theorem Config.IsValid.pulses {config : Config} (h : config.IsValid)
    (hsync : 0 < config.timing.vertical.sync) : config.timing.Pulses where
  horizontal := h.horizontal_pos
  vertical := by
    by_contra hzero
    rw [Nat.not_lt, Nat.le_zero] at hzero
    unfold Config.IsValid Config.fault? at h
    grind
  sync := hsync

namespace Gpu

variable {g : Gpu} {config : Config}

/-! ## Devices under the rotating policy -/

/-- What is known of a device under the rotating policy, with vertical sync edges. -/
structure Lively (config : Config) (g : Gpu) : Prop extends g.Orderly config where
  /-- The arbiter rotates. -/
  rotates : g.arbiter.Rotates
  /-- The raster has edges. -/
  pulses : config.timing.Pulses
  /-- The timing generator is inside its raster. -/
  inRaster : g.display.timing.InRaster

/-- In a cycle only the arbiter changes whose turn it is. -/
theorem next_sameTurn (g : Gpu) : g.served.1.SameTurn g.next.arbiter := by
  have hsame := g.settled.dispatch_sameScreen
  rw [← next_eq] at hsame
  rw [hsame.arbiter]
  exact ((g.display.tick_sameTurn _ _).trans (g.rasterizer.tick_sameTurn _)).trans
    (g.engine.tick_sameTurn _)

/-- A cycle takes the timing generator one cycle further. -/
theorem next_timing (g : Gpu) : g.next.display.timing = g.display.timing.tick.1
    ∧ g.edge = g.display.timing.tick.2.any (·.vsyncEdge) := by
  have hsame := g.settled.dispatch_sameScreen
  obtain ⟨htiming, hsignals⟩ := g.display.tick_timing g.served.1 g.registers.display
  rw [← next_eq] at hsame
  refine ⟨?_, ?_⟩
  · rw [hsame.display]
    exact htiming
  · rw [← hsignals, Option.any_map]
    rfl

/-- A cycle. -/
theorem Lively.next (h : g.Lively config) : g.next.Lively config := by
  refine ⟨h.toOrderly.next, ?_, h.pulses, ?_⟩
  · exact (h.rotates.tick g.memory).same g.next_sameTurn
  · rw [g.next_timing.1]
    exact h.inRaster.tick (h.timing ▸ h.pulses)

/-- After a reset no client holds the grant, and the raster is at its beginning. -/
theorem Lively.reset (h : g.Lively config) : g.reset.Lively config := by
  refine ⟨h.toOrderly.reset, ⟨h.rotates.policy, fun grant hgrant => ?_⟩, h.pulses, ?_⟩
  · cases hgrant
  · show TimingGenerator.InRaster { timing := g.config.timing }
    rw [h.config_eq]
    exact TimingGenerator.inRaster_start h.pulses

/-- Every reachable device is lively, if the policy is the rotating one and there are edges. -/
theorem Reachable.lively (h : g.Reachable config) (hpolicy : config.arbiterPolicy = .roundRobin)
    (hp : config.timing.Pulses) : g.Lively config := by
  refine h.induction (fun memory => ?_) (fun g _ _ _ h => { h with }) (fun g _ h => { h with })
    (fun g h => h.next) fun g h => h.reset
  have hstart : Reachable config { ofConfig config with memory } := .start memory
  refine ⟨hstart.orderly, ⟨hpolicy, fun grant hgrant => ?_⟩, hp, TimingGenerator.inRaster_start hp⟩
  cases hgrant

/-! ## What is left to be done -/

/-- What the rasterizer and the engine have left to do. -/
def load (g : Gpu) : Nat :=
  g.rasterizer.phase.load + (g.engine.view g.arbiter).load

/-- If nothing is left, the rasterizer is at rest and the engine idle. -/
theorem Orderly.idle_of_load (h : g.Orderly config) (hload : g.load = 0) :
    g.rasterizer.isBusy = false ∧ g.engine.isIdle = true := by
  obtain ⟨hraster, hengine⟩ := Nat.add_eq_zero_iff.1 hload
  refine ⟨?_, MemoryEngine.isIdle_of_load h.attends hengine⟩
  rw [g.rasterizer.isBusy_eq, hraster]
  rfl

/-- The rasterizer and the engine have got on in this cycle, or they wait for the memory. -/
theorem Orderly.settled_load (h : g.Orderly config) :
    g.settled.load < g.load
      ∨ g.settled.load = g.load
        ∧ (0 < g.load → ∃ c, c ≠ .display ∧ (g.served.1.port c).requests ≠ [])
        ∧ ∀ c, c ≠ .display → (g.served.1.port c).responses = [] := by
  have hw := h.apart.sound.wellFormed
  have hserved : Apart g.rasterizer g.engine g.served.1 := h.apart.arbiter g.memory
  have hscans : g.served.1.Scans g.scanned.2.1 :=
    g.display.tick_scans hserved.sound.wellFormed g.registers.display
  have hscanned : Apart g.rasterizer g.engine g.scanned.2.1 := hserved.scans hscans
  obtain ⟨hdrawn, hport⟩ := h.port_engine
  have hattends : g.engine.Attends (g.drawn.2.port .engine) := by
    rw [hport]
    exact h.attends.arbiter hw g.memory
  -- what the engine has left is the same after the cycles of the arbiter and the rasterizer
  have hview : (g.engine.view g.drawn.2).load = (g.engine.view g.arbiter).load := by
    rw [← MemoryEngine.load_arbiter hw g.memory, MemoryEngine.view, hport]
    rfl
  have hraster : Rasterizer.GetsOn g.rasterizer.phase g.scanned.2.1 g.drawn.1 :=
    Rasterizer.tick_getsOn hscanned.sound
  have hengine := MemoryEngine.tick_getsOn hattends hdrawn
  rw [hview, hport] at hengine
  have hsettled : g.settled.load = g.drawn.1.phase.load
      + ((g.engine.tick g.drawn.2).1.view (g.engine.tick g.drawn.2).2).load := rfl
  rw [hsettled, load]
  rcases hraster with hless | ⟨hphase, hwaits⟩
  · left
    rcases hengine with hless' | ⟨hsame, -⟩
    · omega
    · omega
  · rw [hphase]
    rcases hengine with hless | ⟨hsame, hrequests, hresponses⟩
    · left
      omega
    · right
      refine ⟨by rw [hsame], fun hpos => ?_, fun c hc => ?_⟩
      · by_cases hdrawing : 0 < g.rasterizer.phase.load
        · obtain ⟨c, hc, hne⟩ := hwaits.requests hdrawing
          rw [hscans.drawing c hc] at hne
          refine ⟨c, ?_, hne⟩
          rintro rfl
          cases hc
        · exact ⟨.engine, by decide, hrequests (by omega)⟩
      · by_cases hdrawing : c.isDrawing = true
        · rw [← hscans.drawing c hdrawing]
          exact hwaits.responses c hdrawing
        · have hclient : c = .engine := by cases c <;> simp [Client.isDrawing] at hc hdrawing ⊢
          rw [hclient]
          exact hresponses

/-! ## The command stage -/

/-- The oldest transaction is executed if nothing makes it wait. -/
theorem dispatch_of_canProcess (hheld : g.held = none) (hgate : g.isGated = false)
    (hcan : ∀ t, g.registers.canProcess t = true) (hq : g.commands.entries.toList ≠ []) :
    g.dispatch.commands.entries.toList.length < g.commands.entries.toList.length := by
  cases hp : g.commands.entries.pop? with
  | none => exact absurd ((g.commands.entries.pop?_eq_none_iff).1 hp) hq
  | some pair =>
    obtain ⟨t, entries⟩ := pair
    have ho : Open { g with commands := { g.commands with entries } } := by
      obtain ⟨hidle, hfill, hroom⟩ := open_of_isGated hgate
      exact ⟨hidle, hfill, hroom⟩
    have hdispatch : g.dispatch
        = execute { g with commands := { g.commands with entries } } t := by
      unfold dispatch CommandQueue.pop?
      split
      · rename_i event he
        rw [hheld] at he
        cases he
      · rw [hp]
        dsimp only [Option.map_some]
        rw [if_neg (by simp [hgate, hcan])]
    rw [hdispatch, (ho.execute t).commands, Queue.pop?_eq_some hp]
    exact Nat.lt_succ_self _

/-- **If the rasterizer and the engine have nothing to do, a transaction is executed** unless it
waits for a vertical sync edge. -/
theorem Orderly.executes (h : g.Orderly config) (hload : g.settled.load = 0)
    (hedge : g.edge = true) (hq : g.commands.entries.toList ≠ []) :
    g.next.commands.entries.toList.length < g.commands.entries.toList.length := by
  obtain ⟨hattends, hfetched, hcount, hexpects, hroom⟩ := h.settled
  have hstaged : g.settled.registers.staged = none := by
    rw [g.settled_swap.1, hedge]
    rfl
  obtain ⟨hraster, hengine⟩ := Nat.add_eq_zero_iff.1 hload
  have hidle := MemoryEngine.isIdle_of_load hattends hengine
  obtain ⟨hqueue, hout, hfill⟩ := MemoryEngine.isIdle_iff.1 hidle
  have hbusy : g.settled.rasterizer.isBusy = false := by
    rw [Rasterizer.isBusy_eq, hraster]
    rfl
  have hblocked : g.settled.registers.isSwapBlocked = false := by
    rw [RegisterFile.isSwapBlocked, hstaged]
    exact Bool.and_false _
  have hwindow : g.settled.registers.readAhead ≠ .pending := by
    intro hpending
    have hpos := hexpects hpending
    rw [hcount] at hpos
    simp [MemoryEngine.readAheads, hfetched, hout, hqueue] at hpos
  have hgate : g.settled.isGated = false := by
    have hsize : g.settled.engine.queue.size = 0 := by
      rw [← Queue.length_toList, hqueue]
      rfl
    have hfilling : g.settled.engine.isFilling = false := by
      rw [← MemoryEngine.isFilling_view _ g.settled.arbiter]
      simp [MemoryEngine.view, EngineView.isFilling, hqueue, hfill]
    have hheld : g.settled.held = none := h.held
    simp [isGated, hbusy, hheld, hfilling, hblocked, MemoryEngine.hasRoom, hsize, hroom]
  have hcan (t : Transaction) : g.settled.registers.canProcess t = true := by
    simp [RegisterFile.canProcess, hblocked, hwindow]
  rw [next_eq]
  exact dispatch_of_canProcess h.held hgate hcan hq

/-! ## The rank -/

/-- Who waits now: the rasterizer or the engine for its turn, or a transaction for the next vertical
sync edge. -/
def pace (g : Gpu) : Nat ×ₗ Nat :=
  if g.load = 0 then toLex (0, g.display.timing.untilEdge) else g.arbiter.turn

/-- What is left: transactions, then what they have brought the components to do, then how long
these wait. -/
def rank (g : Gpu) : Nat ×ₗ Nat ×ₗ (Nat ×ₗ Nat) :=
  toLex (g.commands.entries.toList.length, toLex (g.load, g.pace))

/-- If nothing gets on, the rasterizer or the engine waits less long for its turn, or a transaction
for the next vertical sync edge. -/
theorem Lively.pace_next (h : g.Lively config) (hsettled : g.settled.load = g.load)
    (hload : g.next.load = g.settled.load) (hedge : g.load = 0 → g.edge = false) :
    g.next.pace < g.pace := by
  obtain ⟨htiming, hedge_eq⟩ := g.next_timing
  simp only [pace, hload, hsettled]
  by_cases hzero : g.load = 0
  · have hnone := hedge hzero
    rw [hedge_eq] at hnone
    rw [if_pos hzero, if_pos hzero, Prod.Lex.toLex_lt_toLex, htiming]
    right
    exact ⟨rfl, h.inRaster.untilEdge_tick (h.timing ▸ h.pulses) hnone⟩
  · rcases h.settled_load with hless | ⟨-, hrequests, hresponses⟩
    · omega
    · rw [if_neg hzero, if_neg hzero, g.next_sameTurn.turn_eq]
      exact h.rotates.turn_lt h.apart.sound.wellFormed g.memory
        (hrequests (Nat.pos_of_ne_zero hzero)) hresponses

/-- **A cycle of a device that is not idle makes the rank less.** -/
theorem Lively.rank_next (h : g.Lively config) (hi : g.isIdle = false) : g.next.rank < g.rank := by
  have hd := dispatch_cases (g := g.settled) h.held
  have hpace := h.pace_next
  have hexecutes := h.executes
  simp only [rank, Prod.Lex.toLex_lt_toLex]
  rw [next_eq] at hpace hexecutes ⊢
  generalize g.settled.dispatch = g' at hd hpace hexecutes ⊢
  -- if no transaction is executed
  have hstay (hcommands : g'.commands = g.commands) (hload : g'.load = g.settled.load)
      (hedge : g.load = 0 → g.edge = false) :
      g'.commands.entries.toList.length < g.commands.entries.toList.length
        ∨ g'.commands.entries.toList.length = g.commands.entries.toList.length
          ∧ (g'.load < g.load ∨ g'.load = g.load ∧ g'.pace < g.pace) := by
    right
    refine ⟨by rw [hcommands], ?_⟩
    rcases h.settled_load with hless | ⟨hsame, -⟩
    · left
      rw [hload]
      exact hless
    · right
      exact ⟨hload.trans hsame, hpace hsame hload hedge⟩
  cases hd with
  | rest hq =>
    apply hstay rfl rfl
    intro hzero
    rw [h.isIdle_iff.2 ⟨hq, h.idle_of_load hzero⟩] at hi
    cases hi
  | wait hq =>
    apply hstay rfl rfl
    intro hzero
    by_contra hedge
    rw [Bool.not_eq_false] at hedge
    have hnone : g.settled.load = 0 := by
      rcases h.settled_load with hless | ⟨hsame, -⟩
      · omega
      · exact hsame.trans hzero
    exact absurd (hexecutes hnone hedge hq) (Nat.lt_irrefl _)
  | @execute t commands g' hq ho hx =>
    left
    have hlength : g.commands.entries.toList = t :: commands.entries.toList := hq
    rw [hx.commands, hlength]
    exact Nat.lt_succ_self _

/-! ## Coming to rest -/

/-- A primitive takes no cycle to be given to the rasterizer. -/
theorem draw_cycles (g : Gpu) (event : DrawEvent) : (g.draw event).cycles = g.cycles := by
  unfold draw
  split <;> rfl

/-- A transaction takes no cycle of its own. -/
theorem execute_cycles (g : Gpu) (t : Transaction) : (g.execute t).cycles = g.cycles := by
  unfold execute
  dsimp only
  cases (g.registers.process t).2.draw with
  | none => rfl
  | some event => exact draw_cycles _ event

/-- A cycle is counted. -/
theorem next_cycles (g : Gpu) : g.next.cycles = g.cycles + 1 := by
  have hdispatch (g : Gpu) : g.dispatch.cycles = g.cycles := by
    unfold dispatch
    split
    · dsimp only
      split
      · exact draw_cycles _ _
      · exact draw_cycles _ _
    · split
      · rfl
      · split
        · rfl
        · exact execute_cycles _ _
  rw [next_eq, hdispatch]
  rfl

/-- The cycles of a run are counted. -/
theorem run_cycles (n : Nat) (g : Gpu) : (g.run n).cycles = g.cycles + n := by
  induction n generalizing g with
  | zero => rfl
  | succ n ih =>
    show (g.next.run n).cycles = g.cycles + (n + 1)
    rw [ih, next_cycles]
    omega

/-- A device that is left alone is idle after some time, and a run that waits for that ends
there. -/
theorem Lively.exists_idle {g : Gpu} (h : g.Lively config) :
    ∃ n, (g.run n).Lively config ∧ (g.run n).isIdle = true
      ∧ ∀ budget, n ≤ budget → runUntil isIdle budget g = (g.run n, true) := by
  cases hi : g.isIdle with
  | true =>
    refine ⟨0, h, hi, fun budget _ => ?_⟩
    cases budget with
    | zero => simp [runUntil, run, hi]
    | succ budget => simp [runUntil, run, hi]
  | false =>
    have hless := h.rank_next hi
    obtain ⟨n, hlively, hidle, hruns⟩ := h.next.exists_idle
    refine ⟨n + 1, hlively, hidle, fun budget hle => ?_⟩
    obtain ⟨rest, rfl⟩ := Nat.exists_eq_add_of_le hle
    rw [show n + 1 + rest = (n + rest) + 1 by omega, runUntil, hi, if_neg Bool.false_ne_true]
    exact hruns (n + rest) (Nat.le_add_right n rest)
termination_by g.rank
decreasing_by exact hless

/-- **Under the rotating policy a device that is left alone comes to rest.** For every reachable
device there is a number of cycles after which every run that waits for the device to be idle ends,
if its budget is not less. Then no transaction and no primitive waits, the rasterizer has drawn what
it had, the engine has no command, no fill and no request, and its port is free. -/
theorem Reachable.comes_to_rest (h : g.Reachable config) (hvalid : config.IsValid)
    (hpolicy : config.arbiterPolicy = .roundRobin) (hsync : 0 < config.timing.vertical.sync) :
    ∃ cycles,
      (∀ budget, cycles ≤ budget → g.runUntilIdle budget = (g.run cycles, .ok cycles))
      ∧ (g.run cycles).commands.entries.toList = [] ∧ (g.run cycles).held = none
      ∧ (g.run cycles).rasterizer.isBusy = false
      ∧ (g.run cycles).engine.queue.toList = [] ∧ (g.run cycles).engine.fill = none
      ∧ (g.run cycles).engine.outstanding = none
      ∧ (g.run cycles).arbiter.port .engine = .free := by
  obtain ⟨n, hlively, hidle, hruns⟩ := (h.lively hpolicy (hvalid.pulses hsync)).exists_idle
  obtain ⟨hcommands, hraster, hengine⟩ := hlively.isIdle_iff.1 hidle
  obtain ⟨hqueue, hout, hfill⟩ := MemoryEngine.isIdle_iff.1 hengine
  refine ⟨n, fun budget hle => ?_, hcommands, hlively.held, hraster, hqueue, hfill, hout,
    hlively.attends.1 hout⟩
  have hspent : g.cycles + n - g.cycles = n := by omega
  simp only [runUntilIdle, hruns budget hle, run_cycles, hspent, if_true]

/-- A primitive is being drawn by a device with slow memory. Behind it wait a fill, two surfaces of
which the first blocks the second, and a read of the memory window. -/
theorem comes_to_rest_blocked :
    let config : Config :=
      { bootSequence := false, memoryWords := 64, memoryLatency := 9, arbiterPolicy := .roundRobin
        swapPolicy := .blockUntilVsync, engineCapacity := 2, scanoutCapacity := 16
        scanoutBurst := 8
        timing := ⟨⟨3, 0, 0, 0⟩, ⟨2, 0, 1, 0⟩, 4⟩ }
    let stream : List Transaction :=
      [.write Register.renderMode.address 0x10, .write Register.kickRectangle.address 0x100010,
        .write Register.fill.address 0x6412340000,
        .write Register.display.address 0x2000000000000,
        .write Register.display.address 0x1000000000000,
        .write Register.windowAddress.address 1, .read Register.windowData.address]
    let calls : List Audit.Call := stream.map .offer ++ .replicate 5 .tick
    let g := ((Audit.start config (.zeroed 64 9)).run calls).device
    config.IsValid ∧ g.rasterizer.isBusy = true ∧ g.commands.entries.toList = stream.drop 2
      ∧ ∃ cycles, ∀ budget, cycles ≤ budget →
        g.runUntilIdle budget = (g.run cycles, .ok cycles) := by
  intro config stream calls g
  have hvalid : config.IsValid := by decide
  have hbusy : g.rasterizer.isBusy = true := by decide +kernel
  have hqueue : g.commands.entries.toList = stream.drop 2 := by decide +kernel
  obtain ⟨cycles, hruns, -⟩ :=
    (reachable_run config (.zeroed 64 9) calls).comes_to_rest hvalid rfl (by decide)
  exact ⟨hvalid, hbusy, hqueue, cycles, hruns⟩

end Gpu

end RasterGpu
