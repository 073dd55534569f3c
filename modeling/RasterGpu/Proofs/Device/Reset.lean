import RasterGpu.Proofs.Device.Drain
import RasterGpu.Proofs.Device.Swap

/-!
# A reset makes a device new

A reset builds some components again from the configuration. Others it sends back to the beginning,
and they keep what they were built with: the command queue its capacity, its margin and its boot
sequence, the register file and the arbiter their policies, the memory engine its capacity. So a
reset leads back to a new device only if all of this is left alone by everything else.

`Gpu.SameOrigin` says that a reset would bring two devices to the same state, their memories apart.
Every part of a cycle keeps that (`next_sameOrigin`), and so does all that a host does
(`Deed.perform_sameOrigin`), whatever is under way. A reset brings a new device to itself, and so it
makes every reachable device new (`Reachable.reset_eq_new`).
-/

namespace RasterGpu

/-! ## What the components keep -/

namespace CommandQueue

/-- An offered transaction, taken or not, is forgotten at a reset. -/
theorem reset_offer (q : CommandQueue) (t : Transaction) : (q.offer t).1.reset = q.reset := by
  unfold offer
  split
  · rfl
  · rfl

/-- A transaction that was taken out is forgotten at a reset too. -/
theorem reset_pop? {q rest : CommandQueue} {t : Transaction} (h : q.pop? = some (t, rest)) :
    rest.reset = q.reset := by
  unfold pop? at h
  obtain ⟨⟨t', entries⟩, -, heq⟩ := Option.map_eq_some_iff.1 h
  obtain ⟨rfl, rfl⟩ := Prod.mk.inj heq
  rfl

end CommandQueue

/-- A transaction does not change what a reset makes of the register file. -/
theorem RegisterFile.reset_process (regs : RegisterFile) (t : Transaction) :
    (regs.process t).1.reset = regs.reset := by
  rw [reset, (regs.process_swap t).2, reset]

namespace MemoryEngine

/-- A command that is taken or refused does not change what a reset makes of the engine. -/
theorem reset_push (e : MemoryEngine) (command : MemoryCommand) :
    ((e.push? command).getD e).reset = e.reset := by
  unfold push?
  split
  · rfl
  · rfl

/-- Nor do more commands. -/
theorem reset_foldl_push (e : MemoryEngine) (commands : List MemoryCommand) :
    (commands.foldl (fun e c => (e.push? c).getD e) e).reset = e.reset := by
  induction commands generalizing e with
  | nil => rfl
  | cons c commands ih => rw [List.foldl_cons, ih, reset_push]

/-- A cycle does not change what a reset makes of the engine. -/
theorem reset_tick (e : MemoryEngine) (a : Arbiter) : (e.tick a).1.reset = e.reset := by
  rw [reset, e.tick_capacity, reset]

end MemoryEngine

namespace Arbiter

variable {M : Type} [MemoryDevice M] {a a' : Arbiter}

/-- What a client does at its slot does not change what a reset makes of the arbiter. -/
theorem SameTurn.reset_eq (h : SameTurn a a') : a'.reset = a.reset := by
  rw [reset, h.policy, reset]

/-- A cycle does not change what a reset makes of the arbiter. -/
theorem reset_tick (a : Arbiter) (m : M) : (a.tick m).1.reset = a.reset := by
  have hc := tick_case a m
  generalize a.tick m = s at hc ⊢
  cases hc with
  | rest hg => rfl
  | grant hg hp => rfl
  | count hg hr => rfl
  | perform hg hr => rfl

end Arbiter

namespace Gpu

variable {g g' g'' : Gpu} {config : Config}

/-! ## What a reset brings a device back to -/

/-- A reset would bring both devices to the same state, their memories apart. -/
def SameOrigin (g g' : Gpu) : Prop :=
  g'.reset = { g.reset with memory := g'.memory }

/-- A reset rebuilds a device from its configuration, and from what four components have kept. -/
theorem sameOrigin_of_components (hconfig : g'.config = g.config)
    (hcommands : g'.commands.reset = g.commands.reset)
    (hregisters : g'.registers.reset = g.registers.reset)
    (hengine : g'.engine.reset = g.engine.reset)
    (harbiter : g'.arbiter.reset = g.arbiter.reset) : g.SameOrigin g' := by
  unfold SameOrigin reset
  rw [hconfig, hcommands, hregisters, hengine, harbiter]

/-- A device has its own origin. -/
theorem SameOrigin.refl (g : Gpu) : g.SameOrigin g := rfl

/-- The origin stays the same over two changes. -/
theorem SameOrigin.trans (h : g.SameOrigin g') (h' : g'.SameOrigin g'') : g.SameOrigin g'' := by
  unfold SameOrigin at h h' ⊢
  rw [h', h]

/-- A reset of a device that was just reset changes nothing. -/
theorem reset_sameOrigin (g : Gpu) : g.SameOrigin g.reset := rfl

/-! ## Cycles -/

/-- A primitive that is drawn, or held. -/
theorem draw_sameOrigin (g : Gpu) (event : DrawEvent) : g.SameOrigin (g.draw event) := by
  unfold draw
  split
  · rfl
  · rfl

/-- A transaction. -/
theorem execute_sameOrigin (g : Gpu) (t : Transaction) : g.SameOrigin (g.execute t) := by
  have hdone : g.SameOrigin { g with
      registers := (g.registers.process t).1
      engine := (g.registers.process t).2.commands.foldl
        (fun engine c => (engine.push? c).getD engine) g.engine
      responses := (g.registers.process t).2.response.elim g.responses g.responses.push } :=
    sameOrigin_of_components rfl rfl (g.registers.reset_process t)
      (g.engine.reset_foldl_push _) rfl
  unfold execute
  dsimp only
  cases (g.registers.process t).2.draw with
  | none => exact hdone
  | some event => exact hdone.trans (draw_sameOrigin _ event)

/-- The command stage. -/
theorem dispatch_sameOrigin (g : Gpu) : g.SameOrigin g.dispatch := by
  unfold dispatch
  split
  · rename_i event _
    have hdraw := draw_sameOrigin { g with held := none } event
    dsimp only
    split
    · exact hdraw
    · exact hdraw
  · split
    · exact .refl g
    · rename_i t commands hp
      split
      · exact .refl g
      · have hpop : g.SameOrigin { g with commands } :=
          sameOrigin_of_components rfl (CommandQueue.reset_pop? hp) rfl rfl rfl
        exact hpop.trans (execute_sameOrigin _ t)

/-- The components. -/
theorem settled_sameOrigin (g : Gpu) : g.SameOrigin g.settled := by
  refine sameOrigin_of_components rfl rfl ?_ ?_ ?_
  · rw [RegisterFile.reset, g.settled_swap.2.2, RegisterFile.reset]
  · exact g.engine.reset_tick _
  · have hsame : g.served.1.SameTurn g.settled.arbiter :=
      ((g.display.tick_sameTurn _ _).trans (g.rasterizer.tick_sameTurn _)).trans
        (g.engine.tick_sameTurn _)
    rw [hsame.reset_eq]
    exact g.arbiter.reset_tick g.memory

/-- **A cycle does not change what a reset brings the device back to**, whatever is under way. -/
theorem next_sameOrigin (g : Gpu) : g.SameOrigin g.next := by
  rw [next_eq]
  exact g.settled_sameOrigin.trans g.settled.dispatch_sameOrigin

/-! ## Hosts -/

/-- A transaction that is offered. -/
theorem offer_sameOrigin (g : Gpu) (t : Transaction) : g.SameOrigin (g.offer t).1 :=
  sameOrigin_of_components rfl (g.commands.reset_offer t) rfl rfl rfl

/-- A transaction that is offered again and again. -/
theorem offerUntilTaken_sameOrigin (t : Transaction) (retries : Nat) (g : Gpu) :
    g.SameOrigin (offerUntilTaken t retries g).1 := by
  have hoffer (g : Gpu) := g.offer_sameOrigin t
  induction retries generalizing g with
  | zero =>
    unfold offerUntilTaken
    dsimp only
    split
    · exact hoffer g
    · exact (hoffer g).trans (next_sameOrigin _)
  | succ retries ih =>
    unfold offerUntilTaken
    dsimp only
    split
    · exact hoffer g
    · exact ((hoffer g).trans (next_sameOrigin _)).trans (ih _)

/-- **Nothing that a host does changes what a reset brings the device back to.** -/
theorem Deed.perform_sameOrigin (g : Gpu) (d : Deed) : g.SameOrigin (d.perform g) := by
  cases d with
  | store memory => rfl
  | call c =>
    cases c with
    | offer t => exact g.offer_sameOrigin t
    | submit t budget => exact offerUntilTaken_sameOrigin t budget g
    | drainHost link => rfl
    | takeResponse =>
      unfold Deed.perform Audit.Call.perform takeResponse?
      cases g.responses.pop? with
      | none => rfl
      | some pair => rfl
    | drainResponses => rfl
    | tick => exact g.next_sameOrigin
    | reset => exact g.reset_sameOrigin

/-- A reachable device has the origin of a new one. -/
theorem Reachable.sameOrigin (h : g.Reachable config) : (ofConfig config).SameOrigin g := by
  induction h with
  | start memory => rfl
  | deed h d ih => exact ih.trans (d.perform_sameOrigin _)

/-- **A reset makes a device new.** A valid configuration has a new device, and a reset makes every
device that a host may have made of it equal to that one, with the memory that is there; so
whatever is done after the reset, the host sees the pixels, the answers, the counters and the memory
that it would see if it had done the same to the new device. -/
theorem Reachable.reset_eq_new (h : g.Reachable config) (hvalid : config.IsValid) :
    ∃ new, build config = .ok new ∧ g.reset = { new with memory := g.memory }
      ∧ ∀ deeds : List Deed,
        let used := deeds.foldl Deed.perform g.reset
        let fresh := deeds.foldl Deed.perform { new with memory := g.memory }
        used.tick.2 = fresh.tick.2 ∧ used.responses.toList = fresh.responses.toList
          ∧ used.stats = fresh.stats ∧ used.memory = fresh.memory := by
  have hnew : build config = .ok (ofConfig config) := by
    unfold build
    rw [show config.fault? = none from hvalid]
  have hreset : g.reset = { ofConfig config with memory := g.memory } := h.sameOrigin
  refine ⟨ofConfig config, hnew, hreset, fun deeds => ?_⟩
  rw [hreset]
  exact ⟨rfl, rfl, rfl, rfl⟩

/-- A device is reset while a primitive is being drawn, a dword is on its way to the memory window
and a burst to the screen, with two transactions waiting. -/
theorem reset_eq_new_drawing :
    let config : Config :=
      { bootSequence := false, memoryWords := 64, memoryLatency := 9
        swapPolicy := .blockUntilVsync, engineCapacity := 3, scanoutCapacity := 16
        scanoutBurst := 8
        timing := ⟨⟨3, 0, 0, 0⟩, ⟨2, 0, 1, 0⟩, 4⟩ }
    let stream : List Transaction :=
      [.write Register.renderMode.address 0x10, .write Register.windowAddress.address 1,
        .write Register.kickRectangle.address 0x100010, .write Register.fill.address 0x6412340000,
        .write Register.display.address 0x2000000000000]
    let calls : List Audit.Call := stream.map .offer ++ .replicate 5 .tick
    let g := ((Audit.start config (.zeroed 64 9)).run calls).device
    config.IsValid ∧ g.rasterizer.isBusy = true ∧ g.engine.outstanding = some .readAhead
      ∧ g.display.prefetcher.flight = .awaited ∧ g.commands.entries.toList = stream.drop 3
      ∧ ∃ new, build config = .ok new ∧ g.reset = { new with memory := g.memory } := by
  intro config stream calls g
  have hvalid : config.IsValid := by decide
  have hbusy : g.rasterizer.isBusy = true := by decide +kernel
  have hengine : g.engine.outstanding = some .readAhead := by decide +kernel
  have hflight : g.display.prefetcher.flight = .awaited := by decide +kernel
  have hqueue : g.commands.entries.toList = stream.drop 3 := by decide +kernel
  obtain ⟨new, hnew, hreset, -⟩ :=
    (reachable_run config (.zeroed 64 9) calls).reset_eq_new hvalid
  exact ⟨hvalid, hbusy, hengine, hflight, hqueue, new, hnew, hreset⟩

end Gpu

end RasterGpu
