import RasterGpu.Proofs.Device.Reachable

/-!
# An idle device rests

`Gpu.isIdle` looks at some of the components only. Of the memory ports it looks at the engine's, and
there not at a response that waits. That it is enough rests on what is known of a reachable device:
the ports of a rasterizer at rest are free, an engine that waits for nothing has a free port, and no
value is expected for the memory window that is not under way.

* An idle device does nothing in a cycle but scan out and clock its register file
  (`Orderly.next_of_idle`). So it stays idle.
* `Gpu.Rests` says what has become of an idle device after some time, and it is kept from cycle to
  cycle (`Rests.next`).
* `Reachable.idle_rests` is the theorem. The host may go on collecting answers meanwhile.
-/

namespace RasterGpu

/-- An idle engine has no command, waits for nothing and fills nothing. -/
theorem MemoryEngine.isIdle_iff {e : MemoryEngine} :
    e.isIdle = true ↔ e.queue.toList = [] ∧ e.outstanding = none ∧ e.fill = none := by
  simp only [isIdle, Bool.and_eq_true, Option.isNone_iff_eq_none, and_assoc, Queue.isEmpty_iff]

/-- An idle engine does nothing. -/
theorem MemoryEngine.tick_of_idle {e : MemoryEngine} (h : e.isIdle = true) (a : Arbiter) :
    e.tick a = (e, a) := by
  obtain ⟨hqueue, hout, hfill⟩ := isIdle_iff.1 h
  have hpop : e.queue.pop? = none := (Queue.pop?_eq_none_iff _).2 hqueue
  have hstart : e.start a = (e, a) := by simp [start, hpop]
  simp [tick, advance, hout, hfill, hstart]

/-- As long as all who hold a grant read the memory stays. -/
theorem Arbiter.tick_memory {a : Arbiter} (hw : a.WellFormed)
    (hreads : ∀ c, (a.port c).ReadsOnly) (m : Sdram) : (a.tick m).2 = m := by
  have hs := a.tick_portStep hw m
  generalize (a.tick m).1.port = p, (a.tick m).2 = m', a.performed? = performed at hs
  cases hs with
  | wait => rfl
  | grant hp => rfl
  | @perform c request hp =>
    refine request.perform_of_isRead (hreads c request ?_) m
    rw [hp]
    exact List.mem_singleton_self _

/-- A free port has no request and no response. -/
theorem Arbiter.at_free {a : Arbiter} (hw : a.WellFormed) {c : Client} (h : a.port c = .free) :
    a.isPending c = false ∧ a.isGranted c = false ∧ a.response? c = none := by
  have hone := hw.one_state c
  rw [(a.isFree_iff c).2 h] at hone
  refine ⟨?_, ?_, ?_⟩
  · cases hp : a.isPending c with
    | false => rfl
    | true =>
      simp only [hp, Bool.toNat_true] at hone
      omega
  · cases hg : a.isGranted c with
    | false => rfl
    | true =>
      simp only [hg, Bool.toNat_true] at hone
      omega
  · cases hr : a.response? c with
    | none => rfl
    | some response => simp [hr] at hone

namespace Gpu

variable {g g' : Gpu} {config : Config}

/-! ## An idle device -/

/-- A device is idle if it has no transaction and neither the rasterizer nor the engine has anything
to do. -/
theorem Orderly.isIdle_iff (h : g.Orderly config) :
    g.isIdle = true ↔ g.commands.entries.toList = [] ∧ g.rasterizer.isBusy = false
      ∧ g.engine.isIdle = true := by
  unfold isIdle
  simp only [Bool.and_eq_true, Bool.not_eq_true', h.held, Option.isNone_none, and_true]
  constructor
  · rintro ⟨⟨⟨⟨hcommands, hraster⟩, hengine⟩, -⟩, -⟩
    exact ⟨(Queue.isEmpty_iff _).1 hcommands, hraster, hengine⟩
  · rintro ⟨hcommands, hraster, hengine⟩
    have hfree := h.attends.1 (MemoryEngine.isIdle_iff.1 hengine).2.1
    obtain ⟨hpending, hgranted, -⟩ := Arbiter.at_free h.apart.sound.wellFormed hfree
    exact ⟨⟨⟨⟨(Queue.isEmpty_iff _).2 hcommands, hraster⟩, hengine⟩, hpending⟩, hgranted⟩

/-- All ports of an idle device but that of scanout are free. -/
theorem Orderly.port_of_idle (h : g.Orderly config) (hi : g.isIdle = true) {c : Client}
    (hc : c ≠ .display) : g.arbiter.port c = .free := by
  obtain ⟨-, hraster, hengine⟩ := h.isIdle_iff.1 hi
  have hdrawing (hd : c.isDrawing = true) : g.arbiter.port c = .free := by
    have hserved := h.apart.sound.served c hd
    rw [Rasterizer.work_of_idle hraster] at hserved
    exact hserved.eq_free
  cases c with
  | display => exact absurd rfl hc
  | color => exact hdrawing rfl
  | depth => exact hdrawing rfl
  | engine => exact h.attends.1 (MemoryEngine.isIdle_iff.1 hengine).2.1

/-- No value is expected for the memory window of an idle device. -/
theorem Orderly.readAhead_of_idle (h : g.Orderly config) (hi : g.isIdle = true) :
    g.registers.readAhead ≠ .pending := by
  intro hpending
  obtain ⟨-, -, hengine⟩ := h.isIdle_iff.1 hi
  obtain ⟨hqueue, hout, -⟩ := MemoryEngine.isIdle_iff.1 hengine
  have hpos := h.expects hpending
  have hnone : g.engine.readAheads = 0 := by
    simp [MemoryEngine.readAheads, h.fetched, hout, hqueue]
  rw [h.count, hnone] at hpos
  exact absurd hpos (Nat.lt_irrefl 0)

/-- **An idle device scans out and clocks its register file, and does nothing else.** -/
theorem Orderly.next_of_idle (h : g.Orderly config) (hi : g.isIdle = true) :
    g.next = { g with
      registers := g.registers.clock g.edge
      arbiter := g.scanned.2.1
      display := g.scanned.1
      vsync := g.scanned.2.2.elim g.vsync (·.signals.vsync)
      frames := if g.edge then g.frames + 1 else g.frames
      cycles := g.cycles + 1 } := by
  obtain ⟨hcommands, hraster, hengine⟩ := h.isIdle_iff.1 hi
  have hmemory : g.served.2 = g.memory := by
    refine Arbiter.tick_memory h.apart.sound.wellFormed (fun c => ?_) g.memory
    by_cases hc : c = .display
    · subst hc
      exact h.apart.scanout
    · rw [h.port_of_idle hi hc]
      exact fun r hr => absurd hr List.not_mem_nil
  have hdrawn : g.drawn = (g.rasterizer, g.scanned.2.1) := Rasterizer.tick_of_idle hraster _
  have hfetched : g.fetched = (g.engine, g.scanned.2.1) := by
    unfold Gpu.fetched
    rw [hdrawn]
    exact MemoryEngine.tick_of_idle hengine _
  have hnone : { g.engine with fetched := none } = g.engine := by rw [← h.fetched]
  have hsettled : g.next = g.settled := by
    have hempty : g.settled.commands.entries.toList = [] := hcommands
    have hd := dispatch_cases (g := g.settled) h.held
    rw [next_eq]
    generalize g.settled.dispatch = g' at hd ⊢
    cases hd with
    | rest hq => rfl
    | wait hq => exact absurd hempty hq
    | execute hq ho hx =>
      rw [hempty] at hq
      cases hq
  rw [hsettled]
  simp only [Gpu.settled, hfetched, hdrawn, hmemory, h.fetched, hnone, Option.elim_none]

/-! ## Resting -/

/-- Some time has passed for an idle device: it is idle, its memory is as it was, and of its register
file nothing has changed but the cycle count, and what a vertical sync edge does if there was one:
the staged surface goes on display. -/
structure Rests (g g' : Gpu) : Prop where
  /-- It is idle. -/
  idle : g'.isIdle = true
  /-- The memory is as it was. -/
  memory : g'.memory = g.memory
  /-- Frames are counted on. -/
  frames : g.frames ≤ g'.frames
  /-- The register file. -/
  registers : ∃ frameCycles, g'.registers =
    if g'.frames = g.frames then { g.registers with frameCycles }
    else { g.registers with
      frameCycles
      display := g.registers.staged.getD g.registers.display
      staged := none }

/-- No time has passed. -/
theorem Rests.refl (hi : g.isIdle = true) : g.Rests g where
  idle := hi
  memory := rfl
  frames := Nat.le_refl _
  registers := ⟨g.registers.frameCycles, by rw [if_pos rfl]⟩

/-- **A cycle passes.** -/
theorem Rests.next (h : g.Rests g') (ho : g'.Orderly config) : g.Rests g'.next := by
  have hnext := ho.next_of_idle h.idle
  have hcomponents := ho.isIdle_iff.1 h.idle
  obtain ⟨frameCycles, hregisters⟩ := h.registers
  have hframes := h.frames
  refine ⟨ho.next.isIdle_iff.2 ?_, ?_, ?_, ?_⟩
  · rw [hnext]
    exact hcomponents
  · rw [hnext]
    exact h.memory
  · rw [hnext]
    dsimp only
    split <;> omega
  · rw [hnext]
    dsimp only
    rw [hregisters]
    cases g'.edge with
    | false =>
      refine ⟨min (frameCycles + 1) maxFrameCycles, ?_⟩
      simp only [RegisterFile.clock, Bool.false_eq_true, if_false]
      split <;> rfl
    | true =>
      refine ⟨0, ?_⟩
      have hmore : g'.frames + 1 ≠ g.frames := by omega
      simp only [RegisterFile.clock, if_true, if_neg hmore]
      split <;> rfl

end Gpu

/-! ## Idle devices and their host -/

namespace Audit

/-- A call that brings the device nothing to do: the host lets a cycle pass, or collects answers. -/
def Call.isPassive : Call → Bool
  | tick | takeResponse | drainResponses => true
  | offer _ | submit _ _ | drainHost _ | reset => false

variable {x : Audit} {g : Gpu} {config : Config}

/-- A device with its account, some time after it was idle: it has rested, and all answers, collected
or not, were there before. -/
structure AfterIdle (config : Config) (g : Gpu) (x : Audit) : Prop where
  /-- The device is orderly. -/
  orderly : x.device.Orderly config
  /-- It has rested. -/
  rests : g.Rests x.device
  /-- The answers. -/
  answers : x.account.collected ++ x.device.responses.toList = g.responses.toList

/-- The account of an idle device stays as it is in a cycle. -/
theorem account_tick_of_idle (h : x.device.Orderly config) (hi : x.device.isIdle = true) :
    x.tick.account = x.account := by
  obtain ⟨hempty, -, -⟩ := h.isIdle_iff.1 hi
  cases tick_cases h.held with
  | rest stallCycles hd ha => exact ha
  | execute hq =>
    rw [hempty] at hq
    cases hq

/-- A passive call. -/
theorem AfterIdle.passive (h : x.AfterIdle config g) {c : Call} (hc : c.isPassive = true) :
    (x.call c).AfterIdle config g := by
  obtain ⟨ho, hrests, hanswers⟩ := h
  have hcollect (responses : Queue UInt64) (taken : List UInt64)
      (hr : x.device.responses.toList = taken ++ responses.toList) :
      AfterIdle config g {
        device := { x.device with responses }
        account := { x.account with collected := x.account.collected ++ taken } } := by
    refine ⟨{ ho with }, { hrests with }, ?_⟩
    rw [List.append_assoc, ← hr]
    exact hanswers
  cases c with
  | tick =>
    show x.tick.AfterIdle config g
    have hnext := ho.next_of_idle hrests.idle
    refine ⟨?_, ?_, ?_⟩
    · rw [device_tick]
      exact ho.next
    · rw [device_tick]
      exact hrests.next ho
    · rw [account_tick_of_idle ho hrests.idle, device_tick, hnext]
      exact hanswers
  | takeResponse =>
    unfold call Gpu.takeResponse?
    cases hp : x.device.responses.pop? with
    | none => exact ⟨ho, hrests, hanswers⟩
    | some pair => exact hcollect _ _ (Queue.pop?_eq_some hp)
  | drainResponses => exact hcollect _ _ (List.append_nil _).symm
  | offer t => cases hc
  | submit t budget => cases hc
  | drainHost link => cases hc
  | reset => cases hc

/-- Passive calls. -/
theorem AfterIdle.run {calls : List Call} (h : x.AfterIdle config g)
    (hc : ∀ c ∈ calls, c.isPassive = true) : (x.run calls).AfterIdle config g := by
  induction calls generalizing x with
  | nil => exact h
  | cons c calls ih =>
    have hfirst := h.passive (hc c List.mem_cons_self)
    exact ih hfirst fun d hd => hc d (List.mem_cons_of_mem c hd)

end Audit

/-- **An idle device rests.** A reachable device is idle, and then only cycles pass and answers are
collected. At any time after, it is idle and its memory is as it was; there is no answer that was not
there before; the ports of the rasterizer and of the engine have no request, pending or granted, and
no response that waits; no value is expected for the memory window; and the register file is as it
was but for its cycle count, unless there was a vertical sync edge, which has put the staged surface
on display. -/
theorem Gpu.Reachable.idle_rests {config : Config} {g : Gpu} (h : g.Reachable config)
    (hi : g.isIdle = true) (calls : List Audit.Call) (hc : ∀ c ∈ calls, c.isPassive = true) :
    let x := Audit.run { device := g } calls
    x.device = calls.foldl Audit.Call.perform g
      ∧ g.Rests x.device
      ∧ x.account.collected ++ x.device.responses.toList = g.responses.toList
      ∧ (∀ c, c ≠ .display → x.device.arbiter.isPending c = false
          ∧ x.device.arbiter.isGranted c = false ∧ x.device.arbiter.response? c = none)
      ∧ x.device.registers.readAhead ≠ .pending := by
  intro x
  have hstart : Audit.AfterIdle config g { device := g } := ⟨h.orderly, .refl hi, rfl⟩
  obtain ⟨ho, hrests, hanswers⟩ := hstart.run hc
  refine ⟨Audit.device_run _ _, hrests, hanswers, fun c hc => ?_, ho.readAhead_of_idle hrests.idle⟩
  exact Arbiter.at_free ho.apart.sound.wellFormed (ho.port_of_idle hrests.idle hc)

/-- A surface was staged and a dword read ahead before the device came to rest. While it rests the
answer is collected, and a vertical sync edge puts the surface on display. -/
theorem Gpu.idle_rests_staged :
    let config : Config :=
      { bootSequence := false, memoryWords := 8, memoryLatency := 1, scanoutCapacity := 6
        scanoutBurst := 3
        timing := ⟨⟨3, 0, 0, 0⟩, ⟨2, 0, 1, 0⟩, 4⟩ }
    let stream : List Transaction :=
      [.write Register.display.address 0x2000000000000,
        .write Register.windowAddress.address 1, .read Register.windowData.address]
    let before : List Audit.Call := stream.map .offer ++ .replicate 20 .tick
    let calls : List Audit.Call := .replicate 7 .tick ++ [.drainResponses, .tick]
    let g := ((Audit.start config (.zeroed 8 1)).run before).device
    let x := Audit.run { device := g } calls
    g.isIdle = true ∧ g.registers.staged = some { widthLog2 := 2 }
      ∧ g.Rests x.device ∧ x.account.collected = g.responses.toList
      ∧ x.device.registers.display = { widthLog2 := 2 } ∧ x.device.registers.staged = none := by
  intro config stream before calls g x
  have hidle : g.isIdle = true := by decide +kernel
  have hstaged : g.registers.staged = some { widthLog2 := 2 } := by decide +kernel
  have hframes : x.device.frames ≠ g.frames := by decide +kernel
  have hempty : x.device.responses.toList = [] := by decide +kernel
  have hpassive : ∀ c ∈ calls, c.isPassive = true := by
    intro c hc
    simp [calls] at hc
    rcases hc with rfl | rfl | rfl <;> rfl
  have hreach : g.Reachable config := reachable_run config (.zeroed 8 1) before
  have hx : x = Audit.run { device := g } calls := rfl
  -- from here on the runs are not to be evaluated
  clear_value x g
  subst hx
  obtain ⟨-, hrests, hanswers, -⟩ := hreach.idle_rests hidle calls hpassive
  obtain ⟨frameCycles, hregisters⟩ := hrests.registers
  rw [hempty, List.append_nil] at hanswers
  rw [if_neg hframes, hstaged] at hregisters
  exact ⟨hidle, hstaged, hrests, hanswers, by rw [hregisters]; rfl, by rw [hregisters]⟩

end RasterGpu
