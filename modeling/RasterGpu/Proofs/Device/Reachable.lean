import RasterGpu.Proofs.Device.Consistency
import RasterGpu.Proofs.Scanout.Picture

/-!
# Devices in use

A host can do anything to a device at any time: make calls, and change the memory past the arbiter.
`Gpu.Reachable` are the devices that it may find. What is true of a new device, and of a device
after anything that was true of it before, is true of all of them (`Reachable.induction`).

`Gpu.Orderly` is what is known of a reachable device (`Reachable.orderly`). Beside what is known of
its ports and its screen (`Gpu.Intact`), the memory engine and the register file are in step with
the rest:

* The engine waits for a response exactly while its port is not free (`MemoryEngine.Attends`).
* The register file counts the read-aheads that the engine has, and expects a value only while there
  is one.
* The engine has room for the commands of a transaction.
-/

namespace RasterGpu

/-! ## The memory engine and its port -/

namespace MemoryEngine

variable {e : MemoryEngine} {a : Arbiter} {p : Port}

/-- The engine waits for a response exactly while its port is not free. -/
def Attends (e : MemoryEngine) (p : Port) : Prop :=
  e.outstanding = none ↔ p = .free

/-- A port stays free, or not free, in a cycle of the arbiter. -/
theorem Attends.arbiter (h : e.Attends (a.port .engine)) (hw : a.WellFormed) (m : Sdram) :
    e.Attends ((a.tick m).1.port .engine) := by
  unfold Attends at h ⊢
  rw [h]
  rcases (Arbiter.tick_portStep hw m).port_cases .engine with
    heq | ⟨request, hp, hp'⟩ | ⟨request, hp, hp'⟩
  · rw [heq]
  · simp [hp, hp']
  · simp [hp, hp']

/-- A request that is presented on a free port is waited for. -/
theorem issue_attends (hw : a.WellFormed) (hfree : a.port .engine = .free) (kind : EngineRequest)
    (request : Request) : (e.issue a kind request).1.Attends
      ((e.issue a kind request).2.port .engine) := by
  obtain ⟨stats, he⟩ := issue_eq (e := e) hfree kind request
  have hport := congrArg EngineView.port (issue_view (e := e) hw hfree kind request).1
  change (e.issue a kind request).2.port .engine = .pending request at hport
  rw [Attends, he, hport]
  simp

/-- An engine that starts a command waits for its response, if it has one. -/
theorem start_attends (hw : a.WellFormed) (hfree : a.port .engine = .free)
    (ho : e.outstanding = none) : (e.start a).1.Attends ((e.start a).2.port .engine) := by
  have hrest (e' : MemoryEngine) (he : e'.outstanding = none) :
      e'.Attends (a.port .engine) := by simp [Attends, he, hfree]
  unfold start
  split
  · exact hrest e ho
  · dsimp only
    split
    · exact issue_attends hw hfree _ _
    · exact issue_attends hw hfree _ _
    · exact issue_attends hw hfree _ _
    · split
      · exact hrest _ ho
      · exact hrest _ ho

/-- An engine that goes on waits for what it asks for. -/
theorem advance_attends (h : e.Attends (a.port .engine)) (hw : a.WellFormed) :
    (e.advance a).1.Attends ((e.advance a).2.port .engine) := by
  unfold advance
  split
  · rename_i hfree
    rw [a.isFree_iff] at hfree
    have ho : e.outstanding = none := h.2 hfree
    split
    · exact start_attends hw hfree ho
    · split
      · exact start_attends hw hfree ho
      · exact issue_attends hw hfree _ _
  · exact h

/-- A cycle of the engine. -/
theorem Attends.tick (h : e.Attends (a.port .engine)) (hw : a.WellFormed) :
    (e.tick a).1.Attends ((e.tick a).2.port .engine) := by
  unfold MemoryEngine.tick
  split
  · exact advance_attends h hw
  · rename_i kind ho
    split
    · exact h
    · rename_i response a' ht
      have hnone : (e.collect kind response).outstanding = none := by cases kind <;> rfl
      have hfree : a'.port .engine = .free := by
        rw [Arbiter.port_take? hw ht, Function.update_self]
      refine advance_attends ?_ (hw.take? ht)
      simp [Attends, hnone, hfree]

/-- A request does not change the room of the engine. -/
theorem issue_capacity (e : MemoryEngine) (a : Arbiter) (kind : EngineRequest)
    (request : Request) : (e.issue a kind request).1.capacity = e.capacity := by
  unfold issue
  cases kind <;> dsimp only <;> split <;> rfl

/-- Starting a command does not change the room of the engine. -/
theorem start_capacity (e : MemoryEngine) (a : Arbiter) :
    (e.start a).1.capacity = e.capacity := by
  unfold start
  split
  · rfl
  · dsimp only
    split
    · exact issue_capacity _ _ _ _
    · exact issue_capacity _ _ _ _
    · exact issue_capacity _ _ _ _
    · split <;> rfl

/-- Going on does not change the room of the engine. -/
theorem advance_capacity (e : MemoryEngine) (a : Arbiter) :
    (e.advance a).1.capacity = e.capacity := by
  unfold advance
  split
  · split
    · exact start_capacity _ _
    · split
      · exact start_capacity _ _
      · exact issue_capacity _ _ _ _
  · rfl

/-- A cycle does not change the room of the engine. -/
theorem tick_capacity (e : MemoryEngine) (a : Arbiter) : (e.tick a).1.capacity = e.capacity := by
  unfold tick
  split
  · exact advance_capacity e a
  · rename_i kind _
    split
    · rfl
    · rw [advance_capacity]
      cases kind <;> rfl

/-- One read-ahead less is under way when a value is collected. -/
theorem readAheads_collect (e : MemoryEngine) :
    readAheads { e with fetched := none } = e.readAheads - e.fetched.isSome.toNat := by
  simp only [readAheads, Option.isSome_none, Bool.toNat_false]
  omega

end MemoryEngine

/-! ## The register file and its read-aheads -/

namespace RegisterFile

variable {regs : RegisterFile}

/-- A value is expected only while a read-ahead is under way. -/
def Expects (regs : RegisterFile) : Prop :=
  regs.readAhead = .pending → 0 < regs.readAheads

/-- The clock. -/
theorem Expects.clock (h : regs.Expects) (edge : Bool) : (regs.clock edge).Expects := by
  obtain ⟨-, hahead, hcount⟩ := regs.clock_window edge
  unfold Expects
  rw [hahead, hcount]
  exact h

/-- A value that is taken in is expected no more if it is the last. -/
theorem completeReadAhead_expects (regs : RegisterFile) (value : UInt64) :
    (regs.completeReadAhead value).Expects := by
  unfold completeReadAhead
  split
  · intro hpending
    cases hpending
  · intro _
    dsimp only
    omega

/-- One read-ahead less is under way when a value is taken in. -/
theorem completeReadAhead_readAheads (regs : RegisterFile) (value : UInt64) :
    (regs.completeReadAhead value).readAheads = regs.readAheads - 1 := by
  unfold completeReadAhead
  split
  · dsimp only
    omega
  · rfl

/-- A transaction counts the read-aheads that it asks for, and expects a value if it asks for
one. -/
theorem process_readAheads (regs : RegisterFile) (t : Transaction) :
    (regs.process t).1.readAheads
        = regs.readAheads + (regs.process t).2.commands.countP MemoryCommand.isReadAhead
      ∧ ((regs.process t).1.readAhead = regs.readAhead ∨ 0 < (regs.process t).1.readAheads) := by
  cases t with
  | write address data =>
    unfold process
    dsimp only
    split
    · rename_i r _
      cases r <;> simp [writeRegister, kick, submitVertex, moveWindow, MemoryCommand.isReadAhead]
    · simp
  | read address =>
    unfold process
    dsimp only
    split <;> simp [moveWindow, MemoryCommand.isReadAhead]

/-- A transaction. -/
theorem Expects.process (h : regs.Expects) (t : Transaction) : (regs.process t).1.Expects := by
  obtain ⟨hcount, hsame | hmore⟩ := regs.process_readAheads t
  · intro hpending
    rw [hsame] at hpending
    have hpos := h hpending
    omega
  · exact fun _ => hmore

end RegisterFile

/-! ## What is known of a device -/

namespace Gpu

/-- What is known of a device at any time. -/
structure Orderly (config : Config) (g : Gpu) : Prop extends g.Intact config where
  /-- The engine waits for a response exactly while its port is not free. -/
  attends : g.engine.Attends (g.arbiter.port .engine)
  /-- What came back was collected. -/
  fetched : g.engine.fetched = none
  /-- The register file knows how many read-aheads are under way. -/
  count : g.registers.readAheads = g.engine.readAheads
  /-- It expects a value only while there is one. -/
  expects : g.registers.Expects
  /-- The engine has room for the commands of a transaction. -/
  room : 2 ≤ g.engine.capacity

variable {g g' : Gpu} {config : Config}

/-- A device at rest. -/
theorem orderly_of_rest (hi : g.Intact config) (hengine : g.engine.reset = g.engine)
    (harbiter : g.arbiter.reset = g.arbiter) (hregisters : g.registers.reset = g.registers)
    (hroom : 2 ≤ g.engine.capacity) : g.Orderly config := by
  refine { hi with attends := ?_, fetched := ?_, count := ?_, expects := ?_, room := hroom }
  · rw [← hengine, ← harbiter]
    simp [MemoryEngine.Attends, MemoryEngine.reset, Arbiter.reset, Arbiter.port]
  · rw [← hengine]
    rfl
  · rw [← hengine, ← hregisters]
    rfl
  · rw [← hregisters]
    intro hpending
    cases hpending

/-- The ports of the engine and the rasterizer before their cycles. -/
theorem Intact.port_engine (h : g.Intact config) :
    g.drawn.2.WellFormed ∧ g.drawn.2.port .engine = g.served.1.port .engine := by
  have hserved : Apart g.rasterizer g.engine g.served.1 := h.apart.arbiter g.memory
  have hscans := g.display.tick_scans hserved.sound.wellFormed g.registers.display
  have hscanned : Apart g.rasterizer g.engine g.scanned.2.1 := hserved.scans hscans
  obtain ⟨-, hwork⟩ := Rasterizer.tick_keeps hscanned.valid hscanned.sound
  refine ⟨hwork.sound.wellFormed, ?_⟩
  exact (hwork.foreign .engine rfl).trans (hscans.changes.others .engine (by decide))

/-- The engine and the register file after a cycle of all components. -/
theorem Orderly.settled (h : g.Orderly config) :
    g.settled.engine.Attends (g.settled.arbiter.port .engine)
      ∧ g.settled.engine.fetched = none
      ∧ g.settled.registers.readAheads = g.settled.engine.readAheads
      ∧ g.settled.registers.Expects ∧ 2 ≤ g.settled.engine.capacity := by
  have hw := h.apart.sound.wellFormed
  obtain ⟨hdrawn, hport⟩ := h.port_engine
  have hserved : g.engine.Attends (g.drawn.2.port .engine) := by
    rw [hport]
    exact h.attends.arbiter hw g.memory
  have hattends : g.fetched.1.Attends (g.fetched.2.port .engine) := hserved.tick hdrawn
  have hcapacity : g.fetched.1.capacity = g.engine.capacity := g.engine.tick_capacity _
  have hcount : g.registers.readAheads = g.fetched.1.readAheads :=
    h.count.trans (MemoryEngine.tick_readAheads h.fetched).symm
  obtain ⟨-, -, hclock⟩ := g.registers.clock_window g.edge
  refine ⟨hattends, rfl, ?_, ?_, hcapacity ▸ h.room⟩
  · rw [show g.settled.engine.readAheads = _ from g.fetched.1.readAheads_collect, ← hcount,
      ← hclock]
    change RegisterFile.readAheads (g.fetched.1.fetched.elim _ _) = _
    cases g.fetched.1.fetched with
    | none => rfl
    | some value => exact RegisterFile.completeReadAhead_readAheads _ value
  · change RegisterFile.Expects (g.fetched.1.fetched.elim _ _)
    cases g.fetched.1.fetched with
    | none => exact h.expects.clock g.edge
    | some value => exact RegisterFile.completeReadAhead_expects _ value

/-- A cycle keeps a device orderly. -/
theorem Orderly.next (h : g.Orderly config) : g.next.Orderly config := by
  obtain ⟨hattends, hfetched, hcount, hexpects, hroom⟩ := h.settled
  have hintact := h.toIntact.next
  have hd := dispatch_cases (g := g.settled) h.held
  rw [next_eq] at hintact ⊢
  generalize g.settled.dispatch = g' at hd hintact ⊢
  cases hd with
  | rest hq => exact ⟨hintact, hattends, hfetched, hcount, hexpects, hroom⟩
  | wait hq => exact ⟨hintact, hattends, hfetched, hcount, hexpects, hroom⟩
  | @execute t commands g' hq ho hx =>
    refine ⟨hintact, ?_, ?_, ?_, ?_, ?_⟩
    · rw [hx.engine, hx.arbiter]
      exact hattends
    · rw [hx.engine]
      exact hfetched
    · rw [hx.registers, hx.engine, MemoryEngine.readAheads_push,
        (g.settled.registers.process_readAheads t).1, hcount]
    · rw [hx.registers]
      exact hexpects.process t
    · rw [hx.engine]
      exact hroom

/-- A reset leaves a device at rest. -/
theorem Orderly.reset (h : g.Orderly config) : g.reset.Orderly config := by
  refine orderly_of_rest (intact_of_rest h.config_eq rfl rfl rfl rfl ?_) rfl rfl rfl h.room
  change displayOf g.config = displayOf config
  rw [h.config_eq]

/-! ## Reachable devices -/

/-- What a host does. -/
inductive Deed where
  /-- It makes a call. -/
  | call (c : Audit.Call)
  /-- It changes the memory past the arbiter. -/
  | store (memory : Sdram)

/-- What becomes of the device. -/
def Deed.perform (g : Gpu) : Deed → Gpu
  | call c => c.perform g
  | store memory => { g with memory }

/-- A device that a host may find. -/
inductive Reachable (config : Config) : Gpu → Prop where
  /-- It has just been built, with anything in its memory. -/
  | start (memory : Sdram) : Reachable config { ofConfig config with memory }
  /-- The host has done something to it. -/
  | deed {g : Gpu} (h : Reachable config g) (d : Deed) : Reachable config (d.perform g)

/-- A device that was built and called. -/
theorem reachable_run (config : Config) (memory : Sdram) (calls : List Audit.Call) :
    Reachable config ((Audit.start config memory).run calls).device := by
  rw [Audit.device_run]
  have hstart : Reachable config (Audit.start config memory).device := .start memory
  generalize (Audit.start config memory).device = g at hstart ⊢
  induction calls generalizing g with
  | nil => exact hstart
  | cons c calls ih => exact ih _ (hstart.deed (.call c))

/-- What is true of a new device and stays true is true of every reachable device. -/
theorem Reachable.induction {motive : Gpu → Prop} (h : g.Reachable config)
    (hstart : ∀ memory, motive { ofConfig config with memory })
    (hhost : ∀ (g : Gpu) (commands : CommandQueue) (responses : Queue UInt64),
      commands.boot = g.commands.boot → motive g → motive { g with commands, responses })
    (hstore : ∀ (g : Gpu) (memory : Sdram), motive g → motive { g with memory })
    (hnext : ∀ g : Gpu, motive g → motive g.next)
    (hreset : ∀ g : Gpu, motive g → motive g.reset) : motive g := by
  induction h with
  | start memory => exact hstart memory
  | @deed g h d ih =>
    cases d with
    | store memory => exact hstore g memory ih
    | call c =>
      by_cases hc : c = .reset
      · subst hc
        exact hreset g ih
      · change motive (c.perform g)
        let x : Audit := { device := g }
        have hsteps := x.call_steps hc
        rw [show c.perform g = (x.call c).device from (x.device_call c).symm]
        generalize x.call c = x' at hsteps ⊢
        induction hsteps with
        | refl => exact ih
        | tail _ hs ih =>
          cases hs with
          | host hboot hq hr => exact hhost _ _ _ hboot ih
          | tick =>
            rw [Audit.device_tick]
            exact hnext _ ih

/-- **Every reachable device is orderly.** -/
theorem Reachable.orderly (h : g.Reachable config) : g.Orderly config := by
  refine h.induction (fun memory => ?_) (fun g _ _ _ h => ?_) (fun g _ h => ?_) (fun g h => h.next)
    fun g h => h.reset
  · exact orderly_of_rest (intact_of_rest rfl rfl rfl rfl rfl rfl) rfl rfl rfl
      (Nat.le_max_right _ _)
  · exact { h with }
  · exact { h with }

end Gpu

end RasterGpu
