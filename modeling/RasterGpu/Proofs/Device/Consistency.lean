import RasterGpu.Proofs.Device.Account
import RasterGpu.Proofs.Device.ReadAhead
import RasterGpu.Proofs.Device.Window

/-!
# The memory window is sequentially consistent

What a read of the memory window returns was fetched ahead, by a device that executes stores and
read-aheads later than it takes them. No host can tell: the answers are those of a `Window`, which
reads and writes at once.

* `Window.Value` relates the window to the value that the register file has read ahead: there is
  none, or it is on its way, or it is here.
* `Window.Kept` is the invariant around it. The components of the device keep it in a cycle
  (`Kept.settled`), and so does the command stage when it executes a transaction
  (`Kept.executes`).
* `Audit.run_window` is the theorem for whole runs, and `Audit.pointer_read_asks_nothing` shows why
  it counts writes of the pointer as uses of the window, and reads not.
-/

namespace RasterGpu

/-! ## The value that was read ahead -/

/-- Before a command is given it was not counted, and after that it is. -/
theorem MemoryEngine.readAheads_push (e : MemoryEngine) (commands : List MemoryCommand) :
    readAheads { e with queue := e.queue.pushMany commands }
      = e.readAheads + commands.countP MemoryCommand.isReadAhead := by
  have hqueue : (e.queue.pushMany commands).toList = e.queue.toList ++ commands :=
    Queue.toList_pushMany _ _
  unfold readAheads
  dsimp only
  rw [hqueue, List.countP_append, ← Nat.add_assoc]

/-- Commands that are given are carried out after everything else. -/
theorem MemoryEngine.finish_push (e : MemoryEngine) (a : Arbiter) (commands : List MemoryCommand)
    (m : Sdram) :
    (view { e with queue := e.queue.pushMany commands } a).finish m
      = commands.foldl MemoryCommand.apply ((e.view a).finish m) := by
  simp only [view, EngineView.finish, Queue.toList_pushMany, List.foldl_append]

/-- A command that is not a fill does not make the engine fill. -/
theorem MemoryEngine.isFilling_push {e : MemoryEngine} {commands : List MemoryCommand}
    (hf : e.isFilling = false) (hc : ∀ c ∈ commands, c.isFill = false) :
    isFilling { e with queue := e.queue.pushMany commands } = false := by
  rw [← isFilling_view _ {}] at hf ⊢
  unfold EngineView.isFilling at hf ⊢
  rw [Bool.or_eq_false_iff] at hf ⊢
  refine ⟨hf.1, ?_⟩
  simp only [view, Queue.toList_pushMany, List.any_append, Bool.or_eq_false_iff]
  refine ⟨hf.2, List.any_eq_false.2 fun c hmem => ?_⟩
  rw [hc c hmem]
  exact Bool.false_ne_true

/-- A value that has come back is no longer counted once it is collected. -/
theorem MemoryEngine.readAheads_collected {e : MemoryEngine} {value : UInt64}
    (hf : e.fetched = some value) :
    e.readAheads = readAheads { e with fetched := none } + 1 := by
  unfold readAheads
  rw [hf]
  simp only [Option.isSome_some, Option.isSome_none, Bool.toNat_true, Bool.toNat_false]
  omega

/-- The clock does not touch the window. -/
theorem RegisterFile.clock_window (regs : RegisterFile) (edge : Bool) :
    (regs.clock edge).window = regs.window ∧ (regs.clock edge).readAhead = regs.readAhead
      ∧ (regs.clock edge).readAheads = regs.readAheads := by
  unfold clock
  split
  · exact ⟨rfl, rfl, rfl⟩
  · exact ⟨rfl, rfl, rfl⟩

namespace Window

variable {w : Window} {g g' : Gpu}

/-- How the value that the register file has read ahead is related to the window. -/
inductive Value (w : Window) (ahead : ReadAhead) (e : MemoryEngine) (p : Port) (m : Sdram) :
    Prop where
  /-- The window was not used, and nothing was asked for. -/
  | unused (hu : w.used = false) (hr : ahead = .empty) (hc : e.readAheads = 0)
  /-- The dword that the window points to is on its way. -/
  | coming (hu : w.used = true) (hr : ahead = .pending) (hf : e.isFilling = false)
    (hb : e.Brings w.pointer p m)
  /-- The dword that the window points to is here, and the engine has nothing to do. -/
  | here (hu : w.used = true) (hr : ahead = .ready (w.memory.dword w.pointer))
    (hf : e.isFilling = false) (hc : e.readAheads = 0) (hq : e.queue.toList = [])
    (hp : p.requests = [])

/-- An engine that does not fill has no fill under way. -/
theorem fill_eq_none {e : MemoryEngine} (hf : e.isFilling = false) : e.fill = none := by
  unfold MemoryEngine.isFilling at hf
  rw [Bool.or_eq_false_iff, Option.isSome_eq_false_iff, Option.isNone_iff_eq_none] at hf
  exact hf.1

section

variable {ahead : ReadAhead} {e : MemoryEngine} {a : Arbiter} {m : Sdram}

/-- A cycle of the arbiter. -/
theorem Value.arbiter (h : w.Value ahead e (a.port .engine) m) (hw : a.WellFormed)
    (hf : e.fetched = none) (hreads : ∀ c, c ≠ .engine → (a.port c).ReadsOnly) :
    w.Value ahead e ((a.tick m).1.port .engine) (a.tick m).2 := by
  cases h with
  | unused hu hr hc => exact .unused hu hr hc
  | coming hu hr hfill hb => exact .coming hu hr hfill (hb.arbiter hw hf hreads)
  | here hu hr hfill hc hq hp => exact .here hu hr hfill hc hq (Arbiter.requests_tick hw hp m)

/-- A cycle of the memory engine. -/
theorem Value.engine (h : w.Value ahead e (a.port .engine) m) (hw : a.WellFormed)
    (hf : e.fetched = none) : w.Value ahead (e.tick a).1 ((e.tick a).2.port .engine) m := by
  have hcount : (e.tick a).1.readAheads = e.readAheads := MemoryEngine.tick_readAheads hf
  have hmoves := (e.tick_moves hw).1
  have hfilling (hfill : e.isFilling = false) : (e.tick a).1.isFilling = false := by
    rw [← MemoryEngine.isFilling_view _ (e.tick a).2]
    exact hmoves.isFilling (by rw [e.isFilling_view]; exact hfill)
  cases h with
  | unused hu hr hc => exact .unused hu hr (hcount.trans hc)
  | coming hu hr hfill hb =>
    exact .coming hu hr (hfilling hfill) (hb.tick hw (fill_eq_none hfill) hf)
  | here hu hr hfill hc hq hp =>
    have hrest : (e.view a).AtRest := ⟨hq, fill_eq_none hfill, hp⟩
    have hrest' := hmoves.atRest hrest
    exact .here hu hr (hfilling hfill) (hcount.trans hc) hrest'.queue hrest'.port

/-- The register file takes in a value that has come back. It keeps it if it is the last, and then
it is the dword that the window points to. -/
theorem Value.collect {regs : RegisterFile} {value : UInt64}
    (h : w.Value regs.readAhead e (a.port .engine) m) (hv : e.fetched = some value)
    (hcount : regs.readAheads = e.readAheads) (hm : (e.view a).finish m = w.memory) :
    w.Value (regs.completeReadAhead value).readAhead { e with fetched := none } (a.port .engine) m
      ∧ (regs.completeReadAhead value).readAheads
        = MemoryEngine.readAheads { e with fetched := none } := by
  have hless := MemoryEngine.readAheads_collected hv
  cases h with
  | unused hu hr hc => omega
  | here hu hr hfill hc hq hp => omega
  | coming hu hr hfill hb =>
    unfold RegisterFile.completeReadAhead
    by_cases hone : e.readAheads = 1
    · obtain ⟨hvalue, hq, hp⟩ := hb.fetched_eq hv hone
      have hrest : (e.view a).AtRest := ⟨hq, fill_eq_none hfill, hp⟩
      rw [hrest.finish_eq] at hm
      rw [if_pos (by omega)]
      refine ⟨.here hu ?_ hfill (by omega) hq hp, by dsimp only; omega⟩
      rw [hvalue, m.dwordOfWords_fetch, hm]
    · rw [if_neg (by omega)]
      exact ⟨.coming hu hr hfill (hb.collected (by omega)), by dsimp only; omega⟩

end

/-! ## The invariant -/

/-- The device will do for the window what is done at once in `w`. -/
structure Kept (w : Window) (g : Gpu) : Prop where
  /-- The ports of the rasterizer and of scanout. -/
  apart : Apart g.rasterizer g.engine g.arbiter
  /-- Nothing is drawn. -/
  idle : g.rasterizer.isBusy = false
  /-- What came back was collected. -/
  fetched : g.engine.fetched = none
  /-- The register file knows how many read-aheads are under way. -/
  count : g.registers.readAheads = g.engine.readAheads
  /-- The pointers are the same. -/
  pointer : g.registers.window = w.pointer
  /-- The memory will be that of the window. -/
  finish : (g.engine.view g.arbiter).finish g.memory = w.memory
  /-- The value read ahead is, or will be, what the window shows. -/
  value : w.Value g.registers.readAhead g.engine (g.arbiter.port .engine) g.memory

/-- A device that has executed nothing. -/
theorem kept_of_rest (hrasterizer : g.rasterizer = {}) (hengine : g.engine.reset = g.engine)
    (harbiter : g.arbiter.reset = g.arbiter) (hregisters : g.registers.reset = g.registers) :
    Kept { memory := g.memory } g := by
  obtain ⟨config, commands, registers, rasterizer, held, lastDraw, engine, arbiter, memory, display,
    responses, vsync, frames, cycles, stallCycles⟩ := g
  dsimp only at hrasterizer hengine harbiter hregisters
  rw [hrasterizer, ← hengine, ← harbiter, ← hregisters]
  exact
    { apart :=
        { valid := trivial
          sound := ⟨.of_no_grant rfl, fun c _ => by cases c <;> exact .free⟩
          scanout := fun r hr => absurd hr List.not_mem_nil
          exclusive := fun hb => by cases hb }
      idle := rfl
      fetched := rfl
      count := rfl
      pointer := rfl
      finish := rfl
      value := .unused rfl rfl rfl }

/-- As long as nothing is drawn only the engine writes. -/
theorem Kept.readsOnly (h : w.Kept g) (c : Client) (hc : c ≠ .engine) :
    (g.arbiter.port c).ReadsOnly := by
  have hdrawing (hd : c.isDrawing = true) : (g.arbiter.port c).ReadsOnly := by
    have hserved := h.apart.sound.served c hd
    rw [Rasterizer.work_of_idle h.idle] at hserved
    rw [hserved.eq_free]
    exact fun r hr => absurd hr List.not_mem_nil
  cases c with
  | display => exact h.apart.scanout
  | color => exact hdrawing rfl
  | depth => exact hdrawing rfl
  | engine => exact absurd rfl hc

/-- **A cycle of all components keeps the window.** -/
theorem Kept.settled (h : w.Kept g) : w.Kept g.settled := by
  have hw := h.apart.sound.wellFormed
  have hserved : g.served.1.WellFormed := hw.tick g.memory
  have hscans := g.display.tick_scans hserved g.registers.display
  have hdrawn : g.drawn = (g.rasterizer, g.scanned.2.1) := Rasterizer.tick_of_idle h.idle _
  have hport : g.drawn.2.port .engine = g.served.1.port .engine := by
    rw [hdrawn]
    exact hscans.changes.others .engine (by decide)
  have hdrawnWell : g.drawn.2.WellFormed := by
    rw [hdrawn]
    exact hscans.changes.wellFormed
  -- the arbiter first, and then the engine
  have hvalue :
      w.Value g.registers.readAhead g.fetched.1 (g.fetched.2.port .engine) g.served.2 := by
    have harbiter := h.value.arbiter hw h.fetched h.readsOnly
    refine Value.engine (a := g.drawn.2) ?_ hdrawnWell h.fetched
    rw [hport]
    exact harbiter
  have hfinish : (g.fetched.1.view g.fetched.2).finish g.served.2 = w.memory := by
    have hmoves := (g.engine.tick_moves hdrawnWell).1
    have hview : g.engine.view g.drawn.2 = g.engine.view g.served.1 := by
      rw [MemoryEngine.view, MemoryEngine.view, hport]
    rw [← h.finish, ← g.engine.finish_arbiter hw g.memory h.readsOnly]
    change _ = (g.engine.view g.served.1).finish g.served.2
    rw [← hview]
    exact hmoves.finish_eq _
  have hcount : g.registers.readAheads = g.fetched.1.readAheads :=
    h.count.trans (MemoryEngine.tick_readAheads h.fetched).symm
  have hidle : g.settled.rasterizer.isBusy = false := by
    change g.drawn.1.isBusy = false
    rw [hdrawn]
    exact h.idle
  -- and the register file collects what has come back
  obtain ⟨hwindow, hahead, haheads⟩ := g.registers.clock_window g.edge
  have happart := h.apart.settled
  cases hf : g.fetched.1.fetched with
  | none =>
    have hengine : { g.fetched.1 with fetched := none } = g.fetched.1 := by rw [← hf]
    have hregisters : g.settled.registers = g.registers.clock g.edge := by
      rw [Gpu.settled, hf]
      rfl
    exact
      { apart := happart
        idle := hidle
        fetched := rfl
        count := by
          rw [hregisters, haheads]
          change _ = MemoryEngine.readAheads { g.fetched.1 with fetched := none }
          rw [hengine]
          exact hcount
        pointer := by
          rw [hregisters, hwindow]
          exact h.pointer
        finish := hfinish
        value := by
          rw [hregisters, hahead]
          change w.Value _ { g.fetched.1 with fetched := none } _ _
          rw [hengine]
          exact hvalue }
  | some value =>
    have hregisters : g.settled.registers = (g.registers.clock g.edge).completeReadAhead value := by
      rw [Gpu.settled, hf]
      rfl
    rw [← hahead] at hvalue
    obtain ⟨hvalue', hcount'⟩ := hvalue.collect hf (haheads.trans hcount) hfinish
    exact
      { apart := happart
        idle := hidle
        fetched := rfl
        count := by
          rw [hregisters]
          exact hcount'
        pointer := by
          rw [hregisters, ← h.pointer, ← hwindow]
          unfold RegisterFile.completeReadAhead
          split <;> rfl
        finish := hfinish
        value := by
          rw [hregisters]
          exact hvalue' }

/-! ## Executing a transaction -/

/-- The window is moved, perhaps after a store: the commands of the transaction end with the
read-ahead that the register file waits for. -/
theorem Kept.move {t : Transaction} {w' : Window} (h : w.Kept g) (stores : List MemoryCommand)
    (ho : g.Open) (hx : g.Executes t g') (hdraw : (g.registers.process t).2.draw = none)
    (hpointer : (g.registers.process t).1.window = w'.pointer)
    (hahead : (g.registers.process t).1.readAhead = .pending)
    (haheads : (g.registers.process t).1.readAheads = g.registers.readAheads + 1)
    (hcommands : (g.registers.process t).2.commands = stores ++ [.readAhead w'.pointer])
    (hstores : ∀ c ∈ stores, c.isStore = true)
    (hmemory : stores.foldl MemoryCommand.apply w.memory = w'.memory) (hused : w'.used = true) :
    w'.Kept g' := by
  have hraster : g'.rasterizer = g.rasterizer := by
    rw [hx.rasterizer, hdraw]
    rfl
  have hengine : g'.engine = { g.engine with
      queue := g.engine.queue.pushMany (stores ++ [.readAhead w'.pointer]) } := by
    rw [hx.engine, hcommands]
  have hplain : ∀ c ∈ stores ++ [.readAhead w'.pointer], c.isFill = false := by
    intro c hc
    rcases List.mem_append.1 hc with hc | hc
    · have hstore := hstores c hc
      cases c with
      | fill f => cases hstore
      | store dword value => rfl
      | timestamp address cycles => rfl
      | readAhead dword => rfl
    · obtain rfl := List.mem_singleton.1 hc
      rfl
  have hnone : stores.countP MemoryCommand.isReadAhead = 0 := by
    rw [List.countP_eq_zero]
    intro c hc hread
    have hstore := hstores c hc
    cases c with
    | readAhead dword => cases hstore
    | store dword value => cases hread
    | timestamp address cycles => cases hread
    | fill f => cases hread
  exact
    { apart := by
        rw [hraster, hx.arbiter]
        exact h.apart.push h.idle _
      idle := by
        rw [hraster]
        exact h.idle
      fetched := by
        rw [hengine]
        exact h.fetched
      count := by
        rw [hx.registers, haheads, hengine, MemoryEngine.readAheads_push, List.countP_append, hnone,
          h.count]
        rfl
      pointer := by
        rw [hx.registers]
        exact hpointer
      finish := by
        rw [hengine, hx.arbiter, hx.memory, MemoryEngine.finish_push, h.finish, List.foldl_append,
          hmemory]
        rfl
      value := by
        rw [hx.registers, hengine]
        have hqueue : (g.engine.queue.pushMany (stores ++ [.readAhead w'.pointer])).toList
            = (g.engine.queue.toList ++ stores) ++ [.readAhead w'.pointer] := by
          rw [List.append_assoc]
          exact Queue.toList_pushMany _ _
        exact .coming hused hahead (MemoryEngine.isFilling_push ho.noFill hplain)
          (.queued hqueue) }

/-- A transaction that does not touch the window. -/
theorem Kept.untouched {t : Transaction} (h : w.Kept g) (hx : g.Executes t g')
    (ht : t.Untouched g.registers) : w.Kept g' := by
  have hraster : g'.rasterizer = g.rasterizer := by
    rw [hx.rasterizer, ht.draw]
    rfl
  have hengine : g'.engine = g.engine := by
    rw [hx.engine, ht.commands]
    rfl
  exact
    { apart := by
        rw [hraster, hengine, hx.arbiter]
        exact h.apart
      idle := by
        rw [hraster]
        exact h.idle
      fetched := by
        rw [hengine]
        exact h.fetched
      count := by
        rw [hx.registers, ht.readAheads, hengine]
        exact h.count
      pointer := by
        rw [hx.registers, ht.window]
        exact h.pointer
      finish := by
        rw [hengine, hx.arbiter, hx.memory]
        exact h.finish
      value := by
        rw [hx.registers, ht.readAhead, hengine, hx.arbiter, hx.memory]
        exact h.value }

/-- A fill, as long as the window was not used. -/
theorem Kept.fill {data : UInt64} {memory : Sdram} (h : Kept { memory } g)
    (hx : g.Executes (.write Register.fill.address data) g') :
    Kept { memory := (Fill.ofWord data).apply memory } g' := by
  have hengine : g'.engine
      = { g.engine with queue := g.engine.queue.pushMany [.fill (.ofWord data)] } := hx.engine
  have hraster : g'.rasterizer = g.rasterizer := hx.rasterizer
  have hcount : g'.engine.readAheads = g.engine.readAheads := by
    rw [hengine]
    exact MemoryEngine.readAheads_push _ _
  have hregisters : g'.registers.window = g.registers.window
      ∧ g'.registers.readAhead = g.registers.readAhead
      ∧ g'.registers.readAheads = g.registers.readAheads := by
    rw [hx.registers]
    exact ⟨rfl, rfl, rfl⟩
  obtain ⟨hwindow, hahead, haheads⟩ := hregisters
  exact
    { apart := by
        rw [hraster, hx.arbiter]
        exact h.apart.push h.idle _
      idle := by
        rw [hraster]
        exact h.idle
      fetched := by
        rw [hengine]
        exact h.fetched
      count := by
        rw [haheads, hcount]
        exact h.count
      pointer := hwindow.trans h.pointer
      finish := by
        rw [hengine, hx.arbiter, hx.memory, MemoryEngine.finish_push, h.finish]
        rfl
      value := by
        cases h.value with
        | unused hu hr hc => exact .unused rfl (hahead.trans hr) (hcount.trans hc)
        | coming hu => cases hu
        | here hu => cases hu }

/-- A read of the data that is not kept waiting is answered with what the window shows. -/
theorem Kept.answer (h : w.Kept g)
    (hp : g.registers.canProcess (.read Register.windowData.address) = true) :
    (g.registers.process (.read Register.windowData.address)).2.response = some w.answer := by
  have hresponse : (g.registers.process (.read Register.windowData.address)).2.response
      = some g.registers.windowValue := rfl
  rw [hresponse, Window.answer, RegisterFile.windowValue]
  cases h.value with
  | unused hu hr hc => rw [hr, hu, if_neg Bool.false_ne_true]
  | coming hu hr hfill hb =>
    unfold RegisterFile.canProcess at hp
    rw [hr] at hp
    simp at hp
  | here hu hr hfill hc hq hready => rw [hr, hu, if_pos rfl]

/-- **Executing a transaction keeps the window**, and a read of the data is answered with what the
window shows. -/
theorem Kept.executes {t : Transaction} (h : w.Kept g) (ho : g.Open)
    (hp : g.registers.canProcess t = true) (hx : g.Executes t g') (ht : t.viaWindow = true) :
    (w.step t).Kept g' ∧ (t = .read Register.windowData.address →
      (g.registers.process t).2.response = some w.answer) := by
  obtain ⟨hcase, hfill⟩ := Transaction.windowCase_of_viaWindow ht
  constructor
  · cases hcase with
    | point data =>
      exact h.move [] ho hx rfl rfl rfl rfl rfl (fun c hc => absurd hc List.not_mem_nil) rfl rfl
    | put data =>
      refine h.move [.store w.pointer data] ho hx rfl ?_ rfl rfl ?_ ?_ ?_ rfl
      · change (g.registers.window + 1) % windowDwords = (w.pointer + 1) % windowDwords
        rw [h.pointer]
      · change [MemoryCommand.store g.registers.window data,
            .readAhead ((g.registers.window + 1) % windowDwords)]
          = [.store w.pointer data, .readAhead ((w.pointer + 1) % windowDwords)]
        rw [h.pointer]
      · intro c hc
        obtain rfl := List.mem_singleton.1 hc
        rfl
      · exact w.memory.store_dwordWords w.pointer data
    | get =>
      refine h.move [] ho hx rfl ?_ rfl rfl ?_ (fun c hc => absurd hc List.not_mem_nil) rfl rfl
      · change (g.registers.window + 1) % windowDwords = (w.pointer + 1) % windowDwords
        rw [h.pointer]
      · change [MemoryCommand.readAhead ((g.registers.window + 1) % windowDwords)]
          = [.readAhead ((w.pointer + 1) % windowDwords)]
        rw [h.pointer]
    | fill data => exact absurd rfl (hfill data)
    | other hstep hregs =>
      rw [hstep]
      exact h.untouched hx (hregs _)
  · rintro rfl
    exact h.answer hp

end Window

/-! ## Runs -/

/-- The boot sequence asks for no word, draws nothing, and does not touch the window. -/
theorem Config.boot_plain (config : Config) : ∀ t ∈ config.boot,
    t.isRead = false ∧ t.isKick = false ∧ t.address ≠ Register.windowAddress.address
      ∧ t.IsTimeless := by
  unfold Config.boot
  split
  · decide
  · exact fun t ht => absurd ht List.not_mem_nil

/-- The entries of a list that have something, up to one of them, are counted by its place among
what they have. -/
theorem getElem?_filterMap_countP {α β : Type} (f : α → Option β) {l : List α} {i : Nat} {a : α}
    {b : β} (ha : l[i]? = some a) (hb : f a = some b) :
    (l.filterMap f)[(l.take i).countP fun a => (f a).isSome]? = some b := by
  induction l generalizing i with
  | nil => cases ha
  | cons c l ih =>
    cases i with
    | zero =>
      obtain rfl := Option.some.inj ha
      rw [List.filterMap_cons, hb]
      rfl
    | succ i =>
      have hrest := ih ha
      rw [List.take_succ_cons, List.filterMap_cons, List.countP_cons]
      cases hc : f c with
      | none => exact hrest
      | some d => exact hrest

namespace Audit

open Window

variable {x x' : Audit} {w : Window} {config : Config} {base done : List (Transaction × Effects)}

/-- The answer to the read at a place among the transactions accepted, once it was given. Reads are
answered in order, so as many answers come before it as there are reads. -/
def answer? (x : Audit) (place : Nat) : Option UInt64 :=
  (x.account.collected ++ x.device.responses.toList)[
    (x.account.accepted.take place).countP Transaction.isRead]?

/-- A cycle executes the oldest transaction or none. -/
inductive Ticks (x : Audit) : Prop where
  /-- None is executed. -/
  | rest (stallCycles : Nat) (hd : x.tick.device = { x.device.settled with stallCycles })
    (ha : x.tick.account = x.account)
  /-- The oldest is executed. -/
  | execute {t : Transaction} {commands : CommandQueue}
    (hq : x.device.commands.entries.toList = t :: commands.entries.toList)
    (ho : x.device.settled.Open) (hp : x.device.settled.registers.canProcess t = true)
    (hx : Gpu.Executes { x.device.settled with commands } t x.tick.device)
    (hprocessed : x.tick.account.processed
      = x.account.processed ++ [(t, (x.device.settled.registers.process t).2)])
    (haccepted : x.tick.account.accepted = x.account.accepted)

/-- A cycle does one of the two. -/
theorem tick_cases (h : x.device.held = none) : x.Ticks := by
  let y : Audit := { x with device := x.device.settled }
  have hd : y.Dispatches x.tick := dispatch_cases (x := y) h
  generalize htick : x.tick = x' at hd
  cases hd with
  | rest => exact .rest y.device.stallCycles (by rw [htick]) (by rw [htick])
  | wait => exact .rest (y.device.stallCycles + 1) (by rw [htick]) (by rw [htick])
  | @execute t commands hq hboot ho hp =>
    let z : Audit := { y with device.commands := commands }
    have hopen : z.device.Open := ⟨ho.idle, ho.noFill, ho.room⟩
    have haccount := account_execute hopen t
    refine .execute hq ho hp ?_ ?_ x.host_tick.1
    · rw [htick]
      exact (device_execute z t).symm ▸ hopen.execute t
    · rw [htick]
      exact congrArg Account.processed haccount

/-! ### Before the window is used -/

/-- As long as nothing was accepted the window is not used, and as long as nothing was processed the
engine has nothing to do. -/
structure Unused (config : Config) (x : Audit) : Prop where
  /-- The account balances. -/
  sound : x.Sound config.boot
  /-- The window is not used. -/
  kept : x.account.accepted = [] → ∃ memory, Kept { memory } x.device
  /-- The engine has nothing to do. -/
  atRest : x.account.accepted = [] → x.account.processed = [] →
    (x.device.engine.view x.device.arbiter).AtRest

/-- An engine that has nothing to do in a cycle. -/
theorem atRest_settled {g : Gpu} (hk : w.Kept g) (h : (g.engine.view g.arbiter).AtRest) :
    (g.settled.engine.view g.settled.arbiter).AtRest := by
  have hw := hk.apart.sound.wellFormed
  have hscans := g.display.tick_scans (hw.tick g.memory) g.registers.display
  have hdrawn : g.drawn = (g.rasterizer, g.scanned.2.1) := Rasterizer.tick_of_idle hk.idle _
  have hwell : g.drawn.2.WellFormed := by
    rw [hdrawn]
    exact hscans.changes.wellFormed
  refine (g.engine.tick_moves hwell).1.atRest ⟨h.queue, h.fill, ?_⟩
  have hport : g.drawn.2.port .engine = g.served.1.port .engine := by
    rw [hdrawn]
    exact hscans.changes.others .engine (by decide)
  change (g.drawn.2.port .engine).requests = []
  rw [hport]
  exact Arbiter.requests_tick hw h.port g.memory

/-- A cycle executes nothing but the boot sequence as long as nothing was accepted. -/
theorem Unused.tick (h : x.Unused config) : x.tick.Unused config := by
  have hsound := h.sound.tick
  cases tick_cases h.sound.held with
  | rest stallCycles hd ha =>
    refine ⟨hsound, fun haccepted => ?_, fun haccepted hprocessed => ?_⟩
    · rw [ha] at haccepted
      obtain ⟨memory, hk⟩ := h.kept haccepted
      rw [hd]
      exact ⟨memory, { hk.settled with }⟩
    · rw [ha] at haccepted hprocessed
      obtain ⟨memory, hk⟩ := h.kept haccepted
      rw [hd]
      exact atRest_settled hk (h.atRest haccepted hprocessed)
  | @execute t commands hq ho hp hx hprocessed haccepted =>
    refine ⟨hsound, fun hnone => ?_, fun _ hnone => ?_⟩
    · rw [haccepted] at hnone
      obtain ⟨memory, hk⟩ := h.kept hnone
      have hk' : Kept { memory } { x.device.settled with commands } := { hk.settled with }
      have hmem : t ∈ config.boot := by
        have hstream := h.sound.stream
        rw [hnone, List.append_nil, hq] at hstream
        rw [← hstream]
        exact List.mem_append_right _ List.mem_cons_self
      obtain ⟨-, hkick, hpoint, hdata, htime⟩ := config.boot_plain t hmem
      have hcase := Transaction.windowCase hkick (by rintro data rfl; exact htime rfl)
      cases hcase with
      | point data => exact absurd rfl hpoint
      | put data => exact absurd rfl hdata
      | get => exact absurd rfl hdata
      | fill data => exact ⟨_, hk'.fill hx⟩
      | other hstep hregs => exact ⟨memory, hk'.untouched hx (hregs _)⟩
    · rw [hprocessed] at hnone
      exact absurd hnone (List.append_ne_nil_of_right_ne_nil _ (List.cons_ne_nil _ _))

/-- A step. -/
theorem Unused.step (h : x.Unused config) (hs : x.Step x') : x'.Unused config := by
  cases hs with
  | @host commands responses more taken hboot hq hr =>
    refine ⟨h.sound.step (.host hboot hq hr), fun hnone => ?_, fun hnone hprocessed => ?_⟩
    · obtain ⟨memory, hk⟩ := h.kept (List.append_eq_nil_iff.1 hnone).1
      exact ⟨memory, { hk with }⟩
    · exact h.atRest (List.append_eq_nil_iff.1 hnone).1 hprocessed
  | tick => exact h.tick

/-- A device at rest. -/
theorem unused_of_rest {g : Gpu} (hs : Sound config.boot { device := g })
    (hengine : g.engine.reset = g.engine) (harbiter : g.arbiter.reset = g.arbiter)
    (hrasterizer : g.rasterizer = {}) (hregisters : g.registers.reset = g.registers) :
    Unused config { device := g } := by
  refine ⟨hs, fun _ => ⟨g.memory, kept_of_rest hrasterizer hengine harbiter hregisters⟩,
    fun _ _ => ?_⟩
  dsimp only
  rw [← hengine, ← harbiter]
  exact ⟨rfl, rfl, rfl⟩

/-- Whatever is done to a device, before anything is accepted the window is not used. -/
theorem start_unused (config : Config) (memory : Sdram) (calls : List Call) :
    ((start config memory).run calls).Unused config := by
  refine run_induction (fun _ _ h hs => h.step hs) (fun _ x h => ?_) ?_
  · exact unused_of_rest h.sound.reset rfl rfl rfl rfl
  · exact unused_of_rest (start_sound config memory) rfl rfl rfl rfl

/-! ### From then on -/

/-- Since the account had the entries `base`, and the window was `w`, the transactions `done` have
been executed, and each read of the data was answered with what the window showed. -/
structure Follows (base : List (Transaction × Effects)) (w : Window) (x : Audit)
    (done : List (Transaction × Effects)) : Prop where
  /-- What was processed. -/
  processed : x.account.processed = base ++ done
  /-- The device has done for the window what was done. -/
  kept : (w.run (done.map Prod.fst)).Kept x.device
  /-- Reads of the data. -/
  answers : ∀ i effects, done[i]? = some (.read Register.windowData.address, effects) →
    effects.response = some (w.run ((done.map Prod.fst).take i)).answer

/-- What was accepted is what was done and what waits. -/
theorem Follows.stream (h : x.Follows base w done) (hs : x.Sound config.boot)
    (hbase : base.map Prod.fst = config.boot) :
    done.map Prod.fst ++ x.device.commands.entries.toList = x.account.accepted := by
  have hstream := hs.stream
  rw [h.processed, List.map_append, hbase, List.append_assoc] at hstream
  exact List.append_cancel_left hstream

/-- A cycle. -/
theorem Follows.tick (h : x.Follows base w done) (hs : x.Sound config.boot)
    (hbase : base.map Prod.fst = config.boot)
    (hv : ∀ t ∈ x.account.accepted, t.viaWindow = true) : ∃ done, x.tick.Follows base w done := by
  cases tick_cases hs.held with
  | rest stallCycles hd ha =>
    refine ⟨done, by rw [ha]; exact h.processed, ?_, h.answers⟩
    rw [hd]
    exact { h.kept.settled with }
  | @execute t commands hq ho hp hx hprocessed haccepted =>
    have hvia : t.viaWindow = true := by
      refine hv t ?_
      rw [← h.stream hs hbase, hq]
      exact List.mem_append_right _ List.mem_cons_self
    have hk : (w.run (done.map Prod.fst)).Kept { x.device.settled with commands } :=
      { h.kept.settled with }
    obtain ⟨hkept, hanswer⟩ := hk.executes ⟨ho.idle, ho.noFill, ho.room⟩ hp hx hvia
    refine ⟨done ++ [(t, (x.device.settled.registers.process t).2)], ?_, ?_, ?_⟩
    · rw [hprocessed, h.processed, List.append_assoc]
    · rw [List.map_append, List.map_singleton, run_concat]
      exact hkept
    · intro i effects hi
      have hle : i ≤ done.length := by
        have hlt := (List.getElem?_eq_some_iff.1 hi).1
        rw [List.length_append] at hlt
        exact Nat.le_of_lt_succ hlt
      rw [List.map_append, List.take_append_of_le_length (by rw [List.length_map]; exact hle)]
      rcases Nat.lt_or_eq_of_le hle with hlt | rfl
      · rw [List.getElem?_append_left hlt] at hi
        exact h.answers i effects hi
      · rw [List.getElem?_concat_length, Option.some.injEq, Prod.mk.injEq] at hi
        obtain ⟨rfl, rfl⟩ := hi
        rw [← List.length_map (f := Prod.fst), List.take_length]
        exact hanswer rfl

/-- A step. -/
theorem Follows.step (h : x.Follows base w done) (hs : x.Sound config.boot)
    (hbase : base.map Prod.fst = config.boot) (hstep : x.Step x')
    (hv : ∀ t ∈ x.account.accepted, t.viaWindow = true) : ∃ done, x'.Follows base w done := by
  cases hstep with
  | host hboot hq hr => exact ⟨done, h.processed, { h.kept with }, h.answers⟩
  | tick => exact h.tick hs hbase hv

/-- Transactions that were accepted stay so. -/
theorem Step.accepted_prefix (hs : x.Step x') : x.account.accepted <+: x'.account.accepted := by
  cases hs with
  | host hboot hq hr => exact List.prefix_append _ _
  | tick => exact ⟨[], by rw [List.append_nil, x.host_tick.1]⟩

/-- Calls other than a reset. -/
theorem Follows.run {calls : List Call} (hs : x.Sound config.boot)
    (hbase : base.map Prod.fst = config.boot) (h : x.Follows base w done)
    (hreset : Call.reset ∉ calls)
    (hv : ∀ t ∈ (x.run calls).account.accepted, t.viaWindow = true) :
    ∃ done, (x.run calls).Follows base w done := by
  have hinvariant : (x.run calls).Sound config.boot
      ∧ ((∀ t ∈ (x.run calls).account.accepted, t.viaWindow = true) →
        ∃ done, (x.run calls).Follows base w done) := by
    refine run_induction (motive := fun x => x.Sound config.boot
      ∧ ((∀ t ∈ x.account.accepted, t.viaWindow = true) → ∃ done, x.Follows base w done))
      ?_ (fun hmem => absurd hmem hreset) ⟨hs, fun _ => ⟨done, h⟩⟩
    rintro y y' ⟨hsound, hfollows⟩ hstep
    refine ⟨hsound.step hstep, fun hvia => ?_⟩
    have hbefore : ∀ t ∈ y.account.accepted, t.viaWindow = true := fun t ht =>
      hvia t ((hstep.accepted_prefix).subset ht)
    obtain ⟨done, hdone⟩ := hfollows hbefore
    exact hdone.step hsound hbase hstep hbefore
  exact hinvariant.2 hv

/-- Everything that was answered was done. -/
theorem Follows.collected (h : x.Follows base w done) (hs : x.Sound config.boot)
    (hbase : base.map Prod.fst = config.boot) :
    x.account.collected ++ x.device.responses.toList = done.filterMap (·.2.response) := by
  have hnone : base.filterMap (·.2.response) = [] := by
    rw [List.filterMap_eq_nil_iff]
    intro p hp
    have hread := hs.reads p (by rw [h.processed]; exact List.mem_append_left _ hp)
    have hboot : p.1 ∈ config.boot := by
      rw [← hbase]
      exact List.mem_map_of_mem hp
    rw [(config.boot_plain p.1 hboot).1] at hread
    exact Option.isNone_iff_eq_none.1 (Option.isSome_eq_false_iff.1 hread)
  rw [hs.answers, h.processed, List.filterMap_append, hnone, List.nil_append]

/-- The reads among what was done are what was answered. -/
theorem Follows.countP_isRead (h : x.Follows base w done) (hs : x.Sound config.boot) (place : Nat) :
    ((done.map Prod.fst).take place).countP Transaction.isRead
      = (done.take place).countP fun p => p.2.response.isSome := by
  rw [← List.map_take, List.countP_map]
  refine List.countP_congr fun p hp => ?_
  have hread := hs.reads p (by
    rw [h.processed]
    exact List.mem_append_right _ (List.mem_of_mem_take hp))
  rw [Function.comp_apply, hread]

/-- The answers that were given to reads of the data, and the memory of an idle device. -/
theorem Follows.outcome (h : x.Follows base w done) (hs : x.Sound config.boot)
    (hbase : base.map Prod.fst = config.boot) :
    (∀ place, x.account.accepted[place]? = some (.read Register.windowData.address) →
      (∀ value ∈ x.answer? place, value = (w.run (x.account.accepted.take place)).answer)
        ∧ (x.device.isIdle = true → (x.answer? place).isSome = true))
      ∧ (x.device.isIdle = true → x.device.memory = (w.run x.account.accepted).memory) := by
  have hstream := h.stream hs hbase
  have hcollected := h.collected hs hbase
  have hempty (hidle : x.device.isIdle = true) : done.map Prod.fst = x.account.accepted := by
    rw [← hstream, (Gpu.isIdle_spec hidle).1, List.append_nil]
  refine ⟨fun place hplace => ?_, fun hidle => ?_⟩
  · by_cases hlt : place < done.length
    · -- the read was executed
      obtain ⟨⟨t, effects⟩, hentry⟩ : ∃ p, done[place]? = some p :=
        ⟨_, List.getElem?_eq_getElem hlt⟩
      have ht : t = .read Register.windowData.address := by
        rw [← hstream, List.getElem?_append_left (by rw [List.length_map]; exact hlt),
          List.getElem?_map, hentry] at hplace
        exact Option.some.inj hplace
      subst ht
      have htake : x.account.accepted.take place = (done.map Prod.fst).take place := by
        rw [← hstream, List.take_append_of_le_length]
        rw [List.length_map]
        exact Nat.le_of_lt hlt
      have hanswer : x.answer? place
          = some (w.run (x.account.accepted.take place)).answer := by
        unfold answer?
        rw [hcollected, htake, h.countP_isRead hs]
        exact getElem?_filterMap_countP (fun p => p.2.response) hentry
          (h.answers place effects hentry)
      rw [hanswer]
      exact ⟨fun value hvalue => (Option.some.inj hvalue).symm, fun _ => rfl⟩
    · -- the read waits, and so does every answer from it on
      rw [Nat.not_lt] at hlt
      refine ⟨fun value hvalue => ?_, fun hidle => ?_⟩
      · have hcount : (done.filterMap (·.2.response)).length
            ≤ (x.account.accepted.take place).countP Transaction.isRead := by
          have hall := h.countP_isRead hs done.length
          rw [List.take_of_length_le (Nat.le_of_eq (by rw [List.length_map])),
            List.take_length] at hall
          rw [List.length_filterMap_eq_countP, ← hall, ← hstream, List.take_append,
            List.countP_append, List.take_of_length_le (by rw [List.length_map]; exact hlt)]
          exact Nat.le_add_right _ _
        unfold answer? at hvalue
        rw [hcollected, List.getElem?_eq_none hcount] at hvalue
        cases hvalue
      · have hbound := (List.getElem?_eq_some_iff.1 hplace).1
        rw [← hempty hidle, List.length_map] at hbound
        omega
  · obtain ⟨-, -, hqueue, hfill, hrequests⟩ := Gpu.isIdle_spec hidle
    have hrest : (x.device.engine.view x.device.arbiter).AtRest := ⟨hqueue, hfill, hrequests⟩
    rw [← hempty hidle, ← h.kept.finish, hrest.finish_eq]

/-- **The memory window is sequentially consistent, whatever the timing.** A device of any
configuration, with anything in its memory, is called by a host in any way, and then, before
anything is accepted since the last reset, with the boot sequence done or without one, called
again, by a host that draws nothing, fills nothing and stores no timestamp. A read of the window's
data is answered with what a window that reads and writes at once shows at that place of the stream;
when the device is idle every such read was answered, and its memory is that of this window. -/
theorem run_window (config : Config) (memory : Sdram) (earlier calls : List Call) :
    let x₀ := (start config memory).run earlier
    let x := x₀.run calls
    let stream := x.account.accepted
    let w : Window := { memory := x₀.device.memory }
    x₀.account.accepted = [] → config.bootSequence = false ∨ x₀.device.isIdle = true →
    Call.reset ∉ calls → (∀ t ∈ stream, t.viaWindow = true) →
      x.device = (earlier ++ calls).foldl Call.perform { Gpu.ofConfig config with memory }
      ∧ (∀ place, stream[place]? = some (.read Register.windowData.address) →
          (∀ value ∈ x.answer? place, value = (w.run (stream.take place)).answer)
            ∧ (x.device.isIdle = true → (x.answer? place).isSome = true))
      ∧ (x.device.isIdle = true → x.device.memory = (w.run stream).memory) := by
  intro x₀ x stream w hnone hbegin hreset hvia
  have hunused : x₀.Unused config := start_unused config memory earlier
  have hbalance := hunused.sound.stream
  rw [hnone, List.append_nil] at hbalance
  obtain ⟨target, hkept⟩ := hunused.kept hnone
  -- the boot sequence has been processed, and the engine is done with it
  have hdone : x₀.account.processed.map Prod.fst = config.boot
      ∧ (x₀.device.engine.view x₀.device.arbiter).AtRest := by
    rcases hbegin with hoff | hidle
    · have hboot : config.boot = [] := by
        rw [Config.boot, hoff]
        rfl
      rw [hboot] at hbalance ⊢
      have hprocessed := (List.append_eq_nil_iff.1 hbalance).1
      exact ⟨hprocessed, hunused.atRest hnone (List.map_eq_nil_iff.1 hprocessed)⟩
    · obtain ⟨hcommands, -, hqueue, hfill, hrequests⟩ := Gpu.isIdle_spec hidle
      rw [hcommands, List.append_nil] at hbalance
      exact ⟨hbalance, hqueue, hfill, hrequests⟩
  obtain ⟨hbase, hrest⟩ := hdone
  have htarget : x₀.device.memory = target := by
    rw [← hrest.finish_eq x₀.device.memory]
    exact hkept.finish
  have hfollows : x₀.Follows x₀.account.processed w [] := by
    refine ⟨(List.append_nil _).symm, ?_, fun i effects hi => by cases hi⟩
    change Kept { memory := x₀.device.memory } x₀.device
    rw [htarget]
    exact hkept
  obtain ⟨done, hx⟩ := hfollows.run hunused.sound hbase hreset hvia
  have hsound : x.Sound config.boot := hunused.sound.run calls
  refine ⟨?_, hx.outcome hsound hbase⟩
  have hearlier := device_run (start config memory) earlier
  rw [List.foldl_append]
  change x.device
    = calls.foldl Call.perform (earlier.foldl Call.perform (start config memory).device)
  rw [← hearlier]
  exact device_run x₀ calls

/-- A dword is stored where the window wraps around, in a memory that it wraps around, and both
dwords next to it are read. Before that, a stream is cut off by a reset. -/
theorem run_window_wraps :
    let config : Config :=
      { bootSequence := false, memoryWords := 8, memoryLatency := 2, arbiterPolicy := .roundRobin
        engineCapacity := 2, scanoutCapacity := 2, scanoutBurst := 2 }
    let memory := (Sdram.zeroed 8 2).store 0 [1, 2, 3, 4]
    let earlier : List Call :=
      [.offer (.write Register.windowAddress.address 5), .tick, .tick, .reset]
    let stream : List Transaction :=
      [.read Register.windowData.address, .write Register.windowAddress.address 0x3FFFFF,
        .write Register.windowData.address 0x1122334455667788, .read Register.windowData.address,
        .write Register.windowAddress.address 1, .read Register.windowData.address]
    let calls : List Call := stream.map Call.offer ++ .replicate 100 .tick ++ [.drainResponses]
    let x₀ := (start config memory).run earlier
    let x := x₀.run calls
    x.account.accepted = stream ∧ x.device.isIdle = true
      ∧ x.answer? 0 = some 0 ∧ x.answer? 3 = some 0x4000300020001
      ∧ x.answer? 5 = some 0x1122334455667788
      ∧ x.device.memory = ((Window.run { memory := x₀.device.memory } stream).memory) := by
  intro config memory earlier stream calls x₀ x
  have haccepted : x.account.accepted = stream := by decide +kernel
  have hidle : x.device.isIdle = true := by decide +kernel
  have hnone : x₀.account.accepted = [] := by decide +kernel
  have hreset : Call.reset ∉ calls := by
    intro hmem
    simp [calls] at hmem
  have hvia : ∀ t ∈ x.account.accepted, t.viaWindow = true := by
    rw [haccepted]
    decide
  have hanswers : x.answer? 0 = some 0 ∧ x.answer? 3 = some 0x4000300020001
      ∧ x.answer? 5 = some 0x1122334455667788 := by decide +kernel
  have hx₀ : x₀ = (start config memory).run earlier := rfl
  have hx : x = x₀.run calls := rfl
  -- from here on the two runs are not to be evaluated
  clear_value x x₀
  subst hx hx₀
  obtain ⟨-, -, hmemory⟩ :=
    run_window config memory earlier calls hnone (.inl rfl) hreset hvia
  refine ⟨haccepted, hidle, hanswers.1, hanswers.2.1, hanswers.2.2, ?_⟩
  rw [← haccepted]
  exact hmemory hidle

/-- Reading the pointer is an access to it, but asks for nothing: a read of the data after it is
answered with zero, and not with the dword that the window points to. -/
theorem pointer_read_asks_nothing :
    let config : Config :=
      { bootSequence := false, memoryWords := 8, scanoutCapacity := 2, scanoutBurst := 2 }
    let memory := (Sdram.zeroed 8 3).store 0 [7]
    let stream : List Transaction :=
      [.read Register.windowAddress.address, .read Register.windowData.address]
    let x := (start config memory).run (stream.map Call.offer ++ .replicate 40 .tick)
    config.IsValid ∧ x.account.accepted = stream ∧ x.device.isIdle = true
      ∧ (∃ t ∈ stream.take 1, t.address = Register.windowAddress.address)
      ∧ x.answer? 1 = some 0 ∧ x.device.memory.dword 0 = 7 := by
  decide +kernel

end Audit

end RasterGpu
