import RasterGpu.Proofs.Device.Ledger
import RasterGpu.Proofs.Device.Sequential

/-!
# The order of writes

Transactions are executed in order, and each waits until the rasterizer is at rest and no fill is
left. Stores are different: the command stage only sees to it that the engine has room for them. A
primitive may be kicked while a store is still in the engine, whose port has the lowest priority,
and the primitive then writes first.

* `Chronicle` is a device with its ledger. `Gpu.executed?` and `Gpu.given` read off a cycle which
  transaction it executed and which commands the engine was given.
* `Chronicle.run_order` says how far writes are in order: a write that follows one of a later
  transaction is a store, and the other is part of a primitive. They are all in order exactly if no
  primitive wrote while the engine had a store.
* `Chronicle.store_overtaken` is a run in which a store is overtaken, and the word that both write
  ends up with the value of the earlier transaction.
-/

namespace RasterGpu

/-! ## A cycle, seen from outside -/

namespace Gpu

/-- The transaction that the next cycle executes, if it executes one. -/
def executed? (g : Gpu) : Option Transaction :=
  if g.next.commands.size < g.settled.commands.size then
    g.settled.commands.entries.toList.head?
  else
    none

/-- The commands that the engine is given in the next cycle. -/
def given (g : Gpu) : List MemoryCommand :=
  g.next.engine.queue.toList.drop g.settled.engine.queue.size

end Gpu

/-- A device that is fed transactions, with its ledger. -/
structure Chronicle where
  /-- The device, with the transactions it has taken. -/
  feed : Feed
  /-- The ledger. -/
  ledger : Ledger := {}

namespace Chronicle

/-- A new device with its memory loaded, and an empty ledger. -/
def start (config : Config) (contents : List UInt16) : Chronicle where
  feed := .start config contents

/-- The ledger after the next cycle: what the arbiter performs is entered, and then the transaction
that is executed, if there is one. -/
def entered (c : Chronicle) : Ledger :=
  let g := c.feed.device
  let recorded := c.ledger.record (g.engine.view g.arbiter) g.arbiter.performed?
  match g.executed? with
  | some t => recorded.enter t g.given g.next.rasterizer.isBusy
  | none => recorded

/-- Does what a host does, and keeps the ledger in cycles. -/
def call (c : Chronicle) (what : Feed.Call) : Chronicle where
  feed := c.feed.call what
  ledger :=
    match what with
    | .tick => c.entered
    | .offer _ | .collect => c.ledger

/-- Does what a host does, one thing after the other. -/
def run (c : Chronicle) (calls : List Feed.Call) : Chronicle :=
  calls.foldl call c

end Chronicle

/-! ## The cycle of the arbiter -/

/-- A rasterizer that holds the grant is busy. -/
theorem Apart.isBusy_of_granted {r : Rasterizer} {e : MemoryEngine} {a : Arbiter} {c : Client}
    {request : Request} (h : Apart r e a) (hc : c.isDrawing = true)
    (hp : a.port c = .granted request) : r.isBusy = true := by
  by_contra hidle
  rw [Bool.not_eq_true] at hidle
  have hserved := h.sound.served c hc
  rw [Rasterizer.work_of_idle hidle, hp] at hserved
  exact absurd hserved.eq_free (by simp)

/-- Does the writes, oldest first. -/
def Write.replay (m : Sdram) (writes : List Write) : Sdram :=
  writes.foldl (fun m w => m.store w.address w.data) m

namespace Ledger

variable {l : Ledger} {r : Rasterizer} {e : MemoryEngine} {a : Arbiter}
  {u : List (Nat × MemoryCommand)}

/-- What the arbiter performs in a cycle is entered. -/
theorem Balanced.arbiter (h : l.Balanced r.isBusy (e.view a) u) (ha : Apart r e a) (m : Sdram) :
    ∃ u, (l.record (e.view a) a.performed?).Balanced r.isBusy (e.view (a.tick m).1) u := by
  have hs := Arbiter.tick_portStep ha.sound.wellFormed m
  have hview : e.view (a.tick m).1 = { e.view a with port := (a.tick m).1.port .engine } := rfl
  have hnone : l.record (e.view a) none = l := by simp [record, written]
  rw [hview]
  generalize (a.tick m).1.port = p', (a.tick m).2 = m', a.performed? = performed at hs ⊢
  cases hs with
  | wait => exact ⟨u, by rw [hnone]; exact h⟩
  | @grant c request hp =>
    refine ⟨u, ?_⟩
    rw [hnone]
    exact h.port (Arbiter.requests_grant hp)
  | @perform c request hp =>
    have hdrawing (hc : c.isDrawing = true) :
        ∃ u, (l.record (e.view a) (some (c, request))).Balanced r.isBusy (e.view a) u := by
      have hb := ha.isBusy_of_granted hc hp
      rw [hb] at h ⊢
      cases request with
      | read address length => exact ⟨u, by rw [l.record_of_isRead _ _ rfl]; exact h⟩
      | write address data => exact ⟨u, h.record_drawing hc address data⟩
    cases c with
    | display =>
      have hr : request.isRead = true :=
        ha.scanout request (by rw [hp]; exact List.mem_singleton_self _)
      exact ⟨u, by rw [l.record_of_isRead _ _ hr]; exact h⟩
    | color => exact hdrawing rfl
    | depth => exact hdrawing rfl
    | engine =>
      rw [Function.update_self]
      exact h.perform_engine hp _

/-- Memory changes by the writes that are entered. -/
theorem replay_record (l : Ledger) (v : EngineView) (hw : a.WellFormed) (m : Sdram) :
    (a.tick m).2 = Write.replay m (l.written v.queue.length a.performed?) := by
  have hs := Arbiter.tick_portStep hw m
  generalize (a.tick m).1.port = p', (a.tick m).2 = m', a.performed? = performed at hs ⊢
  cases hs with
  | wait => rfl
  | grant hp => rfl
  | @perform c request hp => cases request <;> rfl

end Ledger

/-! ## The other components -/

namespace Gpu

variable {g : Gpu} {l : Ledger} {u : List (Nat × MemoryCommand)}

/-- The ledger fits the device. -/
def Fits (g : Gpu) (l : Ledger) : Prop :=
  ∃ u, l.Balanced g.rasterizer.isBusy (g.engine.view g.arbiter) u

/-- A cycle of all components, of which only the arbiter's is entered. -/
theorem Fits.settled (h : g.Fits l) (ha : Apart g.rasterizer g.engine g.arbiter) :
    g.settled.Fits (l.record (g.engine.view g.arbiter) g.arbiter.performed?) := by
  obtain ⟨u, h⟩ := h
  have hserved : Apart g.rasterizer g.engine g.served.1 := ha.arbiter g.memory
  have hscans := g.display.tick_scans hserved.sound.wellFormed g.registers.display
  have hscanned : Apart g.rasterizer g.engine g.scanned.2.1 := hserved.scans hscans
  have hdrawn : Apart g.drawn.1 g.engine g.drawn.2 := hscanned.rasterizer
  obtain ⟨-, hwork⟩ := Rasterizer.tick_keeps hscanned.valid hscanned.sound
  have hview : g.engine.view g.drawn.2 = g.engine.view g.served.1 := by
    have hraster : g.drawn.2.port .engine = g.scanned.2.1.port .engine := hwork.foreign .engine rfl
    have hdisplay : g.scanned.2.1.port .engine = g.served.1.port .engine :=
      hscans.changes.others .engine (by decide)
    rw [MemoryEngine.view, MemoryEngine.view, hraster, hdisplay]
  obtain ⟨u, h⟩ := h.arbiter ha g.memory
  generalize l.record (g.engine.view g.arbiter) g.arbiter.performed? = recorded at h ⊢
  have hafter : recorded.Balanced g.drawn.1.isBusy (g.engine.view g.drawn.2) u := by
    rw [hview]
    exact h.rasterizer Rasterizer.isBusy_of_tick
  exact hafter.moves (g.engine.tick_moves hdrawn.sound.wellFormed).1

/-- A transaction that is executed leaves the command queue. -/
theorem Executes.size_lt {t : Transaction} {commands : CommandQueue} {g' : Gpu}
    (hx : Executes { g with commands } t g')
    (hq : g.commands.entries.toList = t :: commands.entries.toList) :
    g'.commands.size < g.commands.size := by
  rw [hx.commands, CommandQueue.size, CommandQueue.size, ← Queue.length_toList,
    ← Queue.length_toList, hq, List.length_cons]
  exact Nat.lt_succ_self _

/-- A transaction that is executed is entered with the commands that it gives to the engine. -/
theorem Executes.fits {t : Transaction} {g' : Gpu} (hx : g.Executes t g') (ho : g.Open)
    (h : g.Fits l) :
    g'.Fits (l.enter t (g'.engine.queue.toList.drop g.engine.queue.size) g'.rasterizer.isBusy) := by
  obtain ⟨u, h⟩ := h
  rw [ho.idle] at h
  have hqueue := hx.toList_queue
  have hgiven : g'.engine.queue.toList.drop g.engine.queue.size
      = (g.registers.process t).2.commands := by
    rw [hqueue, ← Queue.length_toList, List.drop_left]
  have hview : g'.engine.view g'.arbiter = { g.engine.view g.arbiter with
      queue := g.engine.queue.toList ++ (g.registers.process t).2.commands } := by
    rw [MemoryEngine.view, hqueue, hx.arbiter, hx.engine]
    rfl
  rw [hgiven]
  have hfilling : (g.engine.view g.arbiter).isFilling = false := by
    rw [g.engine.isFilling_view]
    exact ho.noFill
  refine ⟨_, hview ▸ h.enter hfilling (fun c hc => RegisterFile.kind_of_mem_commands hc)
    fun hb => ?_⟩
  rw [hx.rasterizer] at hb
  cases hd : (g.registers.process t).2.draw with
  | none =>
    rw [hd, Option.elim_none, ho.idle] at hb
    cases hb
  | some event =>
    exact ⟨RegisterFile.isKick_of_draw hd, RegisterFile.commands_of_draw hd⟩

/-- What a cycle executes, and where it leads. -/
inductive Passes (g : Gpu) : Option Transaction → Gpu → Prop where
  /-- Nothing is executed. -/
  | rest (stallCycles : Nat) : Passes g none { g.settled with stallCycles }
  /-- The oldest transaction is executed. -/
  | execute {t : Transaction} {commands : CommandQueue} {g' : Gpu}
    (h : g.settled.commands.entries.toList = t :: commands.entries.toList) (ho : g.settled.Open)
    (hx : Executes { g.settled with commands } t g') : Passes g (some t) g'

/-- **A cycle executes nothing, or the oldest transaction.** -/
theorem passes (hheld : g.held = none) : g.Passes g.executed? g.next := by
  have hd := dispatch_cases (g := g.settled) hheld
  unfold executed?
  rw [← next_eq] at hd
  generalize g.next = g' at hd ⊢
  cases hd with
  | rest hq =>
    rw [if_neg (Nat.lt_irrefl _)]
    exact .rest g.settled.stallCycles
  | wait hq =>
    rw [if_neg (Nat.lt_irrefl _)]
    exact .rest (g.settled.stallCycles + 1)
  | @execute t commands g' hq ho hx =>
    rw [if_pos (hx.size_lt hq), hq]
    exact .execute hq ho hx

/-- Transactions are executed in the order of the command queue. -/
theorem executed?_append (hheld : g.held = none) :
    g.executed?.toList ++ g.next.commands.entries.toList = g.commands.entries.toList := by
  have hp := passes hheld
  generalize g.executed? = executed, g.next = g' at hp
  cases hp with
  | rest stallCycles => rfl
  | execute hq ho hx =>
    rw [hx.commands]
    exact hq.symm

/-- The command stage, of which the transaction that is executed is entered. -/
theorem Fits.next (h : g.settled.Fits l)
    (ha : Apart g.settled.rasterizer g.settled.engine g.settled.arbiter) (hheld : g.held = none) :
    g.next.Fits (match g.executed? with
        | some t => l.enter t g.given g.next.rasterizer.isBusy
        | none => l)
      ∧ Apart g.next.rasterizer g.next.engine g.next.arbiter ∧ g.next.held = none
      ∧ g.next.memory = g.settled.memory := by
  have hp := passes hheld
  unfold given
  generalize g.executed? = executed, g.next = g' at hp
  cases hp with
  | rest stallCycles => exact ⟨h, ha, hheld, rfl⟩
  | @execute t commands g' hq ho hx =>
    have ho' : Open { g.settled with commands } := ⟨ho.idle, ho.noFill, ho.room⟩
    exact ⟨hx.fits ho' h, hx.apart ho' ha, hx.held.trans hheld, hx.memory⟩

end Gpu

namespace Chronicle

/-! ## The invariant -/

/-- What holds of a device and its ledger at all times. -/
structure Invariant (config : Config) (contents : List UInt16) (c : Chronicle) : Prop where
  /-- The rasterizer and the engine do not meet. -/
  apart : Apart c.feed.device.rasterizer c.feed.device.engine c.feed.device.arbiter
  /-- No primitive is held. -/
  held : c.feed.device.held = none
  /-- What was not executed waits in the command queue. -/
  stream : config.boot ++ c.feed.delivered
    = c.ledger.executed ++ c.feed.device.commands.entries.toList
  /-- The ledger fits. -/
  fits : c.feed.device.Fits c.ledger
  /-- The memory is what the writes have made of it. -/
  memory : c.feed.device.memory = Write.replay (config.memory contents) c.ledger.writes

variable {config : Config} {contents : List UInt16} {c : Chronicle}

/-- A new device. -/
theorem start_invariant (config : Config) (contents : List UInt16) :
    Invariant config contents (start config contents) where
  apart := (Feed.start_tracks config contents).coupled.toApart
  held := rfl
  stream := (Feed.start_tracks config contents).stream
  fits := ⟨[], Ledger.balanced_empty⟩
  memory := rfl

/-- What a cycle enters. -/
theorem entered_spec (c : Chronicle) :
    c.entered.executed = c.ledger.executed ++ c.feed.device.executed?.toList
      ∧ c.entered.writes = c.ledger.writes ++ c.ledger.written
          c.feed.device.engine.queue.toList.length c.feed.device.arbiter.performed? := by
  unfold entered
  dsimp only
  split
  · rename_i t ht
    rw [ht]
    exact ⟨rfl, rfl⟩
  · rename_i ht
    rw [ht]
    exact ⟨(List.append_nil _).symm, rfl⟩

/-- A cycle. -/
theorem Invariant.tick (h : Invariant config contents c) :
    Invariant config contents (c.call .tick) := by
  obtain ⟨hfits, hapart, hheld, hmemory⟩ :=
    (h.fits.settled h.apart).next h.apart.settled h.held
  obtain ⟨hexecuted, hwrites⟩ := c.entered_spec
  refine ⟨hapart, hheld, ?_, hfits, ?_⟩
  · have hstream : config.boot ++ c.feed.delivered
        = c.entered.executed ++ c.feed.device.next.commands.entries.toList := by
      rw [hexecuted, List.append_assoc, Gpu.executed?_append h.held]
      exact h.stream
    exact hstream
  · have hafter : c.feed.device.next.memory
        = Write.replay (config.memory contents) c.entered.writes := by
      have hserved : c.feed.device.next.memory
          = (c.feed.device.arbiter.tick c.feed.device.memory).2 := hmemory
      rw [hserved, c.ledger.replay_record (c.feed.device.engine.view c.feed.device.arbiter)
        h.apart.sound.wellFormed, hwrites, Write.replay, Write.replay, List.foldl_append, h.memory]
      rfl
    exact hafter

/-- Between cycles. -/
theorem Invariant.host (h : Invariant config contents c) {what : Feed.Call} (hw : what ≠ .tick) :
    Invariant config contents (c.call what) := by
  obtain ⟨commands, more, responses, taken, hcommands, -, hcall⟩ := c.feed.call_of_ne_tick hw
  have hc : c.call what = ⟨c.feed.call what, c.ledger⟩ := by
    cases what with
    | tick => exact absurd rfl hw
    | offer t => rfl
    | collect => rfl
  rw [hc, hcall]
  refine ⟨h.apart, h.held, ?_, h.fits, h.memory⟩
  rw [hcommands, ← List.append_assoc, h.stream, List.append_assoc]

/-- The invariant holds whatever a host does. -/
theorem Invariant.run (h : Invariant config contents c) (calls : List Feed.Call) :
    Invariant config contents (c.run calls) := by
  induction calls generalizing c with
  | nil => exact h
  | cons what calls ih =>
    refine ih ?_
    by_cases hw : what = .tick
    · subst hw
      exact h.tick
    · exact h.host hw

/-! ## The order -/

/-- At rest the engine has no command that is not finished. -/
theorem Invariant.idle (h : Invariant config contents c) (hidle : c.feed.device.isIdle = true) :
    c.ledger.Balanced false (c.feed.device.engine.view c.feed.device.arbiter) [] := by
  obtain ⟨u, hu⟩ := h.fits
  obtain ⟨-, hraster, hqueue, hfill, hrequests⟩ := Gpu.isIdle_spec hidle
  rw [hraster] at hu
  have hnone : u = [] := by
    have hcarries := hu.carries
    unfold MemoryEngine.view at hcarries
    rw [hqueue, hfill] at hcarries
    generalize hport : c.feed.device.arbiter.port .engine = port at hcarries hrequests
    generalize hcommands : u.map Prod.snd = commands at hcarries
    cases hcarries with
    | rest _ => exact List.map_eq_nil_iff.1 hcommands
    | request _ hr => rw [hrequests] at hr; cases hr
  exact hnone ▸ hu

/-- **How far writes are in order.** A device of any configuration is given any transactions on any
schedule. They are executed in the order in which they were taken, and its memory is what the writes
have made of it. A write that follows one of a later transaction is a store through the memory
window or a timestamp, and the one it follows is part of a primitive. As long as no primitive writes
while the engine has a store all writes are in the order of their transactions; and once one has,
they are not by the time the device is idle. -/
theorem run_order (config : Config) (contents : List UInt16) (calls : List Feed.Call) :
    let c := (start config contents).run calls
    let l := c.ledger
    config.boot ++ c.feed.delivered = l.executed ++ c.feed.device.commands.entries.toList
      ∧ c.feed.device.memory = Write.replay (config.memory contents) l.writes
      ∧ l.writes.Pairwise (fun w w' => w.author ≤ w'.author
          ∨ l.Is Transaction.isKick w.author ∧ l.Is Transaction.isStore w'.author)
      ∧ (l.overtaken = false → l.writes.Pairwise fun w w' => w.author ≤ w'.author)
      ∧ (c.feed.device.isIdle = true → l.overtaken = true →
          ¬ l.writes.Pairwise fun w w' => w.author ≤ w'.author) := by
  intro c l
  have h : Invariant config contents c := (start_invariant config contents).run calls
  obtain ⟨u, hu⟩ := h.fits
  refine ⟨h.stream, h.memory, hu.order, fun ho => (hu.inOrder ho).1, fun hidle ho hpairwise => ?_⟩
  obtain ⟨before, w, after, hwrites, number, hlt, hsome⟩ := (h.idle hidle).overtakes ho
  rcases hsome with ⟨w', hw', hnumber⟩ | ⟨x, hx, -⟩
  · rw [hwrites] at hpairwise
    have hle := (List.pairwise_cons.1 (List.pairwise_append.1 hpairwise).2.1).1 w' hw'
    rw [hnumber] at hle
    exact absurd hlt (Nat.not_lt.2 hle)
  · exact absurd hx List.not_mem_nil

/-- A store that is done before the primitive is kicked: writes are in order. -/
theorem run_order_store_then_draw :
    let config : Config :=
      { bootSequence := false, memoryWords := 16, memoryLatency := 1, scanoutCapacity := 1
        scanoutBurst := 1 }
    let store : List Transaction :=
      [.write Register.color.address 0xFFFFFFFF, .write Register.renderMode.address 0x10,
        .write Register.windowAddress.address 0, .write Register.windowData.address 0x1111]
    let kick : List Transaction := [.write Register.kickRectangle.address 0x100010]
    let calls := store.map Feed.Call.offer ++ List.replicate 40 Feed.Call.tick
      ++ kick.map Feed.Call.offer ++ List.replicate 40 Feed.Call.tick
    let c := (start config []).run calls
    c.feed.device.isIdle = true ∧ c.ledger.overtaken = false ∧ c.ledger.writes ≠ []
      ∧ c.ledger.writes.Pairwise fun w w' => w.author ≤ w'.author := by
  intro config store kick calls c
  have hidle : c.feed.device.isIdle = true := by decide +kernel
  have hin : c.ledger.overtaken = false := by decide +kernel
  have hwrites : c.ledger.writes ≠ [] := by decide +kernel
  have hc : c = (start config []).run calls := rfl
  -- from here on the run is not to be evaluated
  clear_value c
  subst hc
  obtain ⟨-, -, -, horder, -⟩ := run_order config [] calls
  exact ⟨hidle, hin, hwrites, horder hin⟩

/-- **A primitive overtakes a store.** A word is stored through the memory window, and the next
transaction draws a pixel over it. The pixel is written first, and the word that was stored earlier
stays in memory. -/
theorem store_overtaken :
    let config : Config :=
      { bootSequence := false, memoryWords := 16, memoryLatency := 1, scanoutCapacity := 1
        scanoutBurst := 1 }
    let stream : List Transaction :=
      [.write Register.color.address 0xFFFFFFFF, .write Register.renderMode.address 0x10,
        .write Register.windowAddress.address 0, .write Register.windowData.address 0x1111,
        .write Register.kickRectangle.address 0x100010]
    let c := (start config []).run (stream.map .offer ++ .replicate 60 .tick)
    config.IsValid ∧ c.ledger.executed = stream ∧ c.feed.device.isIdle = true
      ∧ c.ledger.writes = [⟨4, .color, 0, [0xFFFF]⟩, ⟨3, .engine, 0, [0x1111, 0, 0, 0]⟩]
      ∧ ¬ c.ledger.writes.Pairwise (fun w w' => w.author ≤ w'.author)
      ∧ c.feed.device.memory.read 0 = 0x1111 := by
  decide +kernel

end Chronicle

end RasterGpu
