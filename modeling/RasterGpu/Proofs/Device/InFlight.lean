import RasterGpu.Proofs.Device.Outlook
import RasterGpu.Proofs.Device.Swap

/-!
# Read-aheads in flight

The register file asks the memory engine for dwords, counts those that have not come back, and keeps
the value of the last. The engine has them in its queue and at its port. Neither looks at the other,
and that they agree is what a read of the memory window relies on.

* `MemoryEngine.inFlight` lists where the engine has still to read, the oldest first. In a cycle it
  collects the first of these or none (`Gpu.Steady.collects`).
* `RegisterFile.Awaits` compares a register file with such a list, and with the value that came
  back last. The clock, a value that comes back and a transaction keep it.
* `Gpu.InStep` is what follows for a device between cycles, and `Film.answers` are the values that
  have come back to it since reset. `reads_ahead_in_step` says both of all devices and all films.
-/

namespace RasterGpu

/-- The address of the first word that a command reads ahead. -/
def MemoryCommand.readAheadAt? : MemoryCommand → Option Nat
  | readAhead dword => some (4 * dword)
  | store _ _ | timestamp _ _ | fill _ => none

/-- The address of the request or the response at a port. -/
def Port.address? : Port → Option Nat
  | free => none
  | pending request | granted request => some request.address
  | ready response => some response.address

namespace MemoryEngine

variable {e e' : MemoryEngine} {p p' : Port} {a : Arbiter}

/-! ## The engine -/

/-- The addresses of the read-aheads that the engine has at its port and in its queue, the oldest
first. -/
def inFlight (e : MemoryEngine) (p : Port) : List Nat :=
  (if e.outstanding = some .readAhead then p.address?.toList else [])
    ++ e.queue.toList.filterMap MemoryCommand.readAheadAt?

/-- The request at the port reads a dword if it is for a read-ahead, and writes otherwise. -/
def Asks (e : MemoryEngine) (p : Port) : Prop :=
  ∀ request ∈ p.requests,
    if e.outstanding = some .readAhead then request = .read request.address 4
    else request.isRead = false

/-- At a port without a request nothing is asked for. -/
theorem asks_of_requests (h : p.requests = []) : e.Asks p := by
  intro request hr
  rw [h] at hr
  exact absurd hr List.not_mem_nil

/-- A step leaves the engine with a request of the kind that is outstanding. -/
theorem Step.asks (h : Step (e, p) (e', p')) : e'.Asks p' := by
  cases h with
  | collect => exact asks_of_requests rfl
  | finish => exact asks_of_requests rfl
  | fill => exact asks_of_requests rfl
  | skip => exact asks_of_requests rfl
  | @burst _ progress ho hfill hr =>
    intro request hrequest
    obtain rfl := List.mem_singleton.1 hrequest
    rfl
  | @issue _ command queue request ho hfill hq hr =>
    intro request' hrequest
    obtain rfl := List.mem_singleton.1 hrequest
    cases command with
    | fill f => cases hr
    | store dword value =>
      obtain rfl := Option.some.inj hr
      rfl
    | timestamp address cycles =>
      obtain rfl := Option.some.inj hr
      rfl
    | readAhead dword =>
      obtain rfl := Option.some.inj hr
      rfl

/-- Unless a response waits, a step leaves all read-aheads in flight. -/
theorem Step.inFlight (h : Step (e, p) (e', p')) (hp : p.responses = []) :
    e'.inFlight p' = e.inFlight p ∧ e'.fetched = e.fetched ∧ p'.responses = [] := by
  cases h with
  | collect => cases hp
  | finish => exact ⟨rfl, rfl, rfl⟩
  | @burst _ progress ho hfill hr =>
    refine ⟨?_, rfl, rfl⟩
    rw [MemoryEngine.inFlight, MemoryEngine.inFlight, ho]
    rfl
  | @issue _ command queue request ho hfill hq hr =>
    refine ⟨?_, rfl, rfl⟩
    rw [MemoryEngine.inFlight, MemoryEngine.inFlight, ho, hq]
    cases command with
    | fill f => cases hr
    | store dword value => rfl
    | timestamp address cycles => rfl
    | readAhead dword =>
      obtain rfl := Option.some.inj hr
      rfl
  | fill ho hfill hq hcount =>
    refine ⟨?_, rfl, rfl⟩
    rw [MemoryEngine.inFlight, MemoryEngine.inFlight, ho, hq]
    rfl
  | skip ho hfill hq hcount =>
    refine ⟨?_, rfl, rfl⟩
    rw [MemoryEngine.inFlight, MemoryEngine.inFlight, ho, hq]
    rfl

/-- So does a chain of steps. -/
theorem Steps.inFlight {s s' : MemoryEngine × Port} (h : Steps s s') (hp : s.2.responses = []) :
    s'.1.inFlight s'.2 = s.1.inFlight s.2 ∧ s'.1.fetched = s.1.fetched ∧ s'.2.responses = [] := by
  induction h with
  | refl => exact ⟨rfl, rfl, hp⟩
  | tail _ hstep ih =>
    obtain ⟨hflight, hfetched, hresponses⟩ := ih
    obtain ⟨hflight', hfetched', hresponses'⟩ := hstep.inFlight hresponses
    exact ⟨hflight'.trans hflight, hfetched'.trans hfetched, hresponses'⟩

/-- A chain of steps leaves the engine with a request of the kind that is outstanding. -/
theorem Steps.asks {s s' : MemoryEngine × Port} (h : Steps s s') (ha : s.1.Asks s.2) :
    s'.1.Asks s'.2 := by
  cases h with
  | refl => exact ha
  | tail _ hstep => exact hstep.asks

/-- What the engine has after it has collected a response. -/
theorem inFlight_collect {kind : EngineRequest} (ho : e.outstanding = some kind)
    (hf : e.fetched = none) (response : Response) :
    (if kind = .readAhead then [response.address] else [])
        ++ (e.collect kind response).inFlight .free = e.inFlight (.ready response)
      ∧ (e.collect kind response).fetched
        = if kind = .readAhead then some (dwordOfWords response.data) else none := by
  unfold MemoryEngine.inFlight
  rw [ho]
  cases kind with
  | store => exact ⟨rfl, hf⟩
  | readAhead => exact ⟨rfl, rfl⟩

/-- A cycle in which a response waits: it is collected. -/
theorem tick_of_ready (hw : a.WellFormed) {kind : EngineRequest} {response : Response}
    (ho : e.outstanding = some kind) (hp : a.port .engine = .ready response) :
    Steps (e.collect kind response, .free) ((e.tick a).1, (e.tick a).2.port .engine) := by
  unfold tick
  rw [ho]
  dsimp only
  cases ht : a.take? .engine with
  | none =>
    have hnone := Arbiter.responses_of_take? ht
    rw [hp] at hnone
    cases hnone
  | some pair =>
    obtain ⟨response', a'⟩ := pair
    have hready := (Arbiter.take?_eq_some ht).1
    rw [hp] at hready
    obtain rfl := Port.ready.inj hready
    have hfree : a'.port .engine = .free := by
      rw [Arbiter.port_take? hw ht, Function.update_self]
    have hnone : (e.collect kind response).outstanding = none := by cases kind <;> rfl
    have hsteps := advance_steps (a := a') hnone
    rw [hfree] at hsteps
    exact hsteps

end MemoryEngine

/-! ## The register file -/

namespace RegisterFile

variable {regs : RegisterFile} {inFlight : List Nat} {last : Option (Nat × UInt64)}

/-- The register file waits for values that are in flight, of which the last is to come from the
dword that the memory window points to. What it has comes from there too, and came back last. -/
structure Awaits (regs : RegisterFile) (inFlight : List Nat) (last : Option (Nat × UInt64)) :
    Prop where
  /-- It counts them. -/
  count : regs.readAheads = inFlight.length
  /-- It waits while there are any. -/
  pending : regs.readAhead = .pending ↔ inFlight ≠ []
  /-- The one asked for last is the one that is pointed to. -/
  newest : ∀ address ∈ inFlight.getLast?, address = 4 * regs.window
  /-- A value that has come back is the one that is pointed to. -/
  ready : ∀ value, regs.readAhead = .ready value → last = some (4 * regs.window, value)

/-- The clock. -/
theorem Awaits.clock (h : regs.Awaits inFlight last) (edge : Bool) :
    (regs.clock edge).Awaits inFlight last := by
  obtain ⟨hwindow, hahead, hcount⟩ := regs.clock_window edge
  refine ⟨?_, ?_, ?_, ?_⟩
  · rw [hcount]
    exact h.count
  · rw [hahead]
    exact h.pending
  · rw [hwindow]
    exact h.newest
  · rw [hahead, hwindow]
    exact h.ready

/-- A value comes back. It is kept if no other is in flight. -/
theorem Awaits.completeReadAhead {address : Nat} {rest : List Nat}
    (h : regs.Awaits (address :: rest) last) (value : UInt64) :
    (regs.completeReadAhead value).Awaits rest (some (address, value)) := by
  have hcount : regs.readAheads = rest.length + 1 := h.count
  have hpending := h.pending.2 (List.cons_ne_nil _ _)
  unfold RegisterFile.completeReadAhead
  cases rest with
  | nil =>
    have haddress := h.newest address rfl
    have hlast : regs.readAheads ≤ 1 := Nat.le_of_eq hcount
    rw [if_pos hlast]
    refine ⟨rfl, ⟨fun hp => by (cases hp), fun hne => absurd rfl hne⟩, fun _ hn => by (cases hn),
      fun value' hv => ?_⟩
    obtain rfl := ReadAhead.ready.inj hv
    rw [haddress]
  | cons next rest =>
    have hmore : ¬ regs.readAheads ≤ 1 := by
      rw [hcount, List.length_cons]
      omega
    rw [if_neg hmore]
    refine ⟨?_, ⟨fun _ => List.cons_ne_nil _ _, fun _ => hpending⟩, fun address' hn => ?_,
      fun value' hv => ?_⟩
    · show regs.readAheads - 1 = _
      rw [hcount]
      rfl
    · exact h.newest address' (by rw [List.getLast?_cons_cons]; exact hn)
    · rw [show regs.readAhead = .ready value' from hv] at hpending
      cases hpending

/-- A transaction asks for nothing and leaves the memory window as it is, or it asks for the dword
that the window points to after it. -/
theorem process_asks (regs : RegisterFile) (t : Transaction) :
    (regs.process t).2.commands.filterMap MemoryCommand.readAheadAt? = []
        ∧ (regs.process t).1.window = regs.window
        ∧ (regs.process t).1.readAhead = regs.readAhead
        ∧ (regs.process t).1.readAheads = regs.readAheads
      ∨ (regs.process t).2.commands.filterMap MemoryCommand.readAheadAt?
          = [4 * (regs.process t).1.window]
        ∧ (regs.process t).1.readAhead = .pending
        ∧ (regs.process t).1.readAheads = regs.readAheads + 1 := by
  cases t with
  | write address data =>
    unfold process
    dsimp only
    split
    · rename_i r _
      cases r
      case windowAddress => exact .inr ⟨rfl, rfl, rfl⟩
      case windowData => exact .inr ⟨rfl, rfl, rfl⟩
      all_goals exact .inl ⟨rfl, rfl, rfl, rfl⟩
    · exact .inl ⟨rfl, rfl, rfl, rfl⟩
  | read address =>
    unfold process
    dsimp only
    split
    · exact .inr ⟨rfl, rfl, rfl⟩
    · exact .inl ⟨rfl, rfl, rfl, rfl⟩

/-- A transaction is executed. What it asks for is in flight after all others. -/
theorem Awaits.process (h : regs.Awaits inFlight last) (t : Transaction) :
    (regs.process t).1.Awaits
      (inFlight ++ (regs.process t).2.commands.filterMap MemoryCommand.readAheadAt?) last := by
  rcases regs.process_asks t with ⟨hnone, hwindow, hahead, hcount⟩ | ⟨hone, hpending, hcount⟩
  · rw [hnone, List.append_nil]
    refine ⟨hcount.trans h.count, ?_, ?_, ?_⟩
    · rw [hahead]
      exact h.pending
    · rw [hwindow]
      exact h.newest
    · rw [hahead, hwindow]
      exact h.ready
  · rw [hone]
    refine ⟨?_, ?_, fun address hn => ?_, fun value hv => ?_⟩
    · rw [hcount, h.count, List.length_append, List.length_singleton]
    · exact ⟨fun _ => List.append_ne_nil_of_right_ne_nil _ (List.cons_ne_nil _ _),
        fun _ => hpending⟩
    · rw [List.getLast?_concat] at hn
      exact (Option.some.inj hn).symm
    · rw [hpending] at hv
      cases hv

end RegisterFile

/-! ## Cycles of the device -/

namespace Gpu

variable {g g' : Gpu} {config : Config}

/-- The addresses of the read-aheads that the memory engine has, the oldest first. -/
def inFlight (g : Gpu) : List Nat :=
  g.engine.inFlight (g.arbiter.port .engine)

/-- What a cycle reads for the memory engine: an address and the dword there. -/
def answer? (g : Gpu) : Option (Nat × UInt64) :=
  match g.arbiter.performed? with
  | some (.engine, .read address length) =>
    some (address, dwordOfWords (g.memory.fetch address length))
  | _ => none

/-- What is known of the engine's port between cycles. -/
structure Steady (config : Config) (g : Gpu) : Prop extends g.Orderly config where
  /-- No response waits there. -/
  responses : (g.arbiter.port .engine).responses = []
  /-- A request there is of the kind that is outstanding. -/
  asks : g.engine.Asks (g.arbiter.port .engine)

/-- What a cycle does with read-aheads: what it reads for the engine was the first in flight, and is
the value that comes back in the same cycle. -/
structure Collects (g : Gpu) : Prop where
  /-- The read-aheads in flight. -/
  inFlight : (g.answer?.map Prod.fst).toList ++ g.settled.inFlight = g.inFlight
  /-- The value. -/
  fetched : g.fetched.1.fetched = g.answer?.map Prod.snd
  /-- No response waits after it. -/
  responses : (g.settled.arbiter.port .engine).responses = []
  /-- The request after it is of the kind that is outstanding. -/
  asks : g.settled.engine.Asks (g.settled.arbiter.port .engine)

/-- A cycle in which the engine has no response to collect. -/
theorem Steady.collects_none (h : g.Steady config) (hanswer : g.answer? = none)
    (hresponses : (g.served.1.port .engine).responses = [])
    (hasks : g.engine.Asks (g.served.1.port .engine))
    (hsame : g.engine.inFlight (g.served.1.port .engine) = g.inFlight) : g.Collects := by
  obtain ⟨hdrawn, hport⟩ := h.port_engine
  rw [← hport] at hresponses hasks hsame
  have hsteps := MemoryEngine.tick_steps hdrawn h.fetched
  obtain ⟨hflight, hfetched, hresponses'⟩ := hsteps.inFlight hresponses
  refine ⟨?_, ?_, hresponses', hsteps.asks hasks⟩
  · rw [hanswer]
    exact hflight.trans hsame
  · rw [hanswer]
    exact hfetched.trans h.fetched

/-- A cycle in which a request of the engine is performed. -/
theorem Steady.collects_some (h : g.Steady config) {request : Request}
    (hgranted : g.arbiter.port .engine = .granted request)
    (hperformed : g.arbiter.performed? = some (.engine, request))
    (hready : g.served.1.port .engine = .ready (request.perform g.memory).2) : g.Collects := by
  obtain ⟨hdrawn, hport⟩ := h.port_engine
  rw [← hport] at hready
  have hout : g.engine.outstanding ≠ none := by
    intro hnone
    rw [h.attends.1 hnone] at hgranted
    cases hgranted
  obtain ⟨kind, ho⟩ := Option.ne_none_iff_exists'.1 hout
  have hsteps := MemoryEngine.tick_of_ready hdrawn ho hready
  obtain ⟨hflight, hfetched, hresponses⟩ := hsteps.inFlight rfl
  obtain ⟨hcollected, hvalue⟩ :=
    MemoryEngine.inFlight_collect ho h.fetched (request.perform g.memory).2
  have hasks := h.asks request (by rw [hgranted]; exact List.mem_singleton_self _)
  have hbefore : g.inFlight = g.engine.inFlight (.ready (request.perform g.memory).2) := by
    have haddress : (request.perform g.memory).2.address = request.address := by
      cases request <;> rfl
    rw [Gpu.inFlight, MemoryEngine.inFlight, MemoryEngine.inFlight, hgranted, Port.address?,
      Port.address?, haddress]
  have hafter : g.settled.inFlight
      = (g.engine.collect kind (request.perform g.memory).2).inFlight .free := hflight
  have hfetched' : g.fetched.1.fetched
      = (g.engine.collect kind (request.perform g.memory).2).fetched := hfetched
  have hanswer : g.answer? = if kind = .readAhead then
      some ((request.perform g.memory).2.address,
        dwordOfWords (request.perform g.memory).2.data) else none := by
    rw [answer?, hperformed]
    rw [ho] at hasks
    cases kind with
    | readAhead =>
      have hread : request = .read request.address 4 := hasks
      rw [hread]
      rfl
    | store =>
      have hwrite : request.isRead = false := hasks
      cases request with
      | read address length => cases hwrite
      | write address data => rfl
  refine ⟨?_, ?_, hresponses, hsteps.asks (MemoryEngine.asks_of_requests rfl)⟩
  · rw [hbefore, ← hcollected, hafter, hanswer]
    cases kind <;> rfl
  · rw [hfetched', hvalue, hanswer]
    cases kind <;> rfl

/-- **Read-aheads in a cycle.** -/
theorem Steady.collects (h : g.Steady config) : g.Collects := by
  have hs := Arbiter.tick_portStep h.apart.sound.wellFormed g.memory
  have hnone (hanswer : g.answer? = none)
      (hport : g.served.1.port .engine = g.arbiter.port .engine) : g.Collects := by
    refine h.collects_none hanswer ?_ ?_ ?_
    · rw [hport]
      exact h.responses
    · rw [hport]
      exact h.asks
    · rw [hport]
      rfl
  have hserved : g.served.1.port = (g.arbiter.tick g.memory).1.port := rfl
  rw [← hserved] at hs
  generalize hp : g.served.1.port = p', (g.arbiter.tick g.memory).2 = m',
    hperformed : g.arbiter.performed? = performed at hs
  have hidle (hn : performed = none) : g.answer? = none := by
    rw [answer?, hperformed, hn]
  cases hs with
  | wait => exact hnone (hidle rfl) (by rw [hp])
  | @grant c request hpending =>
    have hport := congrFun hp .engine
    by_cases hc : c = .engine
    · subst hc
      rw [Function.update_self] at hport
      refine h.collects_none (hidle rfl) ?_ ?_ ?_
      · rw [hport]
        rfl
      · have hasks := h.asks
        rw [hpending] at hasks
        rw [hport]
        exact hasks
      · rw [hport, Gpu.inFlight, hpending]
        rfl
    · rw [Function.update_of_ne (Ne.symm hc)] at hport
      exact hnone (hidle rfl) hport
  | @perform c request hgranted =>
    have hport := congrFun hp .engine
    by_cases hc : c = .engine
    · subst hc
      rw [Function.update_self] at hport
      exact h.collects_some hgranted hperformed hport
    · rw [Function.update_of_ne (Ne.symm hc)] at hport
      refine hnone ?_ hport
      rw [answer?, hperformed]
      cases c with
      | engine => exact absurd rfl hc
      | display => rfl
      | color => rfl
      | depth => rfl

/-- The port of the engine keeps steady. -/
theorem Steady.next (h : g.Steady config) : g.next.Steady config := by
  obtain ⟨-, -, hresponses, hasks⟩ := h.collects
  have hd := dispatch_cases (g := g.settled) h.held
  have hsteady : (g.next.arbiter.port .engine).responses = []
      ∧ g.next.engine.Asks (g.next.arbiter.port .engine) := by
    rw [next_eq]
    generalize g.settled.dispatch = g' at hd ⊢
    cases hd with
    | rest hq => exact ⟨hresponses, hasks⟩
    | wait hq => exact ⟨hresponses, hasks⟩
    | execute hq ho hx =>
      rw [hx.arbiter, hx.engine]
      exact ⟨hresponses, hasks⟩
  exact { h.toOrderly.next with responses := hsteady.1, asks := hsteady.2 }

/-- What is in flight after a transaction was executed. -/
theorem Executes.inFlight {t : Transaction} (hx : g.Executes t g') :
    g'.inFlight = g.inFlight
      ++ (g.registers.process t).2.commands.filterMap MemoryCommand.readAheadAt? := by
  rw [Gpu.inFlight, MemoryEngine.inFlight, hx.toList_queue, List.filterMap_append,
    ← List.append_assoc, hx.engine, hx.arbiter]
  rfl

/-- The register file and the memory engine agree on the read-aheads. -/
structure InStep (g : Gpu) : Prop where
  /-- The register file counts those in the queue and the one at the port. -/
  count : g.registers.readAheads = g.engine.queue.toList.countP MemoryCommand.isReadAhead
    + (g.engine.outstanding == some .readAhead).toNat
  /-- These are the ones in flight. -/
  length : g.inFlight.length = g.registers.readAheads
  /-- It waits for a value exactly while there are any. -/
  pending : g.registers.readAhead = .pending ↔ 0 < g.registers.readAheads
  /-- The last of them is of the dword that the memory window points to. -/
  newest : ∀ address ∈ g.inFlight.getLast?, address = 4 * g.registers.window
  /-- So the value that is waited for is on its way. -/
  onTheWay : g.registers.readAhead = .pending →
    ∃ earlier, g.inFlight = earlier ++ [4 * g.registers.window]
  /-- No value that has come back is left with the engine, where the next would overwrite it. -/
  uncollected : g.engine.fetched = none
  /-- A value that comes back in the next cycle has been counted. -/
  counted : g.fetched.1.fetched.isSome = true → 0 < (g.registers.clock g.edge).readAheads

end Gpu

/-! ## Devices and their past -/

namespace Film

variable {past : List Gpu} {g : Gpu} {config : Config}

/-- The values that cycles have read for the memory engine and their addresses, oldest first. -/
def answers (past : List Gpu) : List (Nat × UInt64) :=
  past.filterMap Gpu.answer?

/-- What is known of a device after the cycles `past`. -/
structure Reading (config : Config) (past : List Gpu) (g : Gpu) : Prop
    extends g.Steady config where
  /-- The register file waits for what is in flight. -/
  awaits : g.registers.Awaits g.inFlight (answers past).getLast?

/-- A device at rest reads nothing ahead. -/
theorem reading_of_rest (ho : g.Orderly config) (hengine : g.engine.reset = g.engine)
    (harbiter : g.arbiter.reset = g.arbiter) (hregisters : g.registers.reset = g.registers) :
    Reading config [] g := by
  have hport : g.arbiter.port .engine = .free := by
    rw [← harbiter]
    rfl
  have hflight : g.inFlight = [] := by
    rw [Gpu.inFlight, ← hengine]
    rfl
  refine { ho with responses := ?_, asks := ?_, awaits := ?_ }
  · rw [hport]
    rfl
  · rw [hport]
    exact MemoryEngine.asks_of_requests rfl
  · rw [hflight, ← hregisters]
    exact ⟨rfl, ⟨fun hp => by (cases hp), fun hne => absurd rfl hne⟩, fun _ hn => by (cases hn),
      fun _ hv => by (cases hv)⟩

/-- The register file after a cycle of all components. -/
theorem Reading.settled (h : Reading config past g) :
    g.settled.registers.Awaits g.settled.inFlight (answers (past ++ [g])).getLast? := by
  obtain ⟨hflight, hfetched, -, -⟩ := h.toSteady.collects
  have hclock := h.awaits.clock g.edge
  have hanswers : answers (past ++ [g]) = answers past ++ g.answer?.toList :=
    filterMap_concat Gpu.answer? past g
  have hregisters : g.settled.registers = g.fetched.1.fetched.elim (g.registers.clock g.edge)
      (g.registers.clock g.edge).completeReadAhead := rfl
  rw [hregisters, hfetched, hanswers]
  cases hanswer : g.answer? with
  | none =>
    rw [hanswer] at hflight
    rw [← hflight] at hclock
    rw [Option.toList_none, List.append_nil]
    exact hclock
  | some answer =>
    rw [hanswer] at hflight
    rw [← hflight] at hclock
    rw [Option.toList_some, List.getLast?_concat]
    exact hclock.completeReadAhead answer.2

/-- **A cycle.** -/
theorem Reading.tick (h : Reading config past g) : Reading config (past ++ [g]) g.next := by
  have hsettled := h.settled
  have hd := Gpu.dispatch_cases (g := g.settled) h.held
  refine { h.toSteady.next with awaits := ?_ }
  rw [Gpu.next_eq]
  generalize g.settled.dispatch = g' at hd ⊢
  cases hd with
  | rest hq => exact hsettled
  | wait hq => exact hsettled
  | @execute t commands g' hq ho hx =>
    rw [hx.registers, hx.inFlight]
    exact hsettled.process t

/-- It is so at all times. -/
theorem reading (config : Config) (acts : List Act) :
    ((start config).run acts).Always (Reading config) := by
  refine always_run ?_ (fun past g h => h.tick) (fun past g commands responses memory h => ?_)
    (fun past g h => ?_) acts
  · exact reading_of_rest (Gpu.Reachable.start _).orderly rfl rfl rfl
  · exact { h with }
  · exact reading_of_rest h.toOrderly.reset rfl rfl rfl

/-- The register file and the memory engine agree. -/
theorem Reading.inStep (h : Reading config past g) : g.InStep := by
  obtain ⟨hcount, hpending, hnewest, -⟩ := h.awaits
  have hwaits : g.registers.readAhead = .pending ↔ 0 < g.registers.readAheads := by
    rw [hpending, hcount, List.length_pos_iff]
  refine ⟨?_, hcount.symm, hwaits, hnewest, fun hp => ?_, h.fetched, fun hsome => ?_⟩
  · rw [h.count, MemoryEngine.readAheads, h.fetched, Option.isSome_none, Bool.toNat_false,
      Nat.zero_add, Nat.add_comm]
  · rcases List.eq_nil_or_concat' g.inFlight with hnil | ⟨earlier, address, hlast⟩
    · exact absurd hnil (hpending.1 hp)
    · have haddress := hnewest address (by rw [hlast]; exact List.getLast?_concat)
      exact ⟨earlier, by rw [hlast, haddress]⟩
  · obtain ⟨hflight, hfetched, -, -⟩ := h.toSteady.collects
    rw [hfetched, Option.isSome_map] at hsome
    obtain ⟨answer, hanswer⟩ := Option.isSome_iff_exists.1 hsome
    rw [hanswer] at hflight
    rw [(g.registers.clock_window g.edge).2.2, hcount, ← hflight]
    exact Nat.succ_pos _

end Film

/-- **Read-aheads are in step.** Whatever a host has done to a device, its register file counts the
read-aheads that the memory engine has, it waits for a value exactly while there are any, the last
of them is of the dword that the memory window points to, and no value that comes back is
overwritten or was not counted. A value that the register file has taken in is the one that was read
last, where the window points to. -/
theorem reads_ahead_in_step (config : Config) :
    (∀ g : Gpu, g.Reachable config → g.InStep)
      ∧ ∀ acts, ((Film.start config).run acts).Always fun past g =>
          ∀ value, g.registers.readAhead = .ready value →
            (Film.answers past).getLast? = some (4 * g.registers.window, value) := by
  constructor
  · intro g hg
    obtain ⟨acts, rfl⟩ := Film.of_reachable hg
    exact (Film.reading config acts).now.inStep
  · intro acts past g rest hm
    exact (Film.reading config acts past g rest hm).awaits.ready

/-- A dword is asked for, and then another before the first has come back. Both are in flight, and
the value that is kept is the second. -/
theorem reads_ahead_in_step_superseded :
    let config : Config :=
      { bootSequence := false, memoryWords := 16, memoryLatency := 1, scanoutCapacity := 1
        scanoutBurst := 1 }
    let point (dword : UInt64) : Transaction := .write Register.windowAddress.address dword
    let memory := (Sdram.zeroed 16 1).store 4 [1, 2, 3, 4, 5, 6, 7, 8]
    let stream := [point 1, point 2]
    let commands := stream.foldl (fun q t => (q.offer t).1) (Gpu.commandQueue config)
    let film := (Film.start config).run (.host commands .empty memory :: .replicate 30 .tick)
    let g := ((Audit.start config memory).run (stream.map .offer ++ [.tick, .tick])).device
    g.inFlight = [4, 8] ∧ g.InStep
      ∧ film.device.registers.readAhead = .ready 0x8000700060005
      ∧ (Film.answers film.cycles).getLast?
          = some (4 * film.device.registers.window, 0x8000700060005) := by
  intro config point memory stream commands film g
  have hflight : g.inFlight = [4, 8] := by decide +kernel
  have hready : film.device.registers.readAhead = .ready 0x8000700060005 := by decide +kernel
  have hreach : g.Reachable config := Gpu.reachable_run config memory _
  have hfilm : (Film.start config).run (.host commands .empty memory :: .replicate 30 .tick)
    = film := rfl
  -- from here on the runs are not to be evaluated
  clear_value g film
  obtain ⟨hinStep, hanswers⟩ := reads_ahead_in_step config
  have hlast := hanswers (.host commands .empty memory :: .replicate 30 .tick)
  rw [hfilm] at hlast
  exact ⟨hflight, hinStep g hreach, hready, hlast.now _ hready⟩

end RasterGpu
