import RasterGpu.Proofs.Device.Outlook
import RasterGpu.Proofs.Device.Quiescence

/-!
# The memory engine runs a program

The commands that the memory engine takes are a program, and it runs them in order, whatever its
queue can hold, however long the memory takes, and however much the other clients read in between.

* `EngineBench` is the engine at an arbiter and a memory, with the commands that it took, the
  requests of its that were performed, and the values that were collected.
* `EngineBench.Invariant` says that what has come and what is to come are together what the program
  makes (`Outlook.ofCommands`).

`EngineBench.run_program` follows for every run. At any time the words that were written are the
first of the program's, and so are the values; and when the engine is idle they are all of them.
-/

namespace RasterGpu

/-! ## Cycles of the arbiter -/

/-- The request that the arbiter performs, if it is a client's. -/
def Request.servedTo (c : Client) : Option (Client × Request) → List Request
  | some (d, request) => if d = c then [request] else []
  | none => []

namespace MemoryEngine

variable {e : MemoryEngine}

/-- The outlook depends on what a port has been asked, will answer and will do to memory. -/
theorem outlook_congr {p p' : Port} {m m' : Sdram} (hr : p'.requests = p.requests)
    (ha : p'.answer m' = p.answer m) (hm : p'.finish m' = p.finish m) :
    e.outlook p' m' = e.outlook p m := by
  unfold outlook underway awaited?
  rw [hr, ha, hm]

/-- **A cycle of the arbiter moves words from the outlook to memory**, if the other clients read. -/
theorem outlook_arbiter {p p' : Client → Port} {m m' : Sdram}
    {performed : Option (Client × Request)} (hs : Arbiter.PortStep p m performed p' m')
    (hreads : ∀ c, c ≠ .engine → (p c).ReadsOnly) :
    { writes := (Request.servedTo .engine performed).flatMap Request.writes }
      ++ e.outlook (p' .engine) m' = e.outlook (p .engine) m := by
  cases hs with
  | wait => exact Outlook.nothing_append _
  | @grant c request hp =>
    refine (Outlook.nothing_append _).trans ?_
    by_cases hc : c = .engine
    · subst hc
      rw [Function.update_self, hp]
      exact outlook_congr rfl rfl rfl
    · rw [Function.update_of_ne (Ne.symm hc)]
  | @perform c request hp =>
    by_cases hc : c = .engine
    · subst hc
      rw [Function.update_self, hp, Request.servedTo, if_pos rfl]
      unfold outlook
      rw [← Outlook.append_assoc, ← Outlook.append_assoc]
      have hunderway : { writes := [request].flatMap Request.writes }
          ++ e.underway (.ready (request.perform m).2) (request.perform m).1
          = e.underway (.granted request) m := by
        ext1
        · exact List.append_nil _
        · rfl
        · exact Nat.zero_add _
        · exact Nat.zero_add _
        · exact Nat.zero_add _
      rw [hunderway]
      rfl
    · have hread : request.isRead = true := by
        refine hreads c hc request ?_
        rw [hp]
        exact List.mem_singleton_self _
      rw [Function.update_of_ne (Ne.symm hc), request.perform_of_isRead hread, Request.servedTo,
        if_neg hc]
      exact Outlook.nothing_append _

/-- The engine asks for no long writes. -/
def Brief (p : Port) : Prop :=
  ∀ request ∈ p.requests, request.writes.length ≤ fillBurstWords

/-- In a cycle of the arbiter a port gets no new request. -/
theorem Brief.step {p p' : Client → Port} {m m' : Sdram} {performed : Option (Client × Request)}
    {c : Client} (h : Brief (p c)) (hs : Arbiter.PortStep p m performed p' m') : Brief (p' c) := by
  rcases hs.port_cases c with heq | ⟨request, hp, hp'⟩ | ⟨request, -, hp'⟩
  · rw [heq]
    exact h
  · rw [hp] at h
    rw [hp']
    exact h
  · rw [hp']
    exact fun _ hr => absurd hr List.not_mem_nil

/-- A step asks for no long write. -/
theorem Step.brief {e' : MemoryEngine} {p p' : Port} (h : Step (e, p) (e', p')) : Brief p' := by
  cases h with
  | collect => exact fun _ hr => absurd hr List.not_mem_nil
  | finish => exact fun _ hr => absurd hr List.not_mem_nil
  | @burst _ progress ho hfill hr =>
    intro request hrequest
    obtain rfl := List.mem_singleton.1 hrequest
    rw [FillProgress.request, Request.writes, length_wordsAt, List.length_replicate]
    exact Nat.min_le_right _ _
  | @issue _ command queue request ho hfill hq hr =>
    intro request' hrequest
    obtain rfl := List.mem_singleton.1 hrequest
    cases command with
    | store dword value =>
      obtain rfl := Option.some.inj hr
      exact of_decide_eq_true rfl
    | readAhead dword =>
      obtain rfl := Option.some.inj hr
      exact of_decide_eq_true rfl
    | timestamp address cycles =>
      obtain rfl := Option.some.inj hr
      exact of_decide_eq_true rfl
    | fill f => cases hr
  | fill => exact fun _ hr => absurd hr List.not_mem_nil
  | skip => exact fun _ hr => absurd hr List.not_mem_nil

/-- A chain of steps changes nothing about what will come, and asks for no long write. -/
theorem Steps.outlook_eq {s s' : MemoryEngine × Port} (h : Steps s s') (m : Sdram)
    (hb : Brief s.2) : s'.1.outlook s'.2 m = s.1.outlook s.2 m ∧ Brief s'.2 := by
  induction h with
  | refl => exact ⟨rfl, hb⟩
  | tail _ hstep ih => exact ⟨(hstep.outlook_eq m).trans ih.1, hstep.brief⟩

end MemoryEngine

/-! ## The bench -/

/-- The memory engine at an arbiter and a memory. -/
structure EngineBench where
  /-- The engine. -/
  engine : MemoryEngine
  /-- The arbiter. -/
  arbiter : Arbiter
  /-- The memory. -/
  memory : Sdram
  /-- The commands that the engine took, oldest first. -/
  accepted : List MemoryCommand := []
  /-- The engine's requests that were performed, oldest first. -/
  served : List Request := []
  /-- The values that were collected, oldest first. -/
  collected : List UInt64 := []

namespace EngineBench

/-- A client beside the memory engine. -/
abbrev Reader := { c : Client // c ≠ .engine }

/-- What can happen on the bench. -/
inductive Act where
  /-- A command is offered to the engine. -/
  | push (command : MemoryCommand)
  /-- A cycle. -/
  | tick
  /-- Another client wants to read. -/
  | read (reader : Reader) (address length : Nat)
  /-- Another client collects its response. -/
  | collect (reader : Reader)

/-- The bench at rest. -/
def start (capacity : Nat) (policy : ArbiterPolicy) (memory : Sdram) : EngineBench where
  engine := .ofCapacity capacity
  arbiter := { policy }
  memory := memory

/-- A cycle of the arbiter. -/
def serve (b : EngineBench) : EngineBench :=
  let (arbiter, memory) := b.arbiter.tick b.memory
  { b with
    arbiter
    memory
    served := b.served ++ Request.servedTo .engine b.arbiter.performed? }

/-- A cycle of the engine. -/
def advance (b : EngineBench) : EngineBench :=
  let (engine, arbiter) := b.engine.tick b.arbiter
  { b with engine, arbiter }

/-- The value that the engine has fetched is collected, if there is one. -/
def gather (b : EngineBench) : EngineBench :=
  match b.engine.takeFetched? with
  | some (value, engine) => { b with engine, collected := b.collected ++ [value] }
  | none => b

/-- A cycle of the arbiter and then of the engine, after which the value is collected. -/
def tick (b : EngineBench) : EngineBench := b.serve.advance.gather

/-- Lets something happen. A command that does not fit is not taken, a request on an occupied slot
is refused, and a response that is not there is not collected. -/
def act (b : EngineBench) : Act → EngineBench
  | .push command =>
    match b.engine.push? command with
    | some engine => { b with engine, accepted := b.accepted ++ [command] }
    | none => b
  | .tick => b.tick
  | .read reader address length =>
    match b.arbiter.submit? reader (.read address length) with
    | some arbiter => { b with arbiter }
    | none => b
  | .collect reader =>
    match b.arbiter.take? reader with
    | some (_, arbiter) => { b with arbiter }
    | none => b

/-- Lets things happen, one after the other. -/
def run (b : EngineBench) (acts : List Act) : EngineBench := acts.foldl act b

/-- What has come of the program so far. What the counters show is part of the engine's outlook. -/
def done (b : EngineBench) : Outlook where
  writes := b.served.flatMap Request.writes
  values := b.collected

/-- What holds on the bench at all times, if it started with the given memory. -/
structure Invariant (initial : Sdram) (b : EngineBench) : Prop where
  /-- The arbiter is well-formed. -/
  wellFormed : b.arbiter.WellFormed
  /-- Other clients read. -/
  reads : ∀ c, c ≠ .engine → (b.arbiter.port c).ReadsOnly
  /-- The engine waits for a response exactly while its port is not free. -/
  attends : b.engine.Attends (b.arbiter.port .engine)
  /-- What the engine asks for is brief. -/
  asked : MemoryEngine.Brief (b.arbiter.port .engine)
  /-- What it asked for before was brief. -/
  brief : ∀ request ∈ b.served, request.writes.length ≤ fillBurstWords
  /-- Memory holds the words that were written. -/
  written : b.memory = initial.writeAll (b.served.flatMap Request.writes)
  /-- The engine will leave the memory as the program does. -/
  effect : (b.engine.view b.arbiter).finish b.memory = b.accepted.foldl MemoryCommand.apply initial
  /-- What has come and what is to come are what the program makes. -/
  outlook : b.done ++ b.engine.outlook (b.arbiter.port .engine) b.memory
    = .ofCommands b.accepted initial

/-- What holds between cycles: no value waits to be collected. -/
structure Rests (initial : Sdram) (b : EngineBench) : Prop extends Invariant initial b where
  /-- The engine has no value. -/
  fetched : b.engine.fetched = none

variable {b : EngineBench} {initial : Sdram}

/-- At the start nothing was accepted, and nothing is to come. -/
theorem start_rests (capacity : Nat) (policy : ArbiterPolicy) (memory : Sdram) :
    (start capacity policy memory).Rests memory where
  wellFormed := Arbiter.WellFormed.of_no_grant rfl
  reads c _ := by cases c <;> exact fun _ hr => absurd hr List.not_mem_nil
  attends := by simp [MemoryEngine.Attends, start, MemoryEngine.ofCapacity, Arbiter.port]
  asked _ hr := absurd hr List.not_mem_nil
  brief _ hr := absurd hr List.not_mem_nil
  written := rfl
  effect := rfl
  outlook := rfl
  fetched := rfl

/-- Memory changes by the words that the engine writes, if the other clients read. -/
theorem memory_step {p p' : Client → Port} {m m' : Sdram} {performed : Option (Client × Request)}
    (hs : Arbiter.PortStep p m performed p' m') (hreads : ∀ c, c ≠ .engine → (p c).ReadsOnly) :
    m' = m.writeAll ((Request.servedTo .engine performed).flatMap Request.writes)
      ∧ ∀ request ∈ Request.servedTo .engine performed, request ∈ (p .engine).requests := by
  cases hs with
  | wait => exact ⟨rfl, fun _ hr => absurd hr List.not_mem_nil⟩
  | grant hp => exact ⟨rfl, fun _ hr => absurd hr List.not_mem_nil⟩
  | @perform c request hp =>
    rw [Request.servedTo]
    by_cases hc : c = .engine
    · subst hc
      rw [if_pos rfl, hp, List.flatMap_singleton]
      exact ⟨request.perform_eq_writeAll m, fun _ hr => hr⟩
    · have hread : request.isRead = true := by
        refine hreads c hc request ?_
        rw [hp]
        exact List.mem_singleton_self _
      rw [if_neg hc, request.perform_of_isRead hread]
      exact ⟨rfl, fun _ hr => absurd hr List.not_mem_nil⟩

/-- A cycle of the arbiter. -/
theorem Rests.serve (h : b.Rests initial) : b.serve.Rests initial := by
  have hs := Arbiter.tick_portStep h.wellFormed b.memory
  obtain ⟨hmemory, hserved⟩ := memory_step hs h.reads
  refine ⟨⟨h.wellFormed.tick b.memory, fun c hc => (h.reads c hc).step hs,
    h.attends.arbiter h.wellFormed b.memory, ?_, fun request hr => ?_, ?_, ?_, ?_⟩, h.fetched⟩
  · exact h.asked.step hs
  · rcases List.mem_append.1 hr with hr | hr
    · exact h.brief request hr
    · exact h.asked request (hserved request hr)
  · change (b.arbiter.tick b.memory).2 = _
    rw [hmemory, h.written, ← Sdram.writeAll_append, ← List.flatMap_append]
    rfl
  · exact (b.engine.finish_arbiter h.wellFormed b.memory h.reads).trans h.effect
  · have harbiter := MemoryEngine.outlook_arbiter (e := b.engine) hs h.reads
    have hdone : b.serve.done = b.done
        ++ { writes := (Request.servedTo .engine b.arbiter.performed?).flatMap Request.writes } :=
      Outlook.ext List.flatMap_append (List.append_nil _).symm rfl rfl rfl
    rw [hdone, Outlook.append_assoc]
    exact (congrArg (b.done ++ ·) harbiter).trans h.outlook

/-- A cycle of the engine. -/
theorem Rests.advance (h : b.Rests initial) : b.advance.Invariant initial := by
  obtain ⟨hmoves, hchanges⟩ := b.engine.tick_moves h.wellFormed
  obtain ⟨houtlook, hbrief⟩ := MemoryEngine.Steps.outlook_eq
    (MemoryEngine.tick_steps h.wellFormed h.fetched) b.memory h.asked
  refine ⟨hchanges.wellFormed, fun c hc => ?_, h.attends.tick h.wellFormed, hbrief, h.brief,
    h.written, (hmoves.finish_eq b.memory).trans h.effect, ?_⟩
  · have hport : b.advance.arbiter.port c = b.arbiter.port c := hchanges.others c hc
    rw [hport]
    exact h.reads c hc
  · exact (congrArg (b.done ++ ·) houtlook).trans h.outlook

/-- A value that is collected leaves the outlook. -/
theorem outlook_collected {e : MemoryEngine} {value : UInt64} (hf : e.fetched = some value)
    (p : Port) (m : Sdram) :
    { values := [value] } ++ MemoryEngine.outlook { e with fetched := none } p m
      = e.outlook p m := by
  have hunderway : { values := [value] } ++ MemoryEngine.underway { e with fetched := none } p m
      = e.underway p m := by
    unfold MemoryEngine.underway
    rw [hf]
    exact Outlook.ext rfl rfl (Nat.zero_add _) (Nat.zero_add _) (Nat.zero_add _)
  unfold MemoryEngine.outlook
  rw [← Outlook.append_assoc, ← Outlook.append_assoc, hunderway]

/-- The value is collected. -/
theorem Invariant.gather (h : b.Invariant initial) : b.gather.Rests initial := by
  unfold EngineBench.gather MemoryEngine.takeFetched?
  cases hf : b.engine.fetched with
  | none => exact ⟨h, hf⟩
  | some value =>
    refine ⟨⟨h.wellFormed, h.reads, h.attends, h.asked, h.brief, h.written, h.effect, ?_⟩, rfl⟩
    have hdone : done { b with collected := b.collected ++ [value] }
        = b.done ++ { values := [value] } :=
      Outlook.ext (List.append_nil _).symm rfl rfl rfl rfl
    change done { b with collected := b.collected ++ [value] } ++ _ = _
    rw [hdone, Outlook.append_assoc]
    exact (congrArg (b.done ++ ·) (outlook_collected hf _ _)).trans h.outlook

/-- A command is offered to the engine, and taken or not. -/
theorem Rests.push (h : b.Rests initial) (command : MemoryCommand) :
    (b.act (.push command)).Rests initial := by
  unfold act MemoryEngine.push?
  dsimp only
  split
  · rename_i engine hp
    split at hp
    · obtain rfl := Option.some.inj hp
      have hqueue : (b.engine.queue.push command).toList = b.engine.queue.toList ++ [command] :=
        Queue.toList_push _ _
      refine ⟨⟨h.wellFormed, h.reads, h.attends, h.asked, h.brief, h.written, ?_, ?_⟩, h.fetched⟩
      · rw [List.foldl_append, ← h.effect]
        simp only [MemoryEngine.view, EngineView.finish, hqueue, List.foldl_append]
      · rw [Outlook.ofCommands_append, ← h.outlook, ← h.effect, Outlook.append_assoc]
        unfold MemoryEngine.outlook
        rw [hqueue, Outlook.ofCommands_append, ← Outlook.append_assoc (_ ++ _)]
        rfl
    · cases hp
  · exact h

/-- Another client does something at its port. -/
theorem Rests.foreign (h : b.Rests initial) {arbiter : Arbiter} (hw : arbiter.WellFormed)
    (reader : Reader) {x : Port} (hx : x.ReadsOnly)
    (hp : arbiter.port = Function.update b.arbiter.port reader x) :
    { b with arbiter }.Rests initial := by
  have hengine : arbiter.port .engine = b.arbiter.port .engine := by
    rw [hp, Function.update_of_ne reader.2.symm]
  refine ⟨⟨hw, fun c hc => ?_, ?_, ?_, h.brief, h.written, ?_, ?_⟩, h.fetched⟩
  · dsimp only
    by_cases hcr : c = reader
    · rw [hp, hcr, Function.update_self]
      exact hx
    · rw [hp, Function.update_of_ne hcr]
      exact h.reads c hc
  · dsimp only
    rw [hengine]
    exact h.attends
  · dsimp only
    rw [hengine]
    exact h.asked
  · have hview : b.engine.view arbiter = b.engine.view b.arbiter := by
      rw [MemoryEngine.view, hengine]
      rfl
    dsimp only
    rw [hview]
    exact h.effect
  · dsimp only
    rw [hengine]
    exact h.outlook

/-- **Whatever happens, the invariant stays.** -/
theorem Rests.act (h : b.Rests initial) (a : Act) : (b.act a).Rests initial := by
  cases a with
  | push command => exact h.push command
  | tick => exact h.serve.advance.gather
  | read reader address length =>
    unfold EngineBench.act
    dsimp only
    split
    · rename_i arbiter hs
      refine h.foreign (h.wellFormed.submit? hs) reader ?_ (Arbiter.port_submit? hs)
      intro request hr
      obtain rfl := List.mem_singleton.1 hr
      rfl
    · exact h
  | collect reader =>
    unfold EngineBench.act
    dsimp only
    split
    · rename_i response arbiter ht
      exact h.foreign (h.wellFormed.take? ht) reader (fun _ hr => absurd hr List.not_mem_nil)
        (Arbiter.port_take? h.wellFormed ht)
    · exact h

/-- The invariant holds throughout a run. -/
theorem Rests.run (h : b.Rests initial) (acts : List Act) : (b.run acts).Rests initial := by
  induction acts generalizing b with
  | nil => exact h
  | cons a acts ih => exact ih (h.act a)

/-- Of an idle engine nothing is to come, and its counters show all that there was. -/
theorem outlook_of_idle {e : MemoryEngine} (hidle : e.isIdle = true) (hf : e.fetched = none)
    (m : Sdram) :
    e.outlook .free m = {
      wordsWritten := e.stats.wordsWritten
      wordsRead := e.stats.wordsRead
      fillsCompleted := e.stats.fillsCompleted } := by
  obtain ⟨hqueue, ho, hfill⟩ := MemoryEngine.isIdle_iff.1 hidle
  unfold MemoryEngine.outlook MemoryEngine.underway
  rw [hqueue, hfill, hf, MemoryEngine.awaited?_of_none ho]
  rfl

/-- **The memory engine runs its commands as a program**, whatever its queue can hold, whatever
policy and memory the bench starts with, and whatever happens. The words that its requests have
written are the first of those that the commands it took write one after the other, and nothing else
changes the memory; no request writes more than 64 words. The values that were collected are the
first of those that the read-aheads bring back, each of which finds the memory as the commands
before it leave it. When the engine is idle they are all of the words and all of the values, the
memory is as the program leaves it, and the counters show how many words were written and read, and
how many fills of at least one word there were. -/
theorem run_program (capacity : Nat) (policy : ArbiterPolicy) (memory : Sdram) (acts : List Act) :
    let b := (start capacity policy memory).run acts
    let written := b.served.flatMap Request.writes
    let words := b.accepted.flatMap MemoryCommand.writes
    let values := MemoryCommand.valuesOf b.accepted memory
    written <+: words
    ∧ b.memory = memory.writeAll written
    ∧ (∀ request ∈ b.served, request.writes.length ≤ 64)
    ∧ b.collected <+: values
    ∧ (b.engine.isIdle = true →
        written = words ∧ b.collected = values
        ∧ b.memory = b.accepted.foldl MemoryCommand.apply memory
        ∧ b.engine.stats =
          { wordsWritten := words.length
            wordsRead := 4 * b.accepted.countP MemoryCommand.isReadAhead
            fillsCompleted := b.accepted.countP MemoryCommand.isLongFill }) := by
  intro b written words values
  have h : b.Rests memory := (start_rests capacity policy memory).run acts
  have hwrites := congrArg Outlook.writes h.outlook
  have hvalues := congrArg Outlook.values h.outlook
  rw [Outlook.writes_ofCommands] at hwrites
  rw [Outlook.values_ofCommands] at hvalues
  refine ⟨⟨_, hwrites⟩, h.written, h.brief, ⟨_, hvalues⟩, fun hidle => ?_⟩
  obtain ⟨hqueue, ho, hfill⟩ := MemoryEngine.isIdle_iff.1 hidle
  have hfree : b.arbiter.port .engine = .free := h.attends.1 ho
  have hrest : (b.engine.view b.arbiter).AtRest :=
    ⟨hqueue, hfill, congrArg Port.requests hfree⟩
  have hall := h.outlook
  rw [hfree, outlook_of_idle hidle h.fetched] at hall
  refine ⟨?_, ?_, ?_, ?_⟩
  · have hlast := congrArg Outlook.writes hall
    rw [Outlook.writes_ofCommands] at hlast
    exact (List.append_nil _).symm.trans hlast
  · have hlast := congrArg Outlook.values hall
    rw [Outlook.values_ofCommands] at hlast
    exact (List.append_nil _).symm.trans hlast
  · exact (hrest.finish_eq b.memory).symm.trans h.effect
  · have hwritten := congrArg Outlook.wordsWritten hall
    have hread := congrArg Outlook.wordsRead hall
    have hfills := congrArg Outlook.fillsCompleted hall
    rw [Outlook.wordsWritten_ofCommands] at hwritten
    rw [Outlook.wordsRead_ofCommands] at hread
    rw [Outlook.fillsCompleted_ofCommands] at hfills
    rw [← hwritten, ← hread, ← hfills]
    change b.engine.stats = ⟨0 + _, 0 + _, 0 + _⟩
    rw [Nat.zero_add, Nat.zero_add, Nat.zero_add]

/-- A value is stored, read, filled over in two bursts and read again, while scanout reads. A fill
of no words does nothing, and a command that does not fit is not run. -/
theorem run_program_fill :
    let reader : Reader := ⟨.display, by decide⟩
    let ticks (n : Nat) : List Act := .replicate n .tick
    let acts : List Act :=
      .push (.store 0 0x4444333322221111) :: .push (.readAhead 0) :: .push (.timestamp 1 5)
        :: .read reader 0 2 :: ticks 30
        ++ .push (.fill ⟨0, 9, 0⟩) :: .push (.fill ⟨0, 7, 66⟩) :: ticks 80
        ++ .push (.readAhead 0) :: ticks 20
    let b := (start 2 .roundRobin (.zeroed 8 1)).run acts
    b.served.map (·.writes.length) = [4, 0, 64, 2, 0]
      ∧ b.collected = [0x4444333322221111, 0x0007000700070007]
      ∧ b.memory = b.accepted.foldl MemoryCommand.apply (.zeroed 8 1)
      ∧ b.engine.stats = { wordsWritten := 70, wordsRead := 8, fillsCompleted := 1 } := by
  intro reader ticks acts b
  obtain ⟨-, -, -, -, hall⟩ := run_program 2 .roundRobin (.zeroed 8 1) acts
  have hidle : b.engine.isIdle = true := by decide +kernel
  obtain ⟨-, -, hmemory, -⟩ := hall hidle
  exact ⟨by decide +kernel, by decide +kernel, hmemory, by decide +kernel⟩

end EngineBench

end RasterGpu
