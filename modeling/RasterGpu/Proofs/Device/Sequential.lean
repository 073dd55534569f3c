import RasterGpu.Proofs.Device.Contents
import RasterGpu.Proofs.Device.Coupling

/-!
# Streams of draws and fills

A host puts transactions into the command queue, lets cycles pass and collects answers, in any order
(`Feed`). However it does so, and whatever the configuration, once the device is idle its memory and
the answers are those of the program that executes the same transactions one after the other
(`Feed.run_sequential`), as long as none of them uses the memory window's data or the timestamp.

The register file of the device and that of the program agree on all that such transactions depend
on (`RegisterFile.Agrees`). They differ in the clock, in the surface on display and in what the
memory window has read ahead.
-/

namespace RasterGpu

/-! ## Transactions that do not depend on the clock -/

/-- The register that a transaction accesses. -/
def Transaction.address : Transaction → Address
  | write address _ => address
  | read address => address

/-- What the transaction does depends neither on the clock nor on what the memory window has read
ahead, and it stores no value in memory: it accesses neither the data of the memory window nor the
timestamp. -/
def Transaction.IsTimeless (t : Transaction) : Prop :=
  t.address ≠ Register.windowData.address ∧ t.address ≠ Register.timestamp.address

instance (t : Transaction) : Decidable t.IsTimeless :=
  inferInstanceAs (Decidable (_ ∧ _))

namespace RegisterFile

/-- Two register files agree on the words written to them and what they stand for, on the vertices
and on the pointer of the memory window. -/
structure Agrees (regs regs' : RegisterFile) : Prop where
  /-- The words are the same. -/
  words : regs.words = regs'.words
  /-- The attributes of vertices to come are the same. -/
  attributes : regs.attributes = regs'.attributes
  /-- The drawing state is the same. -/
  drawState : regs.drawState = regs'.drawState
  /-- The vertices are the same. -/
  ring : regs.ring = regs'.ring
  /-- The pointers are the same. -/
  window : regs.window = regs'.window

variable {regs regs' : RegisterFile}

/-- The clock does not matter. -/
theorem Agrees.clock (h : regs.Agrees regs') (edge : Bool) : (regs.clock edge).Agrees regs' := by
  unfold RegisterFile.clock
  split
  · exact ⟨h.words, h.attributes, h.drawState, h.ring, h.window⟩
  · exact ⟨h.words, h.attributes, h.drawState, h.ring, h.window⟩

/-- The values read ahead do not matter. -/
theorem Agrees.completeReadAhead (h : regs.Agrees regs') (value : UInt64) :
    (regs.completeReadAhead value).Agrees regs' := by
  unfold RegisterFile.completeReadAhead
  split
  · exact ⟨h.words, h.attributes, h.drawState, h.ring, h.window⟩
  · exact ⟨h.words, h.attributes, h.drawState, h.ring, h.window⟩

/-- Registers that do not depend on the clock read the same. -/
theorem Agrees.peek (h : regs.Agrees regs') {address : Address}
    (hdata : address ≠ Register.windowData.address)
    (hclock : address ≠ Register.timestamp.address) : regs.peek address = regs'.peek address := by
  unfold RegisterFile.peek
  cases hr : Register.ofAddress? address with
  | none => rfl
  | some r =>
    have haddress := Register.address_of_ofAddress? hr
    cases r
    case windowData => exact absurd haddress.symm hdata
    case timestamp => exact absurd haddress.symm hclock
    all_goals simp only [h.words, h.window]

/-- A transaction that does not depend on the clock has the same effects on both, and they agree
after it. -/
theorem Agrees.process (h : regs.Agrees regs') {t : Transaction} (ht : t.IsTimeless) :
    (regs.process t).1.Agrees (regs'.process t).1 ∧ (regs.process t).2 = (regs'.process t).2 := by
  cases t with
  | write address data =>
    obtain ⟨policy, words, attributes, state, ring, display, staged, frameCycles, window, ahead,
      aheads, stats⟩ := regs
    obtain ⟨policy', words', attributes', state', ring', display', staged', frameCycles', window',
      ahead', aheads', stats'⟩ := regs'
    obtain ⟨hwords, hattributes, hstate, hring, hwindow⟩ := h
    dsimp only at hwords hattributes hstate hring hwindow
    subst hwords hattributes hstate hring hwindow
    unfold RegisterFile.process
    dsimp only
    split
    · rename_i r hr
      have haddress := Register.address_of_ofAddress? hr
      cases r
      case windowData => exact absurd haddress.symm ht.1
      case timestamp => exact absurd haddress.symm ht.2
      all_goals exact ⟨⟨rfl, rfl, rfl, rfl, rfl⟩, rfl⟩
    · exact ⟨⟨rfl, rfl, rfl, rfl, rfl⟩, rfl⟩
  | read address =>
    have hdata : address ≠ Register.windowData.address := ht.1
    have hpeek (k k' : RegisterStats) :
        ({ regs with stats := k }).peek address = ({ regs' with stats := k' }).peek address :=
      Agrees.peek ⟨h.words, h.attributes, h.drawState, h.ring, h.window⟩ hdata ht.2
    unfold RegisterFile.process
    dsimp only
    rw [if_neg hdata, if_neg hdata, hpeek]
    exact ⟨⟨h.words, h.attributes, h.drawState, h.ring, h.window⟩, rfl⟩

/-- A transaction that does not depend on the clock stores no value. -/
theorem isStore_of_isTimeless (regs : RegisterFile) {t : Transaction} (ht : t.IsTimeless) :
    ∀ c ∈ (regs.process t).2.commands, c.isStore = false := by
  cases t with
  | write address data =>
    unfold process
    dsimp only
    split
    · rename_i r hr
      have haddress := Register.address_of_ofAddress? hr
      cases r
      case windowData => exact absurd haddress.symm ht.1
      case timestamp => exact absurd haddress.symm ht.2
      all_goals simp [writeRegister, kick, MemoryCommand.isStore]
    · exact fun c hc => absurd hc List.not_mem_nil
  | read address =>
    have hdata : address ≠ Register.windowData.address := ht.1
    unfold process
    dsimp only
    rw [if_neg hdata]
    exact fun c hc => absurd hc List.not_mem_nil

end RegisterFile

/-- Executing a transaction adds what it asks for to what is to be done. -/
theorem Coupled.executes {g g' : Gpu} {t : Transaction} {target : Sdram}
    (h : Coupled g.rasterizer g.engine g.arbiter g.memory target) (ho : g.Open)
    (hx : g.Executes t g') (ht : t.IsTimeless) :
    let effects := (g.registers.process t).2
    let filled := effects.commands.foldl MemoryCommand.apply target
    Coupled g'.rasterizer g'.engine g'.arbiter g'.memory
      (effects.draw.elim filled (·.apply filled)) := by
  intro effects filled
  have hstore := g.registers.isStore_of_isTimeless ht
  rw [hx.rasterizer, hx.engine, hx.arbiter, hx.memory]
  cases hd : effects.draw with
  | none =>
    exact h.push ho.idle hstore
  | some event =>
    have hdraw : (g.registers.process t).2.draw = some event := hd
    have hcommands : (g.registers.process t).2.commands = [] :=
      RegisterFile.commands_of_draw hdraw
    have hfilled : filled = target := by
      change (g.registers.process t).2.commands.foldl _ target = target
      rw [hcommands]
      rfl
    rw [hcommands, hfilled]
    exact h.draw ho.idle ho.noFill event

/-! ## Feeding a device -/

/-- The transactions that a device executes before those of the host. -/
def Config.boot (config : Config) : List Transaction :=
  if config.bootSequence then bootScript.transactions else []

/-- The memory of a device that has been loaded with `contents` from address zero on. -/
def Config.memory (config : Config) (contents : List UInt16) : Sdram :=
  (Sdram.zeroed config.memoryWords config.memoryLatency).store 0 contents

/-- The program that a device executes: the boot sequence and then the stream, one transaction after
the other. -/
def Config.program (config : Config) (contents : List UInt16) (stream : List Transaction) :
    Sequential :=
  Sequential.run { memory := config.memory contents } (config.boot ++ stream)

/-- The boot sequence does not depend on the clock. -/
theorem Config.isTimeless_of_mem_boot (config : Config) : ∀ t ∈ config.boot, t.IsTimeless := by
  unfold Config.boot
  split
  · decide
  · exact fun t ht => absurd ht List.not_mem_nil

/-- A device, the transactions that it has taken and the answers that were collected from it. -/
structure Feed where
  /-- The device. -/
  device : Gpu
  /-- The transactions taken, oldest first. -/
  delivered : List Transaction := []
  /-- The answers collected, oldest first. -/
  collected : List UInt64 := []

namespace Feed

/-- What a host does. -/
inductive Call where
  /-- It offers a transaction. -/
  | offer (t : Transaction)
  /-- It lets a cycle pass. -/
  | tick
  /-- It collects an answer, if there is one. -/
  | collect
  deriving DecidableEq, Repr

/-- A new device with its memory loaded. -/
def start (config : Config) (contents : List UInt16) : Feed where
  device := { Gpu.ofConfig config with memory := config.memory contents }

/-- Does what a host does. A transaction that the queue refuses is not taken. -/
def call (f : Feed) : Call → Feed
  | .offer t =>
    match f.device.offer t with
    | (device, true) => { f with device, delivered := f.delivered ++ [t] }
    | (device, false) => { f with device }
  | .tick => { f with device := f.device.next }
  | .collect =>
    match f.device.takeResponse? with
    | some (value, device) => { f with device, collected := f.collected ++ [value] }
    | none => f

/-- Does what a host does, one thing after the other. -/
def run (f : Feed) (calls : List Call) : Feed :=
  calls.foldl call f

/-- The answers, collected or not, oldest first. -/
def answers (f : Feed) : List UInt64 :=
  f.collected ++ f.device.responses.toList

/-- Between cycles transactions are taken and answers are collected, and nothing else changes. -/
theorem call_of_ne_tick (f : Feed) {c : Call} (hc : c ≠ .tick) :
    ∃ (commands : CommandQueue) (more : List Transaction) (responses : Queue UInt64)
        (taken : List UInt64),
      commands.entries.toList = f.device.commands.entries.toList ++ more
        ∧ f.device.responses.toList = taken ++ responses.toList
        ∧ f.call c = ⟨{ f.device with commands, responses }, f.delivered ++ more,
            f.collected ++ taken⟩ := by
  cases c with
  | tick => exact absurd rfl hc
  | offer t =>
    let q := f.device.commands
    unfold call Gpu.offer CommandQueue.offer
    cases f.device.commands.isFull with
    | true =>
      refine ⟨{ q with rejected := q.rejected + 1 }, [], f.device.responses, [],
        (List.append_nil _).symm, rfl, ?_⟩
      rw [List.append_nil, List.append_nil]
      rfl
    | false =>
      refine ⟨{ q with entries := q.entries.push t, accepted := q.accepted + 1 }, [t],
        f.device.responses, [], Queue.toList_push _ t, rfl, ?_⟩
      rw [List.append_nil]
      rfl
  | collect =>
    unfold call Gpu.takeResponse?
    cases hp : f.device.responses.pop? with
    | none =>
      refine ⟨f.device.commands, [], f.device.responses, [], (List.append_nil _).symm, rfl, ?_⟩
      rw [List.append_nil, List.append_nil]
      rfl
    | some pair =>
      refine ⟨f.device.commands, [], pair.2, [pair.1], (List.append_nil _).symm,
        Queue.pop?_eq_some hp, ?_⟩
      rw [List.append_nil]
      rfl

/-! ## The invariant -/

/-- The device has executed some of the transactions of the program, and will have done to memory
what the program has done. -/
structure Tracks (program : Sequential) (boot : List Transaction) (f : Feed)
    (executed : List Transaction) : Prop where
  /-- What was not executed waits in the command queue. -/
  stream : boot ++ f.delivered = executed ++ f.device.commands.entries.toList
  /-- No primitive is held. -/
  held : f.device.held = none
  /-- The register files agree. -/
  registers : f.device.registers.Agrees (program.run executed).registers
  /-- The memory will be that of the program. -/
  coupled : Coupled f.device.rasterizer f.device.engine f.device.arbiter f.device.memory
    (program.run executed).memory
  /-- The answers are those of the program. -/
  answers : f.answers = (program.run executed).responses

variable {program : Sequential} {boot executed : List Transaction} {f : Feed}

/-- A new device has executed nothing. -/
theorem start_tracks (config : Config) (contents : List UInt16) :
    Tracks { memory := config.memory contents } config.boot (start config contents) [] where
  stream := by
    change config.boot ++ [] = [] ++ (Queue.ofList config.boot).toList
    rw [Queue.toList_ofList, List.append_nil, List.nil_append]
  held := rfl
  registers := ⟨rfl, rfl, rfl, rfl, rfl⟩
  coupled :=
    { valid := trivial
      sound := ⟨.of_no_grant rfl, fun c _ => by cases c <;> exact .free⟩
      scanout := fun r hr => absurd hr List.not_mem_nil
      plain := ⟨fun c hc => absurd hc List.not_mem_nil, fun _ r hr => absurd hr List.not_mem_nil⟩
      exclusive := fun hb => by cases hb
      outcome := ⟨[], rfl⟩ }
  answers := rfl

/-- Between cycles transactions are taken and answers are collected. -/
theorem Tracks.between (h : Tracks program boot f executed) {commands : CommandQueue}
    {more : List Transaction} {responses : Queue UInt64} {taken : List UInt64}
    (hcommands : commands.entries.toList = f.device.commands.entries.toList ++ more)
    (hresponses : f.device.responses.toList = taken ++ responses.toList) :
    Tracks program boot
      ⟨{ f.device with commands, responses }, f.delivered ++ more, f.collected ++ taken⟩
      executed := by
  refine ⟨?_, h.held, h.registers, h.coupled, ?_⟩
  · rw [hcommands, ← List.append_assoc, h.stream, List.append_assoc]
  · rw [← h.answers, Feed.answers, Feed.answers, hresponses, List.append_assoc]

/-- What a host does between cycles. -/
theorem Tracks.host (h : Tracks program boot f executed) {c : Call} (hc : c ≠ .tick) :
    Tracks program boot (f.call c) executed := by
  obtain ⟨commands, more, responses, taken, hcommands, hresponses, hcall⟩ := f.call_of_ne_tick hc
  rw [hcall]
  exact h.between hcommands hresponses

/-- A cycle of the device. -/
theorem Tracks.tick (h : Tracks program boot f executed)
    (ht : ∀ t ∈ boot ++ f.delivered, t.IsTimeless) :
    ∃ executed, Tracks program boot (f.call .tick) executed := by
  have hcoupled := h.coupled.settled
  have hregisters : f.device.settled.registers.Agrees (program.run executed).registers := by
    have hclock := h.registers.clock f.device.edge
    change RegisterFile.Agrees (f.device.fetched.1.fetched.elim _ _) _
    cases f.device.fetched.1.fetched with
    | none => exact hclock
    | some value => exact hclock.completeReadAhead value
  have hd := Gpu.dispatch_cases (g := f.device.settled) h.held
  unfold call
  rw [Gpu.next_eq]
  generalize f.device.settled.dispatch = g' at hd
  cases hd with
  | rest hq => exact ⟨executed, h.stream, h.held, hregisters, hcoupled, h.answers⟩
  | wait hq => exact ⟨executed, h.stream, h.held, hregisters, hcoupled, h.answers⟩
  | @execute t commands g' hq ho hx =>
    have hq' : f.device.commands.entries.toList = t :: commands.entries.toList := hq
    have htime : t.IsTimeless := by
      refine ht t ?_
      rw [h.stream, hq']
      exact List.mem_append_right _ List.mem_cons_self
    obtain ⟨hagrees, heffects⟩ := hregisters.process htime
    have hstep := Coupled.executes (g := { f.device.settled with commands }) hcoupled
      ⟨ho.idle, ho.noFill, ho.room⟩ hx htime
    refine ⟨executed ++ [t], ?_, hx.held.trans h.held, ?_, ?_, ?_⟩
    · rw [hx.commands, h.stream, hq', List.append_assoc]
      rfl
    · rw [Sequential.run_concat, hx.registers]
      exact hagrees
    · rw [Sequential.run_concat, Sequential.memory_step, ← heffects]
      exact hstep
    · rw [Sequential.run_concat, Sequential.responses_step, ← heffects, ← h.answers]
      have hresponses : g'.responses.toList
          = f.device.responses.toList
            ++ (f.device.settled.registers.process t).2.response.toList := hx.toList_responses
      rw [Feed.answers, hresponses, Feed.answers, List.append_assoc]

/-- The transactions taken are only ever added to. -/
theorem delivered_prefix (f : Feed) (c : Call) : f.delivered <+: (f.call c).delivered := by
  by_cases hc : c = .tick
  · subst hc
    exact List.prefix_rfl
  · obtain ⟨commands, more, responses, taken, -, -, hcall⟩ := f.call_of_ne_tick hc
    rw [hcall]
    exact List.prefix_append _ _

/-- The device tracks the program whatever the host does, as long as what it has taken does not
depend on the clock. -/
theorem Tracks.run (h : (∀ t ∈ boot ++ f.delivered, t.IsTimeless) →
      ∃ executed, Tracks program boot f executed)
    (calls : List Call) (ht : ∀ t ∈ boot ++ (f.run calls).delivered, t.IsTimeless) :
    ∃ executed, Tracks program boot (f.run calls) executed := by
  induction calls generalizing f with
  | nil => exact h ht
  | cons c calls ih =>
    refine ih (fun htime => ?_) ht
    have hbefore : ∀ t ∈ boot ++ f.delivered, t.IsTimeless := fun t hmem => by
      refine htime t ?_
      rcases List.mem_append.1 hmem with hmem | hmem
      · exact List.mem_append_left _ hmem
      · exact List.mem_append_right _ ((f.delivered_prefix c).subset hmem)
    obtain ⟨executed, he⟩ := h hbefore
    by_cases hc : c = .tick
    · subst hc
      exact he.tick hbefore
    · exact ⟨executed, he.host hc⟩

/-- An idle device leaves the memory as it is. -/
theorem finish_of_idle {g : Gpu} (hidle : g.isIdle = true) (accesses : List Access) :
    (g.engine.view g.arbiter).finish
      (g.rasterizer.phase.work.run g.arbiter.port ⟨accesses, g.memory⟩).memory = g.memory := by
  obtain ⟨-, hraster, hqueue, hfill, hrequests⟩ := Gpu.isIdle_spec hidle
  rw [Rasterizer.work_of_idle hraster]
  simp only [EngineView.finish, MemoryEngine.view, hqueue, hfill, Port.finish, hrequests,
    List.foldl_nil, Option.elim_none]
  rfl

/-- An idle device has executed all that it was given, and has nothing left to do. -/
theorem Tracks.idle (h : Tracks program boot f executed) (hidle : f.device.isIdle = true) :
    f.device.memory = (program.run (boot ++ f.delivered)).memory
      ∧ f.answers = (program.run (boot ++ f.delivered)).responses := by
  obtain ⟨hcommands, -⟩ := Gpu.isIdle_spec hidle
  have hexecuted : executed = boot ++ f.delivered := by
    rw [h.stream, hcommands, List.append_nil]
  obtain ⟨accesses, hout⟩ := h.coupled.outcome
  rw [← hexecuted]
  exact ⟨(finish_of_idle hidle accesses).symm.trans hout, h.answers⟩

/-- An idle device has done what the program does. -/
theorem idle_eq_program (config : Config) (contents : List UInt16) {calls : List Call}
    (ht : ∀ t ∈ ((start config contents).run calls).delivered, t.IsTimeless)
    (hidle : ((start config contents).run calls).device.isIdle = true) :
    let f := (start config contents).run calls
    f.device.memory = (config.program contents f.delivered).memory
      ∧ f.answers = (config.program contents f.delivered).responses := by
  have htime : ∀ t ∈ config.boot ++ ((start config contents).run calls).delivered,
      t.IsTimeless := by
    intro t hmem
    rcases List.mem_append.1 hmem with hmem | hmem
    · exact config.isTimeless_of_mem_boot t hmem
    · exact ht t hmem
  obtain ⟨executed, h⟩ := Tracks.run (fun _ => ⟨[], start_tracks config contents⟩) calls htime
  exact h.idle hidle

/-- **Streams of draws and fills are executed sequentially, whatever the timing.** A device of any
configuration, with any contents in its memory, is given transactions that access neither the data
of the memory window nor the timestamp, on any schedule of offers, cycles and collected answers.
Whenever it is idle, its memory and the answers it has given are those of the program that executes
the same transactions one after the other. So a device of another configuration with as many words
of memory and the same boot sequence, given the same transactions on another schedule, has the same
words in memory and has given the same answers when it is idle. -/
theorem run_sequential (config : Config) (contents : List UInt16) (calls : List Call) :
    let f := (start config contents).run calls
    let s := config.program contents f.delivered
    (∀ t ∈ f.delivered, t.IsTimeless) → f.device.isIdle = true →
      f.device.memory = s.memory ∧ f.answers = s.responses ∧
      ∀ (config' : Config) (calls' : List Call),
        let f' := (start config' contents).run calls'
        config'.memoryWords = config.memoryWords → config'.bootSequence = config.bootSequence →
        f'.delivered = f.delivered → f'.device.isIdle = true →
          f'.device.memory.words = f.device.memory.words ∧ f'.answers = f.answers := by
  intro f s ht hidle
  obtain ⟨hmemory, hanswers⟩ := idle_eq_program config contents ht hidle
  refine ⟨hmemory, hanswers, ?_⟩
  intro config' calls' f' hwords hboot hdelivered hidle'
  obtain ⟨hmemory', hanswers'⟩ :=
    idle_eq_program config' contents (by rw [hdelivered]; exact ht) hidle'
  have hcontents : (config'.memory contents).words = (config.memory contents).words := by
    refine Sdram.store_congr ?_ 0 contents
    change Array.replicate (max config'.memoryWords 1) 0
      = Array.replicate (max config.memoryWords 1) 0
    rw [hwords]
  have hsame : (config'.program contents f'.delivered).Same
      (config.program contents f.delivered) := by
    have hstream : config'.boot ++ f'.delivered = config.boot ++ f.delivered := by
      rw [Config.boot, Config.boot, hboot, hdelivered]
    unfold Config.program
    rw [hstream]
    have hstart : Sequential.Same { memory := config'.memory contents }
        { memory := config.memory contents } := ⟨rfl, hcontents, rfl⟩
    exact hstart.run _
  rw [hmemory, hmemory', hanswers, hanswers']
  exact ⟨hsame.words, hsame.responses⟩

/-- A fill, and a pixel drawn over its first word and read back, on two schedules. -/
theorem run_sequential_pixel :
    let config : Config :=
      { bootSequence := false, memoryWords := 16, memoryLatency := 1, scanoutCapacity := 1
        scanoutBurst := 1 }
    let config' : Config := { config with memoryLatency := 2, arbiterPolicy := .roundRobin }
    let stream : List Transaction :=
      [.write Register.fill.address 0x500070000, .write Register.color.address 0xFFFFFFFF,
        .write Register.renderMode.address 0x10, .write Register.kickRectangle.address 0x100010,
        .read Register.renderMode.address]
    let calls := stream.map Call.offer ++ List.replicate 60 Call.tick
    let calls' := stream.flatMap (fun t => [Call.offer t, .tick]) ++ .replicate 70 Call.tick
    let f := (start config [1, 2, 3, 4, 5, 6, 7]).run calls
    let f' := (start config' [1, 2, 3, 4, 5, 6, 7]).run calls'
    f.delivered = stream ∧ f.device.isIdle = true ∧ f'.device.isIdle = true
      ∧ f'.device.memory.words = f.device.memory.words ∧ f'.answers = f.answers := by
  intro config config' stream calls calls' f f'
  have hdelivered : f.delivered = stream := by decide +kernel
  have hdelivered' : f'.delivered = stream := by decide +kernel
  have hidle : f.device.isIdle = true := by decide +kernel
  have hidle' : f'.device.isIdle = true := by decide +kernel
  have htime : ∀ t ∈ f.delivered, t.IsTimeless := by
    rw [hdelivered]
    decide
  have hf : f = (start config [1, 2, 3, 4, 5, 6, 7]).run calls := rfl
  have hf' : f' = (start config' [1, 2, 3, 4, 5, 6, 7]).run calls' := rfl
  -- from here on the two runs are not to be evaluated
  clear_value f f'
  subst hf hf'
  obtain ⟨-, -, hsame⟩ := run_sequential config [1, 2, 3, 4, 5, 6, 7] calls htime hidle
  exact ⟨hdelivered, hidle, hidle',
    hsame config' calls' rfl rfl (hdelivered'.trans hdelivered.symm) hidle'⟩

end Feed

end RasterGpu
