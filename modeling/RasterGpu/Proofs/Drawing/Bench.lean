import RasterGpu.Proofs.Drawing.Load

/-!
# The rasterizer on a bench

`Bench` is the rasterizer at an arbiter and a memory, together with the other two clients, which
read as they please. `Bench.Move` lists what can happen: a cycle of the rasterizer, a cycle of the
arbiter, a read submitted by another client, a response collected by one; in any order, and any of
them as often as one likes. `Bench.Call` adds the primitives that are handed over.

`Bench.outcome` is what will have been done when the rasterizer has finished, and no move changes it
(`Bench.Invariant.move`). At rest nothing is left to be done, so it is what has been done. And the
rasterizer does come to rest, if the other clients let it (`Bench.Invariant.exists_rest`): every
cycle leaves it less to do, but for those in which it waits, and then the arbiter has less to do.
-/

namespace RasterGpu

/-- The clients beside the rasterizer. -/
inductive Bystander where
  /-- Scanout. -/
  | display
  /-- The memory engine. -/
  | engine
  deriving DecidableEq, Repr

/-- The slot of a client. -/
def Bystander.client : Bystander → Client
  | display => .display
  | engine => .engine

/-- The rasterizer's slots are its own. -/
theorem Bystander.isDrawing_client (b : Bystander) : b.client.isDrawing = false := by
  cases b <;> rfl

/-- The rasterizer at an arbiter and a memory. -/
structure Bench where
  /-- The rasterizer. -/
  rasterizer : Rasterizer := {}
  /-- The arbiter. -/
  arbiter : Arbiter
  /-- The memory. -/
  memory : Sdram
  /-- The accesses that were made through the rasterizer's ports since it took a primitive. -/
  accesses : List Access := []

namespace Bench

/-- What can happen on the bench. -/
inductive Move where
  /-- A cycle of the rasterizer. -/
  | rasterizer
  /-- A cycle of the arbiter. -/
  | arbiter
  /-- Another client wants to read. -/
  | read (bystander : Bystander) (address length : Nat)
  /-- Another client collects its response. -/
  | collect (bystander : Bystander)
  deriving DecidableEq, Repr

/-- A move, or a primitive for the rasterizer. -/
inductive Call where
  /-- A move. -/
  | move (move : Move)
  /-- A primitive. -/
  | draw (event : DrawEvent)

/-- The bench at rest. -/
def start (policy : ArbiterPolicy) (memory : Sdram) : Bench where
  arbiter := { policy }
  memory := memory

/-- Makes a move. A request on an occupied slot is refused, and a response that is not there is not
collected. -/
def move (b : Bench) : Move → Bench
  | .rasterizer =>
    let (rasterizer, arbiter) := b.rasterizer.tick b.arbiter
    { b with rasterizer, arbiter }
  | .arbiter =>
    let (arbiter, memory) := b.arbiter.tick b.memory
    { b with
      arbiter
      memory
      accesses := b.accesses ++ Work.made Client.isDrawing b.arbiter.performed? }
  | .read bystander address length =>
    match b.arbiter.submit? bystander.client (.read address length) with
    | some arbiter => { b with arbiter }
    | none => b
  | .collect bystander =>
    match b.arbiter.take? bystander.client with
    | some (_, arbiter) => { b with arbiter }
    | none => b

/-- Hands a primitive over. A busy rasterizer does not take it. -/
def draw (b : Bench) (event : DrawEvent) : Bench :=
  match b.rasterizer.accept? event with
  | some rasterizer => { b with rasterizer, accesses := [] }
  | none => b

/-- Makes a call. -/
def call (b : Bench) : Call → Bench
  | .move m => b.move m
  | .draw event => b.draw event

/-- Makes moves, one after the other. -/
def moves (b : Bench) (ms : List Move) : Bench := ms.foldl move b

/-- Makes calls, one after the other. -/
def run (b : Bench) (calls : List Call) : Bench := calls.foldl call b

/-! ## What will have been done -/

/-- What will have been done when the rasterizer has finished. -/
def outcome (b : Bench) : Trace :=
  b.rasterizer.phase.work.run b.arbiter.port ⟨b.accesses, b.memory⟩

/-- What holds on the bench at all times. -/
structure Invariant (b : Bench) : Prop where
  /-- The phase of the rasterizer is valid. -/
  valid : b.rasterizer.phase.Valid
  /-- The ports of the rasterizer hold what it waits for. -/
  sound : b.rasterizer.phase.work.Sound Client.isDrawing b.arbiter
  /-- Other clients read. -/
  reading : ∀ c, c.isDrawing = false → (b.arbiter.port c).ReadsOnly

variable {b : Bench}

/-- The bench at rest. -/
theorem start_invariant (policy : ArbiterPolicy) (memory : Sdram) :
    (start policy memory).Invariant where
  valid := trivial
  sound := by
    refine ⟨Arbiter.WellFormed.of_no_grant rfl, fun c _ => ?_⟩
    cases c <;> exact .free
  reading c _ := by
    cases c <;> exact fun _ hr => absurd hr List.not_mem_nil

/-- A cycle of the rasterizer. -/
theorem Invariant.rasterizer (h : b.Invariant) :
    (b.move .rasterizer).Invariant ∧ (b.move .rasterizer).outcome = b.outcome := by
  obtain ⟨hvalid, hwork⟩ := Rasterizer.tick_keeps h.valid h.sound
  refine ⟨⟨hvalid, hwork.sound, fun c hc => ?_⟩, hwork.run _⟩
  have hp : (b.move .rasterizer).arbiter.port c = b.arbiter.port c := hwork.foreign c hc
  rw [hp]
  exact h.reading c hc

/-- A cycle of the arbiter. -/
theorem Invariant.arbiter (h : b.Invariant) :
    (b.move .arbiter).Invariant ∧ (b.move .arbiter).outcome = b.outcome := by
  have hs := Arbiter.tick_portStep h.sound.wellFormed b.memory
  refine ⟨⟨h.valid, ⟨h.sound.wellFormed.tick b.memory, h.sound.served.step hs⟩, fun c hc => ?_⟩, ?_⟩
  · exact (h.reading c hc).step hs
  · exact h.sound.served.run_step (t := ⟨b.accesses, b.memory⟩) b.rasterizer.phase.work_within hs
      h.reading

/-- Another client does something at its port. -/
theorem Invariant.foreign (h : b.Invariant) {a : Arbiter} {c : Client} {x : Port}
    (hw : a.WellFormed) (hc : c.isDrawing = false)
    (hp : a.port = Function.update b.arbiter.port c x) (hx : x.ReadsOnly) :
    { b with arbiter := a }.Invariant ∧ { b with arbiter := a }.outcome = b.outcome := by
  refine ⟨⟨h.valid, h.sound.foreign hw hc hp, fun d hd => ?_⟩, ?_⟩
  · by_cases hdc : d = c
    · subst hdc
      rw [hp, Function.update_self]
      exact hx
    · rw [hp, Function.update_of_ne hdc]
      exact h.reading d hd
  · unfold outcome
    rw [hp]
    exact Work.run_foreign b.rasterizer.phase.work_within hc x _

/-- **No move changes what will have been done.** -/
theorem Invariant.move (h : b.Invariant) (m : Move) :
    (b.move m).Invariant ∧ (b.move m).outcome = b.outcome := by
  cases m with
  | rasterizer => exact h.rasterizer
  | arbiter => exact h.arbiter
  | read bystander address length =>
    unfold Bench.move
    dsimp only
    split
    · rename_i a hs
      refine h.foreign (h.sound.wellFormed.submit? hs) bystander.isDrawing_client
        (Arbiter.port_submit? hs) fun r hr => ?_
      obtain rfl := List.mem_singleton.1 hr
      rfl
    · exact ⟨h, rfl⟩
  | collect bystander =>
    unfold Bench.move
    dsimp only
    split
    · rename_i response a ht
      exact h.foreign (h.sound.wellFormed.take? ht) bystander.isDrawing_client
        (Arbiter.port_take? h.sound.wellFormed ht) fun r hr => absurd hr List.not_mem_nil
    · exact ⟨h, rfl⟩

/-- Moves do not change what will have been done. -/
theorem Invariant.moves (h : b.Invariant) (ms : List Move) :
    (b.moves ms).Invariant ∧ (b.moves ms).outcome = b.outcome := by
  induction ms generalizing b with
  | nil => exact ⟨h, rfl⟩
  | cons m ms ih =>
    obtain ⟨hm, hout⟩ := h.move m
    obtain ⟨hms, hout'⟩ := ih hm
    exact ⟨hms, hout'.trans hout⟩

/-- At rest nothing is left to be done. -/
theorem outcome_of_idle (h : b.rasterizer.isBusy = false) :
    b.outcome = ⟨b.accesses, b.memory⟩ := by
  rw [outcome, Rasterizer.phase_of_idle h]
  rfl

/-- Handing a primitive over, taken or not. -/
theorem Invariant.draw (h : b.Invariant) (event : DrawEvent) : (b.draw event).Invariant := by
  unfold Bench.draw Rasterizer.accept?
  cases hb : b.rasterizer.isBusy with
  | true => exact h
  | false =>
    have hserved := h.sound.served
    rw [Rasterizer.phase_of_idle hb] at hserved
    exact ⟨trivial, ⟨h.sound.wellFormed, hserved⟩, h.reading⟩

/-- A rasterizer at rest takes a primitive. -/
theorem draw_of_idle (hidle : b.rasterizer.isBusy = false) (event : DrawEvent) :
    b.draw event = { b with
      rasterizer := { b.rasterizer with phase := .setup event, current := {} }
      accesses := [] } := by
  unfold draw Rasterizer.accept?
  rw [hidle]
  rfl

/-- A primitive that is taken is what will have been done. -/
theorem outcome_draw (h : b.rasterizer.isBusy = false) (event : DrawEvent) :
    (b.draw event).outcome = event.render ⟨[], b.memory⟩ := by
  unfold Bench.draw Rasterizer.accept?
  rw [h]
  rfl

/-- The invariant holds after any calls. -/
theorem Invariant.run (h : b.Invariant) (calls : List Call) : (b.run calls).Invariant := by
  induction calls generalizing b with
  | nil => exact h
  | cons c calls ih =>
    refine ih ?_
    cases c with
    | move m => exact (h.move m).1
    | draw event => exact h.draw event

/-! ## Coming to rest -/

/-- Rounds of one cycle of the arbiter and one of the rasterizer. -/
def rounds (n : Nat) : List Move :=
  (List.replicate n [.arbiter, .rasterizer]).flatten

/-- What the rasterizer has left to do, and what the arbiter has. -/
def rank (b : Bench) : Nat ×ₗ (Nat ×ₗ Nat) :=
  toLex (b.rasterizer.phase.load, b.arbiter.backlog)

/-- A round leaves a rasterizer that is drawing less to do, or the arbiter. -/
theorem Invariant.rank_round (h : b.Invariant) (hbusy : b.rasterizer.isBusy = true) :
    (b.moves [.arbiter, .rasterizer]).rank < b.rank := by
  have hserved := (h.move .arbiter).1
  rw [rank, rank, Prod.Lex.toLex_lt_toLex]
  rcases Rasterizer.tick_load hserved.sound with hless | ⟨⟨hphase, harbiter⟩, hwaits⟩
  · exact .inl hless
  · right
    refine ⟨congrArg Phase.load hphase, ?_⟩
    have hload : 0 < b.rasterizer.phase.load := by
      rw [b.rasterizer.isBusy_eq] at hbusy
      exact of_decide_eq_true hbusy
    obtain ⟨c, -, hafter⟩ := hwaits.requests hload
    have hbefore : (b.arbiter.port c).requests ≠ [] := fun hnil =>
      hafter (Arbiter.requests_tick h.sound.wellFormed hnil b.memory)
    exact (congrArg Arbiter.backlog harbiter).trans_lt
      (Arbiter.backlog_tick h.sound.wellFormed hbefore b.memory)

/-- **The rasterizer comes to rest**, whatever it is drawing, if the other clients submit nothing. -/
theorem Invariant.exists_rest {b : Bench} (h : b.Invariant) :
    ∃ n, (b.moves (rounds n)).rasterizer.isBusy = false := by
  cases hbusy : b.rasterizer.isBusy with
  | false => exact ⟨0, hbusy⟩
  | true =>
    have hless := h.rank_round hbusy
    obtain ⟨n, hn⟩ := (h.moves [.arbiter, .rasterizer]).1.exists_rest
    refine ⟨n + 1, ?_⟩
    rw [rounds, List.replicate_succ, List.flatten_cons, Bench.moves, List.foldl_append]
    exact hn
termination_by b.rank
decreasing_by exact hless

/-! ## Drawing -/

/-- By drawing a primitive the bench comes from one state to another: the primitive was handed over,
something happened, and the rasterizer is at rest again. -/
def Draws (b : Bench) (event : DrawEvent) (b' : Bench) : Prop :=
  ∃ during, b' = (b.draw event).moves during ∧ b'.rasterizer.isBusy = false

/-- Every primitive can be drawn. -/
theorem Invariant.exists_draws (h : b.Invariant) (event : DrawEvent) : ∃ b', b.Draws event b' := by
  obtain ⟨n, hrest⟩ := (h.draw event).exists_rest
  exact ⟨_, rounds n, rfl, hrest⟩

/-- **The rasterizer draws what the program draws.** A primitive is handed to a rasterizer at rest,
after whatever has happened before; then anything happens, in any order. If the rasterizer is at
rest again, the accesses that were made through its ports are those of `DrawEvent.render` on the
memory as it was, one by one, and the memory is the one that `DrawEvent.render` leaves. -/
theorem draw_refines (policy : ArbiterPolicy) (memory : Sdram) (before : List Call)
    (event : DrawEvent) (during : List Move) :
    let b := (start policy memory).run before
    let b' := (b.draw event).moves during
    b.rasterizer.isBusy = false → b'.rasterizer.isBusy = false →
      (⟨b'.accesses, b'.memory⟩ : Trace) = event.render ⟨[], b.memory⟩ := by
  intro b b' hidle hdone
  have hb : b.Invariant := (start_invariant policy memory).run before
  calc (⟨b'.accesses, b'.memory⟩ : Trace)
      = b'.outcome := (outcome_of_idle hdone).symm
    _ = (b.draw event).outcome := ((hb.draw event).moves during).2
    _ = event.render ⟨[], b.memory⟩ := outcome_draw hidle event

/-- One pixel, blended and compared with the depth of the same word, while scanout reads it. -/
theorem draw_refines_pixel :
    let corner (x y : Int16) : Vertex :=
      { word := { x, y, z := 5 }, attributes := { color0 := .ofPacked 0xFF102030 } }
    let mode : RenderMode :=
      { colorWrite := true, depthWrite := true, depthTest := true, depthCompare := .greater
        blend := .add }
    let event : DrawEvent := ⟨.rectangle (corner 0 0) (corner 16 16), { mode }⟩
    let during : List Move :=
      .read .display 0 2 :: .rasterizer :: (List.replicate 30 [.arbiter, .rasterizer]).flatten
    let b := start .roundRobin (.zeroed 4 1)
    let b' := (b.draw event).moves during
    b'.rasterizer.isBusy = false ∧
      (⟨b'.accesses, b'.memory⟩ : Trace) = event.render ⟨[], b.memory⟩ := by
  intro corner mode event during b b'
  have hdone : b'.rasterizer.isBusy = false := by decide +kernel
  exact ⟨hdone, draw_refines .roundRobin (.zeroed 4 1) [] event during rfl hdone⟩

end Bench

end RasterGpu
