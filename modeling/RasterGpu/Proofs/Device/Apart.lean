import RasterGpu.Proofs.Device.Cycle
import RasterGpu.Proofs.Drawing.Refinement

/-!
# Drawing and filling do not meet

The rasterizer and the memory engine share one memory, and each may be interrupted by the other
between any two accesses. What keeps them apart is that a fill and a primitive are never under way
at the same time: the command stage does not start the one before the other has ended. `Apart` is
the invariant that says so, together with what is known of the ports of the rasterizer and of
scanout. Every component keeps it in its cycle, and so does the command stage.
-/

namespace RasterGpu

/-- The engine's slot is not the rasterizer's. -/
theorem Client.ne_engine_of_isDrawing {c : Client} (h : c.isDrawing = true) : c ≠ .engine := by
  rintro rfl
  cases h

/-- Scanout leaves the ports of the rasterizer as they are. -/
theorem Arbiter.Scans.drawing {a a' : Arbiter} (h : a.Scans a') (c : Client)
    (hc : c.isDrawing = true) : a'.port c = a.port c := by
  refine h.changes.others c ?_
  rintro rfl
  cases hc

namespace EngineView

variable {v v' : EngineView}

/-- Whether a fill waits or is being written. -/
def isFilling (v : EngineView) : Bool :=
  v.fill.isSome || v.queue.any MemoryCommand.isFill

/-- A fill comes from the queue. -/
theorem Move.isFilling (h : v.Move v') (hf : v.isFilling = false) : v'.isFilling = false := by
  cases h with
  | collect => exact hf
  | finish hr => cases hf
  | burst hr => cases hf
  | issue hr =>
    simp only [EngineView.isFilling, Option.isSome_none, Bool.false_or, List.any_cons,
      Bool.or_eq_false_iff] at hf ⊢
    exact hf.2
  | fill hr => cases hf
  | skip hr => cases hf

/-- No fill comes up in a chain of moves. -/
theorem Moves.isFilling (h : v.Moves v') (hf : v.isFilling = false) : v'.isFilling = false := by
  induction h with
  | refl => exact hf
  | tail _ hm ih => exact hm.isFilling ih

end EngineView

/-- A fill that waits or is being written shows in the view. -/
theorem MemoryEngine.isFilling_view (e : MemoryEngine) (a : Arbiter) :
    (e.view a).isFilling = e.isFilling := by
  simp [view, EngineView.isFilling, isFilling, Queue.toList, Queue.any]

/-- A rasterizer at rest stays at rest. -/
theorem Rasterizer.tick_of_idle {r : Rasterizer} (h : r.isBusy = false) (a : Arbiter) :
    r.tick a = (r, a) :=
  tick_idle (phase_of_idle h) a

/-- A rasterizer that is busy after a cycle was busy before. -/
theorem Rasterizer.isBusy_of_tick {r : Rasterizer} {a : Arbiter} (h : (r.tick a).1.isBusy = true) :
    r.isBusy = true := by
  by_contra hidle
  rw [Bool.not_eq_true] at hidle
  rw [tick_of_idle hidle, hidle] at h
  cases h

/-- A rasterizer at rest has nothing left to do. -/
theorem Rasterizer.work_of_idle {r : Rasterizer} (h : r.isBusy = false) :
    r.phase.work = .now id := by
  rw [phase_of_idle h]
  rfl

/-! ## The invariant -/

/-- The rasterizer and the memory engine do not meet. -/
structure Apart (r : Rasterizer) (e : MemoryEngine) (a : Arbiter) : Prop where
  /-- The phase of the rasterizer is valid. -/
  valid : r.phase.Valid
  /-- The ports of the rasterizer hold what it waits for. -/
  sound : r.phase.work.Sound Client.isDrawing a
  /-- Scanout reads. -/
  scanout : (a.port .display).ReadsOnly
  /-- The engine does not fill while a primitive is drawn. -/
  exclusive : r.isBusy = true → e.isFilling = false

namespace Apart

variable {r : Rasterizer} {e : MemoryEngine} {a a' : Arbiter}

/-- A cycle of the arbiter. -/
theorem arbiter (h : Apart r e a) (m : Sdram) : Apart r e (a.tick m).1 := by
  have hs := Arbiter.tick_portStep h.sound.wellFormed m
  exact ⟨h.valid, ⟨h.sound.wellFormed.tick m, h.sound.served.step hs⟩, h.scanout.step hs,
    h.exclusive⟩

/-- Something that scanout does. -/
theorem scans (h : Apart r e a) (hs : a.Scans a') : Apart r e a' := by
  refine ⟨h.valid, ⟨hs.changes.wellFormed, fun c hc => ?_⟩, hs.reads h.scanout, h.exclusive⟩
  rw [hs.drawing c hc]
  exact h.sound.served c hc

/-- A cycle of the rasterizer. -/
theorem rasterizer (h : Apart r e a) : Apart (r.tick a).1 e (r.tick a).2 := by
  obtain ⟨hvalid, hwork⟩ := Rasterizer.tick_keeps h.valid h.sound
  refine ⟨hvalid, hwork.sound, ?_, fun hb => h.exclusive ?_⟩
  · rw [hwork.foreign .display rfl]
    exact h.scanout
  · exact Rasterizer.isBusy_of_tick hb

/-- A cycle of the memory engine. -/
theorem engine (h : Apart r e a) : Apart r (e.tick a).1 (e.tick a).2 := by
  obtain ⟨hm, hc⟩ := e.tick_moves h.sound.wellFormed
  refine ⟨h.valid, ⟨hc.wellFormed, fun c hd => ?_⟩, ?_, fun hb => ?_⟩
  · rw [hc.others c (Client.ne_engine_of_isDrawing hd)]
    exact h.sound.served c hd
  · rw [hc.others .display (by decide)]
    exact h.scanout
  · rw [← MemoryEngine.isFilling_view _ (e.tick a).2]
    exact hm.isFilling (by rw [e.isFilling_view]; exact h.exclusive hb)

/-- A cycle of all components. -/
theorem settled {g : Gpu} (h : Apart g.rasterizer g.engine g.arbiter) :
    Apart g.settled.rasterizer g.settled.engine g.settled.arbiter := by
  have hserved : Apart g.rasterizer g.engine g.served.1 := h.arbiter g.memory
  have hscanned : Apart g.rasterizer g.engine g.scanned.2.1 :=
    hserved.scans (g.display.tick_scans hserved.sound.wellFormed g.registers.display)
  have hfetched : Apart g.drawn.1 g.fetched.1 g.fetched.2 := hscanned.rasterizer.engine
  exact ⟨hfetched.valid, hfetched.sound, hfetched.scanout, hfetched.exclusive⟩

/-- A primitive that is taken while no fill waits or is under way. -/
theorem draw (h : Apart r e a) (hr : r.isBusy = false) (hf : e.isFilling = false)
    (event : DrawEvent) : Apart { r with phase := .setup event, current := {} } e a := by
  have hserved := h.sound.served
  rw [Rasterizer.work_of_idle hr] at hserved
  exact ⟨trivial, ⟨h.sound.wellFormed, hserved⟩, h.scanout, fun _ => hf⟩

/-- Commands that the engine is given while no primitive is drawn. -/
theorem push (h : Apart r e a) (hr : r.isBusy = false) (e' : MemoryEngine) : Apart r e' a :=
  ⟨h.valid, h.sound, h.scanout, fun hb => by rw [hr] at hb; cases hb⟩

end Apart

/-- Executing a transaction keeps the rasterizer and the engine apart. -/
theorem Gpu.Executes.apart {g g' : Gpu} {t : Transaction} (hx : g.Executes t g') (ho : g.Open)
    (h : Apart g.rasterizer g.engine g.arbiter) : Apart g'.rasterizer g'.engine g'.arbiter := by
  rw [hx.rasterizer, hx.engine, hx.arbiter]
  cases hd : (g.registers.process t).2.draw with
  | none => exact h.push ho.idle _
  | some event =>
    rw [RegisterFile.commands_of_draw hd]
    exact h.draw ho.idle ho.noFill event

end RasterGpu
