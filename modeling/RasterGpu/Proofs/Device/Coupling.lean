import RasterGpu.Proofs.Device.Apart
import RasterGpu.Proofs.Device.Program

/-!
# What the device will leave in memory

A fill and a primitive are never under way at the same time, and apart from fills the engine only
reads, as long as there are no stores through the memory window and no timestamps. So what the two
will have made of the memory when they are done does not depend on how they take turns.

* `EngineView.finish` is what the engine will have made of the memory, and no move of the engine
  changes it (`EngineView.Move.finish_eq`).
* `EngineView.Plain` says that the engine has no stores.
* `Coupled` is the invariant: the memory that the rasterizer and then the engine will leave is the
  same after a cycle of any component.
-/

namespace RasterGpu

/-! ## What the engine will have done -/

/-- Performs the request at a port. -/
def Port.finish (p : Port) (m : Sdram) : Sdram :=
  p.requests.foldl (fun m request => (request.perform m).1) m

/-- Reading leaves the memory as it is. -/
theorem Port.ReadsOnly.finish {p : Port} (h : p.ReadsOnly) (m : Sdram) : p.finish m = m := by
  cases p with
  | free => rfl
  | ready response => rfl
  | pending request => exact request.perform_of_isRead (h request (List.mem_singleton_self _)) m
  | granted request => exact request.perform_of_isRead (h request (List.mem_singleton_self _)) m

namespace FillProgress

/-- Writes what is left of a fill. -/
def apply (progress : FillProgress) (m : Sdram) : Sdram :=
  m.store progress.address (.replicate progress.remaining progress.value)

/-- At its beginning all of a fill is left. -/
theorem apply_ofFill (fill : Fill) (m : Sdram) : (ofFill fill).apply m = fill.apply m :=
  m.store_replicate _ _ _

/-- At its end nothing is left. -/
theorem apply_of_remaining {progress : FillProgress} (h : progress.remaining = 0) (m : Sdram) :
    progress.apply m = m := by
  rw [apply, h]
  rfl

/-- The next burst and what is left after it are what is left. -/
theorem apply_next (progress : FillProgress) (m : Sdram) :
    progress.next.apply (progress.request.perform m).1 = progress.apply m := by
  have hlength : progress.burst + (progress.remaining - progress.burst) = progress.remaining :=
    Nat.add_sub_of_le (Nat.min_le_left _ _)
  have hwords : List.replicate progress.remaining progress.value
      = .replicate progress.burst progress.value
        ++ .replicate (progress.remaining - progress.burst) progress.value := by
    rw [List.replicate_append_replicate, hlength]
  rw [apply, apply, hwords, Sdram.store_append, List.length_replicate]
  exact Sdram.store_mod _ _ _

end FillProgress

namespace EngineView

variable {v v' : EngineView}

/-- The memory when the engine has done everything it has been given. -/
def finish (v : EngineView) (m : Sdram) : Sdram :=
  v.queue.foldl MemoryCommand.apply (v.fill.elim (v.port.finish m) (·.apply (v.port.finish m)))

/-- The engine has no stores: it reads and fills. -/
structure Plain (v : EngineView) : Prop where
  /-- No store waits. -/
  queue : ∀ c ∈ v.queue, c.isStore = false
  /-- Its request is part of a fill, or reads. -/
  port : v.fill = none → v.port.ReadsOnly

/-- Only the request at the port counts. -/
theorem finish_port {q : Port} (h : q.requests = v.port.requests) (m : Sdram) :
    { v with port := q }.finish m = v.finish m := by
  simp only [finish, Port.finish, h]

/-- A request that is performed is no longer left to be done. -/
theorem finish_perform {request : Request} (h : v.port = .granted request) (response : Response)
    (m : Sdram) :
    { v with port := .ready response }.finish (request.perform m).1 = v.finish m := by
  simp only [finish, Port.finish, h, Port.requests, List.foldl_cons, List.foldl_nil]

/-- A command that makes one request is that request. -/
theorem perform_request? {command : MemoryCommand} {request : Request}
    (h : command.request? = some request) (m : Sdram) :
    (request.perform m).1 = command.apply m := by
  cases command with
  | store dword value => exact Option.some.inj h ▸ rfl
  | readAhead dword => exact Option.some.inj h ▸ rfl
  | timestamp address cycles => exact Option.some.inj h ▸ rfl
  | fill f => cases h

/-- No move changes what the engine will have done. -/
theorem Move.finish_eq (h : v.Move v') (m : Sdram) : v'.finish m = v.finish m := by
  cases h with
  | collect => rfl
  | finish hr =>
    simp only [EngineView.finish, Option.elim_none, Option.elim_some,
      FillProgress.apply_of_remaining hr]
  | @burst queue progress hr =>
    exact congrArg (queue.foldl MemoryCommand.apply) (progress.apply_next m)
  | @issue command queue request hr =>
    exact congrArg (queue.foldl MemoryCommand.apply) (perform_request? hr m)
  | @fill f queue hr =>
    exact congrArg (queue.foldl MemoryCommand.apply) (FillProgress.apply_ofFill f m)
  | @skip f queue hr =>
    refine congrArg (queue.foldl MemoryCommand.apply) ?_
    change m = f.apply m
    rw [Fill.apply, hr]
    rfl

/-- An engine without stores has none after a move. -/
theorem Move.plain (h : v.Move v') (hp : v.Plain) : v'.Plain := by
  have hfree : Port.free.ReadsOnly := fun _ hr => absurd hr List.not_mem_nil
  cases h with
  | collect => exact ⟨hp.queue, fun _ => hfree⟩
  | finish hr => exact ⟨hp.queue, fun _ => hfree⟩
  | burst hr => exact ⟨hp.queue, fun hf => by cases hf⟩
  | @issue command queue request hr =>
    refine ⟨fun c hc => hp.queue c (List.mem_cons_of_mem _ hc), fun _ r hmem => ?_⟩
    obtain rfl := List.mem_singleton.1 hmem
    have hstore := hp.queue command List.mem_cons_self
    rw [MemoryCommand.isStore_of_request? hr, Bool.not_eq_false'] at hstore
    exact hstore
  | fill hr => exact ⟨fun c hc => hp.queue c (List.mem_cons_of_mem _ hc), fun hf => by cases hf⟩
  | skip hr => exact ⟨fun c hc => hp.queue c (List.mem_cons_of_mem _ hc), fun _ => hfree⟩

/-- No chain of moves changes what the engine will have done. -/
theorem Moves.finish_eq (h : v.Moves v') (m : Sdram) : v'.finish m = v.finish m := by
  induction h with
  | refl => rfl
  | tail _ hm ih => rw [hm.finish_eq, ih]

/-- An engine without stores has none after any moves. -/
theorem Moves.plain (h : v.Moves v') (hp : v.Plain) : v'.Plain := by
  induction h with
  | refl => exact hp
  | tail _ hm ih => exact hm.plain ih

/-- An engine without stores and fills leaves the memory as it is. -/
theorem Plain.finish_eq (h : v.Plain) (hf : v.isFilling = false) (m : Sdram) : v.finish m = m := by
  unfold EngineView.isFilling at hf
  rw [Bool.or_eq_false_iff, Option.isSome_eq_false_iff, Option.isNone_iff_eq_none] at hf
  obtain ⟨hnone, hany⟩ := hf
  have hqueue : ∀ c ∈ v.queue, c.apply m = m := by
    intro c hc
    have hstore := h.queue c hc
    have hfill := List.any_eq_false.1 hany c hc
    cases c with
    | readAhead dword => rfl
    | fill f => exact absurd rfl hfill
    | store dword value => cases hstore
    | timestamp address cycles => cases hstore
  rw [finish, hnone, Option.elim_none, (h.port hnone).finish]
  generalize v.queue = queue at hqueue
  induction queue with
  | nil => rfl
  | cons c queue ih =>
    rw [List.foldl_cons, hqueue c List.mem_cons_self]
    exact ih fun d hd => hqueue d (List.mem_cons_of_mem _ hd)

end EngineView

/-! ## The invariant -/

/-- The rasterizer and the memory engine will leave `target` in memory, and do not meet on the way
there. -/
structure Coupled (r : Rasterizer) (e : MemoryEngine) (a : Arbiter) (m target : Sdram) : Prop
    extends Apart r e a where
  /-- The engine reads and fills. -/
  plain : (e.view a).Plain
  /-- What is left to be drawn and then to be filled gives the target. -/
  outcome : ∃ accesses,
    (e.view a).finish (r.phase.work.run a.port ⟨accesses, m⟩).memory = target

namespace Coupled

variable {r : Rasterizer} {e : MemoryEngine} {a a' : Arbiter} {m target : Sdram}

/-- While a primitive is drawn the engine reads. -/
theorem readsOnly (h : Coupled r e a m target) (hb : r.isBusy = true) :
    (a.port .engine).ReadsOnly := by
  have hf := h.exclusive hb
  rw [← e.isFilling_view a, EngineView.isFilling, Bool.or_eq_false_iff, Option.isSome_eq_false_iff,
    Option.isNone_iff_eq_none] at hf
  exact h.plain.port hf.1

/-- A cycle of the arbiter. -/
theorem arbiter (h : Coupled r e a m target) :
    Coupled r e (a.tick m).1 (a.tick m).2 target := by
  have hs := Arbiter.tick_portStep h.sound.wellFormed m
  obtain ⟨accesses, hout⟩ := h.outcome
  refine ⟨h.toApart.arbiter m, ⟨h.plain.queue, fun hf => (h.plain.port hf).step hs⟩, ?_⟩
  have hview : e.view (a.tick m).1 = { e.view a with port := (a.tick m).1.port .engine } := rfl
  rw [hview]
  generalize (a.tick m).1.port = p', (a.tick m).2 = m', a.performed? = performed at hs ⊢
  cases hs with
  | wait => exact ⟨accesses, hout⟩
  | @grant c request hp =>
    refine ⟨accesses, ?_⟩
    rw [Work.run_grant hp, EngineView.finish_port (Arbiter.requests_grant hp), hout]
  | @perform c request hp =>
    have hmem : request ∈ (a.port c).requests := by
      rw [hp]
      exact List.mem_singleton_self _
    cases c with
    | display =>
      refine ⟨accesses, ?_⟩
      rw [Work.run_foreign r.phase.work_within rfl, request.perform_of_isRead (h.scanout _ hmem)]
      exact hout
    | color =>
      refine ⟨accesses ++ [⟨.color, request⟩], ?_⟩
      rw [← hout, ← Work.run_perform h.sound.served rfl hp ⟨accesses, m⟩]
      rfl
    | depth =>
      refine ⟨accesses ++ [⟨.depth, request⟩], ?_⟩
      rw [← hout, ← Work.run_perform h.sound.served rfl hp ⟨accesses, m⟩]
      rfl
    | engine =>
      refine ⟨accesses, ?_⟩
      rw [Work.run_foreign r.phase.work_within rfl, Function.update_self, ← hout,
        ← EngineView.finish_perform (v := e.view a) hp (request.perform m).2]
      cases hb : r.isBusy with
      | false =>
        rw [Rasterizer.work_of_idle hb]
        rfl
      | true =>
        have hr := h.readsOnly hb request hmem
        rw [request.perform_of_isRead hr, request.perform_of_isRead hr]

/-- Something that scanout does. -/
theorem scans (h : Coupled r e a m target) (hs : a.Scans a') : Coupled r e a' m target := by
  have hview : e.view a' = e.view a := by
    rw [MemoryEngine.view, MemoryEngine.view, hs.changes.others .engine (by decide)]
  obtain ⟨accesses, hout⟩ := h.outcome
  refine ⟨h.toApart.scans hs, by rw [hview]; exact h.plain, accesses, ?_⟩
  rw [hview, Work.run_congr fun c hc => hs.drawing c (r.phase.work_within c hc)]
  exact hout

/-- A cycle of the rasterizer. -/
theorem rasterizer (h : Coupled r e a m target) :
    Coupled (r.tick a).1 e (r.tick a).2 m target := by
  obtain ⟨-, hwork⟩ := Rasterizer.tick_keeps h.valid h.sound
  have hview : e.view (r.tick a).2 = e.view a := by
    rw [MemoryEngine.view, MemoryEngine.view, hwork.foreign .engine rfl]
  obtain ⟨accesses, hout⟩ := h.outcome
  refine ⟨h.toApart.rasterizer, by rw [hview]; exact h.plain, accesses, ?_⟩
  rw [hview, hwork.run]
  exact hout

/-- A cycle of the memory engine. -/
theorem engine (h : Coupled r e a m target) :
    Coupled r (e.tick a).1 (e.tick a).2 m target := by
  obtain ⟨hm, hc⟩ := e.tick_moves h.sound.wellFormed
  obtain ⟨accesses, hout⟩ := h.outcome
  refine ⟨h.toApart.engine, hm.plain h.plain, accesses, ?_⟩
  rw [hm.finish_eq, Work.run_congr fun c hc' =>
    hc.others c (Client.ne_engine_of_isDrawing (r.phase.work_within c hc'))]
  exact hout

/-- A cycle of all components. -/
theorem settled {g : Gpu} (h : Coupled g.rasterizer g.engine g.arbiter g.memory target) :
    Coupled g.settled.rasterizer g.settled.engine g.settled.arbiter g.settled.memory target := by
  have hserved : Coupled g.rasterizer g.engine g.served.1 g.served.2 target := h.arbiter
  have hscanned : Coupled g.rasterizer g.engine g.scanned.2.1 g.served.2 target :=
    hserved.scans (g.display.tick_scans hserved.sound.wellFormed g.registers.display)
  have hfetched : Coupled g.drawn.1 g.fetched.1 g.fetched.2 g.served.2 target :=
    hscanned.rasterizer.engine
  exact ⟨h.toApart.settled, hfetched.plain, hfetched.outcome⟩

/-- A primitive that is taken is drawn over all that was to be done before. -/
theorem draw (h : Coupled r e a m target) (hr : r.isBusy = false) (hf : e.isFilling = false)
    (event : DrawEvent) :
    Coupled { r with phase := .setup event, current := {} } e a m (event.apply target) := by
  have hquiet (m : Sdram) : (e.view a).finish m = m :=
    h.plain.finish_eq (by rw [e.isFilling_view]; exact hf) m
  obtain ⟨accesses, hout⟩ := h.outcome
  rw [Rasterizer.work_of_idle hr, hquiet] at hout
  refine ⟨h.toApart.draw hr hf event, h.plain, [], ?_⟩
  rw [hquiet, ← hout]
  rfl

/-- Commands that the engine is given are carried out after all that was to be done before. -/
theorem push (h : Coupled r e a m target) (hr : r.isBusy = false) {commands : List MemoryCommand}
    (hc : ∀ c ∈ commands, c.isStore = false) :
    Coupled r { e with queue := e.queue.pushMany commands } a m
      (commands.foldl MemoryCommand.apply target) := by
  have hqueue : (e.queue.pushMany commands).toList = e.queue.toList ++ commands :=
    Queue.toList_pushMany _ _
  obtain ⟨accesses, hout⟩ := h.outcome
  refine ⟨h.toApart.push hr _, ⟨fun c hmem => ?_, h.plain.port⟩, accesses, ?_⟩
  · have hmem' : c ∈ e.queue.toList ++ commands := by rw [← hqueue]; exact hmem
    rcases List.mem_append.1 hmem' with hmem | hmem
    · exact h.plain.queue c hmem
    · exact hc c hmem
  · rw [← hout]
    simp only [MemoryEngine.view, EngineView.finish, hqueue, List.foldl_append]

end Coupled

end RasterGpu
