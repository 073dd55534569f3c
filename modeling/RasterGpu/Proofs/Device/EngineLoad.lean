import RasterGpu.Proofs.Device.Quiescence
import RasterGpu.Proofs.Drawing.Load

/-!
# The memory engine gets on

What the memory engine has to do is bounded: the commands in its queue, the words that are left of a
fill, the request at its port. `EngineView.load` counts all of it, and each move makes it less
(`EngineView.Move.load_lt`). A cycle of the engine makes at least one move, but for two cases: the
engine has nothing to do, or it waits for the memory (`MemoryEngine.tick_getsOn`). A cycle of the
arbiter does not change the count.
-/

namespace RasterGpu

/-! ## Counting -/

/-- Moves that a command needs at most. -/
def MemoryCommand.load : MemoryCommand → Nat
  | fill f => 2 * f.count + 2
  | _ => 2

/-- A response has to be collected. -/
def Port.load : Port → Nat
  | free => 0
  | _ => 1

namespace EngineView

variable {v v' : EngineView}

/-- Moves that the engine needs at most. -/
def load (v : EngineView) : Nat :=
  (v.queue.map MemoryCommand.load).sum + v.fill.elim 0 (2 * ·.remaining + 1) + v.port.load

/-- A move brings the engine on. -/
theorem Move.load_lt (h : v.Move v') : v'.load < v.load := by
  cases h with
  | collect => simp [EngineView.load, Port.load]
  | finish hr => simp [EngineView.load, Port.load]
  | @burst queue progress hr =>
    have hburst : 0 < progress.burst := Nat.lt_min.2 ⟨Nat.pos_of_ne_zero hr, by decide⟩
    have hle : progress.burst ≤ progress.remaining := Nat.min_le_left _ _
    simp [EngineView.load, Port.load, FillProgress.next]
    omega
  | @issue command queue request hr =>
    have hload : command.load = 2 := by
      cases command with
      | fill f => cases hr
      | _ => rfl
    simp [EngineView.load, Port.load, hload]
    omega
  | fill hcount =>
    simp [EngineView.load, Port.load, MemoryCommand.load, FillProgress.ofFill]
    omega
  | skip hcount => simp [EngineView.load, Port.load, MemoryCommand.load]

/-- A chain of moves brings the engine on, unless it is empty. -/
theorem Moves.load_lt (h : v.Moves v') : v' = v ∨ v'.load < v.load := by
  induction h with
  | refl => exact .inl rfl
  | tail _ hm ih =>
    right
    rcases ih with rfl | hlt
    · exact hm.load_lt
    · exact hm.load_lt.trans hlt

/-- No move makes more to do. -/
theorem Moves.load_le (h : v.Moves v') : v'.load ≤ v.load := by
  rcases h.load_lt with rfl | hlt
  · exact Nat.le_refl _
  · exact Nat.le_of_lt hlt

end EngineView

namespace MemoryEngine

variable {e : MemoryEngine} {a : Arbiter}

/-- An engine for which nothing is left to do is idle. -/
theorem isIdle_of_load (h : e.Attends (a.port .engine)) (hload : (e.view a).load = 0) :
    e.isIdle = true := by
  simp only [EngineView.load, view, Nat.add_eq_zero_iff] at hload
  obtain ⟨⟨hqueue, hfill⟩, hport⟩ := hload
  refine isIdle_iff.2 ⟨?_, h.2 ?_, ?_⟩
  · cases hq : e.queue.toList with
    | nil => rfl
    | cons command commands =>
      rw [hq, List.map_cons, List.sum_cons] at hqueue
      cases command <;> simp [MemoryCommand.load] at hqueue
  · cases hp : a.port .engine with
    | free => rfl
    | _ =>
      rw [hp] at hport
      cases hport
  · cases hf : e.fill with
    | none => rfl
    | some progress =>
      rw [hf] at hfill
      cases hfill

/-- A cycle of the arbiter does not bring the engine on. -/
theorem load_arbiter (hw : a.WellFormed) (m : Sdram) :
    (e.view (a.tick m).1).load = (e.view a).load := by
  have hport : ((a.tick m).1.port .engine).load = (a.port .engine).load := by
    rcases (Arbiter.tick_portStep hw m).port_cases .engine with
      heq | ⟨request, hp, hp'⟩ | ⟨request, hp, hp'⟩
    · rw [heq]
    · rw [hp, hp']
      rfl
    · rw [hp, hp']
      rfl
  simp only [EngineView.load, view, hport]

/-! ## The turn of a client -/

/-- Asking for the memory leaves it the same client's turn. -/
theorem issue_sameTurn (e : MemoryEngine) (a : Arbiter) (kind : EngineRequest)
    (request : Request) : a.SameTurn (e.issue a kind request).2 := by
  unfold issue
  dsimp only
  split
  · exact .submit? ‹_›
  · exact .refl a

/-- Starting a command leaves it the same client's turn. -/
theorem start_sameTurn (e : MemoryEngine) (a : Arbiter) : a.SameTurn (e.start a).2 := by
  unfold start
  split
  · exact .refl a
  · dsimp only
    split
    · exact issue_sameTurn _ _ _ _
    · exact issue_sameTurn _ _ _ _
    · exact issue_sameTurn _ _ _ _
    · split
      · exact .refl a
      · exact .refl a

/-- Going on leaves it the same client's turn. -/
theorem advance_sameTurn (e : MemoryEngine) (a : Arbiter) : a.SameTurn (e.advance a).2 := by
  unfold advance
  split
  · split
    · exact start_sameTurn _ _
    · split
      · exact start_sameTurn _ _
      · exact issue_sameTurn _ _ _ _
  · exact .refl a

/-- A cycle of the engine leaves it the same client's turn. -/
theorem tick_sameTurn (e : MemoryEngine) (a : Arbiter) : a.SameTurn (e.tick a).2 := by
  unfold tick
  split
  · exact advance_sameTurn e a
  · split
    · exact .refl a
    · rename_i ht
      exact (Arbiter.SameTurn.take? ht).trans (advance_sameTurn _ _)

/-! ## Cycles -/

/-- The engine starts its oldest command, if it has one. -/
theorem start_load (hw : a.WellFormed) (hfree : a.port .engine = .free) (hfill : e.fill = none)
    (ho : e.outstanding = none) (hq : e.queue.toList ≠ []) :
    ((e.start a).1.view (e.start a).2).load < (e.view a).load := by
  rcases (start_moves hw hfree hfill).1.load_lt with heq | hlt
  · exfalso
    cases hp : e.queue.pop? with
    | none => exact hq ((Queue.pop?_eq_none_iff _).1 hp)
    | some pair =>
      obtain ⟨command, queue⟩ := pair
      have hqueue := congrArg EngineView.queue heq
      change (e.start a).1.queue.toList = e.queue.toList at hqueue
      rw [(start_starts hfree ho hp).queue, Queue.pop?_eq_some hp] at hqueue
      exact List.cons_ne_self _ _ hqueue.symm
  · exact hlt

/-- On a free port the engine goes on, if there is anything to do. -/
theorem advance_load (hw : a.WellFormed) (hfree : a.port .engine = .free)
    (ho : e.outstanding = none) (hpos : 0 < (e.view a).load) :
    ((e.advance a).1.view (e.advance a).2).load < (e.view a).load := by
  rw [advance, if_pos ((a.isFree_iff _).2 hfree)]
  split
  · rename_i hfill
    refine start_load hw hfree hfill ho fun hq => ?_
    simp [view, EngineView.load, hq, hfill, hfree, Port.load] at hpos
  · rename_i progress hfill
    split
    · rename_i hr
      have hfinish : EngineView.Move (e.view a)
          (view { e with fill := none, stats.fillsCompleted := e.stats.fillsCompleted + 1 } a) := by
        rw [view, view, hfill, hfree]
        exact .finish hr
      exact Nat.lt_of_le_of_lt (start_moves hw hfree rfl).1.load_le hfinish.load_lt
    · rename_i hr
      have hburst : EngineView.Move (e.view a)
          ⟨e.queue.toList, some progress.next, .pending progress.request⟩ := by
        rw [view, hfill, hfree]
        exact .burst hr
      have hissue := (issue_view (e := { e with fill := some progress.next }) hw hfree .store
        progress.request).1
      exact (congrArg EngineView.load hissue).trans_lt hburst.load_lt

/-- **A cycle of the engine leaves less to be done**, unless there is nothing to do or its request
has not been served. -/
theorem tick_getsOn (h : e.Attends (a.port .engine)) (hw : a.WellFormed) :
    ((e.tick a).1.view (e.tick a).2).load < (e.view a).load
      ∨ ((e.tick a).1.view (e.tick a).2).load = (e.view a).load
        ∧ (0 < (e.view a).load → (a.port .engine).requests ≠ [])
        ∧ (a.port .engine).responses = [] := by
  have hstuck (kind : EngineRequest) (ho : e.outstanding = some kind)
      (hnone : (a.port .engine).responses = []) : e.tick a = (e, a) := by
    unfold tick
    rw [ho]
    dsimp only
    split
    · rfl
    · rename_i ht
      rw [(Arbiter.take?_eq_some ht).1] at hnone
      cases hnone
  have hbusy (hp : a.port .engine ≠ .free) : ∃ kind, e.outstanding = some kind :=
    Option.ne_none_iff_exists'.1 fun ho => hp (h.1 ho)
  cases hp : a.port .engine with
  | free =>
    have ho := h.2 hp
    by_cases hpos : 0 < (e.view a).load
    · left
      rw [show e.tick a = e.advance a by rw [tick, ho]]
      exact advance_load hw hp ho hpos
    · have hidle : e.isIdle = true := isIdle_of_load h (Nat.eq_zero_of_not_pos hpos)
      right
      rw [tick_of_idle hidle]
      exact ⟨rfl, fun hpos' => absurd hpos' hpos, rfl⟩
  | pending request =>
    obtain ⟨kind, ho⟩ := hbusy (by rw [hp]; simp)
    rw [hstuck kind ho (by rw [hp]; rfl)]
    exact .inr ⟨rfl, fun _ => List.cons_ne_nil _ _, rfl⟩
  | granted request =>
    obtain ⟨kind, ho⟩ := hbusy (by rw [hp]; simp)
    rw [hstuck kind ho (by rw [hp]; rfl)]
    exact .inr ⟨rfl, fun _ => List.cons_ne_nil _ _, rfl⟩
  | ready response =>
    obtain ⟨kind, ho⟩ := hbusy (by rw [hp]; simp)
    left
    cases ht : a.take? .engine with
    | none =>
      have hnone := Arbiter.responses_of_take? ht
      rw [hp] at hnone
      cases hnone
    | some pair =>
      obtain ⟨response', a'⟩ := pair
      have htick : e.tick a = (e.collect kind response').advance a' := by rw [tick, ho, ht]
      rw [htick]
      exact Nat.lt_of_le_of_lt (advance_moves (hw.take? ht)).1.load_le
        (collect_move hw ht kind).load_lt

end MemoryEngine

end RasterGpu
