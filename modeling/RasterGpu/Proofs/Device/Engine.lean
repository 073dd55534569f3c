import Mathlib.Logic.Relation
import RasterGpu.Memory.Engine
import RasterGpu.Proofs.Arbiter.Work

/-!
# Cycles of the memory engine

What the memory engine still has to write is told by three things: the commands in its queue, the
fill that is under way, and how far its request has come at the arbiter. `EngineView` has these
three. `EngineView.Move` lists the moves that the engine makes; a cycle is a chain of them
(`MemoryEngine.tick_moves`), which changes nothing at other ports.
-/

namespace RasterGpu

namespace Arbiter

/-- A client has done something at its own port. -/
structure ChangesOnly (c : Client) (a a' : Arbiter) : Prop where
  /-- The arbiter is well-formed. -/
  wellFormed : a'.WellFormed
  /-- Other ports are as they were. -/
  others : ∀ d, d ≠ c → a'.port d = a.port d

variable {a a' b : Arbiter} {c : Client}

/-- Nothing was done. -/
theorem ChangesOnly.refl (h : a.WellFormed) (c : Client) : ChangesOnly c a a :=
  ⟨h, fun _ _ => rfl⟩

/-- Two things were done. -/
theorem ChangesOnly.trans (h : ChangesOnly c a b) (h' : ChangesOnly c b a') : ChangesOnly c a a' :=
  ⟨h'.wellFormed, fun d hd => (h'.others d hd).trans (h.others d hd)⟩

/-- A request was submitted. -/
theorem ChangesOnly.submit? (h : a.WellFormed) {request : Request}
    (hs : a.submit? c request = some a') : ChangesOnly c a a' :=
  ⟨h.submit? hs, fun d hd => by rw [port_submit? hs, Function.update_of_ne hd]⟩

/-- A response was collected. -/
theorem ChangesOnly.take? (h : a.WellFormed) {response : Response}
    (ht : a.take? c = some (response, a')) : ChangesOnly c a a' :=
  ⟨h.take? ht, fun d hd => by rw [port_take? h ht, Function.update_of_ne hd]⟩

end Arbiter

/-! ## Requests of the engine -/

/-- Whether a command writes a value from the register file. -/
def MemoryCommand.isStore : MemoryCommand → Bool
  | store _ _ | timestamp _ _ => true
  | readAhead _ | fill _ => false

/-- The request that a command makes; a fill makes several. -/
def MemoryCommand.request? : MemoryCommand → Option Request
  | store dword value => some (.write (4 * dword) (dwordWords value))
  | readAhead dword => some (.read (4 * dword) 4)
  | timestamp address cycles => some (.write (2 * address) (timestampWords cycles))
  | fill _ => none

/-- The request of a store writes, and that of another command reads. -/
theorem MemoryCommand.isStore_of_request? {c : MemoryCommand} {request : Request}
    (h : c.request? = some request) : c.isStore = !request.isRead := by
  cases c with
  | store dword value => exact Option.some.inj h ▸ rfl
  | readAhead dword => exact Option.some.inj h ▸ rfl
  | timestamp address cycles => exact Option.some.inj h ▸ rfl
  | fill f => cases h

namespace FillProgress

/-- The progress of a fill that is about to begin. -/
def ofFill (fill : Fill) : FillProgress :=
  ⟨surfaceStart fill.base, fill.count, fill.value⟩

/-- Words of the next burst. -/
def burst (progress : FillProgress) : Nat :=
  min progress.remaining fillBurstWords

/-- The next burst. -/
def request (progress : FillProgress) : Request :=
  .write progress.address (.replicate progress.burst progress.value)

/-- What is left after the next burst. -/
def next (progress : FillProgress) : FillProgress :=
  { progress with
    address := (progress.address + progress.burst) % addressSpace
    remaining := progress.remaining - progress.burst }

end FillProgress

/-! ## Moves -/

/-- What the memory engine still has to do. -/
structure EngineView where
  /-- Commands not started, oldest first. -/
  queue : List MemoryCommand
  /-- The fill being written. -/
  fill : Option FillProgress
  /-- How far the request has come. -/
  port : Port

/-- What the memory engine does in a cycle. -/
inductive EngineView.Move : EngineView → EngineView → Prop where
  /-- It collects a response. -/
  | collect {queue : List MemoryCommand} {fill : Option FillProgress} {response : Response} :
    Move ⟨queue, fill, .ready response⟩ ⟨queue, fill, .free⟩
  /-- It ends a fill. -/
  | finish {queue : List MemoryCommand} {progress : FillProgress} (h : progress.remaining = 0) :
    Move ⟨queue, some progress, .free⟩ ⟨queue, none, .free⟩
  /-- It asks for the next burst of a fill. -/
  | burst {queue : List MemoryCommand} {progress : FillProgress} (h : progress.remaining ≠ 0) :
    Move ⟨queue, some progress, .free⟩ ⟨queue, some progress.next, .pending progress.request⟩
  /-- It starts a command that makes one request. -/
  | issue {command : MemoryCommand} {queue : List MemoryCommand} {request : Request}
    (h : command.request? = some request) :
    Move ⟨command :: queue, none, .free⟩ ⟨queue, none, .pending request⟩
  /-- It starts a fill. -/
  | fill {fill : Fill} {queue : List MemoryCommand} (h : fill.count ≠ 0) :
    Move ⟨.fill fill :: queue, none, .free⟩ ⟨queue, some (.ofFill fill), .free⟩
  /-- It passes over a fill of no words. -/
  | skip {fill : Fill} {queue : List MemoryCommand} (h : fill.count = 0) :
    Move ⟨.fill fill :: queue, none, .free⟩ ⟨queue, none, .free⟩

/-- A chain of moves. -/
abbrev EngineView.Moves : EngineView → EngineView → Prop :=
  Relation.ReflTransGen EngineView.Move

namespace MemoryEngine

variable {e : MemoryEngine} {a a' : Arbiter}

/-- What the engine still has to do. -/
def view (e : MemoryEngine) (a : Arbiter) : EngineView :=
  ⟨e.queue.toList, e.fill, a.port .engine⟩

/-- A request goes to the port if that is free. -/
theorem issue_view (hw : a.WellFormed) (hfree : a.port .engine = .free) (kind : EngineRequest)
    (request : Request) :
    (e.issue a kind request).1.view (e.issue a kind request).2
        = ⟨e.queue.toList, e.fill, .pending request⟩
      ∧ Arbiter.ChangesOnly .engine a (e.issue a kind request).2 := by
  have hs : (a.submit? .engine request).isSome = true := by
    rw [a.isSome_submit?, a.isFree_iff]
    exact hfree
  obtain ⟨a', ha⟩ := Option.isSome_iff_exists.1 hs
  have hp : a'.port .engine = .pending request := by
    rw [Arbiter.port_submit? ha, Function.update_self]
  unfold issue
  cases kind <;>
  · simp only [ha, view, hp]
    exact ⟨trivial, .submit? hw ha⟩

/-- A command that makes one request is started on a free port. -/
theorem issue_moves (hw : a.WellFormed) (hfree : a.port .engine = .free) (hfill : e.fill = none)
    (kind : EngineRequest) (command : MemoryCommand) {request : Request}
    (hr : command.request? = some request) :
    EngineView.Moves ⟨command :: e.queue.toList, none, .free⟩
        ((e.issue a kind request).1.view (e.issue a kind request).2)
      ∧ Arbiter.ChangesOnly .engine a (e.issue a kind request).2 := by
  obtain ⟨hv, hc⟩ := issue_view (e := e) hw hfree kind request
  refine ⟨?_, hc⟩
  rw [hv, hfill]
  exact .single (.issue hr)

/-- With no fill under way the engine starts its oldest command. -/
theorem start_moves (hw : a.WellFormed) (hfree : a.port .engine = .free) (hfill : e.fill = none) :
    (e.view a).Moves ((e.start a).1.view (e.start a).2)
      ∧ Arbiter.ChangesOnly .engine a (e.start a).2 := by
  unfold start
  split
  · exact ⟨.refl, .refl hw _⟩
  · rename_i command queue hq
    have hview : e.view a = ⟨command :: queue.toList, none, .free⟩ := by
      rw [view, Queue.pop?_eq_some hq, hfill, hfree]
    rw [hview]
    dsimp only
    split
    · rename_i dword value
      exact issue_moves (e := { e with queue }) hw hfree hfill .store (.store dword value) rfl
    · rename_i dword
      exact issue_moves (e := { e with queue }) hw hfree hfill .readAhead (.readAhead dword) rfl
    · rename_i address cycles
      exact issue_moves (e := { e with queue }) hw hfree hfill .store (.timestamp address cycles)
        rfl
    · rename_i fill
      split
      · rename_i hcount
        refine ⟨?_, .refl hw _⟩
        rw [view, hfill, hfree]
        exact .single (.skip hcount)
      · rename_i hcount
        refine ⟨?_, .refl hw _⟩
        rw [view, hfree]
        exact .single (.fill hcount)

/-- On a free port the engine goes on, on another it waits. -/
theorem advance_moves (hw : a.WellFormed) :
    (e.view a).Moves ((e.advance a).1.view (e.advance a).2)
      ∧ Arbiter.ChangesOnly .engine a (e.advance a).2 := by
  unfold advance
  split
  · rename_i hfree
    rw [a.isFree_iff] at hfree
    split
    · rename_i hfill
      exact start_moves hw hfree hfill
    · rename_i progress hfill
      split
      · rename_i hr
        -- the fill ends, and the next command starts in the same cycle
        obtain ⟨hm, hc⟩ := start_moves (e := { e with
          fill := none, stats.fillsCompleted := e.stats.fillsCompleted + 1 }) hw hfree rfl
        refine ⟨.head ?_ hm, hc⟩
        rw [view, view, hfill, hfree]
        exact .finish hr
      · rename_i hr
        obtain ⟨hv, hc⟩ := issue_view (e := { e with fill := some progress.next }) hw hfree .store
          progress.request
        refine ⟨.single ?_, hc⟩
        have hm : EngineView.Move (e.view a)
            ⟨e.queue.toList, some progress.next, .pending progress.request⟩ := by
          rw [view, hfill, hfree]
          exact .burst hr
        exact hv ▸ hm
  · exact ⟨.refl, .refl hw _⟩

/-- The response that was waited for is collected. -/
theorem collect_move (hw : a.WellFormed) {response : Response}
    (ht : a.take? .engine = some (response, a')) (kind : EngineRequest) :
    (e.view a).Move ((e.collect kind response).view a') := by
  have hp : a.port .engine = .ready response := (Arbiter.take?_eq_some ht).1
  have hp' : a'.port .engine = .free := by
    rw [Arbiter.port_take? hw ht, Function.update_self]
  cases kind <;>
  · simp only [view, collect, hp, hp']
    exact .collect

/-- **A cycle of the memory engine is a chain of its moves**, and changes its own port only. -/
theorem tick_moves (hw : a.WellFormed) :
    (e.view a).Moves ((e.tick a).1.view (e.tick a).2)
      ∧ Arbiter.ChangesOnly .engine a (e.tick a).2 := by
  unfold tick
  split
  · exact advance_moves hw
  · rename_i kind hk
    split
    · exact ⟨.refl, .refl hw _⟩
    · rename_i response a' ht
      have htake := Arbiter.ChangesOnly.take? hw ht
      obtain ⟨hm, hc⟩ := advance_moves (e := e.collect kind response) htake.wellFormed
      exact ⟨.head (collect_move hw ht kind) hm, htake.trans hc⟩

end MemoryEngine

end RasterGpu
