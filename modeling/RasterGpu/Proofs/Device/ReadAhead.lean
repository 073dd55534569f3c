import RasterGpu.Proofs.Device.Coupling

/-!
# Reading ahead

Every access to the memory window asks the engine for a dword, so that several read-aheads can be
under way at once. That the register file ends up with the right one rests on two facts about the
engine. It brings back every read-ahead that it is given, so that counting tells which is the last.
And it works in order, so that the last finds everything done that was asked for before it.

* `MemoryEngine.readAheads` counts the read-aheads that have not been collected.
* `MemoryEngine.Brings` says that the last of them is on its way: in the queue, at the port, or come
  back. With it comes the dword at a given place of the memory that the engine will leave.

A cycle of the engine keeps both (`tick_readAheads`, `Brings.tick`), and so does a cycle of the
arbiter as long as the other clients read (`Brings.arbiter`).
-/

namespace RasterGpu

/-- Whether a command is a read-ahead. -/
def MemoryCommand.isReadAhead : MemoryCommand → Bool
  | readAhead _ => true
  | _ => false

/-- What the request of a command is for. A fill makes its requests later. -/
def MemoryCommand.kind? : MemoryCommand → Option EngineRequest
  | store _ _ | timestamp _ _ => some .store
  | readAhead _ => some .readAhead
  | fill _ => none

namespace MemoryEngine

variable {e : MemoryEngine} {a : Arbiter} {m : Sdram} {dword : Nat}

/-! ## Counting -/

/-- Read-aheads that were asked for and whose value was not collected. -/
def readAheads (e : MemoryEngine) : Nat :=
  e.fetched.isSome.toNat + (e.outstanding == some .readAhead).toNat
    + e.queue.toList.countP MemoryCommand.isReadAhead

/-- On a free port a request becomes the outstanding one. -/
theorem issue_eq (hfree : a.port .engine = .free) (kind : EngineRequest) (request : Request) :
    ∃ stats, (e.issue a kind request).1 = { e with outstanding := some kind, stats } := by
  have hs : (a.submit? .engine request).isSome = true := by
    rw [a.isSome_submit?, a.isFree_iff]
    exact hfree
  obtain ⟨a', ha⟩ := Option.isSome_iff_exists.1 hs
  unfold issue
  rw [ha]
  cases kind with
  | store => exact ⟨_, rfl⟩
  | readAhead => exact ⟨e.stats, rfl⟩

/-- The engine has started the oldest command. -/
structure Starts (e : MemoryEngine) (command : MemoryCommand) (queue : Queue MemoryCommand)
    (e' : MemoryEngine) : Prop where
  /-- The other commands wait. -/
  queue : e'.queue = queue
  /-- Its request is outstanding. -/
  outstanding : e'.outstanding = command.kind?
  /-- The value that has come back is still there. -/
  fetched : e'.fetched = e.fetched

/-- On a free port the oldest command is started. -/
theorem start_starts {command : MemoryCommand} {queue : Queue MemoryCommand}
    (hfree : a.port .engine = .free) (ho : e.outstanding = none)
    (hq : e.queue.pop? = some (command, queue)) : e.Starts command queue (e.start a).1 := by
  have hissue (kind : EngineRequest) (request : Request) (hk : some kind = command.kind?) :
      e.Starts command queue (issue { e with queue } a kind request).1 := by
    obtain ⟨stats, he⟩ := issue_eq (e := { e with queue }) hfree kind request
    rw [he]
    exact ⟨rfl, hk, rfl⟩
  unfold start
  rw [hq]
  cases command with
  | store dword value => exact hissue .store _ rfl
  | readAhead dword => exact hissue .readAhead _ rfl
  | timestamp address cycles => exact hissue .store _ rfl
  | fill fill =>
    dsimp only
    split
    · exact ⟨rfl, ho, rfl⟩
    · exact ⟨rfl, ho, rfl⟩

/-- A command that is started goes from the queue to the port. -/
theorem start_readAheads (hfree : a.port .engine = .free) (ho : e.outstanding = none) :
    (e.start a).1.readAheads = e.readAheads := by
  cases hq : e.queue.pop? with
  | none => rw [start, hq]
  | some pair =>
    obtain ⟨command, queue⟩ := pair
    have hs := start_starts hfree ho hq
    rw [readAheads, readAheads, hs.queue, hs.outstanding, hs.fetched, ho,
      Queue.pop?_eq_some hq, List.countP_cons]
    cases command with
    | readAhead dword =>
      simp [MemoryCommand.kind?, MemoryCommand.isReadAhead]
      omega
    | store dword value => rfl
    | timestamp address cycles => rfl
    | fill fill => rfl

/-- Going on loses no read-ahead. -/
theorem advance_readAheads (ho : e.outstanding = none) :
    (e.advance a).1.readAheads = e.readAheads := by
  unfold advance
  split
  · rename_i hfree
    rw [a.isFree_iff] at hfree
    split
    · exact start_readAheads hfree ho
    · rename_i progress _
      split
      · exact start_readAheads (e := { e with
          fill := none, stats.fillsCompleted := e.stats.fillsCompleted + 1 }) hfree ho
      · obtain ⟨stats, he⟩ := issue_eq (e := { e with fill := some progress.next }) hfree .store
          progress.request
        change MemoryEngine.readAheads (issue { e with fill := some progress.next } a .store
          progress.request).1 = e.readAheads
        rw [he]
        simp [readAheads, ho]
  · rfl

/-- A response that is collected is the value of a read-ahead, or of none. -/
theorem collect_readAheads {kind : EngineRequest} (ho : e.outstanding = some kind)
    (hf : e.fetched = none) (response : Response) :
    (e.collect kind response).readAheads = e.readAheads := by
  cases kind with
  | store => simp [collect, readAheads, ho]
  | readAhead => simp [collect, readAheads, ho, hf]

/-- **A cycle loses no read-ahead.** -/
theorem tick_readAheads (hf : e.fetched = none) : (e.tick a).1.readAheads = e.readAheads := by
  unfold tick
  split
  · rename_i ho
    exact advance_readAheads ho
  · rename_i kind ho
    split
    · rfl
    · rename_i response a' ht
      have hnone : (e.collect kind response).outstanding = none := by cases kind <;> rfl
      rw [advance_readAheads hnone, collect_readAheads ho hf]

/-! ## The last read-ahead -/

/-- The engine has a read-ahead of a dword after everything else. Once it is at the port nothing
else is left to be done, and what it finds is in the memory. -/
inductive Brings (dword : Nat) (e : MemoryEngine) (p : Port) (m : Sdram) : Prop where
  /-- It is the last command in the queue. -/
  | queued {before : List MemoryCommand} (hq : e.queue.toList = before ++ [.readAhead dword])
  /-- It has not been performed. -/
  | asked (hq : e.queue.toList = []) (ho : e.outstanding = some .readAhead)
    (hp : p.requests = [.read (4 * dword) 4])
  /-- It has been performed. -/
  | answered {address : Nat} (hq : e.queue.toList = []) (ho : e.outstanding = some .readAhead)
    (hp : p = .ready ⟨address, m.fetch (4 * dword) 4⟩)
  /-- Its value has come back. -/
  | fetched (hq : e.queue.toList = []) (ho : e.outstanding = none) (hp : p = .free)
    (hf : e.fetched = some (dwordOfWords (m.fetch (4 * dword) 4)))

/-- A read-ahead that waits in the queue is counted. -/
theorem countP_queued {before : List MemoryCommand}
    (hq : e.queue.toList = before ++ [.readAhead dword]) :
    0 < e.queue.toList.countP MemoryCommand.isReadAhead := by
  rw [hq, List.countP_append]
  exact Nat.lt_add_left _ Nat.zero_lt_one

/-- The value that has come back is that of the last read-ahead, if it is the only one. -/
theorem Brings.fetched_eq {p : Port} {value : UInt64} (h : Brings dword e p m)
    (hf : e.fetched = some value) (hone : e.readAheads = 1) :
    value = dwordOfWords (m.fetch (4 * dword) 4) ∧ e.queue.toList = [] ∧ p.requests = [] := by
  unfold readAheads at hone
  rw [hf] at hone
  cases h with
  | queued hq =>
    have hpos := countP_queued hq
    simp only [Option.isSome_some, Bool.toNat_true] at hone
    omega
  | asked hq ho hp =>
    rw [ho, hq] at hone
    cases hone
  | answered hq ho hp =>
    rw [ho, hq] at hone
    cases hone
  | fetched hq ho hp hv =>
    rw [hf] at hv
    exact ⟨Option.some.inj hv, hq, by rw [hp]; rfl⟩

/-- The last read-ahead is still on its way when the value of an earlier one is collected. -/
theorem Brings.collected {p : Port} (h : Brings dword e p m) (hmore : 1 < e.readAheads) :
    Brings dword { e with fetched := none } p m := by
  cases h with
  | queued hq => exact .queued hq
  | asked hq ho hp => exact .asked hq ho hp
  | answered hq ho hp => exact .answered hq ho hp
  | fetched hq ho hp hf =>
    unfold readAheads at hmore
    rw [hq, ho, hf] at hmore
    exact absurd hmore (Nat.lt_irrefl 1)

/-- Starting a command takes the last read-ahead further. -/
theorem Brings.start (h : Brings dword e (a.port .engine) m) (hw : a.WellFormed)
    (hfree : a.port .engine = .free) (ho : e.outstanding = none) :
    Brings dword (e.start a).1 ((e.start a).2.port .engine) m := by
  cases hq : e.queue.pop? with
  | none =>
    rw [MemoryEngine.start, hq]
    exact h
  | some pair =>
    obtain ⟨command, queue⟩ := pair
    have hs := start_starts hfree ho hq
    have hlist := Queue.pop?_eq_some hq
    have hne : e.queue.toList ≠ [] := by
      rw [hlist]
      exact List.cons_ne_nil _ _
    cases h with
    | @queued before hlast =>
      rw [hlist] at hlast
      cases before with
      | nil =>
        -- it is the read-ahead itself that is started
        obtain ⟨rfl, hrest⟩ := List.cons.inj hlast
        refine .asked (by rw [hs.queue]; exact hrest) hs.outstanding ?_
        obtain ⟨hview, -⟩ := issue_view (e := { e with queue }) hw hfree .readAhead
          (.read (4 * dword) 4)
        have hport := congrArg EngineView.port hview
        rw [MemoryEngine.start, hq]
        exact congrArg Port.requests hport
      | cons c before =>
        have hrest : queue.toList = before ++ [.readAhead dword] := (List.cons.inj hlast).2
        exact .queued (by rw [hs.queue]; exact hrest)
    | asked hempty => exact absurd hempty hne
    | answered hempty => exact absurd hempty hne
    | fetched hempty => exact absurd hempty hne

/-- Going on takes the last read-ahead further. -/
theorem Brings.advance (h : Brings dword e (a.port .engine) m) (hw : a.WellFormed)
    (ho : e.outstanding = none) (hfill : e.fill = none) :
    Brings dword (e.advance a).1 ((e.advance a).2.port .engine) m := by
  unfold MemoryEngine.advance
  split
  · rename_i hfree
    rw [a.isFree_iff] at hfree
    rw [hfill]
    exact h.start hw hfree ho
  · exact h

/-- **A cycle of the engine takes the last read-ahead further.** -/
theorem Brings.tick (h : Brings dword e (a.port .engine) m) (hw : a.WellFormed)
    (hfill : e.fill = none) (hf : e.fetched = none) :
    Brings dword (e.tick a).1 ((e.tick a).2.port .engine) m := by
  unfold MemoryEngine.tick
  split
  · rename_i ho
    exact h.advance hw ho hfill
  · rename_i kind ho
    split
    · exact h
    · rename_i response a' ht
      have hready : a.port .engine = .ready response := (Arbiter.take?_eq_some ht).1
      have hfree : a'.port .engine = .free := by
        rw [Arbiter.port_take? hw ht, Function.update_self]
      have hnone : (e.collect kind response).outstanding = none := by cases kind <;> rfl
      have hfill' : (e.collect kind response).fill = none := by cases kind <;> exact hfill
      have hqueue : (e.collect kind response).queue = e.queue := by cases kind <;> rfl
      have hb : Brings dword (e.collect kind response) (a'.port .engine) m := by
        cases h with
        | queued hq => exact .queued (by rw [hqueue]; exact hq)
        | asked hq ho' hp =>
          rw [hready] at hp
          cases hp
        | answered hq ho' hp =>
          rw [ho] at ho'
          obtain rfl := Option.some.inj ho'
          rw [hready] at hp
          obtain rfl := Port.ready.inj hp
          exact .fetched hq rfl hfree rfl
        | fetched hq ho' hp hv =>
          rw [hf] at hv
          cases hv
      exact hb.advance (Arbiter.ChangesOnly.take? hw ht).wellFormed hnone hfill'

/-- The commands of another client do not matter if they read. -/
theorem Brings.arbiter (h : Brings dword e (a.port .engine) m) (hw : a.WellFormed)
    (hf : e.fetched = none) (hreads : ∀ c, c ≠ .engine → (a.port c).ReadsOnly) :
    Brings dword e ((a.tick m).1.port .engine) (a.tick m).2 := by
  have hs := Arbiter.tick_portStep hw m
  generalize (a.tick m).1.port = p', (a.tick m).2 = m', a.performed? = performed at hs ⊢
  cases h with
  | queued hq => exact .queued hq
  | asked hq ho hp =>
    cases hs with
    | wait => exact .asked hq ho hp
    | grant hpending => exact .asked hq ho ((Arbiter.requests_grant hpending).trans hp)
    | @perform c request hgranted =>
      by_cases hc : c = .engine
      · subst hc
        rw [hgranted] at hp
        obtain rfl := List.singleton_inj.1 hp
        rw [Function.update_self]
        exact .answered hq ho rfl
      · have hread : request.isRead = true := by
          refine hreads c hc request ?_
          rw [hgranted]
          exact List.mem_singleton_self _
        rw [Function.update_of_ne (Ne.symm hc)]
        exact .asked hq ho hp
  | @answered address hq ho hp =>
    cases hs with
    | wait => exact .answered hq ho hp
    | @grant c request hpending =>
      have hc : c ≠ .engine := by
        rintro rfl
        rw [hp] at hpending
        cases hpending
      rw [Function.update_of_ne (Ne.symm hc)]
      exact .answered hq ho hp
    | @perform c request hgranted =>
      have hc : c ≠ .engine := by
        rintro rfl
        rw [hp] at hgranted
        cases hgranted
      have hread : request.isRead = true := by
        refine hreads c hc request ?_
        rw [hgranted]
        exact List.mem_singleton_self _
      rw [Function.update_of_ne (Ne.symm hc), request.perform_of_isRead hread]
      exact .answered hq ho hp
  | fetched hq ho hp hv =>
    rw [hf] at hv
    cases hv

end MemoryEngine

/-! ## What the engine will have done -/

namespace EngineView

variable {v v' : EngineView}

/-- The engine has nothing to do. -/
structure AtRest (v : EngineView) : Prop where
  /-- No command waits. -/
  queue : v.queue = []
  /-- No fill is under way. -/
  fill : v.fill = none
  /-- No request is at the port. -/
  port : v.port.requests = []

/-- An engine that has nothing to do does nothing. -/
theorem Moves.atRest (h : v.Moves v') (hr : v.AtRest) : v'.AtRest := by
  induction h with
  | refl => exact hr
  | tail _ hm ih =>
    cases hm with
    | collect => exact ⟨ih.queue, ih.fill, rfl⟩
    | finish _ => cases ih.fill
    | burst _ => cases ih.fill
    | issue _ => cases ih.queue
    | fill _ => cases ih.queue
    | skip _ => cases ih.queue

/-- An engine that has nothing to do leaves the memory as it is. -/
theorem AtRest.finish_eq (h : v.AtRest) (m : Sdram) : v.finish m = m := by
  simp only [finish, h.queue, h.fill, Port.finish, h.port, List.foldl_nil, Option.elim_none]

end EngineView

/-- A cycle of the arbiter does not change what the engine will have done, if the other clients
read. -/
theorem MemoryEngine.finish_arbiter {a : Arbiter} (e : MemoryEngine) (hw : a.WellFormed) (m : Sdram)
    (hreads : ∀ c, c ≠ .engine → (a.port c).ReadsOnly) :
    (e.view (a.tick m).1).finish (a.tick m).2 = (e.view a).finish m := by
  have hs := Arbiter.tick_portStep hw m
  have hview : e.view (a.tick m).1 = { e.view a with port := (a.tick m).1.port .engine } := rfl
  rw [hview]
  generalize (a.tick m).1.port = p', (a.tick m).2 = m', a.performed? = performed at hs ⊢
  cases hs with
  | wait => rfl
  | grant hp => exact EngineView.finish_port (Arbiter.requests_grant hp) m
  | @perform c request hp =>
    by_cases hc : c = .engine
    · subst hc
      rw [Function.update_self]
      exact EngineView.finish_perform (v := e.view a) hp _ m
    · have hread : request.isRead = true := by
        refine hreads c hc request ?_
        rw [hp]
        exact List.mem_singleton_self _
      rw [Function.update_of_ne (Ne.symm hc), request.perform_of_isRead hread]
      rfl

end RasterGpu
