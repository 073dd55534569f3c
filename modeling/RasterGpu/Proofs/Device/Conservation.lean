import RasterGpu.CommandQueue
import RasterGpu.Proofs.Scanout.Stream

/-!
# The command queue loses nothing

Two parties put transactions into the command queue: the host offers them one by one, and a host
link hands over as many as fit. The register file takes them out, and now and then the queue is
reset. What comes out is what went in, whatever the order of these calls.

* `CommandQueue.Call` lists the calls. `CommandQueue.Passage` is a queue with what passed it since
  the last reset, entered from what the calls answer.
* `CommandQueue.offer_cases` and `CommandQueue.drain_moves` say what the two ways in do.
* `CommandQueue.Drains` is the loop in which a host link hands its transactions over, one at a time.
  It moves what `drain` takes out together (`CommandQueue.drains_iff`).
* `CommandQueue.Passage.Conserves` says how what came out, what waits, and what went in agree. A call
  keeps it (`Conserves.call`), so that it holds after any calls (`Passage.run_conserves`).
-/

namespace RasterGpu

/-- Taking many entries out of a queue takes the oldest and leaves the others. -/
theorem Queue.popMany_split {α : Type} (q : Queue α) (count : Nat) :
    (q.popMany count).1 = q.toList.take count
      ∧ (q.popMany count).2.toList = q.toList.drop count := by
  induction count generalizing q with
  | zero => simp [popMany]
  | succ count ih =>
    unfold popMany
    cases hp : q.pop? with
    | none =>
      have hempty : q.toList = [] := (q.pop?_eq_none_iff).1 hp
      simp [hempty]
    | some pair =>
      obtain ⟨htaken, hrest⟩ := ih pair.2
      rw [pop?_eq_some hp]
      simp [htaken, hrest]

namespace CommandQueue

/-! ## Ways in and out -/

/-- An offer to a full queue is refused, and only the refusals are counted. Any other is taken as
the newest entry. -/
theorem offer_cases (q : CommandQueue) (t : Transaction) :
    (q.offer t = ({ q with rejected := q.rejected + 1 }, false) ∧ q.capacity ≤ q.size)
      ∨ (q.offer t = ({ q with entries := q.entries.push t, accepted := q.accepted + 1 }, true)
          ∧ q.size < q.capacity) := by
  unfold offer
  cases hfull : q.isFull with
  | true => exact .inl ⟨rfl, of_decide_eq_true hfull⟩
  | false => exact .inr ⟨rfl, Nat.lt_of_not_le (of_decide_eq_false hfull)⟩

/-- The queue gives its oldest entry, if there is one. -/
theorem pop?_cases (q : CommandQueue) :
    (q.pop? = none ∧ q.entries.toList = [])
      ∨ ∃ t entries, q.pop? = some (t, { q with entries })
          ∧ q.entries.toList = t :: entries.toList := by
  unfold pop?
  cases hp : q.entries.pop? with
  | none => exact .inl ⟨rfl, (Queue.pop?_eq_none_iff _).1 hp⟩
  | some pair => exact .inr ⟨pair.1, pair.2, rfl, Queue.pop?_eq_some hp⟩

/-- A host link hands over its oldest entries, as many as fit, and keeps the others. -/
theorem drain_moves (q : CommandQueue) (link : Queue Transaction) :
    let count := min (q.capacity - q.size) link.size
    (q.drain link).2.2 = count
      ∧ (q.drain link).2.1.toList = link.toList.drop count
      ∧ (q.drain link).1.entries.toList = q.entries.toList ++ link.toList.take count
      ∧ (q.drain link).1.accepted = q.accepted + count
      ∧ (q.drain link).1 =
          { q with
            entries := (q.drain link).1.entries, accepted := (q.drain link).1.accepted } := by
  intro count
  have hcount : (link.popMany (q.capacity - q.size)).1.length = count :=
    link.length_popMany (q.capacity - q.size)
  obtain ⟨htaken, hrest⟩ := link.popMany_split (q.capacity - q.size)
  -- what does not fit and what is not there are cut off alike
  have htake : link.toList.take (q.capacity - q.size) = link.toList.take count := by
    rw [List.take_eq_take_iff, link.length_toList]
    omega
  have hdrop : link.toList.drop (q.capacity - q.size) = link.toList.drop count := by
    rw [List.drop_eq_drop_iff, link.length_toList]
    omega
  refine ⟨hcount, hrest.trans hdrop, ?_, congrArg (q.accepted + ·) hcount, rfl⟩
  change (q.entries.pushMany (link.popMany (q.capacity - q.size)).1).toList = _
  rw [Queue.toList_pushMany, htaken, htake]

/-! ## The loop of a host link

A host link hands its transactions over one at a time. `drain` takes them out of the link together;
they are those that the loop moves. -/

/-- The loop: as long as the queue has room and the link has a transaction, it is moved. -/
inductive Drains : (q : CommandQueue) → (link : Queue Transaction) → (count : Nat) →
    (q' : CommandQueue) → (link' : Queue Transaction) → Prop
  /-- Nothing more fits. -/
  | full {q : CommandQueue} {link : Queue Transaction} (hfull : q.isFull = true) :
    Drains q link 0 q link
  /-- Nothing more is there. -/
  | empty {q : CommandQueue} {link : Queue Transaction} (hempty : link.pop? = none) :
    Drains q link 0 q link
  /-- A transaction is moved. -/
  | move {q q' : CommandQueue} {link rest link' : Queue Transaction} {t : Transaction}
    {count : Nat} (hroom : q.isFull = false) (hpop : link.pop? = some (t, rest))
    (hmore : Drains { q with entries := q.entries.push t, accepted := q.accepted + 1 } rest count
      q' link') :
    Drains q link (count + 1) q' link'

section Drains

variable {q q' : CommandQueue} {link link' rest : Queue Transaction} {t : Transaction} {count : Nat}

/-- A full queue takes nothing. -/
theorem drain_of_full (hfull : q.isFull = true) (link : Queue Transaction) :
    q.drain link = (q, link, 0) := by
  have hroom : q.capacity - q.entries.size = 0 := Nat.sub_eq_zero_of_le (of_decide_eq_true hfull)
  unfold drain
  rw [hroom]
  rfl

/-- An empty link gives nothing. -/
theorem drain_of_empty (hempty : link.pop? = none) (q : CommandQueue) :
    q.drain link = (q, link, 0) := by
  have hnone (room : Nat) : link.popMany room = ([], link) := by
    cases room with
    | zero => rfl
    | succ room => rw [Queue.popMany, hempty]
  unfold drain
  rw [hnone]
  rfl

/-- Otherwise a transaction is moved before the others. -/
theorem drain_of_move (hroom : q.isFull = false)
    (hpop : link.pop? = some (t, rest)) :
    q.drain link =
      let moved := { q with entries := q.entries.push t, accepted := q.accepted + 1 }.drain rest
      (moved.1, moved.2.1, moved.2.2 + 1) := by
  have hlt : q.entries.size < q.capacity := Nat.lt_of_not_le (of_decide_eq_false hroom)
  obtain ⟨room, hroom⟩ : ∃ room, q.capacity - q.entries.size = room + 1 :=
    Nat.exists_eq_add_one_of_ne_zero (Nat.sub_ne_zero_of_lt hlt)
  have hless : q.capacity - (q.entries.push t).size = room := by
    change q.capacity - (q.entries.size + 1) = room
    omega
  unfold drain
  dsimp only
  rw [hroom, hless, Queue.popMany, hpop]
  dsimp only
  rw [List.length_cons, Nat.add_right_comm, Nat.add_assoc]
  rfl

/-- **The loop moves what `drain` takes out together**, and comes to an end. -/
theorem drains_iff : q.Drains link count q' link' ↔ q.drain link = (q', link', count) := by
  constructor
  · intro h
    induction h with
    | full hfull => exact drain_of_full hfull _
    | empty hempty => exact drain_of_empty hempty _
    | move hroom hpop _ ih => rw [drain_of_move hroom hpop, ih]
  · -- by induction on the room that is left
    intro h
    induction hn : q.capacity - q.entries.size generalizing q link count with
    | zero =>
      have hfull : q.isFull = true := decide_eq_true (Nat.le_of_sub_eq_zero hn)
      rw [drain_of_full hfull] at h
      cases h
      exact .full hfull
    | succ room ih =>
      have hroom : q.isFull = false := decide_eq_false (by omega)
      cases hpop : link.pop? with
      | none =>
        rw [drain_of_empty hpop] at h
        cases h
        exact .empty hpop
      | some pair =>
        rw [drain_of_move hroom hpop] at h
        cases h
        refine .move hroom hpop (ih rfl ?_)
        change q.capacity - (q.entries.size + 1) = room
        omega

end Drains

/-! ## Calls -/

/-- What can be called on the queue. -/
inductive Call where
  /-- The host offers a transaction. -/
  | offer (t : Transaction)
  /-- The oldest transaction is taken out, if there is one. -/
  | pop
  /-- A host link hands over what fits. -/
  | drain (link : Queue Transaction)
  /-- The margin is set. -/
  | setMargin (margin : Nat)
  /-- The queue is reset. -/
  | reset

/-- A queue, and what has passed it since the last reset. -/
structure Passage where
  /-- The queue. -/
  queue : CommandQueue
  /-- The transactions it has taken, from the host and from host links. -/
  accepted : List Transaction := []
  /-- The offers it has refused. -/
  refused : List Transaction := []
  /-- The transactions that were taken out. -/
  popped : List Transaction := []

namespace Passage

/-- A new queue. -/
def start (capacity : Nat) (boot : List Transaction) : Passage where
  queue := withBoot capacity boot

/-- A call, entered by its answer. -/
def call (x : Passage) : Call → Passage
  | .offer t =>
    let (queue, taken) := x.queue.offer t
    if taken then { x with queue, accepted := x.accepted ++ [t] }
    else { x with queue, refused := x.refused ++ [t] }
  | .pop =>
    match x.queue.pop? with
    | some (t, queue) => { x with queue, popped := x.popped ++ [t] }
    | none => x
  | .drain link =>
    let (queue, _, count) := x.queue.drain link
    { x with queue, accepted := x.accepted ++ link.toList.take count }
  | .setMargin margin => { x with queue := x.queue.setMargin margin }
  | .reset => { queue := x.queue.reset }

/-- Calls one after the other. -/
def run (x : Passage) (calls : List Call) : Passage := calls.foldl call x

/-- What came out and what waits is what was there at the start and what went in. -/
structure Conserves (capacity : Nat) (boot : List Transaction) (x : Passage) : Prop where
  /-- Nothing is lost, added or overtaken. -/
  order : x.popped ++ x.queue.entries.toList = boot ++ x.accepted
  /-- A reset brings the boot sequence back. -/
  boot_eq : x.queue.boot = boot
  /-- The capacity is the one asked for, or the least that has room for the boot sequence. -/
  capacity_eq : x.queue.capacity = max (max capacity 1) boot.length
  /-- No more waits than fits. -/
  size_le : x.queue.size ≤ x.queue.capacity
  /-- The margin leaves a transaction to wait. -/
  margin_lt : x.queue.margin < x.queue.capacity
  /-- The transactions taken are counted, the boot sequence apart. -/
  accepted_eq : x.queue.accepted = x.accepted.length
  /-- The refusals are counted. -/
  rejected_eq : x.queue.rejected = x.refused.length

variable {capacity : Nat} {boot : List Transaction} {x : Passage}

/-- A new queue has its boot sequence, and nothing has passed it. -/
theorem start_conserves (capacity : Nat) (boot : List Transaction) :
    (start capacity boot).Conserves capacity boot where
  order := by
    change [] ++ (Queue.ofList boot).toList = boot ++ []
    rw [Queue.toList_ofList, List.nil_append, List.append_nil]
  boot_eq := rfl
  capacity_eq := rfl
  size_le := Nat.le_max_right _ _
  margin_lt := by
    change min 2 (max (max capacity 1) boot.length - 1) < max (max capacity 1) boot.length
    omega
  accepted_eq := rfl
  rejected_eq := rfl

/-- An offer, taken or refused. -/
theorem Conserves.offer (h : x.Conserves capacity boot) (t : Transaction) :
    (x.call (.offer t)).Conserves capacity boot := by
  unfold Passage.call
  dsimp only
  rcases x.queue.offer_cases t with ⟨hrefused, -⟩ | ⟨htaken, hroom⟩
  · rw [hrefused]
    refine ⟨h.order, h.boot_eq, h.capacity_eq, h.size_le, h.margin_lt, h.accepted_eq, ?_⟩
    simp [h.rejected_eq]
  · rw [htaken]
    refine ⟨?_, h.boot_eq, h.capacity_eq, hroom, h.margin_lt, ?_, h.rejected_eq⟩
    · calc x.popped ++ (x.queue.entries.push t).toList
          = (x.popped ++ x.queue.entries.toList) ++ [t] := by
            rw [Queue.toList_push, List.append_assoc]
        _ = boot ++ (x.accepted ++ [t]) := by rw [h.order, List.append_assoc]
    · simp [h.accepted_eq]

/-- The oldest transaction is taken out. -/
theorem Conserves.pop (h : x.Conserves capacity boot) :
    (x.call .pop).Conserves capacity boot := by
  unfold Passage.call
  dsimp only
  rcases x.queue.pop?_cases with ⟨hnone, -⟩ | ⟨t, entries, hsome, hentries⟩
  · rw [hnone]
    exact h
  · rw [hsome]
    have hsize : x.queue.size = entries.size + 1 := by
      rw [size, ← Queue.length_toList, hentries, List.length_cons, Queue.length_toList]
    have hfits := h.size_le
    refine ⟨?_, h.boot_eq, h.capacity_eq, ?_, h.margin_lt, h.accepted_eq, h.rejected_eq⟩
    · calc x.popped ++ [t] ++ entries.toList
          = x.popped ++ x.queue.entries.toList := by rw [hentries, List.append_assoc]; rfl
        _ = boot ++ x.accepted := h.order
    · change entries.size ≤ x.queue.capacity
      omega

/-- A host link hands over what fits. -/
theorem Conserves.drain (h : x.Conserves capacity boot) (link : Queue Transaction) :
    (x.call (.drain link)).Conserves capacity boot := by
  obtain ⟨hcount, -, hentries, haccepted, hqueue⟩ := x.queue.drain_moves link
  have hlength : (link.toList.take (min (x.queue.capacity - x.queue.size) link.size)).length
      = min (x.queue.capacity - x.queue.size) link.size := by
    rw [List.length_take, Queue.length_toList]
    omega
  have hfits := h.size_le
  unfold Passage.call
  dsimp only
  rw [hcount, hqueue]
  refine ⟨?_, h.boot_eq, h.capacity_eq, ?_, h.margin_lt, ?_, h.rejected_eq⟩
  · dsimp only
    rw [hentries, ← List.append_assoc, h.order, List.append_assoc]
  · change (x.queue.drain link).1.entries.size ≤ x.queue.capacity
    rw [← Queue.length_toList, hentries, List.length_append, hlength, Queue.length_toList]
    unfold size at hfits ⊢
    omega
  · dsimp only
    rw [haccepted, h.accepted_eq, List.length_append, hlength]

/-- Every call conserves. -/
theorem Conserves.call (h : x.Conserves capacity boot) (c : Call) :
    (x.call c).Conserves capacity boot := by
  cases c with
  | offer t => exact h.offer t
  | pop => exact h.pop
  | drain link => exact h.drain link
  | setMargin margin =>
    have hroom := h.margin_lt
    refine ⟨h.order, h.boot_eq, h.capacity_eq, h.size_le, ?_, h.accepted_eq, h.rejected_eq⟩
    change min margin (x.queue.capacity - 1) < x.queue.capacity
    omega
  | reset =>
    refine ⟨?_, h.boot_eq, h.capacity_eq, ?_, h.margin_lt, rfl, rfl⟩
    · change [] ++ (Queue.ofList x.queue.boot).toList = boot ++ []
      rw [Queue.toList_ofList, h.boot_eq, List.nil_append, List.append_nil]
    · change x.queue.boot.length ≤ x.queue.capacity
      rw [h.boot_eq, h.capacity_eq]
      exact Nat.le_max_right _ _

/-- **The command queue loses nothing.** Let a queue be built for any capacity and any boot
sequence, and let transactions be offered, taken out and handed over by host links, the margin be
set and the queue be reset, in any order. Then since the last reset the transactions that were taken
out, followed by those that wait, are the boot sequence followed by the transactions that were
taken in, in their order; the counters count these and the refusals, and no more waits than fits.

The queue is nearly full when it would be full with as many more transactions as the margin. A
refused offer changes nothing but the count of refusals. A host link hands its transactions over one
at a time until the queue is full or the link is empty, and so it loses just its oldest, as many as
fit. -/
theorem run_conserves (capacity : Nat) (boot : List Transaction) (calls : List Call) :
    let x := (start capacity boot).run calls
    let q := x.queue
    x.Conserves capacity boot
      ∧ (q.isFull = true ↔ q.size = q.capacity)
      ∧ (q.isNearlyFull = true ↔ q.capacity ≤ q.size + q.margin)
      ∧ (∀ t, (q.offer t = ({ q with rejected := q.rejected + 1 }, false) ∧ q.size = q.capacity)
          ∨ ((q.offer t).2 = true ∧ q.size < q.capacity))
      ∧ ∀ link, let count := min (q.capacity - q.size) link.size
          q.Drains link count (q.drain link).1 (q.drain link).2.1
            ∧ (q.drain link).2.2 = count
            ∧ (q.drain link).2.1.toList = link.toList.drop count
            ∧ (q.drain link).1.entries.toList = q.entries.toList ++ link.toList.take count := by
  intro x q
  have hrun (calls : List Call) {x : Passage} (h : x.Conserves capacity boot) :
      (x.run calls).Conserves capacity boot := by
    induction calls generalizing x with
    | nil => exact h
    | cons c calls ih => exact ih (h.call c)
  have hx : x.Conserves capacity boot := hrun calls (start_conserves capacity boot)
  have hfits : q.size ≤ q.capacity := hx.size_le
  refine ⟨hx, ?_, ?_, fun t => ?_, fun link => ?_⟩
  · rw [isFull, decide_eq_true_iff]
    change q.capacity ≤ q.size ↔ _
    omega
  · rw [isNearlyFull, decide_eq_true_iff]
    change q.capacity - q.size ≤ q.margin ↔ _
    omega
  · rcases q.offer_cases t with ⟨hrefused, hfull⟩ | ⟨htaken, hroom⟩
    · exact .inl ⟨hrefused, Nat.le_antisymm hfits hfull⟩
    · exact .inr ⟨congrArg Prod.snd htaken, hroom⟩
  · obtain ⟨hcount, hrest, hentries, -⟩ := q.drain_moves link
    exact ⟨drains_iff.2 (by rw [← hcount]), hcount, hrest, hentries⟩

end Passage

end CommandQueue

end RasterGpu
