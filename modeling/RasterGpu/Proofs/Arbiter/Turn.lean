import Mathlib.Algebra.GroupWithZero.Nat
import Mathlib.Algebra.Order.BigOperators.Group.List
import Mathlib.Algebra.Order.Group.Nat
import Mathlib.Data.Prod.Lex
import RasterGpu.Proofs.Arbiter.Port

/-!
# Whose turn it is

Scanout may ask for the memory again and again, and it comes first in priority. Under the rotating
policy it cannot keep the others from it: after a grant to scanout the next one goes to another
client, if one waits.

* `Arbiter.Rotates` says that the policy is the rotating one and that a grant has moved it on.
* `Arbiter.turn` tells how long a client other than scanout can be kept waiting: the stage that the
  rotation is in, and the cycles that are left of a grant. In a cycle after which a client other
  than scanout still waits it gets less (`Rotates.turn_lt`). Cycles of a grant are not bounded, so
  the two numbers are compared one after the other.
* What a client does at its slot changes neither (`SameTurn`).

Under either policy the requests that are there are served one after the other, if no client submits
another one: `Arbiter.backlog` tells how far they have come (`backlog_tick`).
-/

namespace RasterGpu

/-- Every client has its place in a rotation. -/
theorem Client.mem_rotation (first c : Client) : c ∈ first.rotation := by
  cases first <;> cases c <;> decide

namespace Arbiter

variable {M : Type} [MemoryDevice M] {a a' a'' : Arbiter} {c : Client}

/-! ## What clients leave as it is -/

/-- It is the same client's turn as before. -/
structure SameTurn (a a' : Arbiter) : Prop where
  /-- The policy is the same. -/
  policy : a'.policy = a.policy
  /-- The grant is the same. -/
  grant : a'.grant = a.grant
  /-- The rotation is the same. -/
  favoured : a'.favoured = a.favoured

/-- Nothing was done. -/
theorem SameTurn.refl (a : Arbiter) : SameTurn a a :=
  ⟨rfl, rfl, rfl⟩

/-- Two things were done. -/
theorem SameTurn.trans (h : SameTurn a a') (h' : SameTurn a' a'') : SameTurn a a'' :=
  ⟨h'.policy.trans h.policy, h'.grant.trans h.grant, h'.favoured.trans h.favoured⟩

/-- A request was submitted. -/
theorem SameTurn.submit? {request : Request} (h : a.submit? c request = some a') :
    SameTurn a a' := by
  obtain ⟨-, rfl⟩ := submit?_eq_some h
  exact ⟨rfl, rfl, rfl⟩

/-- A response was collected. -/
theorem SameTurn.take? {response : Response} (h : a.take? c = some (response, a')) :
    SameTurn a a' := by
  obtain ⟨-, rfl⟩ := take?_eq_some h
  exact ⟨rfl, rfl, rfl⟩

/-! ## The rotation -/

/-- The policy is the rotating one, and the client that holds the grant is the last in turn. -/
structure Rotates (a : Arbiter) : Prop where
  /-- The policy. -/
  policy : a.policy = .roundRobin
  /-- After a grant it is the next client's turn. -/
  favoured : ∀ g, a.grant = some g → a.favoured = g.client.next

/-- What clients do keeps the rotation. -/
theorem Rotates.same (h : a.Rotates) (hs : SameTurn a a') : a'.Rotates where
  policy := hs.policy.trans h.policy
  favoured g hg := by
    rw [hs.favoured]
    exact h.favoured g (hs.grant ▸ hg)

/-- A cycle keeps the rotation. -/
theorem Rotates.tick (h : a.Rotates) (m : M) : (a.tick m).1.Rotates := by
  have hc := tick_case a m
  generalize a.tick m = s at hc ⊢
  cases hc with
  | rest hg => exact ⟨h.policy, h.favoured⟩
  | grant hg hp =>
    refine ⟨h.policy, fun g hg' => ?_⟩
    obtain rfl := Option.some.inj hg'
    rfl
  | @count g hg hr =>
    refine ⟨h.policy, fun g' hg' => ?_⟩
    obtain rfl := Option.some.inj hg'
    exact h.favoured g hg
  | perform hg hr =>
    refine ⟨h.policy, fun g hg' => ?_⟩
    cases hg'

/-- The stage of the rotation and the cycles left of a grant. Scanout holds the grant in stage 2;
after that, in stage 1, the others come first; in stage 3 scanout may come once more before them. -/
def turn (a : Arbiter) : Nat ×ₗ Nat :=
  match a.grant with
  | some g => toLex (if g.client = .display then 2 else 0, g.remaining)
  | none => toLex (if a.favoured = .color then 1 else 3, 0)

/-- The same turn. -/
theorem SameTurn.turn_eq (h : SameTurn a a') : a'.turn = a.turn := by
  simp only [turn, h.grant, h.favoured]

/-- Without a grant a request is pending. -/
theorem pending?_of_requests (hg : a.grant = none) (h : (a.port c).requests ≠ []) :
    ∃ request, a.pending? c = some request := by
  unfold port at h
  unfold pending?
  cases hs : a.slots.get c with
  | empty => simp [hs, hg, Port.requests] at h
  | pending request => exact ⟨request, rfl⟩
  | ready response => simp [hs, Port.requests] at h

/-- Of some clients, one of which is pending, a pending one is found. -/
theorem exists_found {clients : List Client} {request : Request} (hc : c ∈ clients)
    (h : a.pending? c = some request) :
    ∃ d r, clients.findSome? (fun c => (a.pending? c).map (c, ·)) = some (d, r)
      ∧ d ∈ clients := by
  have hsome : (clients.findSome? fun c => (a.pending? c).map (c, ·)).isSome = true := by
    rw [List.findSome?_isSome_iff]
    exact ⟨c, hc, by rw [h]; rfl⟩
  obtain ⟨⟨d, r⟩, hfound⟩ := Option.isSome_iff_exists.1 hsome
  obtain ⟨e, he, hmap⟩ := List.exists_of_findSome?_eq_some hfound
  obtain ⟨r', -, heq⟩ := Option.map_eq_some_iff.1 hmap
  obtain ⟨rfl, -⟩ := Prod.mk.inj heq
  exact ⟨e, r, hfound, he⟩

/-- If a client other than scanout is pending a request is selected, and if it is the others' turn
it is one of theirs. -/
theorem Rotates.select? (h : a.Rotates) {request : Request} (hc : c ≠ .display)
    (hp : a.pending? c = some request) :
    ∃ d r, a.select? = some (d, r) ∧ (a.favoured = .color → d ≠ .display) := by
  unfold Arbiter.select?
  simp only [h.policy]
  by_cases hturn : a.favoured = .color
  · have hothers : c ∈ [Client.color, .depth, .engine] := by
      cases c <;> simp at hc ⊢
    obtain ⟨d, r, hfound, hd⟩ := exists_found hothers hp
    have hrotation : Client.rotation .color = [.color, .depth, .engine] ++ [.display] := rfl
    refine ⟨d, r, ?_, fun _ => ?_⟩
    · rw [hturn, hrotation, List.findSome?_append, hfound]
      rfl
    · rintro rfl
      simp at hd
  · obtain ⟨d, r, hfound, -⟩ := exists_found (a.favoured.mem_rotation c) hp
    exact ⟨d, r, hfound, fun hcolor => absurd hcolor hturn⟩

/-- **The turn of the others comes nearer.** After a cycle a client other than scanout waits for the
memory, and no client but scanout has a response. -/
theorem Rotates.turn_lt (h : a.Rotates) (hw : a.WellFormed) (m : M)
    (hwaits : ∃ c, c ≠ .display ∧ ((a.tick m).1.port c).requests ≠ [])
    (hnone : ∀ c, c ≠ .display → ((a.tick m).1.port c).responses = []) :
    (a.tick m).1.turn < a.turn := by
  obtain ⟨c, hc, hafter⟩ := hwaits
  have hbefore : (a.port c).requests ≠ [] := fun hnil => hafter (requests_tick hw hnil m)
  unfold Arbiter.tick at hnone ⊢
  cases hg : a.grant with
  | none =>
    -- the request is pending, so one is selected, and in their turn one of the others'
    obtain ⟨request, hp⟩ := pending?_of_requests hg hbefore
    obtain ⟨d, r, hselect, hturn⟩ := h.select? hc hp
    simp only [hselect, turn, hg]
    rw [Prod.Lex.toLex_lt_toLex]
    left
    by_cases hd : d = .display
    · have hcolor : a.favoured ≠ .color := fun hcolor => hturn hcolor hd
      simp [hd, hcolor]
    · simp only [hd, if_false]
      split <;> decide
  | some g =>
    by_cases hr : g.remaining ≤ 1
    · -- the others have no response, so it was scanout's request that was performed
      simp only [hg, hr, if_true] at hnone ⊢
      have hdisplay : g.client = .display := by
        by_contra hother
        have hready := hnone g.client hother
        rw [port_of_ready (PerClient.get_set_self _ _ _)] at hready
        cases hready
      have hcolor : a.favoured = .color := by
        rw [h.favoured g hg, hdisplay]
        rfl
      simp only [turn, hg]
      rw [Prod.Lex.toLex_lt_toLex]
      left
      simp [hdisplay, hcolor]
    · simp only [hr, if_false, turn, hg]
      rw [Prod.Lex.toLex_lt_toLex]
      right
      exact ⟨rfl, by dsimp only; omega⟩

end Arbiter

/-! ## The requests that are there -/

/-- What is left to be done with a request: it has to be granted and performed. -/
def Port.backlog : Port → Nat
  | pending _ => 2
  | granted _ => 1
  | free | ready _ => 0

namespace Arbiter

variable {M : Type} [MemoryDevice M] {a : Arbiter} {c : Client}

/-- What is left to be done with the requests at all ports, and the cycles left of a grant. -/
def backlog (a : Arbiter) : Nat ×ₗ Nat :=
  toLex ((Client.all.map fun c => (a.port c).backlog).sum, a.grant.elim 0 Grant.remaining)

/-- A request at one port that has come further is less to be done. -/
theorem sum_backlog_update {p : Client → Port} {x : Port} (h : x.backlog < (p c).backlog) :
    (Client.all.map fun d => (Function.update p c x d).backlog).sum
      < (Client.all.map fun d => (p d).backlog).sum := by
  have hself : (Function.update p c x c).backlog < (p c).backlog := by
    rw [Function.update_self]
    exact h
  refine List.sum_lt_sum _ _ (fun d _ => ?_) ⟨c, by cases c <;> decide, hself⟩
  by_cases hd : d = c
  · rw [hd]
    exact Nat.le_of_lt hself
  · rw [Function.update_of_ne hd]

/-- If a client is pending a request is selected. -/
theorem exists_select? {request : Request} (hp : a.pending? c = some request) :
    ∃ d r, a.select? = some (d, r) := by
  have hfound (first : Client) :
      ∃ d r, first.rotation.findSome? (fun c => (a.pending? c).map (c, ·)) = some (d, r) := by
    obtain ⟨d, r, hfound, -⟩ := exists_found (first.mem_rotation c) hp
    exact ⟨d, r, hfound⟩
  exact hfound _

/-- **A cycle with a request at some port leaves less to be done.** -/
theorem backlog_tick (hw : a.WellFormed) (h : (a.port c).requests ≠ []) (m : M) :
    (a.tick m).1.backlog < a.backlog := by
  unfold Arbiter.tick backlog
  rw [Prod.Lex.toLex_lt_toLex]
  cases hg : a.grant with
  | none =>
    obtain ⟨request, hp⟩ := pending?_of_requests hg h
    obtain ⟨d, r, hselect⟩ := exists_select? hp
    have hpending := port_of_pending (pending_of_select? hselect)
    left
    simp only [hselect, port_grant hg]
    refine sum_backlog_update ?_
    rw [hpending]
    exact Nat.one_lt_two
  | some g =>
    by_cases hr : g.remaining ≤ 1
    · have hgranted := port_of_grant hw hg
      left
      simp only [hr, if_true, port_perform hg]
      refine sum_backlog_update ?_
      rw [hgranted]
      exact Nat.one_pos
    · right
      simp only [hr, if_false, port_count hg, Option.elim_some]
      exact ⟨trivial, by omega⟩

end Arbiter

end RasterGpu
