import RasterGpu.Memory.Sdram
import RasterGpu.Proofs.Arbiter.Linearizability
import RasterGpu.Proofs.Arbiter.Turn

/-!
# Bounded overtaking

While a request waits for its grant, others may be granted, and their clients may submit again at
once. How often a client is overtaken is bounded by the order in which the policy looks for a
request.

* `Arbiter.ahead` are the clients that come before another in that order. Only they can overtake it
  (`Arbiter.select?_ahead`).
* Under the rotating policy a client that was granted comes last, so it is not ahead a second time
  (`Client.next_ahead`). Under fixed priority nobody is ahead of scanout.
* `Arbiter.WaitStep` lists what can happen to a client that waits, in one call; every call does one
  of these things (`Session.waitStep`).
* `Session.grantees` are the clients granted in calls, in order, and `Session.overtakers` those of
  them that are granted before another. `Session.Invariant.overtakers` bounds these.

`Session.overtaking_bounded` puts this together for the arbiter after any calls.
-/

namespace RasterGpu

/-! ## The order of the clients -/

namespace Client

/-- There are three other clients. -/
theorem length_before_le (first c : Client) : (first.rotation.takeWhile (· != c)).length ≤ 3 := by
  cases first <;> cases c <;> decide

/-- No client has two places in a rotation. -/
theorem nodup_rotation (first : Client) : first.rotation.Nodup := by
  cases first <;> decide

/-- A rotation that begins after a client has it last: before another one there are only those that
came after it. -/
theorem next_ahead {first c d : Client} (h : d ∈ first.rotation.takeWhile (· != c)) :
    d :: d.next.rotation.takeWhile (· != c) <:+ first.rotation.takeWhile (· != c) := by
  revert h
  cases first <;> cases c <;> cases d <;> decide

end Client

namespace Arbiter

variable {M : Type} [MemoryDevice M] {a a' : Arbiter} {c d : Client}

/-- The client that the policy looks at first. -/
def first (a : Arbiter) : Client :=
  match a.policy with
  | .fixedPriority => .display
  | .roundRobin => a.favoured

/-- The clients that the policy looks at before another. -/
def ahead (a : Arbiter) (c : Client) : List Client := a.first.rotation.takeWhile (· != c)

/-- Nobody comes before scanout in priority. -/
theorem ahead_display (h : a.policy = .fixedPriority) : a.ahead .display = [] := by
  simp only [ahead, first, h]
  decide

/-- Nobody is ahead twice. -/
theorem nodup_ahead (a : Arbiter) (c : Client) : (a.ahead c).Nodup :=
  (List.takeWhile_sublist _).nodup a.first.nodup_rotation

/-- **A client that waits is overtaken only by those ahead of it.** -/
theorem select?_ahead {r : Request} (hp : a.isPending c = true) (h : a.select? = some (d, r)) :
    d = c ∨ d ∈ a.ahead c := by
  have hfound : a.first.rotation.findSome? (fun e => (a.pending? e).map (e, ·)) = some (d, r) := h
  obtain ⟨before, e, after, hrotation, hmap, hnone⟩ := List.findSome?_eq_some_iff.1 hfound
  obtain ⟨r', -, heq⟩ := Option.map_eq_some_iff.1 hmap
  obtain ⟨rfl, -⟩ := Prod.mk.inj heq
  have hbefore : ∀ x ∈ before, (x != c) = true := by
    intro x hx
    rw [bne_iff_ne]
    rintro rfl
    rw [isPending, Option.map_eq_none_iff.1 (hnone x hx)] at hp
    cases hp
  by_cases hc : e = c
  · exact .inl hc
  · right
    rw [ahead, hrotation, List.takeWhile_append_of_pos hbefore, List.takeWhile_cons,
      if_pos (bne_iff_ne.2 hc)]
    exact List.mem_append_right _ List.mem_cons_self

/-! ## What happens to a client that waits -/

/-- What a call can mean to a client that waits, with the client that is granted in it. -/
inductive WaitStep (a : Arbiter) (c : Client) (a' : Arbiter) : Option Client → Prop where
  /-- It still waits, in the same place. -/
  | wait (hp : a'.isPending c = true) (hahead : a'.ahead c = a.ahead c) : WaitStep a c a' none
  /-- It is granted. -/
  | grant : WaitStep a c a' (some c)
  /-- One ahead of it is granted. It still waits; if the policy is the rotating one, the other is no
  longer ahead. -/
  | overtaken {d : Client} (hne : d ≠ c) (hd : d ∈ a.ahead c) (hp : a'.isPending c = true)
    (hfixed : a.policy = .fixedPriority → a'.ahead c = a.ahead c)
    (hrotates : a.policy = .roundRobin → d :: a'.ahead c <:+ a.ahead c) : WaitStep a c a' (some d)

/-- The slot of another client is not that of the one that waits. -/
theorem isPending_of_slot (h : a'.slots.get c = a.slots.get c) : a'.isPending c = a.isPending c := by
  simp only [isPending, pending?, h]

/-- A client that waits has a pending request at its port. -/
theorem port_of_isPending (h : a.isPending c = true) :
    ∃ request, a.port c = .pending request := by
  obtain ⟨request, hrequest⟩ := Option.isSome_iff_exists.1 h
  unfold pending? at hrequest
  split at hrequest
  · exact ⟨_, port_of_pending ‹_›⟩
  · cases hrequest

/-- What happens to the slot of a client that does not wait is nothing to one that does. -/
theorem get_set_of_isPending (hp : a.isPending c = true)
    (hd : ∀ request, a.port d ≠ .pending request) (x : Slot) :
    (a.slots.set d x).get c = a.slots.get c := by
  obtain ⟨request, hport⟩ := port_of_isPending hp
  have hne : c ≠ d := by
    rintro rfl
    exact hd request hport
  exact PerClient.get_set_of_ne _ hne x

/-- A slot with a pending request is not that of the client that holds the grant. -/
theorem WellFormed.ne_of_isPending (hw : a.WellFormed) (hp : a.isPending c = true) {g : Grant}
    (hg : a.grant = some g) : c ≠ g.client := by
  rintro rfl
  rw [isPending, pending?, hw g hg] at hp
  cases hp

/-- **A cycle in the life of a client that waits.** -/
theorem waitStep_tick (hw : a.WellFormed) (hp : a.isPending c = true) (m : M) :
    WaitStep a c (a.tick m).1 (a.tick m).1.acknowledged := by
  unfold tick
  cases hg : a.grant with
  | some g =>
    dsimp only
    split
    · have hslot := PerClient.get_set_of_ne a.slots (hw.ne_of_isPending hp hg)
        (.ready (g.request.perform m).2)
      exact .wait ((isPending_of_slot hslot).trans hp) rfl
    · exact .wait hp rfl
  | none =>
    cases hs : a.select? with
    | none => exact .wait hp rfl
    | some found =>
      obtain ⟨d, r⟩ := found
      by_cases hd : d = c
      · subst hd
        exact .grant
      · have hahead : d ∈ a.ahead c := (select?_ahead hp hs).resolve_left hd
        have hslot := PerClient.get_set_of_ne a.slots (Ne.symm hd) .empty
        refine .overtaken hd hahead ((isPending_of_slot hslot).trans hp) (fun hfixed => ?_)
          (fun hrotates => ?_)
        · simp only [ahead, first, hfixed]
        · simp only [ahead, first, hrotates] at hahead ⊢
          exact Client.next_ahead hahead

/-- **A cycle without a grant gives one, if a request waits.** -/
theorem grant_tick (hg : a.grant = none) (hp : a.isPending c = true) (m : M) :
    ∃ d, a.isPending d = true ∧ (a.tick m).1.isGranted d = true
      ∧ (a.tick m).1.acknowledged = some d := by
  obtain ⟨request, hrequest⟩ := Option.isSome_iff_exists.1 hp
  obtain ⟨d, r, hs⟩ := exists_select? hrequest
  have hpending : a.isPending d = true := by
    rw [isPending, pending?, pending_of_select? hs]
    rfl
  refine ⟨d, hpending, ?_⟩
  simp only [tick, hg, hs]
  exact ⟨beq_self_eq_true d, trivial⟩

/-- A cycle counts its grant. -/
theorem grants_tick (a : Arbiter) (m : M) (d : Client) :
    (a.tick m).1.grants.get d
      = a.grants.get d + (a.tick m).1.acknowledged.toList.count d := by
  have hc := a.tick_case m
  generalize a.tick m = s at hc ⊢
  cases hc with
  | rest hg => rfl
  | @grant e r hg hp =>
    by_cases he : d = e
    · subst he
      simp
    · simp [PerClient.get_set_of_ne _ he, Ne.symm he]
  | count hg hr => rfl
  | perform hg hr => rfl

end Arbiter

/-! ## Sessions -/

namespace Session

variable {M : Type} [MemoryDevice M] {s : Session M} {c d : Client}

/-- The client granted in a call. -/
def granted? (s : Session M) : ArbiterCall → Option Client
  | .tick => s.tick.arbiter.acknowledged
  | .submit _ _ | .take _ => none

/-- The clients granted in calls, in order. -/
def grantees (s : Session M) : List ArbiterCall → List Client
  | [] => []
  | call :: rest => (s.granted? call).toList ++ grantees (s.step call) rest

omit [MemoryDevice M] in
/-- What a client does changes no slot of a client that waits, and nothing beside the slots. -/
theorem submit_slots (s : Session M) (d : Client) (r : Request) :
    ∃ slots, (s.submit d r).1.arbiter = { s.arbiter with slots }
      ∧ ∀ c, s.arbiter.isPending c = true → slots.get c = s.arbiter.slots.get c := by
  unfold submit
  cases ha : s.arbiter.submit? d r with
  | none => exact ⟨s.arbiter.slots, rfl, fun c _ => rfl⟩
  | some a =>
    obtain ⟨hfree, rfl⟩ := Arbiter.submit?_eq_some ha
    refine ⟨_, rfl, fun c hp => Arbiter.get_set_of_isPending hp (fun request hport => ?_) _⟩
    cases hfree.symm.trans hport

omit [MemoryDevice M] in
/-- The same if it asks for its response. -/
theorem take_slots (s : Session M) (d : Client) :
    ∃ slots, (s.take d).1.arbiter = { s.arbiter with slots }
      ∧ ∀ c, s.arbiter.isPending c = true → slots.get c = s.arbiter.slots.get c := by
  unfold take
  cases ha : s.arbiter.take? d with
  | none => exact ⟨s.arbiter.slots, rfl, fun c _ => rfl⟩
  | some taken =>
    obtain ⟨response, a⟩ := taken
    obtain ⟨hready, rfl⟩ := Arbiter.take?_eq_some ha
    refine ⟨_, rfl, fun c hp => Arbiter.get_set_of_isPending hp (fun request hport => ?_) _⟩
    cases hready.symm.trans hport

/-- A call is a cycle, or changes slots of clients that do not wait and nothing else. -/
theorem step_cases (s : Session M) (call : ArbiterCall) :
    call = .tick ∨ s.granted? call = none
      ∧ ∃ slots, (s.step call).arbiter = { s.arbiter with slots }
        ∧ ∀ c, s.arbiter.isPending c = true → slots.get c = s.arbiter.slots.get c := by
  cases call with
  | tick => exact .inl rfl
  | submit d r => exact .inr ⟨rfl, s.submit_slots d r⟩
  | take d => exact .inr ⟨rfl, s.take_slots d⟩

/-- A call leaves the policy. -/
theorem policy_step (s : Session M) (call : ArbiterCall) :
    (s.step call).arbiter.policy = s.arbiter.policy := by
  rcases s.step_cases call with rfl | ⟨-, slots, hslots, -⟩
  · have hc := s.arbiter.tick_case s.memory
    simp only [step, tick]
    generalize s.arbiter.tick s.memory = t at hc ⊢
    cases hc <;> rfl
  · rw [hslots]

/-- A call counts its grant. -/
theorem grants_step (s : Session M) (call : ArbiterCall) (d : Client) :
    (s.step call).arbiter.grants.get d
      = s.arbiter.grants.get d + (s.granted? call).toList.count d := by
  rcases s.step_cases call with rfl | ⟨hnone, slots, hslots, -⟩
  · exact s.arbiter.grants_tick s.memory d
  · rw [hslots, hnone]
    rfl

/-- **A call in the life of a client that waits.** -/
theorem waitStep (hw : s.arbiter.WellFormed) (hp : s.arbiter.isPending c = true)
    (call : ArbiterCall) : s.arbiter.WaitStep c (s.step call).arbiter (s.granted? call) := by
  rcases s.step_cases call with rfl | ⟨hnone, slots, hslots, hsame⟩
  · exact Arbiter.waitStep_tick hw hp s.memory
  · rw [hnone, hslots]
    exact .wait ((Arbiter.isPending_of_slot (hsame c hp)).trans hp) rfl

/-- The policy stays. -/
theorem policy_run (s : Session M) (calls : List ArbiterCall) :
    (s.run calls).arbiter.policy = s.arbiter.policy := by
  induction calls generalizing s with
  | nil => rfl
  | cons call rest ih => exact (ih (s.step call)).trans (s.policy_step call)

/-- The counters have the clients granted. -/
theorem grants_run (s : Session M) (calls : List ArbiterCall) (d : Client) :
    (s.run calls).arbiter.grants.get d
      = s.arbiter.grants.get d + (s.grantees calls).count d := by
  induction calls generalizing s with
  | nil => rfl
  | cons call rest ih =>
    have hrest : (s.run (call :: rest)).arbiter.grants.get d
        = (s.step call).arbiter.grants.get d + ((s.step call).grantees rest).count d :=
      ih (s.step call)
    rw [hrest, s.grants_step call d, grantees, List.count_append, Nat.add_assoc]

/-- The clients that are granted before another is. -/
def overtakers (s : Session M) (calls : List ArbiterCall) (c : Client) : List Client :=
  (s.grantees calls).takeWhile (· != c)

/-- **A client waits until it is granted**, and is overtaken by those ahead of it only; if the policy
is the rotating one, by each of them at most once and in their order. -/
theorem Invariant.overtakers {m₀ : M} (h : Invariant m₀ s) (hp : s.arbiter.isPending c = true)
    (calls : List ArbiterCall) :
    (c ∉ s.grantees calls → (s.run calls).arbiter.isPending c = true)
      ∧ (s.arbiter.policy = .fixedPriority → s.overtakers calls c ⊆ s.arbiter.ahead c)
      ∧ (s.arbiter.policy = .roundRobin →
        (s.overtakers calls c).Sublist (s.arbiter.ahead c)) := by
  induction calls generalizing s with
  | nil => exact ⟨fun _ => hp, fun _ => List.nil_subset _, fun _ => List.nil_sublist _⟩
  | cons call rest ih =>
    have hstep := waitStep h.wellFormed hp call
    have hpolicy := s.policy_step call
    have hrun : s.run (call :: rest) = (s.step call).run rest := rfl
    simp only [Session.overtakers, grantees, hrun]
    generalize s.granted? call = g at hstep
    cases hstep with
    | wait hp' hahead =>
      obtain ⟨hwaits, hfixed, hrotates⟩ := ih (h.step call) hp'
      rw [hpolicy, hahead] at hfixed hrotates
      exact ⟨hwaits, hfixed, hrotates⟩
    | grant =>
      have hnone : ([c] ++ (s.step call).grantees rest).takeWhile (· != c) = [] := by simp
      rw [Option.toList_some, hnone]
      exact ⟨fun hc => absurd List.mem_cons_self hc, fun _ => List.nil_subset _,
        fun _ => List.nil_sublist _⟩
    | @overtaken d hne hd hp' hfixed' hrotates' =>
      obtain ⟨hwaits, hfixed, hrotates⟩ := ih (h.step call) hp'
      have hcons : ([d] ++ (s.step call).grantees rest).takeWhile (· != c)
          = d :: (s.step call).overtakers rest c := by
        rw [List.singleton_append, List.takeWhile_cons, if_pos (bne_iff_ne.2 hne)]
        rfl
      rw [Option.toList_some, hcons]
      refine ⟨fun hc => hwaits fun hmem => hc (List.mem_cons_of_mem _ hmem), fun hpol => ?_,
        fun hpol => ?_⟩
      · have hsub := hfixed (hpolicy.trans hpol)
        rw [hfixed' hpol] at hsub
        exact List.cons_subset.2 ⟨hd, hsub⟩
      · have hsub := hrotates (hpolicy.trans hpol)
        exact (hsub.cons_cons d).trans (hrotates' hpol).sublist

/-- **Overtaking is bounded.** Let a client wait for its grant, after any calls on an arbiter that
began at rest, and let others follow. It waits until it is granted. Under the rotating policy at most
three grants go to other clients before, and no two of them to the same. Under fixed priority none
does if the client is scanout. The counters count the grants, and under either policy each cycle
that begins without a grant while a client waits gives one. -/
theorem overtaking_bounded (policy : ArbiterPolicy) (m : M) (earlier calls : List ArbiterCall)
    (c : Client) :
    let s := (start policy m).run earlier
    (s.arbiter.isPending c = true →
      (c ∉ s.grantees calls → (s.run calls).arbiter.isPending c = true)
        ∧ (policy = .roundRobin →
          (s.overtakers calls c).length ≤ 3 ∧ (s.overtakers calls c).Nodup)
        ∧ (policy = .fixedPriority → c = .display → s.overtakers calls c = []))
      ∧ (∀ d, (s.run calls).arbiter.grants.get d
        = s.arbiter.grants.get d + (s.grantees calls).count d)
      ∧ (s.arbiter.grant = none → s.arbiter.isPending c = true →
        ∃ d, s.arbiter.isPending d = true ∧ s.tick.arbiter.isGranted d = true
          ∧ s.tick.arbiter.acknowledged = some d) := by
  intro s
  have hpolicy : s.arbiter.policy = policy := (start policy m).policy_run earlier
  have h : Invariant m s := (Invariant.start policy m).run earlier
  refine ⟨fun hp => ?_, s.grants_run calls, fun hg hp => Arbiter.grant_tick hg hp s.memory⟩
  obtain ⟨hwaits, hfixed, hrotates⟩ := h.overtakers hp calls
  refine ⟨hwaits, fun hpol => ?_, fun hpol hc => ?_⟩
  · have hsub := hrotates (hpolicy.trans hpol)
    exact ⟨hsub.length_le.trans (Client.length_before_le _ c),
      hsub.nodup (s.arbiter.nodup_ahead c)⟩
  · subst hc
    have hsub := hfixed (hpolicy.trans hpol)
    rw [Arbiter.ahead_display (hpolicy.trans hpol)] at hsub
    exact List.eq_nil_of_subset_nil hsub

/-- The bound is reached: the memory engine waits for scanout, color and depth, but not for scanout
again, which has submitted another request. -/
example :
    let word := Request.read 0 1
    let s := (start .roundRobin (Sdram.zeroed 4 1)).run
      [.submit .display word, .submit .color word, .submit .depth word, .submit .engine word]
    let calls := List.replicate 3 ArbiterCall.tick ++ [.take .display, .submit .display word]
      ++ List.replicate 9 ArbiterCall.tick
    s.overtakers calls .engine = [.display, .color, .depth]
      ∧ (s.run calls).arbiter.isPending .display = true := by
  decide

end Session

end RasterGpu
