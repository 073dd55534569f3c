import Mathlib.Logic.Function.Basic
import RasterGpu.Memory.Arbiter

/-!
# The ports of the arbiter

The arbiter keeps the request of a client in one of two places, the client's slot or the grant.
This file puts the two together into one view per client:

* `Port` tells how far the request of a client has come: it is *pending*, *granted*, answered and
  waiting to be collected (*ready*), or there is none (*free*); `Arbiter.port` reads it off.
* `Arbiter.WellFormed` is what keeps the two places apart: the slot of the client that holds the
  grant is empty. Every operation keeps it.
* `TickCase` lists the four things that a cycle can do, and `tick_case` says that it does one of
  them. `PortStep` is what is left of it in the view: a cycle changes nothing, or moves one port
  from pending to granted, or performs one access.

What a client does (`submit?`, `take?`) changes its own port only, and never the grant.
-/

namespace RasterGpu

/-- How far the request of a client has come. -/
inductive Port where
  /-- There is none. -/
  | free
  /-- It waits for its grant. -/
  | pending (request : Request)
  /-- It holds the grant. -/
  | granted (request : Request)
  /-- It was answered, and the response waits. -/
  | ready (response : Response)
  deriving DecidableEq, Repr

/-- The request at a port that has not been served. -/
def Port.requests : Port → List Request
  | pending request | granted request => [request]
  | free | ready _ => []

/-- The response at a port. -/
def Port.responses : Port → List Response
  | ready response => [response]
  | free | pending _ | granted _ => []

namespace Arbiter

variable {M : Type} [MemoryDevice M] {a a' : Arbiter} {c d : Client}

/-- How far the request of a client has come. -/
def port (a : Arbiter) (c : Client) : Port :=
  match a.slots.get c with
  | .pending request => .pending request
  | .ready response => .ready response
  | .empty =>
    match a.grant with
    | some g => if g.client = c then .granted g.request else .free
    | none => .free

/-- The client that holds the grant has nothing in its slot. -/
def WellFormed (a : Arbiter) : Prop :=
  ∀ g, a.grant = some g → a.slots.get g.client = .empty

/-- Without a grant there is nothing to keep apart. -/
theorem WellFormed.of_no_grant (h : a.grant = none) : a.WellFormed := by
  intro g hg
  rw [h] at hg
  cases hg

/-! ## Reading the view -/

/-- A port with something in its slot shows it. -/
theorem port_of_pending {request : Request} (h : a.slots.get c = .pending request) :
    a.port c = .pending request := by
  simp only [port, h]

/-- A port with a response in its slot shows it. -/
theorem port_of_ready {response : Response} (h : a.slots.get c = .ready response) :
    a.port c = .ready response := by
  simp only [port, h]

/-- The client of the grant shows its request. -/
theorem port_of_grant (h : a.WellFormed) {g : Grant} (hg : a.grant = some g) :
    a.port g.client = .granted g.request := by
  simp only [port, h g hg, hg, if_true]

/-- The view depends on the slot of the client and the grant alone. -/
theorem port_congr (hs : a'.slots.get c = a.slots.get c) (hg : a'.grant = a.grant) :
    a'.port c = a.port c := by
  simp only [port, hs, hg]

/-- A port is free exactly if a request can be submitted. -/
theorem isFree_iff (a : Arbiter) (c : Client) : a.isFree c = true ↔ a.port c = .free := by
  unfold isFree port isGranted
  cases a.slots.get c with
  | pending request => simp
  | ready response => simp
  | empty =>
    cases a.grant with
    | none => simp
    | some g => by_cases h : g.client = c <;> simp [h]

/-- Without a pending request and without the grant there is no request at a port. -/
theorem requests_eq_nil (hp : a.isPending c = false) (hg : a.isGranted c = false) :
    (a.port c).requests = [] := by
  unfold isPending pending? at hp
  unfold isGranted at hg
  unfold port
  split
  · rename_i request hs
    rw [hs] at hp
    cases hp
  · rfl
  · split
    · rename_i g hga
      rw [hga] at hg
      rw [if_neg (by simpa using hg)]
      rfl
    · rfl

/-- A port is in exactly one of its four states. -/
theorem WellFormed.one_state (h : a.WellFormed) (c : Client) :
    (a.isFree c).toNat + (a.isPending c).toNat + (a.isGranted c).toNat
      + (a.response? c).isSome.toNat = 1 := by
  have hg : a.isGranted c = true → a.slots.get c = .empty := by
    unfold isGranted
    split
    · rename_i g hg
      intro hc
      rw [beq_iff_eq] at hc
      exact hc ▸ h g hg
    · intro hc
      cases hc
  unfold isFree isPending pending? response?
  cases hs : a.slots.get c with
  | empty => cases a.isGranted c <;> rfl
  | pending request =>
    have hf : a.isGranted c = false := Bool.eq_false_iff.2 fun hc => by rw [hg hc] at hs; cases hs
    rw [hf]
    rfl
  | ready response =>
    have hf : a.isGranted c = false := Bool.eq_false_iff.2 fun hc => by rw [hg hc] at hs; cases hs
    rw [hf]
    rfl

/-! ## What a client does -/

/-- A submitted request is pending, and nothing else changes. -/
theorem submit?_eq_some {request : Request} (h : a.submit? c request = some a') :
    a.port c = .free ∧ a' = { a with slots := a.slots.set c (.pending request) } := by
  unfold submit? at h
  split at h
  · rename_i hf
    exact ⟨(a.isFree_iff c).1 hf, (Option.some.inj h).symm⟩
  · cases h

/-- A request is taken exactly on a free port. -/
theorem isSome_submit? (a : Arbiter) (c : Client) (request : Request) :
    (a.submit? c request).isSome = a.isFree c := by
  unfold submit?
  cases a.isFree c <;> rfl

/-- A response that is collected was ready, its slot is empty after, and nothing else changes. -/
theorem take?_eq_some {response : Response} (h : a.take? c = some (response, a')) :
    a.port c = .ready response ∧ a' = { a with slots := a.slots.set c .empty } := by
  unfold take? at h
  split at h
  · rename_i r hr
    simp only [Option.some.injEq, Prod.mk.injEq] at h
    obtain ⟨rfl, rfl⟩ := h
    exact ⟨port_of_ready hr, rfl⟩
  · cases h

/-- Setting the slot of a client without the grant changes its port only. -/
theorem port_setSlot_of_ne {s : Slot} (h : d ≠ c) :
    port { a with slots := a.slots.set c s } d = a.port d :=
  port_congr (PerClient.get_set_of_ne _ h s) rfl

/-- A client without the grant keeps an arbiter well-formed whatever it puts into its slot. -/
theorem WellFormed.setSlot (h : a.WellFormed) {s : Slot} (hc : ∀ r, a.port c ≠ .granted r) :
    WellFormed { a with slots := a.slots.set c s } := by
  intro g hg
  have hne : g.client ≠ c := by
    rintro rfl
    exact hc _ (port_of_grant h hg)
  rw [PerClient.get_set_of_ne _ hne]
  exact h g hg

/-- The ports after a request was submitted. -/
theorem port_submit? {request : Request} (h : a.submit? c request = some a') :
    a'.port = Function.update a.port c (.pending request) := by
  obtain ⟨-, rfl⟩ := submit?_eq_some h
  funext d
  by_cases hd : d = c
  · subst hd
    rw [Function.update_self]
    exact port_of_pending (PerClient.get_set_self _ _ _)
  · rw [Function.update_of_ne hd]
    exact port_setSlot_of_ne hd

/-- The ports after a response was collected. -/
theorem port_take? (hw : a.WellFormed) {response : Response}
    (h : a.take? c = some (response, a')) : a'.port = Function.update a.port c .free := by
  obtain ⟨hp, rfl⟩ := take?_eq_some h
  funext d
  by_cases hd : d = c
  · subst hd
    rw [Function.update_self, ← isFree_iff]
    have hg : a.isGranted d = false := by
      rw [Bool.eq_false_iff]
      intro hg
      unfold isGranted at hg
      split at hg
      · rename_i g hga
        rw [beq_iff_eq] at hg
        subst hg
        rw [port_of_grant hw hga] at hp
        cases hp
      · cases hg
    have hg' : isGranted { a with slots := a.slots.set d .empty } d = false := hg
    unfold isFree
    rw [PerClient.get_set_self, hg']
    rfl
  · rw [Function.update_of_ne hd]
    exact port_setSlot_of_ne hd

/-- Submitting keeps an arbiter well-formed. -/
theorem WellFormed.submit? (hw : a.WellFormed) {request : Request}
    (h : a.submit? c request = some a') : a'.WellFormed := by
  obtain ⟨hp, rfl⟩ := submit?_eq_some h
  exact hw.setSlot fun r hr => by rw [hp] at hr; cases hr

/-- Collecting keeps an arbiter well-formed. -/
theorem WellFormed.take? (hw : a.WellFormed) {response : Response}
    (h : a.take? c = some (response, a')) : a'.WellFormed := by
  obtain ⟨hp, rfl⟩ := take?_eq_some h
  exact hw.setSlot fun r hr => by rw [hp] at hr; cases hr

/-! ## What a cycle does -/

/-- A client that is selected has a pending request. -/
theorem pending_of_select? {request : Request} (h : a.select? = some (c, request)) :
    a.slots.get c = .pending request := by
  unfold select? at h
  obtain ⟨d, -, hd⟩ := List.exists_of_findSome?_eq_some h
  rw [Option.map_eq_some_iff] at hd
  obtain ⟨r, hr, heq⟩ := hd
  simp only [Prod.mk.injEq] at heq
  obtain ⟨rfl, rfl⟩ := heq
  unfold pending? at hr
  split at hr
  · rename_i hs
    rw [hs, Option.some.inj hr]
  · cases hr

/-- The four things that a cycle of the arbiter can do. -/
inductive TickCase (a : Arbiter) (m : M) : Arbiter × M → Prop where
  /-- Nothing is granted and nothing is selected. -/
  | rest (hg : a.grant = none) : TickCase a m ({ a with acknowledged := none }, m)
  /-- A pending request is granted. -/
  | grant {c : Client} {request : Request} (hg : a.grant = none)
    (hp : a.slots.get c = .pending request) :
    TickCase a m
      ({ a with
          slots := a.slots.set c .empty
          grant := some ⟨c, request, request.cycles (MemoryDevice.latency m)⟩
          acknowledged := some c
          favoured := c.next
          grants := a.grants.set c (a.grants.get c + 1)
          overflowed := a.overflowed || request.overflows (MemoryDevice.latency m) }, m)
  /-- The grant counts down. -/
  | count {g : Grant} (hg : a.grant = some g) (hr : 1 < g.remaining) :
    TickCase a m
      ({ a with
          grant := some { g with remaining := g.remaining - 1 }
          acknowledged := none
          busyCycles := a.busyCycles + 1 }, m)
  /-- The access of the grant is performed. -/
  | perform {g : Grant} (hg : a.grant = some g) (hr : g.remaining ≤ 1) :
    TickCase a m
      ({ a with
          slots := a.slots.set g.client (.ready (g.request.perform m).2)
          grant := none
          acknowledged := none
          busyCycles := a.busyCycles + 1 }, (g.request.perform m).1)

/-- A cycle does one of the four things. -/
theorem tick_case (a : Arbiter) (m : M) : TickCase a m (a.tick m) := by
  unfold tick
  split
  · rename_i g hg
    split
    · rename_i hr
      exact TickCase.perform (m := m) hg hr
    · rename_i hr
      exact TickCase.count (m := m) hg (by omega)
  · rename_i hg
    split
    · exact TickCase.rest (m := m) hg
    · rename_i c request hs
      exact TickCase.grant (m := m) hg (pending_of_select? hs)

/-- A cycle keeps an arbiter well-formed. -/
theorem WellFormed.tick (h : a.WellFormed) (m : M) : (a.tick m).1.WellFormed := by
  have hc := tick_case a m
  generalize a.tick m = s at hc ⊢
  cases hc with
  | rest hg => exact h
  | grant hg hp =>
    intro g hg'
    obtain rfl := Option.some.inj hg'
    exact PerClient.get_set_self _ _ _
  | @count g hg hr =>
    intro g' hg'
    obtain rfl := Option.some.inj hg'
    exact h g hg
  | perform hg hr =>
    intro g hg'
    cases hg'

/-- The access that the next cycle performs, with its client. -/
def performed? (a : Arbiter) : Option (Client × Request) :=
  a.due?.map fun g => (g.client, g.request)

/-- What a cycle does to the ports and the memory: nothing, or it grants a pending request, or it
performs a granted one. -/
inductive PortStep (p : Client → Port) (m : M) :
    Option (Client × Request) → (Client → Port) → M → Prop where
  /-- Nothing. -/
  | wait : PortStep p m none p m
  /-- A pending request is granted. -/
  | grant {c : Client} {request : Request} (h : p c = .pending request) :
    PortStep p m none (Function.update p c (.granted request)) m
  /-- A granted request is performed. -/
  | perform {c : Client} {request : Request} (h : p c = .granted request) :
    PortStep p m (some (c, request)) (Function.update p c (.ready (request.perform m).2))
      (request.perform m).1

/-- What a cycle does to one of the ports. -/
theorem PortStep.port_cases {p p' : Client → Port} {m m' : M}
    {performed : Option (Client × Request)} (h : PortStep p m performed p' m') (c : Client) :
    p' c = p c ∨ (∃ request, p c = .pending request ∧ p' c = .granted request)
      ∨ ∃ request, p c = .granted request ∧ p' c = .ready (request.perform m).2 := by
  cases h with
  | wait => exact .inl rfl
  | @grant d request hp =>
    by_cases hd : c = d
    · subst hd
      exact .inr (.inl ⟨request, hp, Function.update_self _ _ _⟩)
    · exact .inl (Function.update_of_ne hd _ _)
  | @perform d request hp =>
    by_cases hd : c = d
    · subst hd
      exact .inr (.inr ⟨request, hp, Function.update_self _ _ _⟩)
    · exact .inl (Function.update_of_ne hd _ _)

/-- A grant leaves the requests at the ports as they are. -/
theorem requests_grant {p : Client → Port} {request : Request} (h : p c = .pending request) :
    ((Function.update p c (.granted request)) d).requests = (p d).requests := by
  by_cases hd : d = c
  · subst hd
    rw [Function.update_self, h]
    rfl
  · rw [Function.update_of_ne hd]

/-- The ports after a pending request was granted. -/
theorem port_grant {request : Request} {n : Nat} {x : Option Client} {f : Client}
    {k : PerClient Nat} {o : Bool} (hg : a.grant = none) :
    port { a with
      slots := a.slots.set c .empty
      grant := some ⟨c, request, n⟩
      acknowledged := x
      favoured := f
      grants := k
      overflowed := o } = Function.update a.port c (.granted request) := by
  funext d
  by_cases hd : d = c
  · subst hd
    simp [port]
  · simp [port, hg, PerClient.get_set_of_ne _ hd, Function.update_of_ne hd, Ne.symm hd]

/-- The ports after the access of the grant was performed. -/
theorem port_perform {g : Grant} {response : Response} {x : Option Client} {n : Nat}
    (hg : a.grant = some g) :
    port { a with
      slots := a.slots.set g.client (.ready response)
      grant := none
      acknowledged := x
      busyCycles := n } = Function.update a.port g.client (.ready response) := by
  funext d
  by_cases hd : d = g.client
  · subst hd
    simp [port]
  · simp [port, hg, PerClient.get_set_of_ne _ hd, Function.update_of_ne hd, Ne.symm hd]

/-- The ports do not show how long a grant still lasts. -/
theorem port_count {g : Grant} {x : Option Client} {n k : Nat} (hg : a.grant = some g) :
    port { a with
      grant := some { g with remaining := n }
      acknowledged := x
      busyCycles := k } = a.port := by
  funext d
  simp [port, hg]

/-- A cycle of a well-formed arbiter as its ports show it. -/
theorem tick_portStep (h : a.WellFormed) (m : M) :
    PortStep a.port m a.performed? (a.tick m).1.port (a.tick m).2 := by
  have hc := tick_case a m
  unfold performed? due?
  generalize a.tick m = s at hc ⊢
  cases hc with
  | rest hg =>
    have hdue : a.grant.filter (·.remaining ≤ 1) = none := by rw [hg]; rfl
    rw [hdue]
    exact (PortStep.wait : PortStep a.port m none a.port m)
  | grant hg hp =>
    dsimp only
    rw [port_grant hg, hg]
    exact PortStep.grant (port_of_pending hp)
  | count hg hr =>
    dsimp only
    rw [port_count hg, hg, Option.filter_some_neg (by simpa using hr)]
    exact PortStep.wait
  | perform hg hr =>
    dsimp only
    rw [port_perform hg, hg, Option.filter_some_pos (by simpa using hr)]
    exact PortStep.perform (port_of_grant h hg)

/-- Without a request at a port there is none after a cycle of the arbiter. -/
theorem requests_tick (hw : a.WellFormed) (hp : (a.port c).requests = []) (m : M) :
    ((a.tick m).1.port c).requests = [] := by
  have hs := tick_portStep hw m
  rcases hs.port_cases c with heq | ⟨request, hpending, -⟩ | ⟨request, -, hready⟩
  · rw [heq]
    exact hp
  · rw [hpending] at hp
    cases hp
  · rw [hready]
    rfl

/-- A response that cannot be taken is not there. -/
theorem responses_of_take? (h : a.take? c = none) : (a.port c).responses = [] := by
  unfold take? at h
  unfold port
  cases hs : a.slots.get c with
  | empty =>
    dsimp only
    split
    · split <;> rfl
    · rfl
  | pending request => rfl
  | ready response => simp [hs] at h

/-- A free port takes a request. -/
theorem submit?_of_free (h : a.port c = .free) (request : Request) :
    ∃ a', a.submit? c request = some a' := by
  rw [← Option.isSome_iff_exists, a.isSome_submit?, a.isFree_iff]
  exact h

end Arbiter

end RasterGpu
