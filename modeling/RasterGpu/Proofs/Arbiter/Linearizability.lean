import RasterGpu.Memory.Sdram
import RasterGpu.Proofs.Arbiter.Port

/-!
# Linearizability of the arbiter

A *session* is an arbiter, the device behind it, and a journal of what was seen: the requests that
were accepted, the responses that were collected, and the ticks at which a grant came up and went
away. Clients submit and collect as they like, and cycles come in between.

The serial device is `serve`: it takes requests one at a time, applies each write whole and answers
each read from the words that are there. The invariants say that the arbiter, whatever the calls,
cannot be told from it:

* `ExactlyOnce`: client by client, the requests that were served and the one still at the port are
  the accepted ones in order, and the responses collected and the one still at the port are the
  serial responses to those served;
* `Serial`: the device holds what serving the completed requests one after another leaves;
* `Timely`: completions follow grants one by one, each as many ticks after its grant as its counter
  says, and a grant is acknowledged at its own tick only. The counter is a 32-bit word: it says
  latency and beats if these fit into it (`Timely.exact`).

Each is kept by every call, hence holds after any sequence of them. `run_linearizable` puts them
together, and `early_completion` is a session in which a counter overflows.
-/

namespace RasterGpu

variable {M : Type} [MemoryDevice M]

/-! ## Lists of one client -/

/-- What belongs to one client in a list of all. -/
def ofClient {α : Type} (c : Client) (entries : List (Client × α)) : List α :=
  entries.filterMap fun e => if e.1 = c then some e.2 else none

/-- An entry added at the end comes last for its client, and the others do not see it. -/
theorem ofClient_concat {α : Type} (c d : Client) (entries : List (Client × α)) (x : α) :
    ofClient c (entries ++ [(d, x)]) = ofClient c entries ++ if d = c then [x] else [] := by
  unfold ofClient
  rw [List.filterMap_append]
  by_cases h : d = c <;> simp [h]

/-! ## The serial device -/

namespace MemoryDevice

/-- The device after the requests were served one at a time, and the responses with their
clients. -/
def serve (m : M) : List (Client × Request) → M × List (Client × Response)
  | [] => (m, [])
  | (c, .read address length) :: rest =>
    let (final, responses) := serve m rest
    (final, (c, ⟨address, fetch m address (max length 1)⟩) :: responses)
  | (c, .write address data) :: rest =>
    let (final, responses) := serve (store m address data) rest
    (final, (c, ⟨address, []⟩) :: responses)

/-- Serving a request is performing it. -/
theorem serve_cons (m : M) (c : Client) (request : Request) (rest : List (Client × Request)) :
    serve m ((c, request) :: rest) =
      ((serve (request.perform m).1 rest).1,
        (c, (request.perform m).2) :: (serve (request.perform m).1 rest).2) := by
  cases request <;> rfl

/-- A request added at the end is performed on what the others left. -/
theorem serve_concat (m : M) (requests : List (Client × Request)) (c : Client)
    (request : Request) :
    serve m (requests ++ [(c, request)]) =
      ((request.perform (serve m requests).1).1,
        (serve m requests).2 ++ [(c, (request.perform (serve m requests).1).2)]) := by
  induction requests generalizing m with
  | nil => rw [List.nil_append, serve_cons]; rfl
  | cons entry rest ih =>
    obtain ⟨d, r⟩ := entry
    rw [List.cons_append, serve_cons, serve_cons, ih]
    rfl

/-- Storing words leaves the latency. -/
theorem latency_store (m : M) (address : Nat) (data : List UInt16) :
    latency (store m address data) = latency m := by
  induction data generalizing m address with
  | nil => rfl
  | cons value rest ih => rw [store, ih, latency_write]

end MemoryDevice

/-- An access leaves the latency. -/
theorem Request.latency_perform (request : Request) (m : M) :
    MemoryDevice.latency (request.perform m).1 = MemoryDevice.latency m := by
  cases request with
  | read address length => rfl
  | write address data => exact MemoryDevice.latency_store m address data

/-- A transfer takes at least one cycle. -/
theorem Request.beats_pos (request : Request) : 0 < request.beats := by
  cases request with
  | read address length => simp only [beats]; omega
  | write address data => simp only [beats]; omega

/-- The counter of a grant says latency and beats if it can hold them. -/
theorem Request.cycles_of_lt (request : Request) {latency : Nat}
    (h : latency + request.beats < UInt32.size) :
    request.cycles latency = latency + request.beats :=
  Nat.mod_eq_of_lt h

/-! ## Journals -/

/-- A request whose grant came up, or went away, at a tick. -/
structure JournalEntry where
  /-- The client. -/
  client : Client
  /-- The request. -/
  request : Request
  /-- The tick, counted from one. -/
  tick : Nat
  deriving DecidableEq, Repr

/-- What was seen in a session. -/
structure Journal where
  /-- Ticks so far. -/
  ticks : Nat := 0
  /-- Requests accepted. -/
  accepted : List (Client × Request) := []
  /-- Responses collected. -/
  taken : List (Client × Response) := []
  /-- Grants that came up. -/
  granted : List JournalEntry := []
  /-- Grants that went away. -/
  completed : List JournalEntry := []
  deriving Repr

namespace Journal

variable {m₀ : M} {p : Client → Port} {j : Journal} {c : Client} {request : Request}

/-- The requests that were served. -/
def served (j : Journal) : List (Client × Request) :=
  j.completed.map fun e => (e.client, e.request)

/-- The journal after a request was accepted. -/
def accept (j : Journal) (c : Client) (request : Request) : Journal :=
  { j with accepted := j.accepted ++ [(c, request)] }

/-- The journal after a response was collected. -/
def collect (j : Journal) (c : Client) (response : Response) : Journal :=
  { j with taken := j.taken ++ [(c, response)] }

/-- The journal after a tick that led from one grant to another. -/
def tick (j : Journal) (before after : Option Grant) : Journal :=
  let now := j.ticks + 1
  match before, after with
  | none, some g =>
    { j with ticks := now, granted := j.granted ++ [⟨g.client, g.request, now⟩] }
  | some g, none =>
    { j with ticks := now, completed := j.completed ++ [⟨g.client, g.request, now⟩] }
  | _, _ => { j with ticks := now }

/-- Without a change of the grant only the tick is counted. -/
theorem tick_self (j : Journal) (g : Option Grant) :
    j.tick g g = { j with ticks := j.ticks + 1 } := by
  cases g <;> rfl

/-! ## Exactly once -/

/-- Client by client, requests and responses are those of the serial device, and none is lost or
served twice. -/
structure ExactlyOnce (m₀ : M) (p : Client → Port) (j : Journal) : Prop where
  /-- The requests served and the one at the port are those accepted. -/
  requests (c : Client) : ofClient c j.accepted = ofClient c j.served ++ (p c).requests
  /-- The responses collected and the one at the port are the serial ones. -/
  responses (c : Client) :
    ofClient c (MemoryDevice.serve m₀ j.served).2 = ofClient c j.taken ++ (p c).responses

/-- A request that is accepted on a free port is the last one accepted, and at the port. -/
theorem ExactlyOnce.accept (h : ExactlyOnce m₀ p j) (hc : p c = .free) (request : Request) :
    ExactlyOnce m₀ (Function.update p c (.pending request)) (j.accept c request) := by
  constructor
  · intro d
    have hd := h.requests d
    simp only [Journal.accept, ofClient_concat]
    rw [hd]
    by_cases heq : d = c
    · subst heq
      simp [hc, Port.requests, served]
    · simp [Function.update_of_ne heq, Ne.symm heq, served]
  · intro d
    refine (h.responses d).trans ?_
    by_cases heq : d = c
    · subst heq
      simp [hc, Port.responses, Journal.accept]
    · simp [Function.update_of_ne heq, Journal.accept]

/-- A response that is collected is the last one taken, and no longer at the port. -/
theorem ExactlyOnce.collect (h : ExactlyOnce m₀ p j) {response : Response}
    (hc : p c = .ready response) :
    ExactlyOnce m₀ (Function.update p c .free) (j.collect c response) := by
  constructor
  · intro d
    refine (h.requests d).trans ?_
    by_cases heq : d = c
    · subst heq
      simp [hc, Port.requests, Journal.collect, served]
    · simp [Function.update_of_ne heq, Journal.collect, served]
  · intro d
    simp only [Journal.collect, ofClient_concat]
    refine (h.responses d).trans ?_
    by_cases heq : d = c
    · subst heq
      simp [hc, Port.responses]
    · simp [Function.update_of_ne heq, Ne.symm heq]

/-- A grant moves a request, which stays at its port. -/
theorem ExactlyOnce.grant (h : ExactlyOnce m₀ p j) (hc : p c = .pending request) :
    ExactlyOnce m₀ (Function.update p c (.granted request)) j := by
  constructor
  · intro d
    rw [h.requests d]
    by_cases heq : d = c
    · subst heq
      simp [hc, Port.requests]
    · rw [Function.update_of_ne heq]
  · intro d
    rw [h.responses d]
    by_cases heq : d = c
    · subst heq
      simp [hc, Port.responses]
    · rw [Function.update_of_ne heq]

/-- A completed request leaves its port as the last one served, and its serial response comes. -/
theorem ExactlyOnce.perform (h : ExactlyOnce m₀ p j) (hc : p c = .granted request) (n : Nat) :
    ExactlyOnce m₀
      (Function.update p c (.ready (request.perform (MemoryDevice.serve m₀ j.served).1).2))
      { j with completed := j.completed ++ [⟨c, request, n⟩] } := by
  have hserved : served { j with completed := j.completed ++ [⟨c, request, n⟩] } =
      j.served ++ [(c, request)] := by
    simp [served]
  constructor
  · intro d
    rw [hserved, ofClient_concat]
    refine (h.requests d).trans ?_
    by_cases heq : d = c
    · subst heq
      simp [hc, Port.requests]
    · simp [Function.update_of_ne heq, Ne.symm heq]
  · intro d
    rw [hserved, MemoryDevice.serve_concat]
    simp only [ofClient_concat, h.responses d]
    by_cases heq : d = c
    · subst heq
      simp [hc, Port.responses]
    · simp [Function.update_of_ne heq, Ne.symm heq]

/-! ## In time -/

/-- Grants go away in the order they came up, each as many ticks later as its counter says, and each
is acknowledged at its own tick. -/
structure Timely (latency : Nat) (a : Arbiter) (j : Journal) : Prop where
  /-- All grants that came up went away, but the one in force. -/
  length : j.granted.length = j.completed.length + a.grant.toList.length
  /-- The grants that went away are the first that came up. Each lasts for the ticks that its counter
  says, and for one if it says none. -/
  timed (i : Nat) (g d : JournalEntry) : j.granted[i]? = some g → j.completed[i]? = some d →
    d.client = g.client ∧ d.request = g.request
      ∧ d.tick = g.tick + max (g.request.cycles latency) 1
  /-- The grant in force is the last that came up, and its time is not over. -/
  underway (g : Grant) : a.grant = some g → ∃ e, j.granted.getLast? = some e ∧
    e.client = g.client ∧ e.request = g.request ∧
    j.ticks + max g.remaining 1 = e.tick + max (e.request.cycles latency) 1
  /-- An overflow is told, and none that was not there. -/
  overflowed : a.overflowed = true ↔ ∃ e ∈ j.granted, e.request.overflows latency = true
  /-- No grant lies ahead. -/
  past (e : JournalEntry) : e ∈ j.granted → e.tick ≤ j.ticks
  /-- The client acknowledged is the one whose grant came up at the last tick. -/
  acknowledged (c : Client) :
    a.acknowledged = some c ↔ ∃ e ∈ j.granted, e.client = c ∧ e.tick = j.ticks

variable {latency : Nat} {a a' : Arbiter} {m : M}

/-- Nothing was granted before the first tick. -/
theorem Timely.start (latency : Nat) (policy : ArbiterPolicy) :
    Timely latency { policy } {} where
  length := rfl
  timed _ _ _ h := by cases h
  underway _ h := by cases h
  overflowed := by simp
  past _ h := by cases h
  acknowledged c := by simp

/-- **A grant lasts exactly for latency and beats**, if its counter can hold them. -/
theorem Timely.exact (h : Timely latency a j) {i : Nat} {g d : JournalEntry}
    (hg : j.granted[i]? = some g) (hd : j.completed[i]? = some d)
    (hfits : latency + g.request.beats < UInt32.size) :
    d.tick = g.tick + latency + g.request.beats := by
  obtain ⟨-, -, htick⟩ := h.timed i g d hg hd
  have hbeats := g.request.beats_pos
  rw [htick, g.request.cycles_of_lt hfits]
  omega

/-- Calls of clients leave the grant, and what the journal has of it. -/
theorem Timely.congr (h : Timely latency a j) {j' : Journal} (hg : a'.grant = a.grant)
    (ha : a'.acknowledged = a.acknowledged) (ho : a'.overflowed = a.overflowed)
    (ht : j'.ticks = j.ticks) (hgr : j'.granted = j.granted) (hco : j'.completed = j.completed) :
    Timely latency a' j' where
  length := by rw [hg, hgr, hco]; exact h.length
  timed := by rw [hgr, hco]; exact h.timed
  underway := by rw [hg, hgr, ht]; exact h.underway
  overflowed := by rw [ho, hgr]; exact h.overflowed
  past := by rw [hgr, ht]; exact h.past
  acknowledged := by rw [ha, hgr, ht]; exact h.acknowledged

/-- At a tick without a new grant none is acknowledged. -/
theorem Timely.not_acknowledged (h : Timely latency a j) (c : Client) :
    (none : Option Client) = some c ↔ ∃ e ∈ j.granted, e.client = c ∧ e.tick = j.ticks + 1 := by
  constructor
  · intro hc
    cases hc
  · rintro ⟨e, he, -, ht⟩
    have hp := h.past e he
    omega

/-- A grant comes up. -/
theorem Timely.grant (h : Timely latency a j) (hg : a.grant = none) {c : Client}
    {request : Request} (hg' : a'.grant = some ⟨c, request, request.cycles latency⟩)
    (ha' : a'.acknowledged = some c)
    (ho' : a'.overflowed = (a.overflowed || request.overflows latency)) :
    Timely latency a' (j.tick none a'.grant) := by
  have hlen : j.granted.length = j.completed.length := by
    simpa [hg] using h.length
  rw [hg']
  dsimp only [Journal.tick]
  constructor
  · simp [hlen, hg']
  · intro i g d hgi hdi
    have hi : i < j.granted.length := by
      rw [hlen]
      exact (List.getElem?_eq_some_iff.1 hdi).1
    rw [List.getElem?_append_left hi] at hgi
    exact h.timed i g d hgi hdi
  · intro g hg
    obtain rfl := Option.some.inj (hg'.symm.trans hg)
    exact ⟨⟨c, request, j.ticks + 1⟩, by simp, rfl, rfl, rfl⟩
  · simp [ho', h.overflowed, or_and_right, exists_or]
  · intro e he
    rcases List.mem_append.1 he with he | he
    · exact Nat.le_succ_of_le (h.past e he)
    · obtain rfl := List.mem_singleton.1 he
      exact Nat.le_refl _
  · intro d
    rw [ha']
    constructor
    · intro hd
      exact ⟨⟨c, request, j.ticks + 1⟩, by simp, Option.some.inj hd, rfl⟩
    · rintro ⟨e, he, rfl, ht⟩
      rcases List.mem_append.1 he with he | he
      · have hpast := h.past e he
        dsimp only at ht
        omega
      · rw [List.mem_singleton.1 he]

/-- A grant goes away. -/
theorem Timely.perform (h : Timely latency a j) {g : Grant} (hg : a.grant = some g)
    (hr : g.remaining ≤ 1) (hg' : a'.grant = none) (ha' : a'.acknowledged = none)
    (ho' : a'.overflowed = a.overflowed) : Timely latency a' (j.tick (some g) none) := by
  obtain ⟨e, hlast, hcl, hre, htime⟩ := h.underway g hg
  have hlen : j.granted.length = j.completed.length + 1 := by
    simpa [hg] using h.length
  dsimp only [Journal.tick]
  constructor
  · simpa [hg'] using hlen
  · intro i g' d hgi hdi
    by_cases hi : i < j.completed.length
    · rw [List.getElem?_append_left hi] at hdi
      exact h.timed i g' d hgi hdi
    · obtain ⟨hi', -⟩ := List.getElem?_eq_some_iff.1 hdi
      have heq : i = j.completed.length := by
        simp only [List.length_append, List.length_singleton] at hi'
        omega
      subst heq
      rw [List.getLast?_eq_getElem?, hlen, Nat.add_sub_cancel, hgi] at hlast
      obtain rfl := Option.some.inj hlast
      rw [List.getElem?_append_right (Nat.le_refl _), Nat.sub_self] at hdi
      obtain rfl := Option.some.inj hdi
      refine ⟨hcl.symm, hre.symm, ?_⟩
      show j.ticks + 1 = _
      omega
  · intro g' hg
    rw [hg'] at hg
    cases hg
  · rw [ho']
    exact h.overflowed
  · exact fun e he => Nat.le_succ_of_le (h.past e he)
  · rw [ha']
    exact h.not_acknowledged

/-- A cycle keeps grants in time. -/
theorem Timely.tick (h : Timely latency a j) (hm : MemoryDevice.latency m = latency) :
    Timely latency (a.tick m).1 (j.tick a.grant (a.tick m).1.grant) := by
  have hc := a.tick_case m
  generalize a.tick m = t at hc ⊢
  cases hc with
  | rest hg =>
    dsimp only
    rw [tick_self]
    exact
      { length := h.length
        timed := h.timed
        underway := fun g hg' => by rw [hg] at hg'; cases hg'
        overflowed := h.overflowed
        past := fun e he => Nat.le_succ_of_le (h.past e he)
        acknowledged := h.not_acknowledged }
  | @grant c request hg hp =>
    subst hm
    rw [hg]
    exact h.grant hg rfl rfl rfl
  | @count g hg hr =>
    obtain ⟨e, hlast, hcl, hre, htime⟩ := h.underway g hg
    rw [hg]
    dsimp only [Journal.tick]
    exact
      { length := by simpa [hg] using h.length
        timed := h.timed
        underway := fun g' hg' => by
          obtain rfl := Option.some.inj hg'
          refine ⟨e, hlast, hcl, hre, ?_⟩
          show j.ticks + 1 + max (g.remaining - 1) 1 = _
          omega
        overflowed := h.overflowed
        past := fun e he => Nat.le_succ_of_le (h.past e he)
        acknowledged := h.not_acknowledged }
  | perform hg hr =>
    rw [hg]
    exact h.perform hg hr rfl rfl rfl

end Journal

/-! ## Sessions -/

/-- A call of a client, or a cycle. -/
inductive ArbiterCall where
  /-- A client presents a request. -/
  | submit (client : Client) (request : Request)
  /-- A client asks for its response. -/
  | take (client : Client)
  /-- A cycle passes. -/
  | tick
  deriving DecidableEq, Repr

/-- An arbiter at work, with its device and its journal. -/
structure Session (M : Type) where
  /-- The arbiter. -/
  arbiter : Arbiter
  /-- The device. -/
  memory : M
  /-- What was seen. -/
  journal : Journal := {}

namespace Session

/-- A session that begins with the arbiter at rest. -/
def start (policy : ArbiterPolicy) (m : M) : Session M where
  arbiter := { policy }
  memory := m

/-- A client presents a request, and is told whether it was taken. -/
def submit (s : Session M) (c : Client) (request : Request) : Session M × Bool :=
  match s.arbiter.submit? c request with
  | some arbiter => ({ s with arbiter, journal := s.journal.accept c request }, true)
  | none => (s, false)

/-- A client asks for its response. -/
def take (s : Session M) (c : Client) : Session M × Option Response :=
  match s.arbiter.take? c with
  | some (response, arbiter) =>
    ({ s with arbiter, journal := s.journal.collect c response }, some response)
  | none => (s, none)

/-- A cycle passes. -/
def tick (s : Session M) : Session M where
  arbiter := (s.arbiter.tick s.memory).1
  memory := (s.arbiter.tick s.memory).2
  journal := s.journal.tick s.arbiter.grant (s.arbiter.tick s.memory).1.grant

/-- One call. -/
def step (s : Session M) : ArbiterCall → Session M
  | .submit c request => (s.submit c request).1
  | .take c => (s.take c).1
  | .tick => s.tick

/-- Calls one after the other. -/
def run (s : Session M) (calls : List ArbiterCall) : Session M :=
  calls.foldl step s

/-- What every call keeps, of a session that began with the device `m₀`. -/
structure Invariant (m₀ : M) (s : Session M) : Prop where
  /-- The arbiter is well-formed. -/
  wellFormed : s.arbiter.WellFormed
  /-- The latency is the one at the start. -/
  latency : MemoryDevice.latency s.memory = MemoryDevice.latency m₀
  /-- The device holds what serving the completed requests one after another leaves. -/
  serial : s.memory = (MemoryDevice.serve m₀ s.journal.served).1
  /-- Requests and responses are those of the serial device. -/
  exactlyOnce : s.journal.ExactlyOnce m₀ s.arbiter.port
  /-- Grants are in time. -/
  timely : s.journal.Timely (MemoryDevice.latency m₀) s.arbiter

variable {m₀ : M} {s : Session M}

/-- The invariant holds at the start. -/
theorem Invariant.start (policy : ArbiterPolicy) (m : M) : Invariant m (start policy m) where
  wellFormed _ hg := by cases hg
  latency := rfl
  serial := rfl
  exactlyOnce := ⟨fun c => by cases c <;> rfl, fun c => by cases c <;> rfl⟩
  timely := .start _ policy

/-- A submitted request keeps the invariant. -/
theorem Invariant.submit (h : Invariant m₀ s) (c : Client) (request : Request) :
    Invariant m₀ (s.submit c request).1 := by
  unfold Session.submit
  split
  · rename_i a ha
    obtain ⟨hfree, heq⟩ := Arbiter.submit?_eq_some ha
    exact
      { wellFormed := h.wellFormed.submit? ha
        latency := h.latency
        serial := h.serial
        exactlyOnce := by
          dsimp only
          rw [Arbiter.port_submit? ha]
          exact h.exactlyOnce.accept hfree request
        timely := h.timely.congr (by rw [heq]) (by rw [heq]) (by rw [heq]) rfl rfl rfl }
  · exact h

/-- A collected response keeps the invariant. -/
theorem Invariant.take (h : Invariant m₀ s) (c : Client) : Invariant m₀ (s.take c).1 := by
  unfold Session.take
  split
  · rename_i response a ha
    obtain ⟨hready, heq⟩ := Arbiter.take?_eq_some ha
    exact
      { wellFormed := h.wellFormed.take? ha
        latency := h.latency
        serial := h.serial
        exactlyOnce := by
          dsimp only
          rw [Arbiter.port_take? h.wellFormed ha]
          exact h.exactlyOnce.collect hready
        timely := h.timely.congr (by rw [heq]) (by rw [heq]) (by rw [heq]) rfl rfl rfl }
  · exact h

/-- A cycle keeps the invariant. -/
theorem Invariant.tick (h : Invariant m₀ s) : Invariant m₀ s.tick := by
  have htimely := h.timely.tick h.latency
  have hwf := h.wellFormed.tick s.memory
  have hc := s.arbiter.tick_case s.memory
  unfold Session.tick
  generalize s.arbiter.tick s.memory = t at hc htimely hwf ⊢
  cases hc with
  | rest hg =>
    refine ⟨hwf, h.latency, ?_, ?_, htimely⟩ <;> dsimp only <;> rw [Journal.tick_self]
    · exact h.serial
    · exact ⟨h.exactlyOnce.requests, h.exactlyOnce.responses⟩
  | grant hg hp =>
    refine ⟨hwf, h.latency, ?_, ?_, htimely⟩ <;> dsimp only <;> rw [hg]
    · exact h.serial
    · rw [Arbiter.port_grant hg]
      have hex := h.exactlyOnce.grant (Arbiter.port_of_pending hp)
      exact ⟨hex.requests, hex.responses⟩
  | count hg hr =>
    refine ⟨hwf, h.latency, ?_, ?_, htimely⟩ <;> dsimp only <;> rw [hg]
    · exact h.serial
    · rw [Arbiter.port_count hg]
      exact ⟨h.exactlyOnce.requests, h.exactlyOnce.responses⟩
  | @perform g hg hr =>
    have hserved : Journal.served (s.journal.tick (some g) none) =
        s.journal.served ++ [(g.client, g.request)] := by
      simp [Journal.served, Journal.tick]
    refine ⟨hwf, ?_, ?_, ?_, htimely⟩ <;> dsimp only
    · rw [g.request.latency_perform, h.latency]
    · rw [hg, hserved, MemoryDevice.serve_concat, ← h.serial]
    · rw [hg, Arbiter.port_perform hg]
      have hex := h.exactlyOnce.perform (Arbiter.port_of_grant h.wellFormed hg)
        (s.journal.ticks + 1)
      rw [← h.serial] at hex
      exact ⟨hex.requests, hex.responses⟩

/-- Every call keeps the invariant. -/
theorem Invariant.step (h : Invariant m₀ s) (call : ArbiterCall) : Invariant m₀ (s.step call) := by
  cases call with
  | submit c request => exact h.submit c request
  | take c => exact h.take c
  | tick => exact h.tick

/-- Any calls keep the invariant. -/
theorem Invariant.run (h : Invariant m₀ s) (calls : List ArbiterCall) :
    Invariant m₀ (s.run calls) := by
  induction calls generalizing s with
  | nil => exact h
  | cons call rest ih => exact ih (h.step call)

omit [MemoryDevice M] in
/-- A request is taken exactly on a free port, and otherwise nothing changes. -/
theorem submit_free (s : Session M) (c : Client) (request : Request) :
    (s.submit c request).2 = s.arbiter.isFree c ∧
      (s.arbiter.isFree c = false → (s.submit c request).1 = s) := by
  have hsome := s.arbiter.isSome_submit? c request
  unfold submit
  split
  · rename_i a ha
    rw [ha] at hsome
    exact ⟨hsome, fun hf => by rw [hf] at hsome; cases hsome⟩
  · rename_i ha
    rw [ha] at hsome
    exact ⟨hsome, fun _ => rfl⟩

/-- **Linearizability.** After any calls on an arbiter that began at rest, with any policy and any
device: each port is in exactly one of its four states, and takes a request exactly if it is free;
client by client, the requests accepted are served once each, in order, and answered as the serial
device answers them; the device holds what serving the completed requests one after another leaves;
and grants go away in the order they came up, each acknowledged at its own tick only, and each as
many ticks later as its counter says. That is exactly latency and beats if a word of 32 bits can hold
them. -/
theorem run_linearizable (policy : ArbiterPolicy) (m : M) (calls : List ArbiterCall) :
    let s := (start policy m).run calls
    let latency := MemoryDevice.latency m
    (∀ c, (s.arbiter.isFree c).toNat + (s.arbiter.isPending c).toNat
      + (s.arbiter.isGranted c).toNat + (s.arbiter.response? c).isSome.toNat = 1) ∧
    (∀ c request, (s.submit c request).2 = s.arbiter.isFree c ∧
      (s.arbiter.isFree c = false → (s.submit c request).1 = s)) ∧
    s.journal.ExactlyOnce m s.arbiter.port ∧
    s.memory = (MemoryDevice.serve m s.journal.served).1 ∧
    s.journal.Timely latency s.arbiter ∧
    ∀ (i : Nat) (g d : JournalEntry), s.journal.granted[i]? = some g →
      s.journal.completed[i]? = some d → latency + g.request.beats < UInt32.size →
      d.tick = g.tick + latency + g.request.beats := by
  intro s latency
  have h : Invariant m s := (Invariant.start policy m).run calls
  exact ⟨h.wellFormed.one_state, s.submit_free, h.exactlyOnce, h.serial, h.timely,
    fun i g d hg hd hfits => h.timely.exact hg hd hfits⟩

/-- **A counter that overflows ends too early.** The latency of the memory is the largest that a
word can hold. A word that is read should come 2^32 ticks after the grant; it comes after one. -/
theorem early_completion :
    let m := Sdram.zeroed 16 4294967295
    let s := (start .fixedPriority m).run [.submit .engine (.read 0 1), .tick, .tick]
    s.arbiter.overflowed = true ∧ ∃ g d : JournalEntry,
      s.journal.granted[0]? = some g ∧ s.journal.completed[0]? = some d
        ∧ d.tick = g.tick + 1 ∧ d.tick ≠ g.tick + MemoryDevice.latency m + g.request.beats := by
  intro m s
  exact ⟨by decide +kernel, ⟨.engine, .read 0 1, 1⟩, ⟨.engine, .read 0 1, 2⟩, by decide +kernel,
    by decide +kernel, rfl, by decide +kernel⟩

end Session

end RasterGpu
