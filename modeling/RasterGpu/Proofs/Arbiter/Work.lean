import RasterGpu.Memory.Sdram
import RasterGpu.Proofs.Arbiter.Port

/-!
# What a client still has to do

A part of the device that uses the memory submits a request, waits, and goes on with the response.
While it waits the arbiter may perform the request at any time, and the part notices only later. To
compare such a part with a program that simply reads and writes, this file says at each moment what
the program would still do:

* `Trace` is a memory together with the accesses made to it so far, in order; it is what programs
  act on.
* `Work` is a program that is to run now, or one that waits for the response to a request.
  `Work.run` runs it, given how far the request has come: a request that has not been performed is
  performed first, a response that is ready is used as it is.
* `Work.Served` says that the ports of a part hold what it waits for and nothing else.

Granting a request changes nothing about the work that is left (`run_grant`), nor does anything that
happens to other ports (`run_foreign`), and performing a request moves it from the work that is left
to the accesses that have been made (`run_perform`).
-/

namespace RasterGpu

/-! ## Traces -/

/-- An access to memory, and the port it was made through. -/
structure Access where
  /-- The client. -/
  client : Client
  /-- What was read or written. -/
  request : Request
  deriving DecidableEq, Repr

/-- A memory and the accesses made to it so far. -/
structure Trace where
  /-- The accesses, oldest first. -/
  accesses : List Access
  /-- The memory. -/
  memory : Sdram

namespace Trace

/-- Reads a word. -/
def read (t : Trace) (c : Client) (address : Nat) : UInt16 × Trace :=
  (t.memory.read address, { t with accesses := t.accesses ++ [⟨c, .read address 1⟩] })

/-- Writes a word. -/
def write (t : Trace) (c : Client) (address : Nat) (word : UInt16) : Trace where
  accesses := t.accesses ++ [⟨c, .write address [word]⟩]
  memory := t.memory.write address word

/-- Performs a request. -/
def perform (t : Trace) (c : Client) (request : Request) : Response × Trace :=
  ((request.perform t.memory).2, ⟨t.accesses ++ [⟨c, request⟩], (request.perform t.memory).1⟩)

/-- A request for one word reads it. -/
theorem perform_read (t : Trace) (c : Client) (address : Nat) :
    t.perform c (.read address 1) = (⟨address, [(t.read c address).1]⟩, (t.read c address).2) := by
  have hf : t.memory.fetch address 1 = [t.memory.read address] := by
    rw [← t.memory.read_mod]
    rfl
  exact congrArg (fun data => ((⟨address, data⟩ : Response), (t.read c address).2)) hf

/-- A request to write one word writes it. -/
theorem perform_write (t : Trace) (c : Client) (address : Nat) (word : UInt16) :
    t.perform c (.write address [word]) = (⟨address, []⟩, t.write c address word) := by
  have hs : t.memory.store address [word] = t.memory.write address word := by
    rw [t.memory.store_cons]
    rfl
  exact congrArg (fun m => ((⟨address, []⟩ : Response), (⟨_, m⟩ : Trace))) hs

end Trace

/-! ## Work -/

/-- What a part of the device still has to do to memory. -/
inductive Work where
  /-- It runs a program. -/
  | now (rest : Trace → Trace)
  /-- It waits for the response to a request, and goes on with it. -/
  | await (c : Client) (request : Request) (resume : Response → Trace → Trace)

/-- What a port holds for a client that waits for a request to be answered, or for none. -/
inductive Port.Serves : Port → Option Request → Prop where
  /-- Nothing is waited for. -/
  | free : Serves .free none
  /-- The request is pending. -/
  | pending (request : Request) : Serves (.pending request) (some request)
  /-- The request is granted. -/
  | granted (request : Request) : Serves (.granted request) (some request)
  /-- The response is there. -/
  | ready (request : Request) (response : Response) : Serves (.ready response) (some request)

namespace Port.Serves

variable {p : Port} {request : Request} {outstanding : Option Request}

/-- A port where nothing is waited for is free. -/
theorem eq_free (h : p.Serves none) : p = .free := by
  cases h
  rfl

/-- A pending request is the one waited for. -/
theorem eq_of_pending (h : (Port.pending request).Serves outstanding) :
    outstanding = some request := by
  cases h
  rfl

/-- A granted request is the one waited for. -/
theorem eq_of_granted (h : (Port.granted request).Serves outstanding) :
    outstanding = some request := by
  cases h
  rfl

/-- A port keeps serving its client in a cycle of the arbiter. -/
theorem step {M : Type} [MemoryDevice M] {q q' : Client → Port} {m m' : M}
    {performed : Option (Client × Request)} (hs : Arbiter.PortStep q m performed q' m') {c : Client}
    (h : (q c).Serves outstanding) : (q' c).Serves outstanding := by
  rcases hs.port_cases c with heq | ⟨request, hp, hp'⟩ | ⟨request, hp, hp'⟩
  · rw [heq]
    exact h
  · rw [hp] at h
    rw [hp', h.eq_of_pending]
    exact .granted request
  · rw [hp] at h
    rw [hp', h.eq_of_granted]
    exact .ready request _

end Port.Serves

/-! ## Reading -/

/-- Whether a request reads. -/
def Request.isRead : Request → Bool
  | read _ _ => true
  | write _ _ => false

/-- Reading leaves the memory as it is. -/
theorem Request.perform_of_isRead {M : Type} [MemoryDevice M] (request : Request)
    (h : request.isRead = true) (m : M) : (request.perform m).1 = m := by
  cases request with
  | read address length => rfl
  | write address data => cases h

/-- A client at this port reads. -/
def Port.ReadsOnly (p : Port) : Prop :=
  ∀ request ∈ p.requests, request.isRead = true

/-- A client that reads has no other request after a cycle of the arbiter. -/
theorem Port.ReadsOnly.step {M : Type} [MemoryDevice M] {q q' : Client → Port} {m m' : M}
    {performed : Option (Client × Request)} (hs : Arbiter.PortStep q m performed q' m') {c : Client}
    (h : (q c).ReadsOnly) : (q' c).ReadsOnly := by
  rcases hs.port_cases c with heq | ⟨request, hp, hp'⟩ | ⟨request, hp, hp'⟩
  · rw [heq]
    exact h
  · rw [hp] at h
    rw [hp']
    exact h
  · rw [hp']
    exact fun _ hr => absurd hr List.not_mem_nil

/-! ## The work that is left -/

namespace Work

variable {p : Client → Port} {w : Work} {c : Client} {request : Request}

/-- Does the work that is left when the ports are as given. -/
def run (p : Client → Port) : Work → Trace → Trace
  | now rest, t => rest t
  | await c request resume, t =>
    match p c with
    | .ready response => resume response t
    | .free | .pending _ | .granted _ => resume (t.perform c request).1 (t.perform c request).2

/-- The request that is waited for at a port. -/
def request? : Work → Client → Option Request
  | now _, _ => none
  | await d request _, c => if c = d then some request else none

/-- Does `after` once the work is done. -/
def andThen (w : Work) (after : Trace → Trace) : Work :=
  match w with
  | now rest => now fun t => after (rest t)
  | await c request resume => await c request fun response t => after (resume response t)

/-- The ports of a part of the device hold what it waits for and nothing else. -/
def Served (mine : Client → Bool) (p : Client → Port) (w : Work) : Prop :=
  ∀ c, mine c = true → (p c).Serves (w.request? c)

/-- The part waits at its own ports only. -/
def Within (mine : Client → Bool) (w : Work) : Prop :=
  ∀ c, w.request? c ≠ none → mine c = true

@[simp] theorem run_now (p : Client → Port) (rest : Trace → Trace) (t : Trace) :
    (now rest).run p t = rest t := rfl

/-- What is to be done later is not waited for. -/
@[simp] theorem request?_andThen (w : Work) (after : Trace → Trace) :
    (w.andThen after).request? = w.request? := by
  cases w <;> rfl

/-- What is to be done later is done with what was done. -/
theorem run_andThen (w : Work) (after : Trace → Trace) (p : Client → Port) (t : Trace) :
    (w.andThen after).run p t = after (w.run p t) := by
  cases w with
  | now rest => rfl
  | await c request resume =>
    simp only [andThen, run]
    cases p c <;> rfl

/-- The work that is left depends on one port only. -/
theorem run_congr {p' : Client → Port} (h : ∀ c, w.request? c ≠ none → p' c = p c) (t : Trace) :
    w.run p' t = w.run p t := by
  cases w with
  | now rest => rfl
  | await c request resume =>
    have hc : p' c = p c := h c (by simp [request?])
    simp only [run, hc]

/-- A request that has not been performed is performed first. -/
theorem run_await (resume : Response → Trace → Trace) (hp : ∀ response, p c ≠ .ready response)
    (t : Trace) :
    (await c request resume).run p t = resume (t.perform c request).1 (t.perform c request).2 := by
  simp only [run]
  cases h : p c with
  | ready response => exact absurd h (hp response)
  | free => rfl
  | pending _ => rfl
  | granted _ => rfl

/-- A response that is ready is used. -/
theorem run_await_ready (resume : Response → Trace → Trace) {response : Response}
    (hp : p c = .ready response) (t : Trace) :
    (await c request resume).run p t = resume response t := by
  simp only [run, hp]

/-- A change at a port of another part does not change the work. -/
theorem run_foreign {mine : Client → Bool} (hm : w.Within mine) (hc : mine c = false) (x : Port)
    (t : Trace) : w.run (Function.update p c x) t = w.run p t := by
  refine run_congr (fun d hd => Function.update_of_ne ?_ _ _) t
  rintro rfl
  rw [hm d hd] at hc
  cases hc

/-- A grant does not change the work. -/
theorem run_grant (hp : p c = .pending request) (t : Trace) :
    w.run (Function.update p c (.granted request)) t = w.run p t := by
  cases w with
  | now rest => rfl
  | await d r resume =>
    by_cases hd : d = c
    · subst hd
      rw [run_await resume (by simp), run_await resume (by simp [hp])]
    · exact run_congr (fun e he => Function.update_of_ne (by
        rintro rfl
        simp [request?, Ne.symm hd] at he) _ _) t

/-- Performing the request that is waited for makes it part of what has been done. -/
theorem run_perform {mine : Client → Bool} (h : w.Served mine p) (hc : mine c = true)
    (hp : p c = .granted request) (t : Trace) :
    w.run (Function.update p c (.ready (t.perform c request).1)) (t.perform c request).2
      = w.run p t := by
  have hr : w.request? c = some request := by
    have hs := h c hc
    rw [hp] at hs
    exact hs.eq_of_granted
  cases w with
  | now rest => cases hr
  | await d r resume =>
    simp only [request?] at hr
    split at hr
    · rename_i hd
      subst hd
      obtain rfl := Option.some.inj hr
      rw [run_await_ready resume (Function.update_self _ _ _), run_await resume (by simp [hp])]
    · cases hr

/-- The ports keep serving a part in a cycle of the arbiter. -/
theorem Served.step {M : Type} [MemoryDevice M] {mine : Client → Bool} {p' : Client → Port}
    {m m' : M} {performed : Option (Client × Request)} (h : w.Served mine p)
    (hs : Arbiter.PortStep p m performed p' m') : w.Served mine p' :=
  fun c hc => (h c hc).step hs

/-- The accesses that a cycle of the arbiter makes through some of the ports. -/
def made (mine : Client → Bool) : Option (Client × Request) → List Access
  | some (c, request) => if mine c then [⟨c, request⟩] else []
  | none => []

/-- A cycle of the arbiter moves accesses from the work that is left to those that have been made,
if other clients read only. -/
theorem Served.run_step {mine : Client → Bool} {p' : Client → Port} {m' : Sdram}
    {performed : Option (Client × Request)} {t : Trace} (h : w.Served mine p)
    (hm : w.Within mine) (hs : Arbiter.PortStep p t.memory performed p' m')
    (hread : ∀ c, mine c = false → (p c).ReadsOnly) :
    w.run p' ⟨t.accesses ++ made mine performed, m'⟩ = w.run p t := by
  cases hs with
  | wait => rw [made, List.append_nil]
  | grant hp =>
    rw [made, List.append_nil]
    exact run_grant hp t
  | @perform c request hp =>
    cases hc : mine c with
    | true =>
      rw [made, if_pos hc]
      exact run_perform h hc hp t
    | false =>
      rw [made, hc, if_neg Bool.false_ne_true, List.append_nil, run_foreign hm hc]
      have hr : request.isRead = true :=
        hread c hc request (by rw [hp]; exact List.mem_singleton_self _)
      rw [request.perform_of_isRead hr]

/-! ## Moves -/

/-- The ports of a well-formed arbiter hold what a part of the device waits for. -/
structure Sound (mine : Client → Bool) (w : Work) (a : Arbiter) : Prop where
  /-- The arbiter is well-formed. -/
  wellFormed : a.WellFormed
  /-- The ports serve the part. -/
  served : w.Served mine a.port

/-- A part has moved on at its own ports, with the same work left to do. -/
structure Keeps (mine : Client → Bool) (w : Work) (a : Arbiter) (w' : Work) (a' : Arbiter) :
    Prop where
  /-- The ports hold what the part waits for now. -/
  sound : w'.Sound mine a'
  /-- Other ports are as they were. -/
  foreign : ∀ c, mine c = false → a'.port c = a.port c
  /-- The same work is left. -/
  run : ∀ t, w'.run a'.port t = w.run a.port t

variable {mine : Client → Bool} {a a' : Arbiter} {resume : Response → Trace → Trace}

/-- The ports keep serving a part when another one does something at its own. -/
theorem Sound.foreign (h : w.Sound mine a) (hw : a'.WellFormed) (hc : mine c = false) {x : Port}
    (hp : a'.port = Function.update a.port c x) : w.Sound mine a' := by
  refine ⟨hw, fun d hd => ?_⟩
  have hdc : d ≠ c := by
    rintro rfl
    rw [hd] at hc
    cases hc
  rw [hp, Function.update_of_ne hdc]
  exact h.served d hd

/-- A part may say the same work differently. -/
theorem Sound.keeps_now {before after : Trace → Trace} (h : (now before).Sound mine a)
    (heq : ∀ t, after t = before t) : (now before).Keeps mine a (now after) a where
  sound := ⟨h.wellFormed, h.served⟩
  foreign _ _ := rfl
  run := heq

/-- A part may submit the request that its work begins with. -/
theorem Sound.keeps_submit {before : Trace → Trace} (h : (now before).Sound mine a)
    (hc : mine c = true)
    (heq : ∀ t, before t = resume (t.perform c request).1 (t.perform c request).2)
    (hs : a.submit? c request = some a') :
    (now before).Keeps mine a (await c request resume) a' where
  sound := by
    refine ⟨h.wellFormed.submit? hs, fun d hd => ?_⟩
    rw [Arbiter.port_submit? hs]
    by_cases hdc : d = c
    · subst hdc
      rw [Function.update_self, request?, if_pos rfl]
      exact .pending request
    · rw [Function.update_of_ne hdc, request?, if_neg hdc]
      exact h.served d hd
  foreign d hd := by
    have hdc : d ≠ c := by
      rintro rfl
      rw [hc] at hd
      cases hd
    rw [Arbiter.port_submit? hs, Function.update_of_ne hdc]
  run t := by
    have hp : ∀ response, a'.port c ≠ .ready response := fun response => by
      rw [Arbiter.port_submit? hs, Function.update_self]
      simp
    rw [run_await resume hp, run_now, heq]

/-- A part may collect the response that it waits for, and go on with it. -/
theorem Sound.keeps_take {response : Response} (h : (await c request resume).Sound mine a)
    (hc : mine c = true) (ht : a.take? c = some (response, a')) :
    (await c request resume).Keeps mine a (now (resume response)) a' where
  sound := by
    refine ⟨h.wellFormed.take? ht, fun d hd => ?_⟩
    rw [Arbiter.port_take? h.wellFormed ht]
    by_cases hdc : d = c
    · subst hdc
      rw [Function.update_self]
      exact .free
    · have hs := h.served d hd
      rw [request?, if_neg hdc] at hs
      rw [Function.update_of_ne hdc]
      exact hs
  foreign d hd := by
    have hdc : d ≠ c := by
      rintro rfl
      rw [hc] at hd
      cases hd
    rw [Arbiter.port_take? h.wellFormed ht, Function.update_of_ne hdc]
  run t := by
    rw [run_await_ready resume (Arbiter.take?_eq_some ht).1, run_now]

/-- The ports serve work with something to be done later as they serve the work. -/
theorem sound_andThen {after : Trace → Trace} : (w.andThen after).Sound mine a ↔ w.Sound mine a := by
  constructor
  · rintro ⟨hw, hs⟩
    exact ⟨hw, fun c hc => request?_andThen w after ▸ hs c hc⟩
  · rintro ⟨hw, hs⟩
    refine ⟨hw, fun c hc => ?_⟩
    rw [request?_andThen]
    exact hs c hc

/-- A part that moves on may have something to do later. -/
theorem Keeps.andThen {w' : Work} (h : w.Keeps mine a w' a') (after : Trace → Trace) :
    (w.andThen after).Keeps mine a (w'.andThen after) a' where
  sound := sound_andThen.2 h.sound
  foreign := h.foreign
  run t := by rw [run_andThen, run_andThen, h.run]

/-- A part may stay as it is. -/
theorem Sound.keeps (h : w.Sound mine a) : w.Keeps mine a w a where
  sound := h
  foreign _ _ := rfl
  run _ := rfl

end Work

end RasterGpu
