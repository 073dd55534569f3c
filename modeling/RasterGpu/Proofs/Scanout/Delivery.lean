import RasterGpu.Proofs.Scanout.Bursts

/-!
# What the prefetcher delivers

The prefetcher, the arbiter and whoever takes words out of the buffer move independently here, a
frame may start at any time, and any number of times while one burst is on its way, and the other
clients of the memory do what they like.

* `PrefetchBench` is the prefetcher at an arbiter and a memory, with the requests of the frame, the
  words that were taken out since it started, and a record of every burst that came (`Landing`): in
  which frame it was asked for and in which it came.
* `PrefetchBench.Invariant` links these to the cursor, the buffer and the counters, whatever happens
  to the memory (`Invariant.act`).
* `PrefetchBench.Delivers` says which words were taken out, as long as the memory stays as it is
  (`Delivers.run`).

`PrefetchBench.run_delivers` follows for every run.
-/

namespace RasterGpu

/-- The addresses of the words that a request reads. -/
def Request.addresses : Request → List Nat
  | request@(read address _) => List.range' address request.beats
  | write _ _ => []

/-- As many words come back as a request reads. -/
theorem Request.length_perform (request : Request) (m : Sdram) :
    (request.perform m).2.data.length = request.addresses.length := by
  cases request with
  | read address length =>
    rw [addresses, List.length_range']
    exact m.length_fetch address _
  | write address data => rfl

/-- How many words the request at a port reads, or its response has. -/
def Port.words : Port → Nat
  | free => 0
  | pending request | granted request => request.addresses.length
  | ready response => response.data.length

/-- A port that is in use and has no response has a request. -/
theorem Port.requests_ne_nil {q : Port} (hq : q ≠ .free) (hr : q.responses = []) :
    q.requests ≠ [] := by
  cases q with
  | free => exact absurd rfl hq
  | pending request => exact List.cons_ne_nil _ _
  | granted request => exact List.cons_ne_nil _ _
  | ready response => cases hr

/-- A cycle of the arbiter changes nothing about how many words a port is about, nor whether it is
free. -/
theorem Arbiter.PortStep.words_eq {p p' : Client → Port} {m m' : Sdram}
    {performed : Option (Client × Request)} (h : PortStep p m performed p' m') (c : Client) :
    (p' c).words = (p c).words ∧ (p' c = .free ↔ p c = .free) := by
  rcases h.port_cases c with heq | ⟨request, hp, hp'⟩ | ⟨request, hp, hp'⟩
  · rw [heq]
    exact ⟨rfl, Iff.rfl⟩
  · rw [hp, hp']
    exact ⟨rfl, by simp⟩
  · rw [hp, hp']
    exact ⟨request.length_perform m, by simp⟩

/-- Taking one entry is taking up to one. -/
theorem Queue.popMany_one {α : Type} (q : Queue α) :
    q.popMany 1 = match q.pop? with
      | some (entry, rest) => ([entry], rest)
      | none => ([], q) := by
  rw [popMany]
  cases q.pop? with
  | none => rfl
  | some pair => rfl

/-! ## The bench -/

/-- A burst that came. -/
structure Landing where
  /-- The frame in which it was asked for. -/
  asked : Nat
  /-- The frame in which it came. -/
  landed : Nat
  /-- The response. -/
  response : Response

/-- Whether a frame has started since the burst was asked for. -/
def Landing.isStale (l : Landing) : Bool :=
  l.asked != l.landed

/-- A client beside scanout. -/
abbrev Neighbour := { c : Client // c ≠ .display }

/-- The prefetcher at an arbiter and a memory. -/
structure PrefetchBench where
  /-- The prefetcher. -/
  prefetcher : Prefetcher
  /-- The arbiter. -/
  arbiter : Arbiter
  /-- The memory. -/
  memory : Sdram
  /-- How many frames have started. -/
  frame : Nat := 0
  /-- The surface of this frame. -/
  surface : DisplaySurface := {}
  /-- The rows of this frame. -/
  rows : Nat := 0
  /-- The words that were taken out in this frame, oldest first. -/
  popped : List UInt16 := []
  /-- The requests of this frame, oldest first. -/
  asked : List Request := []
  /-- The frame in which the last burst was asked for. -/
  flown : Nat := 0
  /-- The bursts that came, oldest first. -/
  landed : List Landing := []

namespace PrefetchBench

/-- What can happen on the bench. -/
inductive Act where
  /-- A cycle of the arbiter. -/
  | serve
  /-- A cycle of the prefetcher. -/
  | tick
  /-- A word is taken out of the buffer. -/
  | pop
  /-- A frame starts. -/
  | startFrame (surface : DisplaySurface) (rows : Nat)
  /-- Another client presents a request. -/
  | submit (neighbour : Neighbour) (request : Request)
  /-- Another client collects its response. -/
  | collect (neighbour : Neighbour)

/-- The bench at rest. -/
def start (capacity burst : Nat) (policy : ArbiterPolicy) (memory : Sdram) : PrefetchBench where
  prefetcher := .ofCapacity capacity burst
  arbiter := { policy }
  memory := memory

/-- The port of scanout. -/
def port (b : PrefetchBench) : Port := b.arbiter.port .display

/-- The request that a cycle of the prefetcher puts at its port, which is `port` after the cycle. -/
def fresh (b : PrefetchBench) (port : Port) : List Request :=
  if b.port.requests = [] then port.requests else []

/-- The response that a cycle of the prefetcher takes from its port, which is `port` after the
cycle. -/
def taken (b : PrefetchBench) (port : Port) : List Landing :=
  if port.responses = [] then b.port.responses.map (⟨b.flown, b.frame, ·⟩) else []

/-- A cycle of the prefetcher. -/
def tick (b : PrefetchBench) : PrefetchBench :=
  let (prefetcher, arbiter) := b.prefetcher.tick b.arbiter
  let fresh := b.fresh (arbiter.port .display)
  { b with
    prefetcher
    arbiter
    asked := b.asked ++ fresh
    flown := if fresh = [] then b.flown else b.frame
    landed := b.landed ++ b.taken (arbiter.port .display) }

/-- Lets something happen. An empty buffer has no word, a request on an occupied slot is refused,
and a response that is not there is not collected. -/
def act (b : PrefetchBench) : Act → PrefetchBench
  | .serve =>
    let (arbiter, memory) := b.arbiter.tick b.memory
    { b with arbiter, memory }
  | .tick => b.tick
  | .pop =>
    match b.prefetcher.buffer.pop? with
    | some (word, buffer) =>
      { b with prefetcher := { b.prefetcher with buffer }, popped := b.popped ++ [word] }
    | none => b
  | .startFrame surface rows =>
    { b with
      prefetcher := b.prefetcher.startFrame surface rows
      frame := b.frame + 1
      surface
      rows
      popped := []
      asked := [] }
  | .submit neighbour request =>
    match b.arbiter.submit? neighbour request with
    | some arbiter => { b with arbiter }
    | none => b
  | .collect neighbour =>
    match b.arbiter.take? neighbour with
    | some (_, arbiter) => { b with arbiter }
    | none => b

/-- Lets things happen, one after the other. -/
def run (b : PrefetchBench) (acts : List Act) : PrefetchBench := acts.foldl act b

/-- Words of this frame that are on their way. -/
def inFlight (b : PrefetchBench) : Nat :=
  if b.flown = b.frame then b.port.words else 0

/-- The words of the bursts that were asked for in this frame and came. -/
def fetched (b : PrefetchBench) : List UInt16 :=
  Response.words ((b.landed.filter (·.asked = b.frame)).map Landing.response)

/-! ## The invariant -/

/-- What the prefetcher knows of the burst on its way, given in which frame it was asked for. -/
inductive Aloft (flown frame : Nat) : BurstState → Port → Prop where
  /-- None is. -/
  | none : Aloft flown frame .none .free
  /-- One of this frame is. -/
  | awaited {q : Port} (hf : flown = frame) (hq : q ≠ .free) : Aloft flown frame .awaited q
  /-- One of an earlier frame is. -/
  | stale {q : Port} (hf : flown < frame) (hq : q ≠ .free) : Aloft flown frame .stale q

/-- The prefetcher knows whether a burst is on its way. -/
theorem Aloft.free_iff {flown frame : Nat} {flight : BurstState} {q : Port}
    (h : Aloft flown frame flight q) : flight = .none ↔ q = .free := by
  cases h with
  | none => exact ⟨fun _ => rfl, fun _ => rfl⟩
  | awaited _ hq => exact ⟨BurstState.noConfusion, fun hfree => absurd hfree hq⟩
  | stale _ hq => exact ⟨BurstState.noConfusion, fun hfree => absurd hfree hq⟩

/-- What holds on the bench at all times, if the buffer has the given capacity. -/
structure Invariant (capacity : Nat) (b : PrefetchBench) : Prop where
  /-- The arbiter is well-formed. -/
  wellFormed : b.arbiter.WellFormed
  /-- The capacity of the buffer does not change. -/
  capacity_eq : b.prefetcher.capacity = capacity
  /-- The prefetcher reads the surface of the frame. -/
  surface_eq : b.prefetcher.surface = b.surface
  /-- All rows of it. -/
  extent_eq : b.prefetcher.extent = b.surface.width * b.rows
  /-- The words that came in this frame were taken out or are in the buffer. -/
  words : b.popped ++ b.prefetcher.buffer.toList = b.fetched
  /-- The words of the surface are asked for in order. -/
  addresses : b.asked.flatMap Request.addresses
    = List.range' b.prefetcher.start b.prefetcher.cursor
  /-- None past the surface is. -/
  cursor_le : b.prefetcher.cursor ≤ b.prefetcher.extent
  /-- What was asked for was taken out, is in the buffer or is on its way. -/
  reached : b.popped.length + b.prefetcher.buffer.size + b.inFlight = b.prefetcher.cursor
  /-- The buffer has room for what is on its way. -/
  room : b.prefetcher.buffer.size + b.inFlight ≤ b.prefetcher.capacity
  /-- What is on its way. -/
  aloft : Aloft b.flown b.frame b.prefetcher.flight b.port
  /-- A burst came no earlier than it was asked for. -/
  frames : ∀ l ∈ b.landed, l.asked ≤ l.landed ∧ l.landed ≤ b.frame
  /-- The bursts that were dropped are those that came in a later frame. -/
  dropped : b.prefetcher.stats.staleDropped = b.landed.countP Landing.isStale
  /-- The bursts that were asked for came, up to one that is on its way. -/
  bursts : b.prefetcher.stats.bursts = b.landed.length + (b.port != .free).toNat

variable {b : PrefetchBench} {capacity : Nat}

/-- At the start nothing has been asked for. -/
theorem start_invariant (capacity burst : Nat) (policy : ArbiterPolicy) (memory : Sdram) :
    (start capacity burst policy memory).Invariant (max capacity (max burst 1)) where
  wellFormed := Arbiter.WellFormed.of_no_grant rfl
  capacity_eq := rfl
  surface_eq := rfl
  extent_eq := rfl
  words := rfl
  addresses := rfl
  cursor_le := Nat.le_refl 0
  reached := rfl
  room := Nat.zero_le _
  aloft := .none
  frames _ hl := absurd hl List.not_mem_nil
  dropped := rfl
  bursts := rfl

/-- The surface is where the frame has it. -/
theorem Invariant.start_eq (h : b.Invariant capacity) :
    b.prefetcher.start = surfaceStart b.surface.base := by
  rw [Prefetcher.start, h.surface_eq]

/-! ## Cycles of the arbiter, and what the other clients do -/

/-- A change that leaves scanout's port as free as it was and about as many words keeps the
invariant. -/
theorem Invariant.arbiter (h : b.Invariant capacity) {arbiter : Arbiter} (hw : arbiter.WellFormed)
    (hwords : (arbiter.port .display).words = b.port.words)
    (hfree : arbiter.port .display = .free ↔ b.port = .free) (memory : Sdram) :
    { b with arbiter, memory }.Invariant capacity := by
  have hflight : inFlight { b with arbiter, memory } = b.inFlight := by
    unfold inFlight
    rw [← hwords]
    rfl
  refine { h with wellFormed := hw, reached := ?_, room := ?_, aloft := ?_, bursts := ?_ }
  · rw [hflight]
    exact h.reached
  · rw [hflight]
    exact h.room
  · have haloft := h.aloft
    change Aloft b.flown b.frame b.prefetcher.flight (arbiter.port .display)
    generalize b.prefetcher.flight = flight, b.port = q at haloft hfree ⊢
    cases haloft with
    | none =>
      rw [hfree.2 rfl]
      exact .none
    | awaited hf hq => exact .awaited hf (mt hfree.1 hq)
    | stale hf hq => exact .stale hf (mt hfree.1 hq)
  · have hbusy : (arbiter.port .display != .free) = (b.port != .free) := by
      rw [Bool.eq_iff_iff, bne_iff_ne, bne_iff_ne]
      exact not_congr hfree
    rw [h.bursts, ← hbusy]
    rfl

/-- A cycle of the arbiter. -/
theorem Invariant.serve (h : b.Invariant capacity) : (b.act .serve).Invariant capacity := by
  obtain ⟨hwords, hfree⟩ :=
    (Arbiter.tick_portStep h.wellFormed b.memory).words_eq .display
  exact h.arbiter (h.wellFormed.tick b.memory) hwords hfree _

/-- Another client does something at its port. -/
theorem Invariant.foreign (h : b.Invariant capacity) {arbiter : Arbiter} (hw : arbiter.WellFormed)
    (hp : arbiter.port .display = b.port) : { b with arbiter }.Invariant capacity :=
  h.arbiter hw (congrArg Port.words hp) (by rw [hp]) b.memory

/-! ## Cycles of the prefetcher -/

/-- The next burst is asked for, if the surface has more words and the buffer room for them. -/
def ask (b : PrefetchBench) : PrefetchBench :=
  let (prefetcher, arbiter) := b.prefetcher.advance b.arbiter
  { b with
    prefetcher
    arbiter
    asked := b.asked ++ (arbiter.port .display).requests
    flown := if (arbiter.port .display).requests = [] then b.flown else b.frame }

/-- A response is collected, which leaves the arbiter as given. -/
def land (b : PrefetchBench) (response : Response) (arbiter : Arbiter) : PrefetchBench :=
  { b with
    prefetcher := b.prefetcher.collect response
    arbiter
    landed := b.landed ++ [⟨b.flown, b.frame, response⟩] }

/-- While nothing is on its way, the next burst is asked for. -/
theorem Invariant.ask (h : b.Invariant capacity) (hfree : b.port = .free) :
    b.ask.Invariant capacity := by
  have hnone : b.inFlight = 0 := by
    rw [inFlight, hfree]
    exact ite_self 0
  rcases b.prefetcher.advance_cases b.arbiter with
    hsame | ⟨count, a', hcount, hle, hroom, hs, hmore⟩
  · have hask : b.ask = b := by
      unfold PrefetchBench.ask
      rw [hsame]
      change { b with
        asked := b.asked ++ b.port.requests
        flown := if b.port.requests = [] then b.flown else b.frame } = b
      rw [hfree]
      change { b with asked := b.asked ++ [] } = b
      rw [List.append_nil]
    rw [hask]
    exact h
  · have hport : a'.port .display
        = .pending (.read (b.prefetcher.start + b.prefetcher.cursor) count) := by
      rw [Arbiter.port_submit? hs, Function.update_self]
    have hask : b.ask = { b with
        prefetcher := { b.prefetcher with
          cursor := b.prefetcher.cursor + count
          flight := .awaited
          stats.bursts := b.prefetcher.stats.bursts + 1 }
        arbiter := a'
        asked := b.asked ++ [.read (b.prefetcher.start + b.prefetcher.cursor) count]
        flown := b.frame } := by
      unfold PrefetchBench.ask
      rw [hmore]
      dsimp only
      rw [hport]
      rfl
    have haddresses : (Request.read (b.prefetcher.start + b.prefetcher.cursor) count).addresses
        = List.range' (b.prefetcher.start + b.prefetcher.cursor) count :=
      congrArg (List.range' _) (Nat.max_eq_left (Nat.one_le_iff_ne_zero.2 hcount))
    have hflight : b.ask.inFlight = count := by
      rw [hask, inFlight, if_pos rfl]
      dsimp only [port]
      rw [hport, Port.words, haddresses, List.length_range']
    have hreached := h.reached
    have hbursts := h.bursts
    rw [hfree] at hbursts
    rw [hask] at hflight ⊢
    refine { h with
      wellFormed := h.wellFormed.submit? hs
      addresses := ?_
      cursor_le := hle
      reached := ?_
      room := ?_
      aloft := .awaited rfl ?_
      bursts := ?_ }
    · rw [List.flatMap_append, h.addresses, List.flatMap_singleton, haddresses]
      exact List.range'_append_1
    · rw [hflight]
      dsimp only
      omega
    · rw [hflight]
      exact hroom
    · dsimp only [port]
      rw [hport]
      exact Port.noConfusion
    · dsimp only [port]
      rw [hport, hbursts]
      rfl

/-- A burst adds its words to those of the frame, if it was asked for in the frame. -/
theorem fetched_append (b : PrefetchBench) (l : Landing) :
    fetched { b with landed := b.landed ++ [l] }
      = b.fetched ++ if l.asked = b.frame then l.response.data else [] := by
  unfold fetched Response.words
  dsimp only
  rw [List.filter_append, List.map_append, List.flatMap_append]
  by_cases hl : l.asked = b.frame
  · simp [hl]
  · simp [hl]

/-- A record of a burst that comes now. -/
theorem Invariant.frames_append (h : b.Invariant capacity) (response : Response)
    (hf : b.flown ≤ b.frame) :
    ∀ l ∈ b.landed ++ [⟨b.flown, b.frame, response⟩], l.asked ≤ l.landed ∧ l.landed ≤ b.frame := by
  intro l hl
  rcases List.mem_append.1 hl with hl | hl
  · exact h.frames l hl
  · obtain rfl := List.mem_singleton.1 hl
    exact ⟨hf, Nat.le_refl _⟩

/-- The burst that is on its way comes, and nothing is on its way after. -/
theorem Invariant.land (h : b.Invariant capacity) {response : Response} {arbiter : Arbiter}
    (ht : b.arbiter.take? .display = some (response, arbiter)) :
    (b.land response arbiter).Invariant capacity ∧ (b.land response arbiter).port = .free := by
  have hready : b.port = .ready response := (Arbiter.take?_eq_some ht).1
  have hfree : arbiter.port .display = .free := by
    rw [Arbiter.port_take? h.wellFormed ht, Function.update_self]
  refine ⟨?_, hfree⟩
  have hnone : (b.land response arbiter).inFlight = 0 := by
    change (if b.flown = b.frame then (arbiter.port .display).words else 0) = 0
    rw [hfree]
    exact ite_self 0
  have hflown : b.inFlight = if b.flown = b.frame then response.data.length else 0 := by
    rw [inFlight, hready]
    rfl
  have hbursts : b.prefetcher.stats.bursts
      = (b.landed ++ [(⟨b.flown, b.frame, response⟩ : Landing)]).length
        + (arbiter.port .display != .free).toNat := by
    rw [hfree, h.bursts, hready, List.length_append]
    rfl
  have hwords := b.fetched_append ⟨b.flown, b.frame, response⟩
  have hreached := h.reached
  have hroom := h.room
  have haloft := h.aloft
  rw [hready] at haloft
  unfold PrefetchBench.land at hnone ⊢
  generalize hflight : b.prefetcher.flight = flight at haloft
  cases haloft with
  | awaited hf hq =>
    have hsize := b.prefetcher.buffer.size_pushMany response.data
    rw [if_pos hf] at hflown hwords
    rw [Prefetcher.collect_of_awaited hflight] at hnone ⊢
    refine { h with
      wellFormed := h.wellFormed.take? ht
      words := ?_
      reached := ?_
      room := ?_
      aloft := ?_
      frames := h.frames_append response (Nat.le_of_eq hf)
      dropped := ?_
      bursts := hbursts }
    · refine Eq.trans ?_ hwords.symm
      rw [← h.words, List.append_assoc, Queue.toList_pushMany]
    · rw [hnone]
      dsimp only
      omega
    · rw [hnone]
      dsimp only
      omega
    · dsimp only [port]
      rw [hfree]
      exact .none
    · rw [List.countP_append, List.countP_singleton, if_neg]
      · exact h.dropped
      · simp [Landing.isStale, hf]
  | stale hf hq =>
    rw [if_neg (Nat.ne_of_lt hf)] at hflown hwords
    rw [Prefetcher.collect_of_stale hflight] at hnone ⊢
    refine { h with
      wellFormed := h.wellFormed.take? ht
      words := ?_
      reached := ?_
      room := ?_
      aloft := ?_
      frames := h.frames_append response (Nat.le_of_lt hf)
      dropped := ?_
      bursts := hbursts }
    · rw [List.append_nil] at hwords
      exact h.words.trans hwords.symm
    · rw [hnone, ← hflown]
      exact hreached
    · rw [hnone, ← hflown]
      exact hroom
    · dsimp only [port]
      rw [hfree]
      exact .none
    · rw [List.countP_append, List.countP_singleton, if_pos, ← h.dropped]
      simp [Landing.isStale, Nat.ne_of_lt hf]

/-- Asking for a burst at a free port leaves no response there. -/
theorem responses_advance (p : Prefetcher) {a : Arbiter} (hfree : a.port .display = .free) :
    ((p.advance a).2.port .display).responses = [] := by
  rcases p.advance_cases a with hsame | ⟨count, a', -, -, -, hs, hmore⟩
  · rw [hsame, hfree]
    rfl
  · rw [hmore, Arbiter.port_submit? hs, Function.update_self]
    rfl

/-- If no request was at the port, the one that is there after the cycle is fresh. -/
theorem fresh_of_requests (hr : b.port.requests = []) (port : Port) :
    b.fresh port = port.requests :=
  if_pos hr

/-- If no response was at the port, none was taken. -/
theorem taken_of_responses (hr : b.port.responses = []) (port : Port) : b.taken port = [] := by
  rw [taken, hr]
  exact ite_self _

/-- A cycle waits, asks for a burst, or takes one and then asks for the next. -/
theorem Invariant.tick_cases (h : b.Invariant capacity) :
    b.tick = b ∨ (b.port = .free ∧ b.tick = b.ask)
      ∨ ∃ response arbiter, b.arbiter.take? .display = some (response, arbiter)
        ∧ b.tick = (b.land response arbiter).ask := by
  unfold PrefetchBench.tick
  by_cases hf : b.prefetcher.flight = .none
  · have hfree : b.port = .free := h.aloft.free_iff.1 hf
    refine .inr (.inl ⟨hfree, ?_⟩)
    rw [(Prefetcher.tick_of_none b.arbiter hf).1]
    dsimp only
    rw [fresh_of_requests (congrArg Port.requests hfree),
      taken_of_responses (congrArg Port.responses hfree), List.append_nil]
    rfl
  · have hbusy : b.port ≠ .free := mt h.aloft.free_iff.2 hf
    cases ht : b.arbiter.take? .display with
    | none =>
      have hresponses : b.port.responses = [] := Arbiter.responses_of_take? ht
      left
      rw [(Prefetcher.tick_of_waiting hf ht).1]
      have hfresh : b.fresh b.port = [] := if_neg (Port.requests_ne_nil hbusy hresponses)
      have htaken : b.taken b.port = [] := taken_of_responses hresponses _
      change { b with
        asked := b.asked ++ b.fresh b.port
        flown := if b.fresh b.port = [] then b.flown else b.frame
        landed := b.landed ++ b.taken b.port } = b
      rw [hfresh, htaken, List.append_nil, List.append_nil, if_pos rfl]
    | some pair =>
      obtain ⟨response, arbiter⟩ := pair
      have hready : b.port = .ready response := (Arbiter.take?_eq_some ht).1
      have hfree : arbiter.port .display = .free := by
        rw [Arbiter.port_take? h.wellFormed ht, Function.update_self]
      refine .inr (.inr ⟨response, arbiter, rfl, ?_⟩)
      have hresponses := responses_advance (b.prefetcher.collect response) hfree
      rw [(Prefetcher.tick_of_response hf ht).1]
      dsimp only
      rw [fresh_of_requests (congrArg Port.requests hready), taken, if_pos hresponses, hready]
      rfl

/-- A cycle of the prefetcher. -/
theorem Invariant.tick (h : b.Invariant capacity) : b.tick.Invariant capacity := by
  rcases h.tick_cases with hwait | ⟨hfree, hask⟩ | ⟨response, arbiter, ht, hland⟩
  · rw [hwait]
    exact h
  · rw [hask]
    exact h.ask hfree
  · obtain ⟨h, hfree⟩ := h.land ht
    rw [hland]
    exact h.ask hfree

/-! ## Every act -/

/-- A word is taken out of the buffer. -/
theorem Invariant.pop (h : b.Invariant capacity) : (b.act .pop).Invariant capacity := by
  unfold act
  dsimp only
  split
  · rename_i word buffer hp
    have hsplit := Queue.pop?_eq_some hp
    have hsize := Queue.size_of_pop? hp
    have hreached := h.reached
    have hroom := h.room
    refine { h with words := ?_, reached := ?_, room := ?_ }
    · rw [List.append_assoc, List.singleton_append, ← hsplit]
      exact h.words
    · rw [List.length_append, List.length_singleton]
      change _ + _ + b.inFlight = _
      dsimp only
      omega
    · change buffer.size + b.inFlight ≤ _
      dsimp only
      omega
  · exact h

/-- No burst was asked for in a frame to come. -/
theorem Invariant.fetched_next (h : b.Invariant capacity) :
    b.landed.filter (·.asked = b.frame + 1) = [] := by
  rw [List.filter_eq_nil_iff]
  intro l hl hnext
  have hle := h.frames l hl
  have hasked := of_decide_eq_true hnext
  omega

/-- A frame starts. What is on its way belongs to an earlier one. -/
theorem Invariant.startFrame (h : b.Invariant capacity) (surface : DisplaySurface) (rows : Nat) :
    (b.act (.startFrame surface rows)).Invariant capacity := by
  have haloft := h.aloft
  have hflown : b.port ≠ .free → b.flown < b.frame + 1 := by
    generalize b.prefetcher.flight = flight, b.port = q at haloft ⊢
    cases haloft with
    | none => exact fun hq => absurd rfl hq
    | awaited hf hq => exact fun _ => Nat.lt_succ_of_le (Nat.le_of_eq hf)
    | stale hf hq => exact fun _ => Nat.lt_succ_of_lt hf
  have hnone : (b.act (.startFrame surface rows)).inFlight = 0 := by
    change (if b.flown = b.frame + 1 then b.port.words else 0) = 0
    by_cases hfree : b.port = .free
    · rw [hfree]
      exact ite_self 0
    · exact if_neg (Nat.ne_of_lt (hflown hfree))
  refine { h with
    surface_eq := rfl
    extent_eq := rfl
    words := ?_
    addresses := rfl
    cursor_le := Nat.zero_le _
    reached := ?_
    room := ?_
    aloft := ?_
    frames := ?_ }
  · change [] = Response.words ((b.landed.filter (·.asked = b.frame + 1)).map Landing.response)
    rw [h.fetched_next]
    rfl
  · rw [hnone]
    rfl
  · rw [hnone]
    exact Nat.zero_le _
  · change Aloft b.flown (b.frame + 1) (b.prefetcher.startFrame surface rows).flight b.port
    unfold Prefetcher.startFrame
    dsimp only
    generalize b.prefetcher.flight = flight, b.port = q at haloft hflown ⊢
    cases haloft with
    | none => exact .none
    | awaited _ hq => exact .stale (hflown hq) hq
    | stale _ hq => exact .stale (hflown hq) hq
  · intro l hl
    obtain ⟨hasked, hlanded⟩ := h.frames l hl
    exact ⟨hasked, Nat.le_succ_of_le hlanded⟩

/-- What another client does at its port leaves scanout's as it is. -/
theorem port_update {x : Port} {arbiter : Arbiter} (neighbour : Neighbour)
    (hp : arbiter.port = Function.update b.arbiter.port neighbour x) :
    arbiter.port .display = b.port := by
  rw [hp, Function.update_of_ne neighbour.2.symm]
  rfl

/-- **Whatever happens, the invariant stays.** -/
theorem Invariant.act (h : b.Invariant capacity) (a : Act) : (b.act a).Invariant capacity := by
  cases a with
  | serve => exact h.serve
  | tick => exact h.tick
  | pop => exact h.pop
  | startFrame surface rows => exact h.startFrame surface rows
  | submit neighbour request =>
    unfold PrefetchBench.act
    dsimp only
    split
    · rename_i arbiter hs
      exact h.foreign (h.wellFormed.submit? hs) (port_update neighbour (Arbiter.port_submit? hs))
    · exact h
  | collect neighbour =>
    unfold PrefetchBench.act
    dsimp only
    split
    · rename_i response arbiter ht
      exact h.foreign (h.wellFormed.take? ht)
        (port_update neighbour (Arbiter.port_take? h.wellFormed ht))
    · exact h

/-- The invariant holds throughout a run. -/
theorem Invariant.run (h : b.Invariant capacity) (acts : List Act) :
    (b.run acts).Invariant capacity := by
  induction acts generalizing b with
  | nil => exact h
  | cons a acts ih => exact ih (h.act a)

/-! ## The words of the surface -/

/-- As long as the memory stays as it is, the words that were taken out since the frame started are
the first of the surface, and the prefetcher streams those after them. -/
structure Delivers (m : Sdram) (b : PrefetchBench) : Prop where
  /-- The words that were taken out. -/
  popped : b.popped = m.fetch b.prefetcher.start b.popped.length
  /-- What is in the buffer and on its way, given how much was fetched in earlier frames. -/
  streams : ∃ before, b.prefetcher.Streams m b.port before b.popped.length

variable {m : Sdram}

/-- Nothing is taken out of a frame that starts. -/
theorem startFrame_delivers (b : PrefetchBench) (surface : DisplaySurface) (rows : Nat)
    (m : Sdram) : (b.act (.startFrame surface rows)).Delivers m where
  popped := rfl
  streams := ⟨_, b.prefetcher.startFrame_streams surface rows m b.port⟩

/-- A cycle of the prefetcher. -/
theorem Delivers.tick (h : b.Delivers m) : b.tick.Delivers m := by
  obtain ⟨before, hstreams⟩ := h.streams
  have hpopped : b.tick.popped = b.popped := rfl
  have hprefetcher : b.tick.prefetcher = (b.prefetcher.tick b.arbiter).1 := rfl
  have hport : b.tick.port = (b.prefetcher.tick b.arbiter).2.port .display := rfl
  refine ⟨?_, before, ?_⟩
  · have hstart : (b.prefetcher.tick b.arbiter).1.start = b.prefetcher.start := by
      rw [Prefetcher.start, (b.prefetcher.tick_surface b.arbiter).1, Prefetcher.start]
    rw [hpopped, hprefetcher, hstart]
    exact h.popped
  · rw [hpopped, hprefetcher, hport]
    exact hstreams.tick

/-- A word is taken out of the buffer. -/
theorem Delivers.pop (h : b.Delivers m) : (b.act .pop).Delivers m := by
  unfold act
  dsimp only
  split
  · rename_i word buffer hp
    obtain ⟨before, hstreams⟩ := h.streams
    obtain ⟨hword, hrest⟩ := hstreams.popMany 1
    rw [b.prefetcher.buffer.popMany_one, hp] at hword hrest
    refine ⟨?_, before, ?_⟩
    · change b.popped ++ [word] = m.fetch b.prefetcher.start (b.popped ++ [word]).length
      rw [List.length_append, m.fetch_add, ← h.popped]
      exact congrArg (b.popped ++ ·) hword
    · rw [List.length_append]
      exact hrest
  · exact h

/-- Another client does something at its port. -/
theorem Delivers.foreign (h : b.Delivers m) {arbiter : Arbiter}
    (hp : arbiter.port .display = b.port) : { b with arbiter }.Delivers m := by
  obtain ⟨before, hstreams⟩ := h.streams
  refine ⟨h.popped, before, ?_⟩
  rw [← hp] at hstreams
  exact hstreams

/-- **While the memory stays as it is, what happens next keeps the words in order.** -/
theorem Delivers.act (h : b.Delivers m) (hw : b.arbiter.WellFormed) (hm : b.memory = m) (a : Act) :
    (b.act a).Delivers m := by
  cases a with
  | serve =>
    obtain ⟨before, hstreams⟩ := h.streams
    subst hm
    exact ⟨h.popped, before, hstreams.arbiter hw⟩
  | tick => exact h.tick
  | pop => exact h.pop
  | startFrame surface rows => exact b.startFrame_delivers surface rows m
  | submit neighbour request =>
    unfold PrefetchBench.act
    dsimp only
    split
    · rename_i arbiter hs
      exact h.foreign (port_update neighbour (Arbiter.port_submit? hs))
    · exact h
  | collect neighbour =>
    unfold PrefetchBench.act
    dsimp only
    split
    · rename_i response arbiter ht
      exact h.foreign (port_update neighbour (Arbiter.port_take? hw ht))
    · exact h

/-- The words come in order throughout a run in which the memory stays as it is. -/
theorem Delivers.run (h : b.Delivers m) (hi : b.Invariant capacity) (acts : List Act)
    (hsteady : ∀ n < acts.length, (b.run (acts.take n)).memory = m) : (b.run acts).Delivers m := by
  induction acts generalizing b with
  | nil => exact h
  | cons a acts ih =>
    refine ih (h.act hi.wellFormed (hsteady 0 (Nat.zero_lt_succ _)) a) (hi.act a) fun n hn => ?_
    exact hsteady (n + 1) (Nat.succ_lt_succ hn)

/-- The words that were taken out and those in the buffer. -/
theorem Delivers.words (h : b.Delivers m) :
    b.popped ++ b.prefetcher.buffer.toList
      = m.fetch b.prefetcher.start (b.popped.length + b.prefetcher.buffer.size) := by
  obtain ⟨before, hstreams⟩ := h.streams
  rw [m.fetch_add, ← h.popped, hstreams.buffer]

/-- **The prefetcher delivers the surface without gaps**, whatever its buffer can hold, whatever
burst, policy and memory the bench starts with, and whatever happens. The words that were taken out
since the frame started and those in the buffer are those of the bursts that were asked for in the
frame. The frame asked for the words of its surface in order, from the first on, and for none past
its end. Those that did not come are on their way, and the buffer has room for them. The bursts that
were dropped are those that came when another frame had started, each once.

If from then on a frame starts and the memory stays as it is, the words that are taken out and those
in the buffer are the first of the surface. -/
theorem run_delivers (capacity burst : Nat) (policy : ArbiterPolicy) (memory : Sdram)
    (acts : List Act) :
    let b := (start capacity burst policy memory).run acts
    let p := b.prefetcher
    let words := b.popped ++ p.buffer.toList
    words = b.fetched
    ∧ b.asked.flatMap Request.addresses = List.range' (surfaceStart b.surface.base) p.cursor
    ∧ p.cursor ≤ b.surface.width * b.rows
    ∧ words.length + b.inFlight = p.cursor
    ∧ p.capacity = max capacity (max burst 1)
    ∧ p.buffer.size + b.inFlight ≤ p.capacity
    ∧ p.stats.staleDropped = b.landed.countP Landing.isStale
    ∧ p.stats.bursts = b.landed.length + (b.port != .free).toNat
    ∧ ∀ surface rows later,
        let started := b.act (.startFrame surface rows)
        let c := started.run later
        (∀ n < later.length, (started.run (later.take n)).memory = b.memory) →
        c.popped ++ c.prefetcher.buffer.toList
          = b.memory.fetch (surfaceStart c.surface.base) (c.prefetcher.cursor - c.inFlight) := by
  intro b p words
  have h : b.Invariant (max capacity (max burst 1)) := (start_invariant _ _ _ _).run acts
  refine ⟨h.words, ?_, ?_, ?_, h.capacity_eq, h.room, h.dropped, h.bursts, ?_⟩
  · rw [← h.start_eq]
    exact h.addresses
  · rw [← h.extent_eq]
    exact h.cursor_le
  · rw [List.length_append, Queue.length_toList]
    exact h.reached
  · intro surface rows later started c hsteady
    have hstarted : started.Invariant (max capacity (max burst 1)) := h.startFrame surface rows
    have hc : c.Invariant (max capacity (max burst 1)) := hstarted.run later
    have hdelivers : c.Delivers b.memory :=
      (b.startFrame_delivers surface rows b.memory).run hstarted later hsteady
    have hcount : c.popped.length + c.prefetcher.buffer.size = c.prefetcher.cursor - c.inFlight :=
      Nat.eq_sub_of_add_eq hc.reached
    rw [← hcount, ← hc.start_eq]
    exact hdelivers.words

/-- A burst waits at its port while two frames start, and is dropped. The surface of the second was
written by the memory engine before. Of its two bursts the first was taken out in part, and the
second is on its way. -/
theorem run_delivers_second :
    let surface (base : Nat) : DisplaySurface := { base, widthLog2 := 2 }
    let engine : Neighbour := ⟨.engine, by decide⟩
    let earlier : List Act :=
      .startFrame (surface 0) 1 :: .tick :: .submit engine (.write 256 [1, 2, 3, 4, 5, 6, 7, 8])
        :: .replicate 30 .serve ++ [.startFrame (surface 0) 1]
    let later : List Act :=
      (List.replicate 12 [Act.serve, .tick]).flatten ++ [.pop, .pop, .serve, .tick, .serve]
    let b := (start 6 4 .fixedPriority (.zeroed 12 1)).run earlier
    let c := (b.act (.startFrame (surface 1) 2)).run later
    c.popped = [1, 2] ∧ c.prefetcher.buffer.toList = [3, 4] ∧ c.inFlight = 4
      ∧ c.prefetcher.stats.staleDropped = 1
      ∧ c.popped ++ c.prefetcher.buffer.toList = b.memory.fetch 256 4 := by
  intro surface engine earlier later b c
  have hsteady : ∀ n < later.length,
      ((b.act (.startFrame (surface 1) 2)).run (later.take n)).memory = b.memory := by
    decide +kernel
  have hstate : c.popped = [1, 2] ∧ c.prefetcher.buffer.toList = [3, 4] ∧ c.inFlight = 4
      ∧ c.prefetcher.stats.staleDropped = 1 ∧ surfaceStart c.surface.base = 256
      ∧ c.prefetcher.cursor - c.inFlight = 4 := by
    decide +kernel
  have hb : b = (start 6 4 .fixedPriority (.zeroed 12 1)).run earlier := rfl
  have hc : c = (b.act (.startFrame (surface 1) 2)).run later := rfl
  -- from here on the two are only names, so that comparing their fields does not run the bench
  clear_value c b
  obtain ⟨-, -, -, -, -, -, -, -, hdelivers⟩ :=
    run_delivers 6 4 .fixedPriority (.zeroed 12 1) earlier
  rw [← hb] at hdelivers
  have hwords := hdelivers (surface 1) 2 later hsteady
  obtain ⟨hpopped, hbuffer, hflight, hdropped, hstart, hcount⟩ := hstate
  rw [← hc, hstart, hcount] at hwords
  exact ⟨hpopped, hbuffer, hflight, hdropped, hwords⟩

end PrefetchBench

end RasterGpu
