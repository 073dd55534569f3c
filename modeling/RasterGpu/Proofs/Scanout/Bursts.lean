import RasterGpu.Proofs.Scanout.Stream

/-!
# The bursts of a frame

The memory may change while a frame of the surface is shown, so what scanout shows need not be a
picture that was in memory at any one time. But it is one surface that it reads. From the start of a
frame on the prefetcher asks for the words of its surface in order, and puts into its buffer what
comes back, each burst as the memory was in the cycle that brought it. A burst that was asked for
before the frame started is dropped.

* `Prefetcher.burst?` is the burst that a cycle puts into the buffer.
* `Prefetcher.Fetches` relates the prefetcher to the bursts of the frame. A cycle of the arbiter and
  the prefetcher keeps it (`Fetches.tick`), and so does taking words out (`Fetches.popMany`).
-/

namespace RasterGpu

/-- The addresses of the words that were read. -/
def Response.addresses (r : Response) : List Nat :=
  List.range' r.address r.data.length

/-- The words of some bursts, in order. -/
def Response.words (bursts : List Response) : List UInt16 :=
  bursts.flatMap data

namespace Prefetcher

variable {p : Prefetcher} {q : Port} {a : Arbiter} {bursts : List Response} {taken : List UInt16}

/-- The burst that a cycle puts into the buffer. -/
def burst? (p : Prefetcher) (a : Arbiter) : Option Response :=
  match p.flight with
  | .awaited => (a.take? .display).map Prod.fst
  | .none | .stale => none

/-! ## The invariant -/

/-- What is on its way between two cycles, given how far the request at the port has come. The words
before the place `reached` of the surface have come. A response does not wait, since it is taken in
the cycle that it comes in. -/
inductive Awaits (p : Prefetcher) (reached : Nat) : Port → Prop where
  /-- Nothing is. -/
  | none (hf : p.flight = .none) (hc : p.cursor = reached) : Awaits p reached .free
  /-- The next burst was asked for. -/
  | asked {q : Port} {count : Nat} (hf : p.flight = .awaited) (hn : count ≠ 0)
    (hc : p.cursor = reached + count)
    (hq : q.requests = [.read (p.start + reached) count]) : Awaits p reached q
  /-- A burst of an earlier frame was, and none of this frame. -/
  | stale {q : Port} (hf : p.flight = .stale) (hc : p.cursor = 0) (hr : reached = 0)
    (hq : q.requests ≠ []) : Awaits p reached q

/-- Since the frame started these bursts have come, and these words have been taken out of the
buffer. -/
structure Fetches (p : Prefetcher) (q : Port) (bursts : List Response) (taken : List UInt16) :
    Prop where
  /-- The words that have come were taken out or are in the buffer. -/
  words : Response.words bursts = taken ++ p.buffer.toList
  /-- They are the words of the surface, in order. -/
  addresses : bursts.flatMap Response.addresses
    = List.range' p.start (Response.words bursts).length
  /-- No word past the surface is asked for. -/
  cursor_le : p.cursor ≤ p.extent
  /-- What is on its way. -/
  awaits : p.Awaits (Response.words bursts).length q

/-- No more words have come than the surface has. -/
theorem Fetches.length_le (h : p.Fetches q bursts taken) :
    (Response.words bursts).length ≤ p.extent := by
  have hle := h.cursor_le
  cases h.awaits with
  | none hf hc => omega
  | asked hf hn hc hq => omega
  | stale hf hc hr hq => omega

/-- When a frame starts none of its words has come. -/
theorem Fetches.startFrame (h : p.Fetches q bursts taken) (surface : DisplaySurface) (rows : Nat) :
    (p.startFrame surface rows).Fetches q [] [] := by
  refine ⟨rfl, rfl, Nat.zero_le _, ?_⟩
  cases h.awaits with
  | none hf hc => exact .none (by simp [Prefetcher.startFrame, hf]) rfl
  | asked hf hn hc hq =>
    refine .stale (by simp [Prefetcher.startFrame, hf]) rfl rfl ?_
    rw [hq]
    exact List.cons_ne_nil _ _
  | stale hf hc hr hq => exact .stale (by simp [Prefetcher.startFrame, hf]) rfl rfl hq

/-! ## Cycles -/

/-- If nothing is on its way the port is free, and all that was asked for has come. -/
theorem Awaits.of_none {reached : Nat} (h : p.Awaits reached q) (hf : p.flight = .none) :
    q = .free ∧ p.cursor = reached := by
  cases h with
  | none _ hc => exact ⟨rfl, hc⟩
  | asked hf' =>
    rw [hf] at hf'
    cases hf'
  | stale hf' =>
    rw [hf] at hf'
    cases hf'

/-- If something is on its way a request is at the port. -/
theorem Awaits.requests_ne_nil {reached : Nat} (h : p.Awaits reached q) (hf : p.flight ≠ .none) :
    q.requests ≠ [] := by
  cases h with
  | none hf' _ => exact absurd hf' hf
  | asked _ _ _ hq =>
    rw [hq]
    exact List.cons_ne_nil _ _
  | stale _ _ _ hq => exact hq

/-- The next burst is asked for, if there is room for it. -/
theorem Fetches.advance (h : p.Fetches (a.port .display) bursts taken) (hf : p.flight = .none) :
    (p.advance a).1.Fetches ((p.advance a).2.port .display) bursts taken := by
  obtain ⟨-, hcursor⟩ := h.awaits.of_none hf
  rcases p.advance_cases a with hsame | ⟨count, a', hcount, hle, -, hs, hmore⟩
  · rw [hsame]
    exact h
  · rw [hmore]
    refine { h with cursor_le := hle, awaits := ?_ }
    dsimp only
    rw [Arbiter.port_submit? hs, Function.update_self, hcursor]
    exact .asked rfl hcount rfl rfl

/-- A burst of the frame is put into the buffer. -/
theorem Fetches.collect {count : Nat} (h : p.Fetches q bursts taken) (m : Sdram)
    (hf : p.flight = .awaited) (hc : p.cursor = (Response.words bursts).length + count) :
    let address := p.start + (Response.words bursts).length
    let burst : Response := ⟨address, m.fetch address count⟩
    (p.collect burst).Fetches .free (bursts ++ [burst]) taken := by
  intro address burst
  have hlength : burst.data.length = count := m.length_fetch address count
  have hwords : Response.words (bursts ++ [burst]) = Response.words bursts ++ burst.data := by
    simp [Response.words]
  rw [collect_of_awaited hf]
  refine ⟨?_, ?_, h.cursor_le, .none rfl ?_⟩
  · rw [hwords, h.words, Queue.toList_pushMany, List.append_assoc]
  · rw [hwords, List.length_append, List.flatMap_append, h.addresses, ← List.range'_append_1]
    simp [Response.addresses, burst, address, Prefetcher.start]
  · rw [hwords, List.length_append, hlength]
    exact hc

/-- A burst of an earlier frame is dropped. -/
theorem Fetches.drop (h : p.Fetches q bursts taken) (hf : p.flight = .stale)
    (response : Response) : (p.collect response).Fetches .free bursts taken := by
  have hreached : p.cursor = (Response.words bursts).length := by
    cases h.awaits with
    | none _ hc => exact hc
    | asked hf' =>
      rw [hf] at hf'
      cases hf'
    | stale _ hc hr => rw [hc, hr]
  rw [collect_of_stale hf]
  exact ⟨h.words, h.addresses, h.cursor_le, .none rfl hreached⟩

/-- With nothing on its way a cycle asks for the next burst. -/
theorem tick_of_none (a : Arbiter) (hf : p.flight = .none) :
    p.tick a = p.advance a ∧ p.burst? a = none := by
  simp [Prefetcher.tick, burst?, hf]

/-- As long as there is no response a cycle waits for it. -/
theorem tick_of_waiting (hf : p.flight ≠ .none) (ht : a.take? .display = none) :
    p.tick a = (p, a) ∧ p.burst? a = none := by
  cases hflight : p.flight with
  | none => exact absurd hflight hf
  | awaited => simp [Prefetcher.tick, burst?, hflight, ht]
  | stale => simp [Prefetcher.tick, burst?, hflight, ht]

/-- A response is taken, and the next burst asked for. -/
theorem tick_of_response {a' : Arbiter} {response : Response} (hf : p.flight ≠ .none)
    (ht : a.take? .display = some (response, a')) :
    p.tick a = (p.collect response).advance a'
      ∧ p.burst? a = if p.flight = .awaited then some response else none := by
  cases hflight : p.flight with
  | none => exact absurd hflight hf
  | awaited => simp [Prefetcher.tick, burst?, hflight, ht]
  | stale => simp [Prefetcher.tick, burst?, hflight, ht]

/-- A request that was granted is still waited for. -/
theorem Awaits.grant {reached : Nat} {request : Request}
    (h : p.Awaits reached (.pending request)) : p.Awaits reached (.granted request) := by
  cases h with
  | asked hf hn hc hq => exact .asked hf hn hc hq
  | stale hf hc hr hq => exact .stale hf hc hr hq

/-- The response of a request that was granted comes. -/
theorem Fetches.response {request : Request} {response : Response} {a' : Arbiter}
    (h : p.Fetches (.granted request) bursts taken) (hw : a.WellFormed) (m : Sdram)
    (hready : a.port .display = .ready (request.perform m).2)
    (ht : a.take? .display = some (response, a')) :
    (p.tick a).1.Fetches ((p.tick a).2.port .display) (bursts ++ (p.burst? a).toList) taken
      ∧ ∀ burst ∈ p.burst? a, burst.data = m.fetch burst.address burst.data.length := by
  have hresponse : response = (request.perform m).2 := by
    have hport := (Arbiter.take?_eq_some ht).1
    rw [hready] at hport
    exact (Port.ready.inj hport).symm
  have hfree : a'.port .display = .free := by
    rw [Arbiter.port_take? hw ht, Function.update_self]
  have hbusy : p.flight ≠ .none := by
    intro hf
    cases (h.awaits.of_none hf).1
  obtain ⟨htick, hburst⟩ := tick_of_response hbusy ht
  rw [htick, hburst]
  cases h.awaits with
  | @asked _ count hf hn hc hq =>
    obtain rfl := List.singleton_inj.1 hq
    rw [m.perform_read _ hn] at hresponse
    subst hresponse
    have hcollect := h.collect m hf hc
    rw [if_pos hf]
    refine ⟨?_, ?_⟩
    · rw [← hfree] at hcollect
      exact hcollect.advance (p.flight_collect _)
    · intro burst hmem
      obtain rfl := Option.some.inj hmem
      dsimp only
      rw [m.length_fetch]
  | stale hf hc hr hq =>
    have hdrop := h.drop hf response
    rw [if_neg (by rw [hf]; decide)]
    refine ⟨?_, fun burst hmem => by cases hmem⟩
    rw [← hfree] at hdrop
    rw [Option.toList_none, List.append_nil]
    exact hdrop.advance (p.flight_collect _)

/-- **A cycle of the arbiter and the prefetcher.** If it puts a burst into the buffer, that has the
next words of the surface, as they are in memory. -/
theorem Fetches.tick (h : p.Fetches (a.port .display) bursts taken) (hw : a.WellFormed)
    (m : Sdram) :
    let a' := (a.tick m).1
    (p.tick a').1.Fetches ((p.tick a').2.port .display) (bursts ++ (p.burst? a').toList) taken
      ∧ ∀ burst ∈ p.burst? a', burst.data = m.fetch burst.address burst.data.length := by
  intro a'
  have hstep : _ ∨ _ := (Arbiter.tick_portStep hw m).port_cases .display
  have hwait (hf : p.flight ≠ .none) (h' : p.Fetches (a'.port .display) bursts taken) :
      (p.tick a').1.Fetches ((p.tick a').2.port .display) (bursts ++ (p.burst? a').toList) taken
        ∧ ∀ burst ∈ p.burst? a', burst.data = m.fetch burst.address burst.data.length := by
    have hrequests := h'.awaits.requests_ne_nil hf
    have ht : a'.take? .display = none := by
      cases ht : a'.take? .display with
      | none => rfl
      | some pair =>
        rw [(Arbiter.take?_eq_some ht).1] at hrequests
        exact absurd rfl hrequests
    obtain ⟨htick, hburst⟩ := tick_of_waiting hf ht
    rw [htick, hburst, Option.toList_none, List.append_nil]
    exact ⟨h', fun burst hmem => by cases hmem⟩
  rcases hstep with hsame | ⟨request, hpending, hgranted⟩ | ⟨request, hgranted, hready⟩
  · have h' : p.Fetches (a'.port .display) bursts taken := hsame ▸ h
    by_cases hf : p.flight = .none
    · obtain ⟨htick, hburst⟩ := tick_of_none a' hf
      rw [htick, hburst, Option.toList_none, List.append_nil]
      exact ⟨h'.advance hf, fun burst hmem => by cases hmem⟩
    · exact hwait hf h'
  · rw [hpending] at h
    have hf : p.flight ≠ .none := by
      intro hf
      cases (h.awaits.of_none hf).1
    refine hwait hf ?_
    rw [show a'.port .display = .granted request from hgranted]
    exact { h with awaits := h.awaits.grant }
  · rw [hgranted] at h
    cases ht : a'.take? .display with
    | none =>
      have hnone := Arbiter.responses_of_take? ht
      rw [show a'.port .display = _ from hready] at hnone
      cases hnone
    | some pair => exact h.response (hw.tick m) m hready ht

/-! ## Taking words out -/

/-- Words are taken out. -/
theorem Fetches.popMany (h : p.Fetches q bursts taken) (count : Nat) :
    Fetches { p with buffer := (p.buffer.popMany count).2 } q bursts
      (taken ++ (p.buffer.popMany count).1) := by
  refine ⟨?_, h.addresses, h.cursor_le, ?_⟩
  · rw [h.words, p.buffer.toList_popMany count, List.append_assoc]
  · cases h.awaits with
    | none hf hc => exact .none hf hc
    | asked hf hn hc hq => exact .asked hf hn hc hq
    | stale hf hc hr hq => exact .stale hf hc hr hq

end Prefetcher

end RasterGpu
