import RasterGpu.Memory.Sdram
import RasterGpu.Proofs.Arbiter.Port
import RasterGpu.Scanout.Prefetcher

/-!
# The stream of the prefetcher

From the start of a frame on, and as long as the memory does not change, the prefetcher delivers the
words of the surface in order, whatever the timing: none is left out, none comes twice, and none of
an earlier frame gets in between.

* `Prefetcher.Streams` is the invariant. After `taken` words have been taken out, the buffer holds
  the words from there on, and a burst on its way brings those after it.
* A frame may start at any time (`startFrame_streams`). A cycle of the arbiter and a cycle of the
  prefetcher keep the invariant (`Streams.arbiter`, `Streams.tick`), and taking words out moves it on
  (`Streams.popMany`).
* Once all words of the surface have been taken out nothing is left (`Streams.exhausted`).
-/

namespace RasterGpu

/-! ## Runs of words -/

namespace Sdram

/-- Memories are the same if their words and their latencies are. -/
instance : DecidableEq Sdram := fun m m' =>
  decidable_of_iff (m.words = m'.words ∧ m.latency = m'.latency) (by
    cases m
    cases m'
    simp)

/-- A run has as many words as were asked for. -/
@[simp] theorem length_fetch (m : Sdram) (address count : Nat) :
    (m.fetch address count).length = count := by
  simp [fetch, MemoryDevice.fetch]

/-- A word of a run. -/
theorem getElem?_fetch (m : Sdram) {address count i : Nat} (h : i < count) :
    (m.fetch address count)[i]? = some (m.read (address + i)) := by
  have hword : MemoryDevice.read m ((address + i) % addressSpace) = m.read (address + i) :=
    m.read_mod _
  simp [fetch, MemoryDevice.fetch, h, hword]

/-- A run and the run after it. -/
theorem fetch_add (m : Sdram) (address count more : Nat) :
    m.fetch address (count + more) = m.fetch address count ++ m.fetch (address + count) more := by
  simp [fetch, MemoryDevice.fetch, List.range_add, Nat.add_assoc]

/-- Reading a run of words gives them. -/
theorem perform_read (m : Sdram) (address : Nat) {count : Nat} (h : count ≠ 0) :
    ((Request.read address count).perform m).2 = ⟨address, m.fetch address count⟩ := by
  have hbeats : (Request.read address count).beats = count := Nat.max_eq_left (by omega)
  change (⟨address, MemoryDevice.fetch m address _⟩ : Response) = _
  rw [hbeats]
  rfl

end Sdram

/-- Taking an entry out leaves one less. -/
theorem Queue.size_of_pop? {α : Type} {q rest : Queue α} {entry : α}
    (h : q.pop? = some (entry, rest)) : q.size = rest.size + 1 := by
  rw [← q.length_toList, pop?_eq_some h, List.length_cons, length_toList]

/-- Adding entries adds as many. -/
theorem Queue.size_pushMany {α : Type} (q : Queue α) (entries : List α) :
    (q.pushMany entries).size = q.size + entries.length := by
  rw [← length_toList, toList_pushMany, List.length_append, length_toList]

/-- Taking many entries takes those that there are. -/
theorem Queue.length_popMany {α : Type} (q : Queue α) (count : Nat) :
    (q.popMany count).1.length = min count q.size := by
  induction count generalizing q with
  | zero => simp [popMany]
  | succ count ih =>
    unfold popMany
    cases hp : q.pop? with
    | none =>
      have hempty : q.size = 0 := by
        rw [← q.length_toList, (q.pop?_eq_none_iff).1 hp]
        rfl
      simp [hempty]
    | some pair =>
      have hsize : q.size = pair.2.size + 1 := size_of_pop? hp
      dsimp only
      rw [List.length_cons, ih]
      omega

namespace Prefetcher

variable {p : Prefetcher} {q : Port} {m : Sdram} {a : Arbiter} {before taken : Nat}

/-- Address of the first word of the surface. -/
def start (p : Prefetcher) : Nat :=
  surfaceStart p.surface.base

/-! ## What the prefetcher does -/

/-- The prefetcher does nothing, or presents a request for words from the cursor on, for which the
buffer has room. -/
theorem advance_cases (p : Prefetcher) (a : Arbiter) :
    p.advance a = (p, a) ∨ ∃ (count : Nat) (a' : Arbiter), count ≠ 0
      ∧ p.cursor + count ≤ p.extent
      ∧ p.buffer.size + count ≤ p.capacity
      ∧ a.submit? .display (.read (p.start + p.cursor) count) = some a'
      ∧ p.advance a = ({ p with
          cursor := p.cursor + count
          flight := .awaited
          stats.bursts := p.stats.bursts + 1 }, a') := by
  unfold advance
  dsimp only
  split
  · exact .inl rfl
  · rename_i hroom
    split
    · exact .inl rfl
    · rename_i a' hs
      exact .inr ⟨_, a', fun hzero => hroom (.inl hzero), by omega,
        Nat.le_of_not_lt fun hfull => hroom (.inr hfull), hs, rfl⟩

/-- A burst of the frame goes into the buffer. -/
theorem collect_of_awaited (hf : p.flight = .awaited) (response : Response) :
    p.collect response = { p with
      flight := .none
      buffer := p.buffer.pushMany response.data
      stats.wordsFetched := p.stats.wordsFetched + response.data.length } := by
  rw [collect, hf]

/-- A burst of an earlier frame is dropped. -/
theorem collect_of_stale (hf : p.flight = .stale) (response : Response) :
    p.collect response
      = { p with flight := .none, stats.staleDropped := p.stats.staleDropped + 1 } := by
  rw [collect, hf]

/-- After that nothing is on its way. -/
theorem flight_collect (p : Prefetcher) (response : Response) :
    (p.collect response).flight = .none := by
  unfold collect
  split <;> rfl

/-! ## The invariant -/

/-- What is on its way, given how far the request at the port has come. The words before the place
`reached` of the surface have come. -/
inductive Flight (p : Prefetcher) (m : Sdram) (reached : Nat) : Port → Prop where
  /-- Nothing is. -/
  | none {q : Port} (hf : p.flight = .none) (hc : p.cursor = reached) : Flight p m reached q
  /-- The next burst was asked for. -/
  | asked {q : Port} {count : Nat} (hf : p.flight = .awaited) (hn : count ≠ 0)
    (hc : p.cursor = reached + count)
    (hq : q.requests = [.read (p.start + reached) count]) : Flight p m reached q
  /-- The next burst is there. -/
  | answered {address count : Nat} (hf : p.flight = .awaited) (hn : count ≠ 0)
    (hc : p.cursor = reached + count) :
    Flight p m reached (.ready ⟨address, m.fetch (p.start + reached) count⟩)
  /-- A burst of an earlier frame is, and none of this frame was asked for. -/
  | stale {q : Port} (hf : p.flight = .stale) (hc : p.cursor = 0) (hr : reached = 0) :
    Flight p m reached q

/-- Since the frame started `taken` words of the surface have been taken out of the buffer, those
after them are in the buffer, and those after these are to come. Before the frame started `before`
words had been fetched. -/
structure Streams (p : Prefetcher) (m : Sdram) (q : Port) (before taken : Nat) : Prop where
  /-- The words in the buffer. -/
  buffer : p.buffer.toList = m.fetch (p.start + taken) p.buffer.size
  /-- No word past the surface is asked for. -/
  cursor_le : p.cursor ≤ p.extent
  /-- What is on its way. -/
  flight : p.Flight m (taken + p.buffer.size) q
  /-- What was fetched is what was taken out and what is in the buffer. -/
  fetched : p.stats.wordsFetched = before + (taken + p.buffer.size)

/-- A frame that starts has everything to come. -/
theorem startFrame_streams (p : Prefetcher) (surface : DisplaySurface) (rows : Nat) (m : Sdram)
    (q : Port) : (p.startFrame surface rows).Streams m q p.stats.wordsFetched 0 where
  buffer := rfl
  cursor_le := Nat.zero_le _
  flight := by
    cases hf : p.flight with
    | none => exact .none (by simp [startFrame, hf]) rfl
    | awaited => exact .stale (by simp [startFrame, hf]) rfl rfl
    | stale => exact .stale (by simp [startFrame, hf]) rfl rfl
  fetched := rfl

/-! ## Cycles -/

/-- A cycle of the arbiter. -/
theorem Streams.arbiter (h : p.Streams m (a.port .display) before taken) (hw : a.WellFormed) :
    p.Streams m ((a.tick m).1.port .display) before taken := by
  refine { h with flight := ?_ }
  have hstep := (Arbiter.tick_portStep hw m).port_cases .display
  have hflight := h.flight
  generalize a.port .display = q, (a.tick m).1.port .display = q' at hflight hstep ⊢
  rcases hstep with rfl | ⟨request, rfl, rfl⟩ | ⟨request, rfl, rfl⟩
  · exact hflight
  · cases hflight with
    | none hf hc => exact .none hf hc
    | asked hf hn hc hq => exact .asked hf hn hc hq
    | stale hf hc hr => exact .stale hf hc hr
  · cases hflight with
    | none hf hc => exact .none hf hc
    | asked hf hn hc hq =>
      obtain rfl := List.singleton_inj.1 hq
      rw [m.perform_read _ hn]
      exact .answered hf hn hc
    | stale hf hc hr => exact .stale hf hc hr

/-- As long as nothing is on its way all that was asked for has come. -/
theorem Flight.cursor_eq {reached : Nat} (h : p.Flight m reached q) (hf : p.flight = .none) :
    p.cursor = reached := by
  cases h with
  | none _ hc => exact hc
  | asked hf' =>
    rw [hf] at hf'
    cases hf'
  | answered hf' =>
    rw [hf] at hf'
    cases hf'
  | stale hf' =>
    rw [hf] at hf'
    cases hf'

/-- Asking for the next burst. -/
theorem Streams.advance (h : p.Streams m (a.port .display) before taken) (hf : p.flight = .none) :
    (p.advance a).1.Streams m ((p.advance a).2.port .display) before taken := by
  have hcursor : p.cursor = taken + p.buffer.size := h.flight.cursor_eq hf
  rcases p.advance_cases a with hsame | ⟨count, a', hcount, hle, -, hs, hmore⟩
  · rw [hsame]
    exact h
  · rw [hmore]
    refine { h with cursor_le := hle, flight := ?_ }
    dsimp only
    rw [Arbiter.port_submit? hs, Function.update_self, hcursor]
    exact .asked rfl hcount rfl rfl

/-- Collecting the burst that is there. -/
theorem Streams.collect {response : Response} (h : p.Streams m (.ready response) before taken)
    (hf : p.flight ≠ .none) (q : Port) :
    (p.collect response).Streams m q before taken ∧ (p.collect response).flight = .none := by
  cases h.flight with
  | none hf' => exact absurd hf' hf
  | asked hf' hn hc hq => cases hq
  | @answered address count hf' hn hc =>
    have hlist : (p.buffer.pushMany (m.fetch (p.start + (taken + p.buffer.size)) count)).toList
        = m.fetch (p.start + taken) (p.buffer.size + count) := by
      rw [Queue.toList_pushMany, h.buffer, m.fetch_add, Nat.add_assoc]
    have hsize : (p.buffer.pushMany (m.fetch (p.start + (taken + p.buffer.size)) count)).size
        = p.buffer.size + count := by
      rw [← Queue.length_toList, hlist, Sdram.length_fetch]
    rw [collect_of_awaited hf', Sdram.length_fetch]
    refine ⟨⟨?_, h.cursor_le, .none rfl ?_, ?_⟩, rfl⟩
    · dsimp only
      rw [hsize]
      exact hlist
    · dsimp only
      rw [hsize, hc, Nat.add_assoc]
    · have hold := h.fetched
      dsimp only
      omega
  | stale hf' hc hr =>
    rw [collect_of_stale hf']
    exact ⟨⟨h.buffer, h.cursor_le, .none rfl (hc.trans hr.symm), h.fetched⟩, rfl⟩

/-- **A cycle of the prefetcher keeps the stream.** -/
theorem Streams.tick (h : p.Streams m (a.port .display) before taken) :
    (p.tick a).1.Streams m ((p.tick a).2.port .display) before taken := by
  unfold Prefetcher.tick
  split
  · rename_i hf
    exact h.advance hf
  · rename_i hf
    split
    · exact h
    · rename_i response a' ht
      have hready : a.port .display = .ready response := (Arbiter.take?_eq_some ht).1
      rw [hready] at h
      obtain ⟨hstream, hnone⟩ := h.collect hf (a'.port .display)
      exact hstream.advance hnone

/-- A cycle does not change what is streamed. -/
theorem tick_surface (p : Prefetcher) (a : Arbiter) :
    (p.tick a).1.surface = p.surface ∧ (p.tick a).1.extent = p.extent := by
  have hadvance (p : Prefetcher) (a : Arbiter) :
      (p.advance a).1.surface = p.surface ∧ (p.advance a).1.extent = p.extent := by
    rcases p.advance_cases a with hsame | ⟨count, a', -, -, -, -, hmore⟩
    · rw [hsame]
      exact ⟨rfl, rfl⟩
    · rw [hmore]
      exact ⟨rfl, rfl⟩
  have hcollect (response : Response) : (p.collect response).surface = p.surface
      ∧ (p.collect response).extent = p.extent := by
    unfold collect
    split
    · exact ⟨rfl, rfl⟩
    · exact ⟨rfl, rfl⟩
  unfold tick
  split
  · exact hadvance p a
  · split
    · exact ⟨rfl, rfl⟩
    · rename_i response a' _
      obtain ⟨hsurface, hextent⟩ := hadvance (p.collect response) a'
      exact ⟨hsurface.trans (hcollect response).1, hextent.trans (hcollect response).2⟩

/-! ## Taking words out -/

/-- **The words that are taken out are those of the surface, in order.** -/
theorem Streams.popMany (h : p.Streams m q before taken) (count : Nat) :
    (p.buffer.popMany count).1
        = m.fetch (p.start + taken) (p.buffer.popMany count).1.length
      ∧ Streams { p with buffer := (p.buffer.popMany count).2 } m q before
        (taken + (p.buffer.popMany count).1.length) := by
  generalize hpop : p.buffer.popMany count = pair
  obtain ⟨words, rest⟩ := pair
  have hsplit : p.buffer.toList = words ++ rest.toList := by
    rw [p.buffer.toList_popMany count, hpop]
  have hsize : p.buffer.size = words.length + rest.size := by
    rw [← p.buffer.length_toList, hsplit, List.length_append, rest.length_toList]
  have hwords : words = m.fetch (p.start + taken) words.length
      ∧ rest.toList = m.fetch (p.start + taken + words.length) rest.size := by
    have hbuffer := h.buffer
    rw [hsplit, hsize, m.fetch_add] at hbuffer
    exact List.append_inj hbuffer (by rw [Sdram.length_fetch])
  have hreached : taken + words.length + rest.size = taken + p.buffer.size := by omega
  refine ⟨hwords.1, ?_, h.cursor_le, ?_, ?_⟩
  · dsimp only
    rw [hwords.2, Nat.add_assoc]
    rfl
  · dsimp only
    rw [hreached]
    cases h.flight with
    | none hf hc => exact .none hf hc
    | asked hf hn hc hq => exact .asked hf hn hc hq
    | answered hf hn hc => exact .answered hf hn hc
    | stale hf hc hr => exact .stale hf hc hr
  · dsimp only
    rw [hreached]
    exact h.fetched

/-- No more words are taken out than the surface has. -/
theorem Streams.taken_le (h : p.Streams m q before taken) : taken ≤ p.extent := by
  have hle := h.cursor_le
  cases h.flight with
  | none hf hc => omega
  | asked hf hn hc hq => omega
  | answered hf hn hc => omega
  | stale hf hc hr => omega

/-- When all words of a surface have been taken out, all of them were fetched, and nothing is in the
buffer or on its way. -/
theorem Streams.exhausted (h : p.Streams m q before taken) (htaken : taken = p.extent)
    (hpos : 0 < p.extent) : p.cursor = p.extent ∧ p.buffer.toList = [] ∧ p.flight = .none
      ∧ p.stats.wordsFetched = before + p.extent := by
  have hle := h.cursor_le
  have hfetched := h.fetched
  have hall : p.cursor = p.extent ∧ p.buffer.size = 0 ∧ p.flight = .none := by
    cases h.flight with
    | none hf hc => exact ⟨by omega, by omega, hf⟩
    | asked hf hn hc hq => omega
    | answered hf hn hc => omega
    | stale hf hc hr => omega
  obtain ⟨hcursor, hsize, hflight⟩ := hall
  refine ⟨hcursor, ?_, hflight, by omega⟩
  rw [← List.length_eq_zero_iff, Queue.length_toList]
  exact hsize

end Prefetcher

end RasterGpu
