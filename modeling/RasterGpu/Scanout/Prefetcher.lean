import RasterGpu.Memory.Arbiter
import RasterGpu.Queue
import RasterGpu.Register.Surface

/-!
# The scanout prefetcher

The prefetcher reads the surface on display ahead of the pixels, in bursts, into a buffer of words.
It starts at the top of the surface at every frame and stops at its end. A burst that is on its way
when a frame starts belongs to the frame before, and is dropped when it arrives.
-/

namespace RasterGpu

/-- Whether a burst is on its way. -/
inductive BurstState where
  /-- None is. -/
  | none
  /-- One of this frame is. -/
  | awaited
  /-- One of an earlier frame is. -/
  | stale
  deriving DecidableEq, Repr, Inhabited

/-- What the prefetcher has done. -/
structure PrefetchStats where
  /-- Bursts asked for. -/
  bursts : Nat := 0
  /-- Words put into the buffer. -/
  wordsFetched : Nat := 0
  /-- Bursts dropped. -/
  staleDropped : Nat := 0
  deriving DecidableEq, Repr, Inhabited

/-- The scanout prefetcher. -/
structure Prefetcher where
  /-- Words read and not shown yet. -/
  buffer : Queue UInt16 := .empty
  /-- Words that the buffer can hold. -/
  capacity : Nat
  /-- Words of a full burst. -/
  burst : Nat
  /-- The surface of this frame. -/
  surface : DisplaySurface := {}
  /-- Words asked for in this frame. -/
  cursor : Nat := 0
  /-- Words of the surface in this frame. -/
  extent : Nat := 0
  /-- The burst on its way. -/
  flight : BurstState := .none
  /-- What was done. -/
  stats : PrefetchStats := {}

namespace Prefetcher

/-- Words that the default buffer can hold. -/
def defaultCapacity : Nat := 1024

/-- Words of a default burst. -/
def defaultBurst : Nat := 32

/-- A prefetcher at rest. Bursts have at least one word, and the buffer can hold at least one
burst. -/
def ofCapacity (capacity burst : Nat) : Prefetcher :=
  { capacity := max capacity (max burst 1), burst := max burst 1 }

/-- Starts a frame of `rows` rows: empties the buffer and goes to the top of the surface. -/
def startFrame (p : Prefetcher) (surface : DisplaySurface) (rows : Nat) : Prefetcher :=
  { p with
    buffer := .empty
    surface
    cursor := 0
    extent := surface.width * rows
    flight := match p.flight with
      | .none => .none
      | _ => .stale }

/-- Puts the words of a burst into the buffer, unless it belongs to an earlier frame. -/
def collect (p : Prefetcher) (response : Response) : Prefetcher :=
  match p.flight with
  | .stale =>
    { p with flight := .none, stats.staleDropped := p.stats.staleDropped + 1 }
  | _ =>
    { p with
      flight := .none
      buffer := p.buffer.pushMany response.data
      stats.wordsFetched := p.stats.wordsFetched + response.data.length }

/-- Asks for the next burst, if the surface has more words and the buffer room for them. -/
def advance (p : Prefetcher) (a : Arbiter) : Prefetcher × Arbiter :=
  let count := min (p.extent - p.cursor) p.burst
  if count = 0 ∨ p.capacity < p.buffer.size + count then
    (p, a)
  else
    match a.submit? .display (.read (surfaceStart p.surface.base + p.cursor) count) with
    | none => (p, a)
    | some a =>
      ({ p with
          cursor := p.cursor + count
          flight := .awaited
          stats.bursts := p.stats.bursts + 1 }, a)

/-- Advances by one cycle: waits for the burst on its way, then asks for the next. -/
def tick (p : Prefetcher) (a : Arbiter) : Prefetcher × Arbiter :=
  match p.flight with
  | .none => p.advance a
  | _ =>
    match a.take? .display with
    | none => (p, a)
    | some (response, a) => (p.collect response).advance a

end Prefetcher

end RasterGpu
