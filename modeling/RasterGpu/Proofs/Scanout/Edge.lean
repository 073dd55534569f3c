import RasterGpu.Proofs.Scanout.Raster

/-!
# The next vertical sync edge

The timing generator walks its raster round and round, so a vertical sync edge comes again and
again, if there is a vertical sync pulse at all. `TimingGenerator.untilEdge` is the number of cycles
until then, and each cycle without an edge makes it less (`InRaster.untilEdge_tick`).

`TimingGenerator.InRaster` is what is known of a generator at any time: it is inside its raster, and
where the pulse begins it does not take itself to be in the pulse already.
-/

namespace RasterGpu

namespace VideoTiming

/-- There is at least one cycle per pixel. -/
theorem divisor_pos (t : VideoTiming) : 0 < t.divisor :=
  Nat.lt_of_lt_of_le Nat.zero_lt_one (Nat.le_max_right _ _)

/-- Pixels of a frame. -/
def pixels (t : VideoTiming) : Nat :=
  t.vertical.total * t.horizontal.total

/-- The line that the vertical sync pulse begins with. -/
def syncLine (t : VideoTiming) : Nat :=
  t.vertical.active + t.vertical.frontPorch

/-- The raster has a vertical sync pulse, after some visible pixels. -/
structure Pulses (t : VideoTiming) : Prop where
  /-- There are visible columns. -/
  horizontal : 0 < t.horizontal.active
  /-- There are visible lines. -/
  vertical : 0 < t.vertical.active
  /-- There is a pulse. -/
  sync : 0 < t.vertical.sync

variable {t : VideoTiming}

/-- The pulse lies in the frame. -/
theorem Pulses.syncLine_lt (h : t.Pulses) : t.syncLine < t.vertical.total := by
  have hsync := h.sync
  simp only [syncLine, Sweep.total]
  omega

/-- The pulse does not begin with the first line. -/
theorem Pulses.syncLine_pos (h : t.Pulses) : 0 < t.syncLine :=
  Nat.add_pos_left h.vertical _

/-- The line that the pulse begins with lies in the pulse. -/
theorem Pulses.isSync_syncLine (h : t.Pulses) : t.vertical.isSync t.syncLine = true := by
  have hsync := h.sync
  simp [syncLine, Sweep.isSync]
  omega

/-- The lines before do not lie in the pulse. -/
theorem isSync_of_lt {v : Nat} (h : v < t.syncLine) : t.vertical.isSync v = false := by
  simp only [syncLine] at h
  simp [Sweep.isSync]
  omega

end VideoTiming

namespace TimingGenerator

variable {g : TimingGenerator}

/-- Pixels of the frame before the next one. -/
def place (g : TimingGenerator) : Nat :=
  g.v * g.timing.horizontal.total + g.h

/-- The place where the vertical sync pulse begins. -/
def syncPlace (g : TimingGenerator) : Nat :=
  g.timing.syncLine * g.timing.horizontal.total

/-- Pixels until the one that begins the pulse. -/
def pixelsUntilEdge (g : TimingGenerator) : Nat :=
  if g.place ≤ g.syncPlace then g.syncPlace - g.place
  else g.timing.pixels + g.syncPlace - g.place

/-- Cycles until the vertical sync edge. -/
def untilEdge (g : TimingGenerator) : Nat :=
  g.pixelsUntilEdge * g.timing.divisor + (g.timing.divisor - 1 - g.divider)

/-- The generator is inside its raster. -/
structure InRaster (g : TimingGenerator) : Prop where
  /-- The column. -/
  h_lt : g.h < g.timing.horizontal.total
  /-- The line. -/
  v_lt : g.v < g.timing.vertical.total
  /-- The pulse begins after a line that does not belong to it. -/
  before : g.h = 0 → g.v = g.timing.syncLine → g.vsyncBefore = false

/-- The next pixel is one of the frame. -/
theorem InRaster.place_lt (h : g.InRaster) : g.place < g.timing.pixels :=
  calc
    g.place < g.v * g.timing.horizontal.total + g.timing.horizontal.total :=
      Nat.add_lt_add_left h.h_lt _
    _ = (g.v + 1) * g.timing.horizontal.total := (Nat.succ_mul _ _).symm
    _ ≤ g.timing.pixels := Nat.mul_le_mul_right _ h.v_lt

/-- The pulse begins in the frame. -/
theorem InRaster.syncPlace_lt (h : g.InRaster) (ht : g.timing.Pulses) :
    g.syncPlace < g.timing.pixels :=
  Nat.mul_lt_mul_of_pos_right ht.syncLine_lt (Nat.zero_lt_of_lt h.h_lt)

/-- A generator at rest is inside its raster. -/
theorem inRaster_start {t : VideoTiming} (ht : t.Pulses) : InRaster { timing := t } := by
  have hh := ht.horizontal
  have hv := ht.vertical
  refine ⟨?_, ?_, fun _ _ => rfl⟩
  · simp only [Sweep.total]
    omega
  · simp only [Sweep.total]
    omega

/-- After the next pixel comes the one beside it, or the first of the next line, or the first of the
next frame. -/
theorem InRaster.advance (h : g.InRaster) (ht : g.timing.Pulses) : g.advance.InRaster := by
  have hh := h.h_lt
  have hv := h.v_lt
  have hpos := ht.syncLine_pos
  unfold TimingGenerator.advance
  dsimp only
  split
  · rename_i hlt
    exact ⟨hlt, hv, fun hzero => absurd hzero (Nat.succ_ne_zero _)⟩
  · split
    · rename_i hlt
      refine ⟨by dsimp only; omega, hlt, fun _ hline => ?_⟩
      exact VideoTiming.isSync_of_lt (hline ▸ Nat.lt_succ_self g.v)
    · refine ⟨by dsimp only; omega, by dsimp only; omega, fun _ hline => ?_⟩
      dsimp only at hline
      omega

/-- A cycle stays inside the raster. -/
theorem InRaster.tick (h : g.InRaster) (ht : g.timing.Pulses) : g.tick.1.InRaster := by
  rcases g.tick_cases with htick | htick
  · rw [htick]
    exact ⟨h.h_lt, h.v_lt, h.before⟩
  · rw [htick]
    exact h.advance ht

/-- Moving on goes to the next place, and from the last to the first. -/
theorem InRaster.place_advance (h : g.InRaster) :
    g.advance.place = g.place + 1 ∨ g.place + 1 = g.timing.pixels ∧ g.advance.place = 0 := by
  have hh := h.h_lt
  have hv := h.v_lt
  unfold TimingGenerator.advance
  dsimp only
  split
  · left
    simp only [place]
    omega
  · rename_i hlast
    have hline : g.h + 1 = g.timing.horizontal.total := by omega
    split
    · left
      simp only [place, Nat.add_mul]
      omega
    · rename_i hframe
      have hlines : g.v + 1 = g.timing.vertical.total := by omega
      right
      refine ⟨?_, by simp [place]⟩
      rw [place, VideoTiming.pixels, ← hlines, Nat.add_mul]
      omega

/-- At the place where the pulse begins the next pixel is a vertical sync edge. -/
theorem InRaster.vsyncEdge (h : g.InRaster) (ht : g.timing.Pulses) (hp : g.place = g.syncPlace) :
    g.signals.vsyncEdge = true := by
  have hh := h.h_lt
  have hline : g.v = g.timing.syncLine := by
    have hdiv := congrArg (· / g.timing.horizontal.total) hp
    have hpos : 0 < g.timing.horizontal.total := by omega
    simpa [place, syncPlace, Nat.mul_comm _ g.timing.horizontal.total, Nat.mul_add_div hpos,
      Nat.div_eq_of_lt hh, hpos] using hdiv
  have hzero : g.h = 0 := by
    rw [place, syncPlace, hline] at hp
    omega
  have hbefore := h.before hzero hline
  have hsync := ht.isSync_syncLine
  simp [signals, hline, hbefore, hsync]

/-- A pixel that is not an edge brings the edge nearer. -/
theorem InRaster.pixelsUntilEdge_advance (h : g.InRaster) (ht : g.timing.Pulses)
    (hnone : g.signals.vsyncEdge = false) : g.advance.pixelsUntilEdge < g.pixelsUntilEdge := by
  have hne : g.place ≠ g.syncPlace := by
    intro hp
    rw [h.vsyncEdge ht hp] at hnone
    cases hnone
  have hlt := h.place_lt
  have hsync := h.syncPlace_lt ht
  have hsame : g.advance.syncPlace = g.syncPlace := by rw [syncPlace, syncPlace, g.timing_advance]
  simp only [pixelsUntilEdge, hsame, g.timing_advance]
  rcases h.place_advance with hnext | ⟨hlast, hfirst⟩
  · rw [hnext]
    split <;> split <;> omega
  · rw [hfirst]
    split <;> split <;> omega

/-- **A cycle without a vertical sync edge brings the edge nearer.** -/
theorem InRaster.untilEdge_tick (h : g.InRaster) (ht : g.timing.Pulses)
    (hnone : g.tick.2.any (·.vsyncEdge) = false) : g.tick.1.untilEdge < g.untilEdge := by
  have hpos := g.timing.divisor_pos
  unfold TimingGenerator.tick at hnone ⊢
  split
  · -- the next pixel is not due yet
    show g.pixelsUntilEdge * _ + _ < g.pixelsUntilEdge * _ + _
    dsimp only
    omega
  · rename_i hdue
    rw [if_neg hdue] at hnone
    have hless := h.pixelsUntilEdge_advance ht hnone
    have hrows := Nat.mul_le_mul_right g.timing.divisor hless
    have hdivider : g.advance.divider = 0 := by
      unfold TimingGenerator.advance
      dsimp only
      split
      · rfl
      · split <;> rfl
    rw [Nat.succ_mul] at hrows
    simp only [untilEdge, g.timing_advance, hdivider]
    omega

end TimingGenerator

/-- A cycle of the display is a cycle of its timing generator. -/
theorem Display.tick_timing (d : Display) (a : Arbiter) (s : DisplaySurface) :
    (d.tick a s).1.timing = d.timing.tick.1
      ∧ (d.tick a s).2.2.map (·.signals) = d.timing.tick.2 := by
  obtain ⟨hgoing, htiming, -⟩ := d.restart_keeps s
  rw [tick_restart, ← htiming]
  generalize d.restart s = d at hgoing ⊢
  rw [d.tick_of_going a s hgoing]
  rcases d.timing.tick_cases with htick | htick
  · rw [htick]
    exact ⟨rfl, rfl⟩
  · rw [htick]
    obtain ⟨hsignals, -, htiming⟩ := emit_keeps { d with
      timing := d.timing.advance
      prefetcher := (d.prefetcher.tick a).1
      restartPending := d.timing.signals.vsyncEdge } d.timing.signals
    exact ⟨htiming, congrArg some hsignals⟩

end RasterGpu
