import RasterGpu.Proofs.Device.Drain

/-!
# Waiting for frames

A run that waits for frames counts vertical sync edges. The raster brings one in every frame, so the
run ends, after the cycles of as many frames at most (`Framed.exists_frames`). This does not depend
on what the rest of the device does, only on the raster: `Gpu.Framed` is what is known of it at any
time.

It does depend on the vertical sync pulse, though. A valid configuration may have none; then no edge
ever comes (`frames_run_of_noSync`), and a run that waits for one does not end. So
`Reachable.runFrames_returns` says both.
-/

namespace RasterGpu

/-! ## From edge to edge -/

namespace TimingGenerator

variable {g : TimingGenerator}

/-- The next edge is less than a frame away. -/
theorem InRaster.untilEdge_lt (h : g.InRaster) (ht : g.timing.Pulses) :
    g.untilEdge < g.timing.cyclesPerFrame := by
  have hplace := h.place_lt
  have hsync := h.syncPlace_lt ht
  have hpos := g.timing.divisor_pos
  have hpixels : g.pixelsUntilEdge < g.timing.pixels := by
    unfold pixelsUntilEdge
    split <;> omega
  calc
    g.untilEdge < g.pixelsUntilEdge * g.timing.divisor + g.timing.divisor := by
      unfold untilEdge
      omega
    _ = (g.pixelsUntilEdge + 1) * g.timing.divisor := (Nat.succ_mul _ _).symm
    _ ≤ g.timing.pixels * g.timing.divisor := Nat.mul_le_mul_right _ hpixels
    _ = g.timing.cyclesPerFrame := by
      rw [VideoTiming.pixels, VideoTiming.cyclesPerFrame, Nat.mul_comm g.timing.vertical.total]

/-- Without a vertical sync pulse there is no edge. -/
theorem tick_of_noSync (hsync : g.timing.vertical.sync = 0) :
    g.tick.2.any (·.vsyncEdge) = false := by
  have hnone : g.signals.vsyncEdge = false := by
    have hout : g.timing.vertical.isSync g.v = false := by
      simp only [Sweep.isSync, hsync, Nat.add_zero, Bool.and_eq_false_iff, decide_eq_false_iff_not]
      omega
    simp only [signals, hout, Bool.false_and]
  rcases g.tick_cases with htick | htick
  · rw [htick]
    rfl
  · rw [htick]
    exact hnone

end TimingGenerator

namespace Gpu

variable {g : Gpu} {config : Config}

/-! ## Runs -/

/-- A run of some cycles and then of others. -/
theorem run_add (m n : Nat) (g : Gpu) : g.run (m + n) = (g.run m).run n := by
  induction m generalizing g with
  | zero => rw [Nat.zero_add, run]
  | succ m ih => rw [Nat.succ_add, run, run, ih]

/-- A run with a budget ends when the condition holds for the first time. -/
theorem runUntil_eq {done : Gpu → Bool} {n budget : Nat} (hdone : done (g.run n) = true)
    (hbefore : ∀ k < n, done (g.run k) = false) (hle : n ≤ budget) :
    runUntil done budget g = (g.run n, true) := by
  induction n generalizing g budget with
  | zero =>
    have hnow : done g = true := hdone
    cases budget with
    | zero => rw [runUntil, hnow, run]
    | succ budget => rw [runUntil, if_pos hnow, run]
  | succ n ih =>
    have hnow : done g = false := hbefore 0 (Nat.succ_pos n)
    obtain ⟨rest, rfl⟩ := Nat.exists_eq_add_of_le hle
    rw [show n + 1 + rest = (n + rest) + 1 by omega, runUntil, hnow,
      if_neg Bool.false_ne_true, run]
    exact ih hdone (fun k hk => hbefore (k + 1) (Nat.succ_lt_succ hk)) (Nat.le_add_right n rest)

/-! ## Frames -/

/-- What is known of the raster of a device at any time, if it has vertical sync edges. -/
structure Framed (config : Config) (g : Gpu) : Prop where
  /-- The raster has edges. -/
  pulses : config.timing.Pulses
  /-- It is that of the configuration. -/
  timing : g.display.timing.timing = config.timing
  /-- The timing generator is inside it. -/
  inRaster : g.display.timing.InRaster

/-- A vertical sync edge is a frame. -/
theorem next_frames (g : Gpu) : g.next.frames = g.frames + g.edge.toNat := by
  have hsame := g.settled.dispatch_sameScreen
  rw [← next_eq] at hsame
  rw [hsame.frames]
  show (if g.edge then g.frames + 1 else g.frames) = g.frames + g.edge.toNat
  cases g.edge <;> rfl

/-- A cycle does not change the raster. -/
theorem next_raster (g : Gpu) : g.next.display.timing.timing = g.display.timing.timing := by
  have hsame := g.settled.dispatch_sameScreen
  rw [← next_eq] at hsame
  rw [hsame.display]
  exact g.display.timing_tick _ _

/-- A cycle. -/
theorem Framed.next (h : g.Framed config) : g.next.Framed config where
  pulses := h.pulses
  timing := g.next_raster.trans h.timing
  inRaster := by
    rw [g.next_timing.1]
    exact h.inRaster.tick (h.timing ▸ h.pulses)

/-- Some cycles. -/
theorem Framed.run (h : g.Framed config) (n : Nat) : (g.run n).Framed config := by
  induction n generalizing g with
  | zero => exact h
  | succ n ih => exact ih h.next

/-- Every reachable device is framed, if the raster has edges. -/
theorem Reachable.framed (h : g.Reachable config) (hp : config.timing.Pulses) :
    g.Framed config := by
  have horigin (g : Gpu) (hconfig : g.config = config) :
      Framed config { g with display := displayOf g.config } := by
    subst hconfig
    exact ⟨hp, rfl, TimingGenerator.inRaster_start hp⟩
  have hboth : g.config = config ∧ g.Framed config := by
    refine h.induction (motive := fun g => g.config = config ∧ g.Framed config)
      (fun memory => ⟨rfl, horigin { ofConfig config with memory } rfl⟩)
      (fun g _ _ _ h => ⟨h.1, { h.2 with }⟩) (fun g _ h => ⟨h.1, { h.2 with }⟩)
      (fun g h => ⟨?_, h.2.next⟩) fun g h => ⟨h.1, { horigin g h.1 with }⟩
    have hsame := g.settled.dispatch_sameScreen
    rw [← next_eq] at hsame
    exact hsame.config.trans h.1
  exact hboth.2

/-- **A frame passes** after the cycles that are left until the next edge. -/
theorem Framed.exists_frame {g : Gpu} (h : g.Framed config) :
    ∃ n ≤ g.display.timing.untilEdge + 1, (g.run n).frames = g.frames + 1
      ∧ ∀ k < n, (g.run k).frames = g.frames := by
  have hframes := g.next_frames
  cases hedge : g.edge with
  | true =>
    rw [hedge] at hframes
    refine ⟨1, by omega, hframes, fun k hk => ?_⟩
    obtain rfl : k = 0 := by omega
    rfl
  | false =>
    rw [hedge] at hframes
    obtain ⟨htiming, hedge_eq⟩ := g.next_timing
    have hless : g.next.display.timing.untilEdge < g.display.timing.untilEdge := by
      rw [htiming]
      exact h.inRaster.untilEdge_tick (h.timing ▸ h.pulses) (hedge_eq ▸ hedge)
    obtain ⟨n, hle, hn, hbefore⟩ := h.next.exists_frame
    refine ⟨n + 1, by omega, hn.trans (by rw [hframes]; rfl), fun k hk => ?_⟩
    cases k with
    | zero => rfl
    | succ k => exact (hbefore k (Nat.lt_of_succ_lt_succ hk)).trans hframes
termination_by g.display.timing.untilEdge
decreasing_by exact hless

/-- **As many frames as one likes pass**, each within the cycles of a frame. -/
theorem Framed.exists_frames (h : g.Framed config) (count : Nat) :
    ∃ n ≤ count * config.timing.cyclesPerFrame, (g.run n).frames = g.frames + count
      ∧ ∀ k < n, (g.run k).frames < g.frames + count := by
  induction count generalizing g with
  | zero => exact ⟨0, Nat.zero_le _, rfl, fun k hk => absurd hk (Nat.not_lt_zero k)⟩
  | succ count ih =>
    obtain ⟨m, hm, hfirst, hbefore⟩ := h.exists_frame
    obtain ⟨n, hn, hrest, hlater⟩ := ih (h.run m)
    have hlt := h.inRaster.untilEdge_lt (h.timing ▸ h.pulses)
    rw [h.timing] at hlt
    refine ⟨m + n, ?_, ?_, fun k hk => ?_⟩
    · rw [Nat.succ_mul]
      omega
    · rw [run_add, hrest, hfirst]
      omega
    · by_cases hkm : k < m
      · rw [hbefore k hkm]
        omega
      · obtain ⟨j, rfl⟩ := Nat.exists_eq_add_of_le (Nat.le_of_not_lt hkm)
        have hj := hlater j (by omega)
        rw [run_add]
        omega

/-- Without a vertical sync pulse no frame passes. -/
theorem frames_run_of_noSync {g : Gpu} (hsync : g.display.timing.timing.vertical.sync = 0)
    (n : Nat) : (g.run n).frames = g.frames := by
  induction n generalizing g with
  | zero => rfl
  | succ n ih =>
    have hedge : g.edge = false := by
      rw [g.next_timing.2]
      exact TimingGenerator.tick_of_noSync hsync
    have hframes := g.next_frames
    rw [hedge] at hframes
    rw [run, ih (by rw [g.next_raster]; exact hsync), hframes]
    rfl

/-- **A run that waits for frames ends if there is a vertical sync pulse, and only then.** With a
pulse, a reachable device of a valid configuration has passed `count` more frames after the cycles of
`count` frames at most, and the run ends in the first cycle in which it has. Without one, which a
valid configuration does not exclude, no frame ever passes. -/
theorem Reachable.runFrames_returns (h : g.Reachable config) (hvalid : config.IsValid)
    (count : Nat) :
    (0 < config.timing.vertical.sync →
      ∃ n ≤ count * config.timing.cyclesPerFrame, g.runFrames count = (g.run n, .ok ())
        ∧ (g.run n).frames = g.frames + count ∧ ∀ k < n, (g.run k).frames < g.frames + count)
      ∧ (config.timing.vertical.sync = 0 → ∀ n, (g.run n).frames = g.frames) := by
  have horderly := h.orderly
  constructor
  · intro hsync
    obtain ⟨n, hn, hframes, hbefore⟩ := (h.framed (hvalid.pulses hsync)).exists_frames count
    refine ⟨n, hn, ?_, hframes, hbefore⟩
    have hbudget : n ≤ (count + 1) * g.config.timing.cyclesPerFrame := by
      rw [horderly.config_eq, Nat.succ_mul]
      omega
    have hruns : runUntil (fun g' => g.frames + count ≤ g'.frames) _ g = (g.run n, true) :=
      runUntil_eq (by simp [hframes]) (fun k hk => by simp [hbefore k hk]) hbudget
    simp only [runFrames, hruns, if_true]
  · intro hsync n
    exact frames_run_of_noSync (by rw [horderly.timing]; exact hsync) n

/-- A device that is in the middle of the vertical sync pulse, with a primitive in hand. The edge of
this frame has passed, so two more take two whole frames but for the cycles since. -/
theorem runFrames_returns_in_pulse :
    let config : Config :=
      { bootSequence := false, memoryWords := 64, memoryLatency := 9, scanoutCapacity := 16
        scanoutBurst := 8
        timing := ⟨⟨2, 0, 1, 0⟩, ⟨1, 0, 1, 0⟩, 2⟩ }
    let stream : List Transaction :=
      [.write Register.renderMode.address 0x10, .write Register.kickRectangle.address 0x100010]
    let calls : List Audit.Call := stream.map .offer ++ .replicate 9 .tick
    let g := ((Audit.start config (.zeroed 64 9)).run calls).device
    config.IsValid ∧ g.rasterizer.isBusy = true ∧ g.vsync = true ∧ g.frames = 1
      ∧ ∃ n ≤ 2 * 12, g.runFrames 2 = (g.run n, .ok ()) ∧ (g.run n).frames = 3 := by
  intro config stream calls g
  have hvalid : config.IsValid := by decide
  have hbusy : g.rasterizer.isBusy = true := by decide +kernel
  have hvsync : g.vsync = true := by decide +kernel
  have hframes : g.frames = 1 := by decide +kernel
  obtain ⟨hpulse, -⟩ :=
    (reachable_run config (.zeroed 64 9) calls).runFrames_returns hvalid 2
  obtain ⟨n, hle, hruns, hpassed, -⟩ := hpulse (by decide)
  exact ⟨hvalid, hbusy, hvsync, hframes, n, hle, hruns, hpassed.trans (by rw [hframes])⟩

/-- A valid configuration without vertical sync pulse: a run that waits for one frame on its new
device never ends. -/
theorem no_frame_without_pulse :
    let config : Config :=
      { bootSequence := false, memoryWords := 64, timing := ⟨⟨3, 0, 0, 0⟩, ⟨2, 0, 0, 0⟩, 4⟩ }
    config.IsValid ∧ build config = .ok (ofConfig config) ∧ (ofConfig config).Reachable config
      ∧ ∀ n, ((ofConfig config).run n).frames < (ofConfig config).frames + 1 := by
  intro config
  have hnew : build config = .ok (ofConfig config) := rfl
  refine ⟨by decide, hnew, .start (Gpu.ofConfig config).memory, fun n => ?_⟩
  rw [frames_run_of_noSync rfl n]
  exact Nat.lt_succ_self _

end Gpu

end RasterGpu
