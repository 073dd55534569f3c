import RasterGpu.Proofs.Device.Frames
import RasterGpu.Proofs.Scanout.Period

/-!
# Scanout of an idle device

An idle device only scans out, and between the start of a line and that of the next not even that is
much: the raster goes on, and the prefetcher fills the buffer. So lines of any length go by in one
step of a proof.

* `VideoTiming.IsQuiet` says that a cycle starts no visible line and brings no vertical sync edge.
* `Prefetcher.exchange` is what the arbiter and the prefetcher do in a cycle when nobody else uses
  the memory. At the end of the surface they have nothing left to do (`exchange_of_done`).
* `Gpu.IdleAt` is an idle device some cycles after the reset. `Gpu.Coasts` says what quiet cycles make
  of it, and `Audit.coasts_ticks` that they do.
* `Audit.first_row_in_time` follows a surface from the vertical sync edge into its first line. If the
  row has been read by then no word of it is missing.

A line can be so long that the stretch of its row overflows. No test runs that far, for the lines
before it take more than 2^33 cycles. `Audit.scanout_leaves_picture` runs there and finds a column
too far to the left.
-/

namespace RasterGpu

/-! ## Quiet cycles of the raster -/

/-- Nothing that lies in the vertical sync pulse is visible. -/
theorem TimingGenerator.blank_of_edge (g : TimingGenerator) (h : g.signals.vsyncEdge = true) :
    g.signals.active = false := by
  simp only [signals, Sweep.isSync, Sweep.isActive, Bool.and_eq_true, decide_eq_true_eq] at h ⊢
  simp only [Bool.and_eq_false_iff, decide_eq_false_iff_not]
  omega

namespace VideoTiming

/-- What a cycle emits, by the number of cycles since the reset. -/
def cycle (t : VideoTiming) (c : Nat) : Option VideoSignals :=
  TimingGenerator.emitted { timing := t } (c + 1)

/-- A cycle that starts no visible line and brings no vertical sync edge. -/
def IsQuiet (t : VideoTiming) (c : Nat) : Prop :=
  ∀ s ∈ t.cycle c, (s.active = true → s.h ≠ 0) ∧ s.vsyncEdge = false

variable {t : VideoTiming}

/-- At one cycle per pixel a cycle emits the next pixel. -/
theorem Visible.cycle_eq (ht : t.Visible) (hone : t.divisor = 1) (c : Nat) :
    t.cycle c = some (t.pixel c) := by
  rw [cycle, TimingGenerator.emitted_succ ht, hone, Nat.mod_one, if_pos rfl, Nat.div_one]

/-- Inside a line all cycles are quiet. -/
theorem Visible.isQuiet (ht : t.Visible) (hone : t.divisor = 1) {c : Nat}
    (hc : c % t.horizontal.total ≠ 0) : t.IsQuiet c := by
  intro s hs
  rw [ht.cycle_eq hone] at hs
  obtain rfl := Option.some.inj hs
  refine ⟨fun _ => hc, ?_⟩
  simp [pixel, hc]

end VideoTiming

/-! ## The prefetcher and the arbiter -/

namespace Prefetcher

/-- A cycle of the arbiter with `m` in memory, and then of the prefetcher. -/
def exchange (m : Sdram) (s : Prefetcher × Arbiter) : Prefetcher × Arbiter :=
  s.1.tick (s.2.tick m).1

/-- The prefetcher has read the surface to its end, and nobody else wants anything of the arbiter. -/
def IsDone (s : Prefetcher × Arbiter) : Prop :=
  (s.1.flight = .none ∧ s.1.extent ≤ s.1.cursor)
    ∧ s.2.grant = none ∧ s.2.select? = none ∧ s.2.acknowledged = none

instance (s : Prefetcher × Arbiter) : Decidable (IsDone s) := by
  unfold IsDone
  infer_instance

/-- Then nothing happens any more. -/
theorem exchange_of_done {s : Prefetcher × Arbiter} (h : IsDone s) (m : Sdram) :
    exchange m s = s := by
  obtain ⟨p, a⟩ := s
  obtain ⟨⟨hflight, hend⟩, hgrant, hselect, hacknowledged⟩ := h
  dsimp only at hflight hend hgrant hselect hacknowledged
  have harbiter : (a.tick m).1 = a := by
    obtain ⟨policy, slots, grant, acknowledged, favoured, grants, busyCycles, overflowed⟩ := a
    dsimp only at hgrant hacknowledged
    subst hgrant hacknowledged
    unfold Arbiter.tick
    rw [hselect]
  have hcount : min (p.extent - p.cursor) p.burst = 0 := by omega
  unfold exchange
  dsimp only
  rw [harbiter, tick, hflight]
  dsimp only
  rw [advance]
  dsimp only
  rw [if_pos (.inl hcount)]

/-- So it does not matter how much later one looks. -/
theorem iterate_of_done {m : Sdram} {s : Prefetcher × Arbiter} {k n : Nat}
    (h : IsDone ((exchange m)^[k] s)) (hk : k ≤ n) : (exchange m)^[n] s = (exchange m)^[k] s := by
  obtain ⟨i, rfl⟩ := Nat.exists_eq_add_of_le' hk
  rw [Function.iterate_add_apply, Function.iterate_fixed (exchange_of_done h m)]

end Prefetcher

namespace Display

/-- A pixel that starts no line takes no word out of the buffer. -/
theorem emit_of_between (d : Display) {s : VideoSignals} (h : s.active = true → s.h ≠ 0) :
    (d.emit s).1.prefetcher = d.prefetcher
      ∧ (d.emit s).1.underrunWords = d.underrunWords := by
  cases hvisible : s.active with
  | false =>
    rw [d.emit_of_blank hvisible]
    exact ⟨rfl, rfl⟩
  | true =>
    rw [d.emit_of_active hvisible, if_neg (h hvisible)]
    exact ⟨rfl, rfl⟩

/-- No word is missing while the buffer has a row. -/
theorem emit_of_full (d : Display) (s : VideoSignals)
    (h : d.prefetcher.surface.width ≤ d.prefetcher.buffer.size) :
    (d.emit s).1.underrunWords = d.underrunWords := by
  have hstart (v : Nat) : (d.startLine v).underrunWords = d.underrunWords := by
    cases hbrings : d.prefetcher.surface.bringsRow v with
    | false => rw [d.startLine_of_again hbrings]
    | true =>
      rw [d.startLine_of_brings hbrings]
      dsimp only
      rw [Queue.length_popMany, Nat.min_eq_left h, Nat.sub_self, Nat.add_zero]
  cases hvisible : s.active with
  | false => rw [d.emit_of_blank hvisible]
  | true =>
    rw [d.emit_of_active hvisible]
    dsimp only
    split
    · exact hstart s.v
    · rfl

/-- A cycle in which no line is started is one of the prefetcher. -/
theorem tick_of_between (d : Display) (a : Arbiter) (surface : DisplaySurface)
    (h : ∀ s ∈ d.timing.tick.2, s.active = true → s.h ≠ 0) :
    ((d.tick a surface).1.prefetcher, (d.tick a surface).2.1)
        = (d.restart surface).prefetcher.tick a
      ∧ (d.tick a surface).1.underrunWords = d.underrunWords := by
  obtain ⟨hgoing, htiming, hmissing⟩ := d.restart_keeps surface
  rw [tick_restart, ← hmissing]
  rw [← htiming] at h
  generalize d.restart surface = d at h hgoing ⊢
  rw [d.tick_of_going a surface hgoing]
  rcases d.timing.tick_cases with htick | htick
  · rw [htick]
    exact ⟨rfl, rfl⟩
  · rw [htick] at h ⊢
    obtain ⟨hprefetcher, hmissing⟩ := emit_of_between
      { d with
        timing := d.timing.advance
        prefetcher := (d.prefetcher.tick a).1
        restartPending := d.timing.signals.vsyncEdge } (h _ rfl)
    exact ⟨congrArg (·, (d.prefetcher.tick a).2) hprefetcher, hmissing⟩

/-- A cycle in which no word is missing. -/
theorem tick_of_full (d : Display) (a : Arbiter) (surface : DisplaySurface)
    (h : ((d.restart surface).prefetcher.tick a).1.surface.width
      ≤ ((d.restart surface).prefetcher.tick a).1.buffer.size) :
    (d.tick a surface).1.underrunWords = d.underrunWords := by
  obtain ⟨hgoing, -, hmissing⟩ := d.restart_keeps surface
  rw [tick_restart, ← hmissing]
  generalize d.restart surface = d at h hgoing ⊢
  rw [d.tick_of_going a surface hgoing]
  rcases d.timing.tick_cases with htick | htick
  · rw [htick]
  · rw [htick]
    exact emit_of_full
      { d with
        timing := d.timing.advance
        prefetcher := (d.prefetcher.tick a).1
        restartPending := d.timing.signals.vsyncEdge } d.timing.signals h

end Display

/-! ## Idle devices -/

namespace Gpu

variable {g g' : Gpu} {config : Config} {c n : Nat}

/-- The prefetcher and the arbiter as the next cycle finds them: if it starts a frame of the surface,
the prefetcher is at the beginning of it. -/
def scanout (g : Gpu) : Prefetcher × Arbiter :=
  ((g.display.restart g.registers.display).prefetcher, g.arbiter)

/-- While no frame is about to start they are where they are. -/
theorem scanout_of_going (h : g.display.restartPending = false) :
    g.scanout = (g.display.prefetcher, g.arbiter) := by
  rw [scanout, g.display.restart_of_going _ h]

/-- An idle device, `c` cycles after the reset. -/
structure IdleAt (config : Config) (c : Nat) (g : Gpu) : Prop where
  /-- It is orderly. -/
  orderly : g.Orderly config
  /-- It is idle. -/
  idle : g.isIdle = true
  /-- The raster. -/
  clock : g.display.timing = TimingGenerator.ticks { timing := config.timing } c

/-- It stays idle. -/
theorem IdleAt.next (h : g.IdleAt config c) : g.next.IdleAt config (c + 1) where
  orderly := h.orderly.next
  idle := ((Rests.refl h.idle).next h.orderly).idle
  clock := by
    rw [g.next_timing.1, h.clock]
    rfl

/-- Its memory stays. -/
theorem IdleAt.memory_next (h : g.IdleAt config c) : g.next.memory = g.memory :=
  ((Rests.refl h.idle).next h.orderly).memory

/-- What its next cycle emits. -/
theorem IdleAt.emits (h : g.IdleAt config c) : g.display.timing.tick.2 = config.timing.cycle c := by
  rw [h.clock]
  rfl

/-- The device emits it with a color. -/
theorem IdleAt.pixel (h : g.IdleAt config c) :
    g.tick.2.map (·.signals) = config.timing.cycle c :=
  (g.display.tick_timing g.served.1 g.registers.display).2.trans h.emits

/-- Whether that is a vertical sync edge. -/
theorem IdleAt.edge_eq (h : g.IdleAt config c) :
    g.edge = (config.timing.cycle c).any (·.vsyncEdge) := by
  rw [g.next_timing.2, h.emits]

/-- In a cycle in which no line is started scanout has the memory to itself. -/
theorem IdleAt.next_between (h : g.IdleAt config c)
    (hq : ∀ s ∈ config.timing.cycle c, s.active = true → s.h ≠ 0) :
    (g.next.display.prefetcher, g.next.arbiter) = Prefetcher.exchange g.memory g.scanout
      ∧ g.next.display.underrunWords = g.display.underrunWords := by
  rw [← h.emits] at hq
  rw [h.orderly.next_of_idle h.idle]
  exact g.display.tick_of_between g.served.1 g.registers.display hq

/-- No word is missing in a cycle that finds a row in the buffer. -/
theorem IdleAt.next_full (h : g.IdleAt config c)
    (hfull : (Prefetcher.exchange g.memory g.scanout).1.surface.width
      ≤ (Prefetcher.exchange g.memory g.scanout).1.buffer.size) :
    g.next.display.underrunWords = g.display.underrunWords := by
  rw [h.orderly.next_of_idle h.idle]
  exact g.display.tick_of_full g.served.1 g.registers.display hfull

/-- The surface that a vertical sync edge puts on display. -/
def upcoming (g : Gpu) : DisplaySurface := g.registers.staged.getD g.registers.display

/-- After a vertical sync edge a frame of that surface is about to start. -/
theorem IdleAt.next_edge (h : g.IdleAt config c) (hedge : g.edge = true) :
    let s := Prefetcher.exchange g.memory g.scanout
    g.next.display.restartPending = true ∧ g.next.registers.display = g.upcoming
      ∧ g.next.scanout
        = (s.1.startFrame g.upcoming (g.upcoming.rows config.timing.vertical.active), s.2) := by
  intro s
  have hblank : ∀ signals ∈ config.timing.cycle c, signals.active = true → signals.h ≠ 0 := by
    intro signals hs hvisible
    rw [h.edge_eq, hs] at hedge
    rw [← h.emits] at hs
    rcases g.display.timing.tick_cases with htick | htick
    · rw [htick] at hs
      cases hs
    · rw [htick] at hs
      obtain rfl := Option.some.inj hs
      rw [TimingGenerator.blank_of_edge _ hedge] at hvisible
      cases hvisible
  have hscanout := (h.next_between hblank).1
  have hpending : g.next.display.restartPending = true := by
    rw [h.orderly.next_of_idle h.idle]
    exact (g.display.restartPending_tick _ _).trans hedge
  have hsurface : g.next.registers.display = g.upcoming := by
    rw [h.orderly.next_of_idle h.idle]
    exact (g.registers.clock_swap g.edge).2.1.trans (by rw [hedge]; rfl)
  have hprefetcher : g.next.display.prefetcher = s.1 := congrArg Prod.fst hscanout
  have harbiter : g.next.arbiter = s.2 := congrArg Prod.snd hscanout
  refine ⟨hpending, hsurface, ?_⟩
  rw [scanout, g.next.display.restart_of_pending _ hpending, hsurface, Display.rowsPerFrame,
    h.orderly.next.timing, hprefetcher, harbiter]

/-- What `n` quiet cycles make of an idle device: the prefetcher and the arbiter have gone on with
each other. -/
structure Coasts (g : Gpu) (n : Nat) (g' : Gpu) : Prop where
  /-- The memory is as it was. -/
  memory : g'.memory = g.memory
  /-- There was no vertical sync edge. -/
  frames : g'.frames = g.frames
  /-- The surface that is staged, or on display, is the same. -/
  upcoming : g'.upcoming = g.upcoming
  /-- The prefetcher and the arbiter. -/
  scanout : g'.scanout = (Prefetcher.exchange g.memory)^[n] g.scanout
  /-- No word was missing. -/
  underrunWords : g'.display.underrunWords = g.display.underrunWords

/-- **A quiet cycle.** -/
theorem Coasts.next (h : g.Coasts n g') (hi : g'.IdleAt config c) (hq : config.timing.IsQuiet c) :
    g.Coasts (n + 1) g'.next := by
  have hedge : g'.edge = false := by
    rw [hi.edge_eq, Option.any_eq_false]
    exact fun s hs => by rw [(hq s hs).2]
  obtain ⟨hscanout, hmissing⟩ := hi.next_between fun s hs => (hq s hs).1
  have hframes : g'.next.frames = g'.frames := by
    rw [g'.next_frames, hedge]
    rfl
  have hupcoming : g'.next.upcoming = g'.upcoming := by
    obtain ⟨hstaged, hdisplay, -⟩ := g'.registers.clock_swap g'.edge
    rw [hi.orderly.next_of_idle hi.idle, Gpu.upcoming, hstaged, hdisplay, hedge]
    rfl
  refine ⟨hi.memory_next.trans h.memory, hframes.trans h.frames, hupcoming.trans h.upcoming, ?_,
    hmissing.trans h.underrunWords⟩
  rw [scanout_of_going (g'.next_surface hframes).2, hscanout, h.scanout, h.memory,
    Function.iterate_succ_apply']

end Gpu

namespace Audit

variable {x : Audit} {config : Config} {c : Nat}

/-- A cycle of an idle device. -/
theorem idleAt_tick (h : x.device.IdleAt config c) : x.tick.device.IdleAt config (c + 1) := by
  rw [device_tick]
  exact h.next

/-- **Quiet cycles of an idle device.** All the while neither the memory changes nor a vertical sync
edge comes. -/
theorem coasts_ticks (h : x.device.IdleAt config c) (n : Nat)
    (hq : ∀ i < n, config.timing.IsQuiet (c + i)) :
    let x' := x.run (.replicate n .tick)
    x'.device.IdleAt config (c + n) ∧ x.device.Coasts n x'.device ∧ x.Still x' := by
  induction n with
  | zero => exact ⟨h, ⟨rfl, rfl, rfl, rfl, rfl⟩, .refl⟩
  | succ n ih =>
    obtain ⟨hidle, hcoasts, hstill⟩ := ih fun i hi => hq i (Nat.lt_succ_of_lt hi)
    have hnext := hcoasts.next hidle (hq n (Nat.lt_succ_self n))
    rw [run_ticks_succ]
    refine ⟨idleAt_tick hidle, by rw [device_tick]; exact hnext, hstill.tail ⟨.tick, ?_, ?_⟩⟩
    · rw [device_tick, hnext.memory, hcoasts.memory]
    · rw [device_tick, hnext.frames, hcoasts.frames]

/-- Some cycles and then others. -/
theorem run_ticks_add (x : Audit) (m n : Nat) :
    x.run (.replicate (m + n) .tick) = (x.run (.replicate m .tick)).run (.replicate n .tick) := by
  rw [← List.replicate_append_replicate]
  exact List.foldl_append

/-- A call, some cycles, others, and one more. -/
theorem run_call_ticks (x : Audit) (call : Call) (m n : Nat) :
    x.run (call :: .replicate (m + n + 1) .tick)
      = ((x.run (call :: .replicate m .tick)).run (.replicate n .tick)).tick := by
  rw [← run_ticks_succ]
  exact run_ticks_add (x.call call) m (n + 1)

/-- **A row that is read in time is shown whole.** A vertical sync edge of an idle device puts a
surface on display, and `blank` quiet cycles later a line is started, of which `shown` cycles follow.
If scanout has read the surface to its end in the quiet cycles, and the buffer holds a row of it, no
word is missing. -/
theorem first_row_in_time (h : x.device.IdleAt config c) (blank shown : Nat) {j : Nat}
    (hedge : (config.timing.cycle c).any (·.vsyncEdge) = true)
    (hblank : ∀ i ≤ blank, config.timing.IsQuiet (c + 1 + i))
    (hfirst : (config.timing.cycle (c + 2 + blank)).any (·.vsyncEdge) = false)
    (hline : ∀ i ≤ shown, config.timing.IsQuiet (c + 3 + blank + i)) (hj : j ≤ blank) :
    let surface := x.device.upcoming
    let before := Prefetcher.exchange x.device.memory x.device.scanout
    let read := (Prefetcher.exchange x.device.memory)^[j]
      (before.1.startFrame surface (surface.rows config.timing.vertical.active), before.2)
    let x₀ := x.tick
    let x₁ := x₀.tick
    let x' := x₁.run (.replicate (blank + 1 + shown) .tick)
    Prefetcher.IsDone read → read.1.surface.width ≤ read.1.buffer.size →
    x₀.device.display.restartPending = true ∧ x₀.device.registers.display = surface
      ∧ x₁.device.frames = x₀.device.frames ∧ x₁.Still x' ∧ x₁.device.memory = x.device.memory
      ∧ x'.device.IdleAt config (c + 3 + blank + shown)
      ∧ x'.tick.device.display.underrunWords = x₀.device.display.underrunWords := by
  intro surface before read x₀ x₁ x' hdone hfull
  -- the edge
  obtain ⟨hpending, hsurface, hscanout⟩ := h.next_edge (h.edge_eq.trans hedge)
  rw [← device_tick] at hpending hsurface hscanout
  have h₀ : x₀.device.IdleAt config (c + 1) := idleAt_tick h
  have hm₀ : x₀.device.memory = x.device.memory := by rw [device_tick, h.memory_next]
  -- the cycle in which the frame of the surface starts
  obtain ⟨h₁, hstart, -⟩ := coasts_ticks h₀ 1 fun i hi => hblank i (by omega)
  change x₁.device.IdleAt config (c + 2) at h₁
  change x₀.device.Coasts 1 x₁.device at hstart
  -- the other quiet cycles
  obtain ⟨hz, hcoasts, hstill⟩ := coasts_ticks h₁ blank fun i hi => by
    have hquiet := hblank (i + 1) (by omega)
    rwa [show c + 1 + (i + 1) = c + 2 + i by omega] at hquiet
  have hx' : x' = (x₁.run (.replicate blank .tick)).tick.run (.replicate shown .tick) := by
    rw [← run_ticks_succ]
    exact run_ticks_add x₁ (blank + 1) shown
  generalize x₁.run (.replicate blank .tick) = z at hz hcoasts hstill hx'
  have hread : z.device.scanout = read := by
    rw [hcoasts.scanout, hstart.scanout, hstart.memory, hm₀, hscanout,
      ← Function.iterate_add_apply]
    exact Prefetcher.iterate_of_done hdone (by omega)
  -- the cycle in which the line is started
  have hedge' : z.device.edge = false := hz.edge_eq.trans hfirst
  have hmissing : z.tick.device.display.underrunWords = z.device.display.underrunWords := by
    rw [device_tick]
    refine hz.next_full ?_
    rw [hread, Prefetcher.exchange_of_done hdone]
    exact hfull
  have hstill' : x₁.Still z.tick := by
    refine hstill.tail ⟨.tick, ?_, ?_⟩
    · rw [device_tick, hz.memory_next, hcoasts.memory]
    · rw [device_tick, z.device.next_frames, hedge', hcoasts.frames]
      rfl
  -- the line
  obtain ⟨hlast, hshown, hstill''⟩ := coasts_ticks (idleAt_tick hz) shown fun i hi => by
    have hquiet := hline i (by omega)
    rwa [show c + 3 + blank + i = c + 2 + blank + 1 + i by omega] at hquiet
  rw [← hx', show c + 2 + blank + 1 + shown = c + 3 + blank + shown by omega] at hlast
  rw [← hx'] at hshown hstill''
  have hend := hshown.next hlast (hline shown (Nat.le_refl _))
  refine ⟨hpending, hsurface, hstart.frames, hstill'.trans hstill'', hstart.memory.trans hm₀, hlast,
    ?_⟩
  rw [device_tick, hend.underrunWords, hmissing, hcoasts.underrunWords, hstart.underrunWords]

end Audit

end RasterGpu
