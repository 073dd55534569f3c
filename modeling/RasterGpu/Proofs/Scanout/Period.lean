import Mathlib.Data.Nat.Count
import RasterGpu.Proofs.Scanout.Edge

/-!
# The raster as a clock

The timing generator is a clock with three hands: a divider that goes round once per pixel, a column
once per line, and a line once per frame. What it tells can be computed from the number of cycles
alone.

* `counter_succ` says what a hand does in one step. It is all that is needed of remainders and
  quotients.
* `VideoTiming.pixel` are the signals of a pixel, and `VideoTiming.generator` is the generator, by
  the number of pixels since the reset. Moving on leads from each generator to the next
  (`VideoTiming.Visible.advance_generator`).
* `TimingGenerator.ticks_start` is the generator after any number of cycles, and
  `TimingGenerator.emitted_succ` what a cycle emits.
* A sum over a grid is a product (`count_grid`), and a window of one period may begin anywhere
  (`count_shift`). So a frame of cycles has the pixels of a frame (`TimingGenerator.count_emitted`).

`TimingGenerator.emits_periodically` draws the conclusion.
-/

namespace RasterGpu

/-! ## Counters -/

/-- One step of a counter goes on or goes round. -/
theorem counter_succ (n : Nat) {b : Nat} (hb : 0 < b) :
    (n % b + 1 < b ∧ (n + 1) % b = n % b + 1 ∧ (n + 1) / b = n / b)
      ∨ (n % b + 1 = b ∧ (n + 1) % b = 0 ∧ (n + 1) / b = n / b + 1) := by
  have hn : n + 1 = b * (n / b) + (n % b + 1) := by
    rw [← Nat.add_assoc, Nat.div_add_mod]
  have hlt : n % b < b := Nat.mod_lt n hb
  by_cases hgoes : n % b + 1 < b
  · refine .inl ⟨hgoes, ?_, ?_⟩
    · rw [hn, Nat.mul_add_mod, Nat.mod_eq_of_lt hgoes]
    · rw [hn, Nat.mul_add_div hb, Nat.div_eq_of_lt hgoes, Nat.add_zero]
  · have hround : n % b + 1 = b := by omega
    refine .inr ⟨hround, ?_, ?_⟩
    · rw [hn, hround, Nat.mul_add_mod, Nat.mod_self]
    · rw [hn, hround, Nat.mul_add_div hb, Nat.div_self hb]

/-- Only what holds below the bound is counted. -/
theorem count_congr {p q : Nat → Prop} [DecidablePred p] [DecidablePred q] {n : Nat}
    (h : ∀ k < n, (p k ↔ q k)) : Nat.count p n = Nat.count q n :=
  Nat.le_antisymm (Nat.count_mono_left fun k hk => (h k hk).1)
    (Nat.count_mono_left fun k hk => (h k hk).2)

/-- One number below a bound is a given one, if that is below it. -/
theorem count_eq (c n : Nat) : Nat.count (· = c) n = if c < n then 1 else 0 := by
  induction n with
  | zero => rfl
  | succ n ih =>
    rw [Nat.count_succ, ih]
    split <;> split <;> split <;> omega

/-- The numbers below a bound and another one are those below the smaller. -/
theorem count_lt (c n : Nat) : Nat.count (· < c) n = min c n := by
  induction n with
  | zero => rw [Nat.count_zero, Nat.min_zero]
  | succ n ih =>
    rw [Nat.count_succ, ih]
    split <;> omega

/-- Cells of a grid that are chosen by their column and their row are as many as the rows times the
columns chosen. -/
theorem count_grid (r s : Nat → Prop) [DecidablePred r] [DecidablePred s] (rows : Nat)
    {columns : Nat} (hcolumns : 0 < columns) :
    Nat.count (fun k => r (k % columns) ∧ s (k / columns)) (rows * columns)
      = Nat.count s rows * Nat.count r columns := by
  induction rows with
  | zero => rw [Nat.zero_mul, Nat.count_zero, Nat.count_zero, Nat.zero_mul]
  | succ rows ih =>
    have hrow : Nat.count (fun j => r ((rows * columns + j) % columns)
        ∧ s ((rows * columns + j) / columns)) columns
          = Nat.count (fun j => r j ∧ s rows) columns := by
      refine count_congr fun j hj => ?_
      rw [Nat.add_comm, Nat.add_mul_mod_self_right, Nat.mod_eq_of_lt hj,
        Nat.add_mul_div_right _ _ hcolumns, Nat.div_eq_of_lt hj, Nat.zero_add]
    rw [Nat.succ_mul, Nat.count_add, ih, hrow, Nat.count_succ, Nat.add_mul]
    by_cases hs : s rows
    · simp [hs]
    · simp [hs]

/-- What is counted in a period does not depend on where it begins. -/
theorem count_shift (p : Nat → Prop) [DecidablePred p] {period : Nat}
    (hp : ∀ k, p (k + period) ↔ p k) (m : Nat) :
    Nat.count (fun i => p (m + i)) period = Nat.count p period := by
  have hfirst := Nat.count_add p m period
  have hlast := Nat.count_add p period m
  have hperiod : Nat.count (fun k => p (period + k)) m = Nat.count p m := by
    simp only [Nat.add_comm period, hp]
  rw [Nat.add_comm m period] at hfirst
  omega

/-- The visible part is a part. -/
theorem Sweep.active_le_total (s : Sweep) : s.active ≤ s.total := by
  unfold total
  omega

/-- The sync pulse begins after the front porch, if there is one. -/
theorem Sweep.isSync_succ (s : Sweep) (i : Nat) :
    (s.isSync (i + 1) && !s.isSync i)
      = (decide (0 < s.sync) && i + 1 == s.active + s.frontPorch) := by
  rw [Bool.eq_iff_iff]
  simp [isSync]
  omega

namespace VideoTiming

variable (t : VideoTiming)

/-- The signals of a pixel, by the number of pixels since the reset. -/
def pixel (k : Nat) : VideoSignals :=
  let h := k % t.horizontal.total
  let v := k / t.horizontal.total % t.vertical.total
  { h, v
    active := t.horizontal.isActive h && t.vertical.isActive v
    hsync := t.horizontal.isSync h
    vsync := t.vertical.isSync v
    frameStart := h == 0 && v == 0
    vsyncEdge := decide (0 < t.vertical.sync) && h == 0 && v == t.syncLine }

/-- The generator, by the number of pixels since the reset. -/
def generator (k : Nat) : TimingGenerator where
  timing := t
  h := k % t.horizontal.total
  v := k / t.horizontal.total % t.vertical.total
  vsyncBefore :=
    decide (0 < k) && t.vertical.isSync ((k - 1) / t.horizontal.total % t.vertical.total)
  frames := k / t.horizontal.total / t.vertical.total

/-- The raster has visible pixels. -/
structure Visible (t : VideoTiming) : Prop where
  /-- There are visible columns. -/
  horizontal : 0 < t.horizontal.active
  /-- There are visible lines. -/
  vertical : 0 < t.vertical.active

variable {t : VideoTiming}

/-- A line has pixels, -/
theorem Visible.columns (ht : t.Visible) : 0 < t.horizontal.total :=
  Nat.lt_of_lt_of_le ht.horizontal t.horizontal.active_le_total

/-- and a frame has lines. -/
theorem Visible.lines (ht : t.Visible) : 0 < t.vertical.total :=
  Nat.lt_of_lt_of_le ht.vertical t.vertical.active_le_total

/-- **Moving on leads to the generator after one pixel more**, however many cycles there were since
the last. -/
theorem Visible.advance_generator (ht : t.Visible) (k d : Nat) :
    TimingGenerator.advance { t.generator k with divider := d } = t.generator (k + 1) := by
  unfold TimingGenerator.advance
  dsimp only [generator]
  rcases counter_succ k ht.columns with ⟨hlt, hmod, hdiv⟩ | ⟨hround, hmod, hdiv⟩
  · simp [hlt, hmod, hdiv]
  · have hge : ¬ k % t.horizontal.total + 1 < t.horizontal.total := by omega
    rcases counter_succ (k / t.horizontal.total) ht.lines with
      ⟨hlt, hmod', hdiv'⟩ | ⟨hlast, hmod', hdiv'⟩
    · simp [hge, hlt, hmod, hdiv, hmod', hdiv']
    · have hge' : ¬ k / t.horizontal.total % t.vertical.total + 1 < t.vertical.total := by omega
      simp [hge, hge', hmod, hdiv, hmod', hdiv']

/-- The generator tells the signals of its pixel. -/
theorem Visible.signals_generator (ht : t.Visible) (k d : Nat) :
    TimingGenerator.signals { t.generator k with divider := d } = t.pixel k := by
  have hfirst : 0 < t.syncLine := Nat.add_pos_left ht.vertical _
  have hzero : t.vertical.isSync 0 = false := isSync_of_lt hfirst
  have hedge : ((t.pixel k).vsync && !(t.generator k).vsyncBefore) = (t.pixel k).vsyncEdge := by
    simp only [pixel, generator]
    cases k with
    | zero => simp [hzero, Nat.ne_of_lt hfirst]
    | succ k =>
      rw [Nat.add_sub_cancel]
      rcases counter_succ k ht.columns with ⟨-, hmod, hdiv⟩ | ⟨-, hmod, hdiv⟩
      · -- in the middle of a line the level is the one before
        simp [hmod, hdiv]
      · rcases counter_succ (k / t.horizontal.total) ht.lines with ⟨-, hmod', -⟩ | ⟨-, hmod', -⟩
        · simp only [hmod, hdiv, hmod']
          simpa [syncLine] using t.vertical.isSync_succ _
        · simp [hmod, hdiv, hmod', hzero, Nat.ne_of_lt hfirst]
  exact congrArg (fun vsyncEdge => { t.pixel k with vsyncEdge }) hedge

/-- A frame later there is the same pixel. -/
theorem Visible.pixel_add_frame (ht : t.Visible) (k : Nat) :
    t.pixel (k + t.vertical.total * t.horizontal.total) = t.pixel k := by
  simp only [pixel, Nat.add_mul_mod_self_right, Nat.add_mul_div_right _ _ ht.columns,
    Nat.add_mod_right]

/-- Pixels of a frame that are chosen by column and line are as many as the lines times the columns
chosen. -/
theorem Visible.count_frame (ht : t.Visible) (r s : Nat → Prop) [DecidablePred r]
    [DecidablePred s] :
    Nat.count (fun k => r (k % t.horizontal.total) ∧ s (k / t.horizontal.total % t.vertical.total))
        (t.vertical.total * t.horizontal.total)
      = Nat.count s t.vertical.total * Nat.count r t.horizontal.total := by
  have hlines : Nat.count (fun v => s (v % t.vertical.total)) t.vertical.total
      = Nat.count s t.vertical.total := count_congr fun v hv => by rw [Nat.mod_eq_of_lt hv]
  rw [← hlines]
  exact count_grid r (fun v => s (v % t.vertical.total)) _ ht.columns

/-- A frame has the visible pixels of its visible lines, -/
theorem Visible.count_active (ht : t.Visible) :
    Nat.count (fun k => (t.pixel k).active = true) (t.vertical.total * t.horizontal.total)
      = t.vertical.active * t.horizontal.active := by
  have hcell (k : Nat) : (t.pixel k).active = true ↔ k % t.horizontal.total < t.horizontal.active
      ∧ k / t.horizontal.total % t.vertical.total < t.vertical.active := by
    simp [pixel, Sweep.isActive]
  simp only [hcell]
  rw [ht.count_frame (· < t.horizontal.active) (· < t.vertical.active), count_lt, count_lt,
    Nat.min_eq_left t.vertical.active_le_total, Nat.min_eq_left t.horizontal.active_le_total]

/-- and one vertical sync edge if it has a vertical sync pulse. -/
theorem Visible.count_vsyncEdge (ht : t.Visible) :
    Nat.count (fun k => (t.pixel k).vsyncEdge = true) (t.vertical.total * t.horizontal.total)
      = if 0 < t.vertical.sync then 1 else 0 := by
  have hcell (k : Nat) : (t.pixel k).vsyncEdge = true ↔ k % t.horizontal.total = 0
      ∧ k / t.horizontal.total % t.vertical.total = t.syncLine ∧ 0 < t.vertical.sync := by
    simp only [pixel, Bool.and_eq_true, decide_eq_true_eq, beq_iff_eq]
    tauto
  simp only [hcell]
  rw [ht.count_frame (· = 0) (fun v => v = t.syncLine ∧ 0 < t.vertical.sync), count_eq,
    if_pos ht.columns, Nat.mul_one]
  split
  · rename_i hsync
    have hline : t.syncLine < t.vertical.total := by
      simp only [syncLine, Sweep.total]
      omega
    simp only [hsync, and_true]
    rw [count_eq, if_pos hline]
  · rename_i hsync
    exact Nat.count_of_forall_not fun v _ hv => hsync hv.2

end VideoTiming

/-! ## Cycles -/

namespace TimingGenerator

/-- The generator after cycles. -/
def ticks (g : TimingGenerator) : Nat → TimingGenerator
  | 0 => g
  | n + 1 => (g.ticks n).tick.1

/-- What a cycle emits; the first is the first after the start. -/
def emitted (g : TimingGenerator) : Nat → Option VideoSignals
  | 0 => none
  | n + 1 => (g.ticks n).tick.2

/-- A cycle that is not the last of its pixel is counted, -/
theorem tick_of_lt (g : TimingGenerator) (h : g.divider + 1 < g.timing.divisor) :
    g.tick = ({ g with divider := g.divider + 1 }, none) :=
  if_pos h

/-- and the last one emits the pixel. -/
theorem tick_of_last (g : TimingGenerator) (h : g.divider + 1 = g.timing.divisor) :
    g.tick = (g.advance, some g.signals) :=
  if_neg (Nat.not_lt.2 (Nat.le_of_eq h.symm))

variable {t : VideoTiming}

/-- **The generator after any number of cycles** is the one after the pixels that fit into them. -/
theorem ticks_start (ht : t.Visible) (n : Nat) :
    ticks { timing := t } n = { t.generator (n / t.divisor) with divider := n % t.divisor } := by
  induction n with
  | zero => simp [ticks, VideoTiming.generator]
  | succ n ih =>
    rw [ticks, ih]
    rcases counter_succ n t.divisor_pos with ⟨hlt, hmod, hdiv⟩ | ⟨hround, hmod, hdiv⟩
    · rw [hmod, hdiv]
      exact congrArg Prod.fst (tick_of_lt _ hlt)
    · rw [hmod, hdiv]
      exact (congrArg Prod.fst (tick_of_last _ hround)).trans
        (ht.advance_generator _ _)

/-- **A cycle emits a pixel if it is the last one of it.** -/
theorem emitted_succ (ht : t.Visible) (n : Nat) :
    emitted { timing := t } (n + 1)
      = if n % t.divisor + 1 = t.divisor then some (t.pixel (n / t.divisor)) else none := by
  rw [emitted, ticks_start ht]
  rcases counter_succ n t.divisor_pos with ⟨hlt, -, -⟩ | ⟨hround, -, -⟩
  · rw [if_neg (Nat.ne_of_lt hlt)]
    exact congrArg Prod.snd (tick_of_lt _ hlt)
  · rw [if_pos hround]
    exact (congrArg Prod.snd (tick_of_last _ hround)).trans
      (congrArg some (ht.signals_generator _ _))

/-- **A frame of cycles has the pixels of a frame**, wherever it begins. -/
theorem count_emitted (ht : t.Visible) (f : VideoSignals → Bool) (m : Nat) :
    Nat.count (fun i => (emitted { timing := t } (m + i + 1)).any f = true) t.cyclesPerFrame
      = Nat.count (fun k => f (t.pixel k) = true) (t.vertical.total * t.horizontal.total) := by
  have hpos := t.divisor_pos
  have hcycles : t.cyclesPerFrame = t.vertical.total * t.horizontal.total * t.divisor := by
    rw [VideoTiming.cyclesPerFrame, Nat.mul_comm t.horizontal.total]
  -- cycles are a grid, too: the pixels are its rows, and each is emitted in the last column
  have hemits (n : Nat) : (emitted { timing := t } (n + 1)).any f = true
      ↔ n % t.divisor = t.divisor - 1 ∧ f (t.pixel (n / t.divisor)) = true := by
    rw [emitted_succ ht]
    split
    · rename_i hlast
      have hcolumn : n % t.divisor = t.divisor - 1 := by omega
      simp [hcolumn]
    · rename_i hnot
      have hcolumn : n % t.divisor ≠ t.divisor - 1 := by omega
      simp [hcolumn]
  simp only [hemits, hcycles]
  rw [count_shift (fun n => n % t.divisor = t.divisor - 1 ∧ f (t.pixel (n / t.divisor)) = true),
    count_grid (· = t.divisor - 1) (fun k => f (t.pixel k) = true) _ hpos, count_eq,
    if_pos (Nat.sub_one_lt_of_lt hpos), Nat.mul_one]
  intro n
  rw [Nat.add_mul_mod_self_right, Nat.add_mul_div_right _ _ hpos, ht.pixel_add_frame]

/-- **The raster is a clock.** Let a raster have visible columns and visible lines, and let a
generator be new or reset. A cycle emits a pixel exactly if the cycles so far are a multiple of those
per pixel, and its signals are those of its place in its line and in its frame. The frames completed
are those that the pixels so far fill. As many consecutive cycles as a frame has bring one vertical
sync edge, if there is a vertical sync pulse, and each visible pixel once, wherever they begin. -/
theorem emits_periodically (g : TimingGenerator) (ht : g.timing.Visible) :
    let t := g.timing
    (∀ n, 0 < n → g.reset.emitted n
        = if t.divisor ∣ n then some (t.pixel (n / t.divisor - 1)) else none)
      ∧ (∀ n, (g.reset.ticks n).frames
        = n / t.divisor / (t.horizontal.total * t.vertical.total))
      ∧ (∀ m, Nat.count (fun i => (g.reset.emitted (m + i + 1)).any (·.vsyncEdge) = true)
          t.cyclesPerFrame
        = if 0 < t.vertical.sync then 1 else 0)
      ∧ ∀ m, Nat.count (fun i => (g.reset.emitted (m + i + 1)).any (·.active) = true)
          t.cyclesPerFrame
        = t.horizontal.active * t.vertical.active := by
  intro t
  refine ⟨fun n hn => ?_, fun n => ?_, fun m => ?_, fun m => ?_⟩
  · obtain ⟨k, rfl⟩ := Nat.exists_eq_succ_of_ne_zero (Nat.ne_of_gt hn)
    have hemitted : g.reset.emitted (k + 1)
        = if k % t.divisor + 1 = t.divisor then some (t.pixel (k / t.divisor)) else none :=
      emitted_succ ht k
    rw [hemitted]
    rcases counter_succ k t.divisor_pos with ⟨hlt, hmod, -⟩ | ⟨hlast, hmod, hdiv⟩
    · have hnot : ¬ t.divisor ∣ k + 1 := by
        rw [Nat.dvd_iff_mod_eq_zero, hmod]
        exact Nat.succ_ne_zero _
      rw [if_neg (Nat.ne_of_lt hlt), if_neg hnot]
    · rw [if_pos hlast, if_pos (Nat.dvd_of_mod_eq_zero hmod), hdiv, Nat.add_sub_cancel]
  · have hticks : g.reset.ticks n = { t.generator (n / t.divisor) with divider := n % t.divisor } :=
      ticks_start ht n
    rw [hticks, ← Nat.div_div_eq_div_mul]
    rfl
  · exact (count_emitted ht (·.vsyncEdge) m).trans ht.count_vsyncEdge
  · rw [Nat.mul_comm]
    exact (count_emitted ht (·.active) m).trans ht.count_active

/-- A raster of twelve columns and seven lines at two cycles per pixel has a pulse of one line. It
begins with the cycle 122, and a frame that begins elsewhere has it all the same. -/
theorem emits_periodically_small :
    let g : TimingGenerator :=
      { timing := { horizontal := ⟨8, 1, 2, 1⟩, vertical := ⟨4, 1, 1, 1⟩, clocksPerPixel := 2 } }
    g.reset.emitted 122 = some ⟨0, 5, false, false, true, false, true⟩
      ∧ (g.reset.ticks 335).frames = 1
      ∧ Nat.count (fun i => (g.reset.emitted (130 + i + 1)).any (·.vsyncEdge) = true) 168 = 1
      ∧ Nat.count (fun i => (g.reset.emitted (130 + i + 1)).any (·.active) = true) 168 = 32 := by
  intro g
  obtain ⟨hemitted, hframes, hedges, hvisible⟩ := emits_periodically g ⟨by decide, by decide⟩
  exact ⟨(hemitted 122 (by decide)).trans (by decide), (hframes 335).trans (by decide), hedges 130,
    hvisible 130⟩

end TimingGenerator

end RasterGpu
