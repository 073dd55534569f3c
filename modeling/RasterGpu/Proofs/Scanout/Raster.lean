import RasterGpu.Register.Surface
import RasterGpu.Scanout.Display

/-!
# Lines and rows

The raster is walked line by line, and the surface row by row. This file says how the two go
together.

* `TimingGenerator.started` is the number of visible lines that have been started when a pixel is
  next; a pixel that starts a line adds one, and after the last the count begins again
  (`started_advance`).
* `TimingGenerator.Poised` says that no visible line is under way, and it does after every vertical
  sync edge (`poised_advance`).
* `DisplaySurface.rowOf` is the row that a line shows, and `rows_succ` says when a line brings a new
  one.
* `LineBuffer.stretch` computes the column that a pixel shows, with the remainder in a 32-bit word as
  the display keeps it. It is the nearest to the left as long as the word can hold what is added
  (`LineBuffer.stretch_eq`), and `DisplaySurface.column_eq` says when it can; on longer lines it is
  not (`LineBuffer.stretch_wraps`). `LineBuffer.At` says that the line buffer has come that far.
* `Display.tick_raster` says how a cycle of the display moves the raster, and `restartPending_tick`
  that a frame of the surface starts after each vertical sync edge.
-/

namespace RasterGpu

/-! ## Lines -/

namespace TimingGenerator

variable {g : TimingGenerator}

/-- Visible lines that have been started when the next pixel is about to be emitted; none outside
the visible lines. -/
def started (g : TimingGenerator) : Nat :=
  if g.v < g.timing.vertical.active then if g.h = 0 then g.v else g.v + 1 else 0

/-- Whether the next pixel starts a visible line. -/
def startsLine (g : TimingGenerator) : Bool :=
  g.signals.active && g.h == 0

/-- No visible line is under way, and the next one is the first. -/
def Poised (g : TimingGenerator) : Prop :=
  g.timing.vertical.active ≤ g.v ∨ g.h = 0 ∧ g.v = 0

/-- A visible pixel lies in the visible part of its line and in a visible line. -/
theorem active_iff (g : TimingGenerator) : g.signals.active = true ↔
    g.h < g.timing.horizontal.active ∧ g.v < g.timing.vertical.active := by
  simp [signals, Sweep.isActive]

/-- The raster stays the same. -/
theorem timing_advance (g : TimingGenerator) : g.advance.timing = g.timing := by
  unfold advance
  dsimp only
  split
  · rfl
  · split
    · rfl
    · rfl

/-- A cycle emits the next pixel and moves on, or does neither. -/
theorem tick_cases (g : TimingGenerator) :
    g.tick = ({ g with divider := g.divider + 1 }, none)
      ∨ g.tick = (g.advance, some g.signals) := by
  unfold tick
  split
  · exact .inl rfl
  · exact .inr rfl

/-- The next pixel has its line started, or does so. -/
theorem started_add_startsLine (hactive : 0 < g.timing.horizontal.active) :
    g.started + g.startsLine.toNat = if g.v < g.timing.vertical.active then g.v + 1 else 0 := by
  by_cases hv : g.v < g.timing.vertical.active
  · by_cases hh : g.h = 0
    · have hstarts : g.startsLine = true := by
        simp [startsLine, signals, Sweep.isActive, hh, hv, hactive]
      simp [started, hstarts, hv, hh]
    · have hstarts : g.startsLine = false := by simp [startsLine, hh]
      simp [started, hstarts, hv, hh]
  · have hstarts : g.startsLine = false := by simp [startsLine, signals, Sweep.isActive, hv]
    simp [started, hstarts, hv]

/-- A pixel that starts a line adds one to the lines started. After the last visible line the count
begins again. -/
theorem started_advance (hactive : 0 < g.timing.horizontal.active) :
    let begun := g.started + g.startsLine.toNat
    g.advance.started = begun ∨ begun = g.timing.vertical.active ∧ g.advance.started = 0 := by
  rw [started_add_startsLine hactive]
  have htotal : g.timing.vertical.active ≤ g.timing.vertical.total := by
    unfold Sweep.total
    omega
  unfold advance
  dsimp only
  split
  · -- the line goes on
    left
    simp [started]
  · split
    · -- the next line
      by_cases hnext : g.v + 1 < g.timing.vertical.active
      · left
        have hv : g.v < g.timing.vertical.active := by omega
        simp [started, hnext, hv]
      · by_cases hv : g.v < g.timing.vertical.active
        · right
          refine ⟨?_, by simp [started, hnext]⟩
          rw [if_pos hv]
          omega
        · left
          simp [started, hnext, hv]
    · -- the first line again
      have hzero : started
          { g with
            divider := 0, vsyncBefore := g.timing.vertical.isSync g.v, h := 0, v := 0
            frames := g.frames + 1 } = 0 := by
        simp [started]
      by_cases hv : g.v < g.timing.vertical.active
      · right
        refine ⟨?_, hzero⟩
        rw [if_pos hv]
        omega
      · left
        rw [if_neg hv]
        exact hzero

/-- A visible pixel that is not the first of its line comes after a visible pixel. -/
theorem active_of_advance (hh : g.advance.h ≠ 0) (hvisible : g.advance.signals.active = true) :
    g.advance.h = g.h + 1 ∧ g.signals.active = true := by
  have hnext : g.advance.h = g.h + 1 ∧ g.advance.v = g.v := by
    unfold advance at hh ⊢
    dsimp only at hh ⊢
    split at hh
    · rename_i hgoes
      rw [if_pos hgoes]
      exact ⟨rfl, rfl⟩
    · split at hh
      · exact absurd rfl hh
      · exact absurd rfl hh
  obtain ⟨hlt, hv⟩ := g.advance.active_iff.1 hvisible
  rw [hnext.1, g.timing_advance] at hlt
  rw [hnext.2, g.timing_advance] at hv
  exact ⟨hnext.1, g.active_iff.2 ⟨by omega, hv⟩⟩

/-- After the pixel of a vertical sync edge no visible line is under way. -/
theorem poised_advance (h : g.signals.vsyncEdge = true) : g.advance.Poised := by
  have hsync : g.timing.vertical.isSync g.v = true := by
    simp only [signals, Bool.and_eq_true] at h
    exact h.1
  have hpast : g.timing.vertical.active ≤ g.v := by
    simp only [Sweep.isSync, Bool.and_eq_true, decide_eq_true_eq] at hsync
    omega
  unfold advance
  dsimp only
  split
  · exact .inl hpast
  · split
    · exact .inl (Nat.le_succ_of_le hpast)
    · exact .inr ⟨rfl, rfl⟩

/-- Where no visible line is under way none counts as started. -/
theorem Poised.started_eq (h : g.Poised) : g.started = 0 := by
  unfold started
  rcases h with hpast | ⟨hh, hv⟩
  · rw [if_neg (Nat.not_lt.2 hpast)]
  · rw [hh, hv]
    simp

end TimingGenerator

/-! ## Rows -/

namespace DisplaySurface

/-- The row that a visible line shows. -/
def rowOf (surface : DisplaySurface) (v : Nat) : Nat :=
  if surface.lineDouble then v / 2 else v

/-- Whether a visible line shows a row that the line before did not show. -/
def bringsRow (surface : DisplaySurface) (v : Nat) : Bool :=
  !(surface.lineDouble && v % 2 == 1)

/-- Whether a row is loaded before a pixel is shown. -/
def loads (surface : DisplaySurface) (signals : VideoSignals) : Bool :=
  signals.active && signals.h == 0 && surface.bringsRow signals.v

/-- A pixel that is not visible loads no row, -/
theorem loads_of_blank (surface : DisplaySurface) {signals : VideoSignals}
    (h : signals.active = false) : surface.loads signals = false := by
  rw [loads, h]
  rfl

/-- nor does one that is not the first of its line. -/
theorem loads_of_later (surface : DisplaySurface) {signals : VideoSignals}
    (h : signals.h ≠ 0) : surface.loads signals = false := by
  rw [loads, beq_false_of_ne h, Bool.and_false]
  rfl

/-- The first pixel of a visible line loads a row if the line brings one. -/
theorem loads_of_first (surface : DisplaySurface) {signals : VideoSignals}
    (hvisible : signals.active = true) (hfirst : signals.h = 0) :
    surface.loads signals = surface.bringsRow signals.v := by
  rw [loads, hvisible, hfirst]
  rfl

/-- The row of a line is shown again on the next if that is odd and lines are doubled. Any other
line shows a new row. -/
theorem rows_succ (surface : DisplaySurface) (v : Nat) :
    surface.rows (v + 1) = surface.rows v + (surface.bringsRow v).toNat := by
  unfold rows bringsRow
  cases surface.lineDouble with
  | false => rfl
  | true =>
    rcases Nat.mod_two_eq_zero_or_one v with hv | hv
    · simp [hv]
      omega
    · simp [hv]
      omega

/-- Up to a line the rows before its own and its own are needed. -/
theorem rows_succ_eq (surface : DisplaySurface) (v : Nat) :
    surface.rows (v + 1) = surface.rowOf v + 1 := by
  unfold rows rowOf
  cases surface.lineDouble with
  | false => rfl
  | true =>
    simp only [if_true]
    omega

/-- A row has at least one pixel. -/
theorem width_pos (surface : DisplaySurface) : 0 < surface.width := by
  rw [width, Nat.one_shiftLeft]
  exact Nat.two_pow_pos _

/-- No line, no row. -/
@[simp] theorem rows_zero (surface : DisplaySurface) : surface.rows 0 = 0 := by
  unfold rows
  split <;> rfl

end DisplaySurface

/-! ## Columns -/

namespace LineBuffer

/-- The column that the pixel `i` of a line shows, and how far it is past it: a row of `width` words
at `shown` pixels. -/
def stretch (width shown : Nat) : (i : Nat) → Nat × Nat
  | 0 => (0, 0)
  | i + 1 =>
    let (column, remainder) := stretch width shown i
    let kept := (remainder + width) % UInt32.size
    (column + kept / shown, kept % shown)

variable {line : LineBuffer} {width shown i : Nat}

/-- **A division, pixel by pixel.** The column is the nearest to the left of the pixel, as long as
the word of the remainder could hold every sum so far. -/
theorem stretch_eq (hs : 0 < shown)
    (hfits : ∀ j < i, j * width % shown + width < UInt32.size) :
    stretch width shown i = (i * width / shown, i * width % shown) := by
  induction i with
  | zero => simp [stretch]
  | succ i ih =>
    have hsum : (i * width % shown + width) % UInt32.size = i * width % shown + width :=
      Nat.mod_eq_of_lt (hfits i (Nat.lt_succ_self i))
    have hnext : (i + 1) * width
        = shown * (i * width / shown) + (i * width % shown + width) := by
      rw [Nat.add_mul, Nat.one_mul, ← Nat.add_assoc, Nat.div_add_mod]
    rw [stretch, ih fun j hj => hfits j (Nat.lt_succ_of_lt hj)]
    dsimp only
    rw [hsum, hnext, Nat.mul_add_div hs, Nat.mul_add_mod]

/-- Whatever the word loses, a pixel is never shown to the right of its place. -/
theorem stretch_le (width shown i : Nat) :
    (stretch width shown i).1 * shown + (stretch width shown i).2 ≤ i * width := by
  induction i with
  | zero => simp [stretch]
  | succ i ih =>
    rw [stretch]
    generalize stretch width shown i = place at ih ⊢
    obtain ⟨column, remainder⟩ := place
    dsimp only at ih ⊢
    have hkept : (remainder + width) % UInt32.size ≤ remainder + width := Nat.mod_le _ _
    generalize (remainder + width) % UInt32.size = kept at hkept ⊢
    calc (column + kept / shown) * shown + kept % shown
        = column * shown + (shown * (kept / shown) + kept % shown) := by
          rw [Nat.add_mul, Nat.add_assoc, Nat.mul_comm (kept / shown)]
      _ = column * shown + kept := by rw [Nat.div_add_mod]
      _ ≤ column * shown + (remainder + width) := Nat.add_le_add_left hkept _
      _ ≤ (i + 1) * width := by
        rw [Nat.add_mul, Nat.one_mul]
        omega

/-- **On a longer line a row is lost.** Where the second column or a later one is due the first is
shown again, if the width is a power of two. -/
theorem stretch_wraps (hdiv : width ∣ UInt32.size) (hlong : UInt32.size < width + shown)
    (hword : shown < UInt32.size) :
    (stretch width shown (UInt32.size / width)).1 = 0
      ∧ 0 < UInt32.size / width * width / shown := by
  have hwidth : 0 < width := Nat.pos_of_dvd_of_pos hdiv (by decide)
  have hplace : UInt32.size / width * width = UInt32.size := Nat.div_mul_cancel hdiv
  have hle : width ≤ UInt32.size := Nat.le_of_dvd (by decide) hdiv
  obtain ⟨i, hi⟩ : ∃ i, UInt32.size / width = i + 1 :=
    Nat.exists_eq_add_one_of_ne_zero (Nat.ne_of_gt (Nat.div_pos hle hwidth))
  rw [hi, Nat.add_mul, Nat.one_mul] at hplace
  have hbefore : ∀ j ≤ i, j * width % shown = j * width := fun j hj => by
    have hmono : j * width ≤ i * width := Nat.mul_le_mul_right _ hj
    exact Nat.mod_eq_of_lt (by omega)
  constructor
  · have hfits : ∀ j < i, j * width % shown + width < UInt32.size := fun j hj => by
      have hmono : (j + 1) * width ≤ i * width := Nat.mul_le_mul_right _ hj
      rw [Nat.add_mul, Nat.one_mul] at hmono
      rw [hbefore j (Nat.le_of_lt hj)]
      omega
    rw [hi, stretch, stretch_eq (by omega) hfits, hbefore i (Nat.le_refl i)]
    dsimp only
    rw [hplace, Nat.mod_self, Nat.zero_div, Nat.add_zero]
    exact Nat.div_eq_of_lt (by omega)
  · rw [hi, Nat.add_mul, Nat.one_mul, hplace]
    exact Nat.div_pos (Nat.le_of_lt hword) (by omega)
/-- The next pixel is the pixel `i` of a line that shows the row at `shown` pixels. -/
structure At (line : LineBuffer) (shown i : Nat) : Prop where
  /-- The column. -/
  column : line.column = (stretch line.words.size shown i).1
  /-- How far the pixel is past it. -/
  remainder : line.remainder = (stretch line.words.size shown i).2

/-- A line begins at the first column. -/
theorem At.first (h : line.column = 0) (h' : line.remainder = 0) (shown : Nat) :
    line.At shown 0 := ⟨h, h'⟩

/-- The pixel after. -/
theorem At.advance (h : line.At shown i) : (line.advance shown).At shown (i + 1) := by
  constructor
  · change line.column + _ / shown = (stretch line.words.size shown (i + 1)).1
    rw [stretch, h.column, h.remainder]
  · change _ % shown = (stretch line.words.size shown (i + 1)).2
    rw [stretch, h.remainder]

end LineBuffer

namespace DisplaySurface

variable (surface : DisplaySurface) {shown h : Nat}

/-- The column that the pixel `h` of a line shows, if the line shows a row at `shown` pixels. -/
def column (shown h : Nat) : Nat := (LineBuffer.stretch surface.width shown h).1

/-- It is one of the columns of the row. -/
theorem column_lt (hlt : h < shown) : surface.column shown h < surface.width := by
  have hle : surface.column shown h * shown ≤ h * surface.width :=
    Nat.le_trans (Nat.le_add_right _ _) (LineBuffer.stretch_le surface.width shown h)
  have hright : h * surface.width < shown * surface.width :=
    Nat.mul_lt_mul_of_pos_right hlt surface.width_pos
  rw [Nat.mul_comm shown] at hright
  exact Nat.lt_of_mul_lt_mul_right (Nat.lt_of_le_of_lt hle hright)

/-- **It is the nearest to the left of the pixel**, and the remainder is that of the division, if a
word can hold the width of the row and the width shown together. -/
theorem stretch_eq (hword : surface.width + shown < UInt32.size) (hs : 0 < shown) (h : Nat) :
    LineBuffer.stretch surface.width shown h
      = (h * surface.width / shown, h * surface.width % shown) := by
  refine LineBuffer.stretch_eq hs fun j _ => ?_
  have hrest : j * surface.width % shown < shown := Nat.mod_lt _ hs
  omega

/-- The column alone. -/
theorem column_eq (hword : surface.width + shown < UInt32.size) (hs : 0 < shown) (h : Nat) :
    surface.column shown h = h * surface.width / shown := by
  rw [column, surface.stretch_eq hword hs]

end DisplaySurface

/-! ## Cycles of the display -/

namespace Display

/-- Starting a line does not move the raster. -/
theorem startLine_keeps (d : Display) (v : Nat) :
    (d.startLine v).restartPending = d.restartPending ∧ (d.startLine v).timing = d.timing := by
  unfold startLine
  dsimp only
  split
  · exact ⟨rfl, rfl⟩
  · exact ⟨rfl, rfl⟩

/-- A line that brings no row shows the one before from its first column. -/
theorem startLine_of_again (d : Display) {v : Nat}
    (h : d.prefetcher.surface.bringsRow v = false) :
    d.startLine v = { d with line.column := 0, line.remainder := 0, lines := d.lines + 1 } := by
  rw [DisplaySurface.bringsRow, Bool.not_eq_false'] at h
  unfold startLine
  dsimp only
  rw [if_pos h]

/-- A line that brings a row takes the words of the row out of the buffer. Those that are not there
are missing, and black instead. -/
theorem startLine_of_brings (d : Display) {v : Nat}
    (h : d.prefetcher.surface.bringsRow v = true) :
    d.startLine v =
      let popped := d.prefetcher.buffer.popMany d.prefetcher.surface.width
      let missing := d.prefetcher.surface.width - popped.1.length
      { d with
        prefetcher.buffer := popped.2
        line := {
          words := (popped.1 ++ List.replicate missing 0).toArray
          overflowed := d.line.overflowed }
        lines := d.lines + 1
        underrunLines := d.underrunLines + (if missing = 0 then 0 else 1)
        underrunWords := d.underrunWords + missing } := by
  rw [DisplaySurface.bringsRow, Bool.not_eq_true'] at h
  unfold startLine
  dsimp only
  rw [if_neg (by rw [h]; exact Bool.false_ne_true)]

/-- A line starts at its first column. -/
theorem startLine_at (d : Display) (v shown : Nat) : (d.startLine v).line.At shown 0 := by
  cases h : d.prefetcher.surface.bringsRow v with
  | false =>
    rw [d.startLine_of_again h]
    exact .first rfl rfl _
  | true =>
    rw [d.startLine_of_brings h]
    exact .first rfl rfl _

/-- A pixel that is not visible is black, and nothing else happens. -/
theorem emit_of_blank (d : Display) {signals : VideoSignals} (h : signals.active = false) :
    d.emit signals = (d, ⟨signals, .ofRgb565 0⟩) := by
  rw [emit, h]
  rfl

/-- A visible pixel starts its line if it is the first, shows the word of the line buffer, and moves
that on. -/
theorem emit_of_active (d : Display) {signals : VideoSignals} (h : signals.active = true) :
    d.emit signals =
      let d' := if signals.h = 0 then d.startLine signals.v else d
      ({ d' with line := d'.line.advance (max d'.timing.timing.horizontal.active 1) },
        ⟨signals, .ofRgb565 d'.line.word⟩) := by
  rw [emit, h]
  rfl

/-- Emitting a pixel does not move the raster. -/
theorem emit_keeps (d : Display) (signals : VideoSignals) : (d.emit signals).2.signals = signals
    ∧ (d.emit signals).1.restartPending = d.restartPending
    ∧ (d.emit signals).1.timing = d.timing := by
  cases hvisible : signals.active with
  | false =>
    rw [d.emit_of_blank hvisible]
    exact ⟨rfl, rfl, rfl⟩
  | true =>
    rw [d.emit_of_active hvisible]
    by_cases hfirst : signals.h = 0
    · rw [if_pos hfirst]
      exact ⟨rfl, d.startLine_keeps signals.v⟩
    · rw [if_neg hfirst]
      exact ⟨rfl, rfl, rfl⟩

/-- A cycle in which no frame starts. -/
theorem tick_of_going (d : Display) (a : Arbiter) (surface : DisplaySurface)
    (hr : d.restartPending = false) :
    d.tick a surface = match d.timing.tick with
      | (timing, none) =>
        ({ d with timing, prefetcher := (d.prefetcher.tick a).1 }, (d.prefetcher.tick a).2, none)
      | (timing, some signals) =>
        let e := emit { d with
          timing
          prefetcher := (d.prefetcher.tick a).1
          restartPending := signals.vsyncEdge } signals
        (e.1, (d.prefetcher.tick a).2, some e.2) := by
  obtain ⟨timing, prefetcher, line, restartPending, lines, underrunLines, underrunWords⟩ := d
  dsimp only at hr
  subst hr
  rfl

/-- A frame of the surface starts. -/
theorem restart_of_pending (d : Display) (surface : DisplaySurface)
    (hr : d.restartPending = true) :
    d.restart surface = { d with
      prefetcher := d.prefetcher.startFrame surface (d.rowsPerFrame surface)
      restartPending := false } := by
  rw [restart, hr]
  rfl

/-- No frame of the surface starts. -/
theorem restart_of_going (d : Display) (surface : DisplaySurface)
    (hr : d.restartPending = false) : d.restart surface = d := by
  rw [restart, hr]
  rfl

/-- Starting a frame of the surface does not move the raster, and no words are missing yet. -/
theorem restart_keeps (d : Display) (surface : DisplaySurface) :
    (d.restart surface).restartPending = false ∧ (d.restart surface).timing = d.timing
      ∧ (d.restart surface).underrunWords = d.underrunWords := by
  cases hr : d.restartPending with
  | false =>
    rw [d.restart_of_going surface hr]
    exact ⟨hr, rfl, rfl⟩
  | true =>
    rw [d.restart_of_pending surface hr]
    exact ⟨rfl, rfl, rfl⟩

/-- Starting a frame of the surface a second time does nothing. -/
theorem restart_restart (d : Display) (surface : DisplaySurface) :
    (d.restart surface).restart surface = d.restart surface :=
  (d.restart surface).restart_of_going surface (d.restart_keeps surface).1

/-- A cycle in which a frame starts is a cycle of the display that has started it. -/
theorem tick_restart (d : Display) (a : Arbiter) (surface : DisplaySurface) :
    d.tick a surface = (d.restart surface).tick a surface := by
  unfold tick
  rw [restart_restart]

/-- Where a cycle takes the raster: it stays on a pixel, or it emits it. -/
theorem tick_raster (d : Display) (a : Arbiter) (s : DisplaySurface) :
    ((d.tick a s).2.2 = none ∧ (d.tick a s).1.restartPending = false
        ∧ (d.tick a s).1.timing = { d.timing with divider := d.timing.divider + 1 })
      ∨ ∃ pixel, (d.tick a s).2.2 = some pixel ∧ pixel.signals = d.timing.signals
        ∧ (d.tick a s).1.restartPending = d.timing.signals.vsyncEdge
        ∧ (d.tick a s).1.timing = d.timing.advance := by
  obtain ⟨hgoing, htiming, -⟩ := d.restart_keeps s
  rw [tick_restart, ← htiming]
  generalize d.restart s = d at hgoing ⊢
  rw [d.tick_of_going a s hgoing]
  rcases d.timing.tick_cases with htick | htick
  · rw [htick]
    exact .inl ⟨rfl, hgoing, rfl⟩
  · rw [htick]
    exact .inr ⟨_, rfl, emit_keeps _ _⟩

/-- **A frame of the surface starts in the cycle after a vertical sync edge**, and in no other. -/
theorem restartPending_tick (d : Display) (a : Arbiter) (s : DisplaySurface) :
    (d.tick a s).1.restartPending = (d.tick a s).2.2.any (·.signals.vsyncEdge) := by
  rcases d.tick_raster a s with ⟨hpixel, hpending, -⟩ | ⟨pixel, hpixel, hsignals, hpending, -⟩
  · rw [hpixel, hpending]
    rfl
  · rw [hpixel, hpending, ← hsignals]
    rfl

/-- The lengths of the sweeps stay as they are. -/
theorem timing_tick (d : Display) (a : Arbiter) (s : DisplaySurface) :
    (d.tick a s).1.timing.timing = d.timing.timing := by
  rcases d.tick_raster a s with ⟨-, -, htiming⟩ | ⟨pixel, -, -, -, htiming⟩
  · rw [htiming]
  · rw [htiming]
    exact d.timing.timing_advance

/-- When a frame of the surface is about to start no visible line is under way. -/
theorem poised_tick (d : Display) (a : Arbiter) (s : DisplaySurface)
    (hr : (d.tick a s).1.restartPending = true) : (d.tick a s).1.timing.Poised := by
  rcases d.tick_raster a s with ⟨-, hpending, -⟩ | ⟨pixel, -, -, hpending, htiming⟩
  · rw [hpending] at hr
    cases hr
  · rw [hpending] at hr
    rw [htiming]
    exact TimingGenerator.poised_advance hr

end Display

end RasterGpu
