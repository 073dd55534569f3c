import RasterGpu.Proofs.Scanout.Raster
import RasterGpu.Proofs.Scanout.Stream

/-!
# Stretching a row

A row is shown at more pixels than it has columns, or at fewer. The display has no division for
that: it keeps a remainder in a 32-bit word, adds the width of the row to it after each pixel, and
takes the number of pixels shown off again, a column each time, for as long as it can.

* `LineBuffer.Carries` is that loop, and `LineBuffer.carries_div_mod` says where it ends.
  `LineBuffer.carries_advance` says that it goes on by one pixel, whether the sum fits or not.
* `Display.lineShown` is the line buffer as the next pixel finds it.
* `Display.Stretches` is what is known between two cycles: where the next pixel is, and how many
  words the line buffer has while a visible line is under way.
* `Display.stretch_exact` is the theorem about runs. The arbiter may be in any state in any cycle,
  so that words may be late or missing and lines may be doubled.
-/

namespace RasterGpu

/-! ## The loop -/

namespace LineBuffer

variable {line : LineBuffer} {shown : UInt32}

/-- The loop that takes the width shown off the remainder, and goes on by a column each time, for as
long as it can: from a column and a remainder to those it ends with. -/
inductive Carries (shown : UInt32) : Nat → UInt32 → Nat → UInt32 → Prop where
  /-- The remainder is less than a column. -/
  | done {column : Nat} {remainder : UInt32} (h : remainder < shown) :
      Carries shown column remainder column remainder
  /-- One round. -/
  | round {column column' : Nat} {remainder remainder' : UInt32} (h : shown ≤ remainder)
      (more : Carries shown (column + 1) (remainder - shown) column' remainder') :
      Carries shown column remainder column' remainder'

/-- **The loop ends, and it divides.** -/
theorem carries_div_mod (hs : 0 < shown) (column : Nat) (remainder : UInt32) :
    Carries shown column remainder (column + remainder.toNat / shown.toNat) (remainder % shown) := by
  have hpos : 0 < shown.toNat := UInt32.lt_iff_toNat_lt.1 hs
  -- every round takes something off the remainder
  induction hn : remainder.toNat using Nat.strongRecOn generalizing column remainder with
  | ind n ih =>
    subst hn
    by_cases hlt : remainder < shown
    · have hquotient : remainder.toNat / shown.toNat = 0 :=
        Nat.div_eq_of_lt (UInt32.lt_iff_toNat_lt.1 hlt)
      have hrest : remainder % shown = remainder :=
        UInt32.toNat_inj.1 (Nat.mod_eq_of_lt (UInt32.lt_iff_toNat_lt.1 hlt))
      rw [hquotient, hrest]
      exact .done hlt
    · have hle : shown ≤ remainder := UInt32.not_lt.1 hlt
      have hle_toNat : shown.toNat ≤ remainder.toNat := UInt32.le_iff_toNat_le.1 hle
      have hsub : (remainder - shown).toNat = remainder.toNat - shown.toNat :=
        UInt32.toNat_sub_of_le _ _ hle
      have hrest : (remainder - shown) % shown = remainder % shown := by
        refine UInt32.toNat_inj.1 ?_
        rw [UInt32.toNat_mod, UInt32.toNat_mod, hsub, ← Nat.mod_eq_sub_mod hle_toNat]
      have hquotient : column + remainder.toNat / shown.toNat
          = column + 1 + (remainder - shown).toNat / shown.toNat := by
        rw [Nat.div_eq_sub_div hpos hle_toNat, hsub]
        omega
      rw [hquotient, ← hrest]
      exact .round hle (ih _ (by omega) (column + 1) (remainder - shown) rfl)

/-- **The loop goes on by one pixel.** Its word keeps the sum modulo 2^32, as words do. -/
theorem carries_advance {width : Nat} (hwidth : width < UInt32.size) (hpos : 0 < width) :
    Carries (.ofNat width) line.column (.ofNat line.remainder + .ofNat line.words.size)
      (line.advance width).column (.ofNat (line.advance width).remainder) := by
  have hshown : (UInt32.ofNat width).toNat = width := UInt32.toNat_ofNat_of_lt' hwidth
  have htotal : (UInt32.ofNat line.remainder + UInt32.ofNat line.words.size).toNat
      = (line.remainder + line.words.size) % UInt32.size := by
    rw [← UInt32.ofNat_add]
    exact UInt32.toNat_ofNat'
  have hpos' : 0 < UInt32.ofNat width := by
    rw [UInt32.lt_iff_toNat_lt, hshown]
    exact hpos
  have hloop := carries_div_mod hpos' line.column
    (UInt32.ofNat line.remainder + UInt32.ofNat line.words.size)
  have hrest : (UInt32.ofNat line.remainder + UInt32.ofNat line.words.size) % UInt32.ofNat width
      = UInt32.ofNat (line.advance width).remainder := by
    refine UInt32.toNat_inj.1 ?_
    have hlt : (line.advance width).remainder < UInt32.size :=
      Nat.lt_trans (Nat.mod_lt _ hpos) hwidth
    rw [UInt32.toNat_mod, htotal, hshown, UInt32.toNat_ofNat_of_lt' hlt]
    rfl
  rw [hrest, htotal, hshown] at hloop
  exact hloop

end LineBuffer

/-! ## Between two cycles -/

namespace Display

variable {d : Display}

/-- The line buffer out of which a visible pixel is taken. -/
def lineFor (d : Display) (signals : VideoSignals) : LineBuffer :=
  (if signals.h = 0 then d.startLine signals.v else d).line

/-- The display as the timing generator finds it in a cycle: a frame of the surface has been
started, if it was time to, and the prefetcher has had its turn. -/
def fed (d : Display) (a : Arbiter) (surface : DisplaySurface) : Display :=
  let d := d.restart surface
  { d with prefetcher := (d.prefetcher.tick a).1 }

/-- The line buffer out of which the next pixel is taken, if the next cycle emits it and it is
visible. -/
def lineShown (d : Display) (a : Arbiter) (surface : DisplaySurface) : LineBuffer :=
  (d.fed a surface).lineFor d.timing.signals

/-- What is known of a display between two cycles. -/
structure Stretches (d : Display) : Prop where
  /-- A visible line is under way only with a row of the surface in the line buffer. -/
  full : 0 < d.timing.started → d.line.words.size = d.prefetcher.surface.width
  /-- The next pixel is taken from its column, if the line has begun. -/
  next : d.timing.h ≠ 0 → d.timing.signals.active = true →
    d.line.At d.timing.timing.horizontal.active d.timing.h
  /-- No visible line is under way when a frame of the surface is about to start. -/
  poised : d.restartPending = true → d.timing.Poised

/-- A display at rest. -/
theorem stretches_ofTiming (timing : VideoTiming) (capacity burst : Nat) :
    (ofTiming timing capacity burst).Stretches := by
  have hpoised : (ofTiming timing capacity burst).timing.Poised := .inr ⟨rfl, rfl⟩
  refine ⟨fun hstarted => ?_, fun hh => absurd rfl hh, fun _ => hpoised⟩
  rw [hpoised.started_eq] at hstarted
  exact absurd hstarted (Nat.lt_irrefl 0)

/-- A frame of the surface starts, whatever its width. -/
theorem Stretches.restart (h : d.Stretches) (surface : DisplaySurface) :
    (d.restart surface).Stretches := by
  cases hr : d.restartPending with
  | false =>
    rw [d.restart_of_going surface hr]
    exact h
  | true =>
    rw [d.restart_of_pending surface hr]
    refine ⟨fun hstarted => ?_, fun hh hvisible => ?_, fun hpending => nomatch hpending⟩
    · rw [show TimingGenerator.started _ = 0 from (h.poised hr).started_eq] at hstarted
      exact absurd hstarted (Nat.lt_irrefl 0)
    · rcases h.poised hr with hpast | ⟨hfirst, -⟩
      · exact absurd ((TimingGenerator.active_iff _).1 hvisible).2 (Nat.not_lt.2 hpast)
      · exact absurd hfirst hh

/-- So it is when the timing generator has its turn. -/
theorem Stretches.fed (h : d.Stretches) (a : Arbiter) (surface : DisplaySurface) :
    (d.fed a surface).Stretches := by
  have hrestart := h.restart surface
  refine ⟨fun hstarted => ?_, hrestart.next, hrestart.poised⟩
  rw [Display.fed, Prefetcher.tick_surface _ _ |>.1]
  exact hrestart.full hstarted

/-! ## Visible pixels -/

/-- A line that brings a row has all the words of the row in the line buffer: black ones stand where
words are missing. -/
theorem size_startLine (d : Display) {v : Nat} (h : d.prefetcher.surface.bringsRow v = true) :
    (d.startLine v).line.words.size = d.prefetcher.surface.width := by
  rw [d.startLine_of_brings h]
  have hpopped := Queue.length_popMany d.prefetcher.buffer d.prefetcher.surface.width
  simp only [List.size_toArray, List.length_append, List.length_replicate, hpopped]
  omega

/-- Starting a line keeps the surface. -/
theorem startLine_surface (d : Display) (v : Nat) :
    (d.startLine v).prefetcher.surface = d.prefetcher.surface := by
  unfold startLine
  dsimp only
  split
  · rfl
  · rfl

/-- A visible pixel is taken from its column of a row of the surface. -/
theorem Stretches.lineFor (h : d.Stretches) (hvisible : d.timing.signals.active = true) :
    (d.lineFor d.timing.signals).At d.timing.timing.horizontal.active d.timing.h
      ∧ (d.lineFor d.timing.signals).words.size = d.prefetcher.surface.width := by
  obtain ⟨-, hv⟩ := (TimingGenerator.active_iff _).1 hvisible
  unfold Display.lineFor
  by_cases hfirst : d.timing.signals.h = 0
  · rw [if_pos hfirst, show d.timing.h = 0 from hfirst]
    refine ⟨d.startLine_at _ _, ?_⟩
    cases hrow : d.prefetcher.surface.bringsRow d.timing.signals.v with
    | true => exact d.size_startLine hrow
    | false =>
      -- only an odd line can show the row of the line before
      have hodd : d.timing.v % 2 = 1 := by
        simp only [DisplaySurface.bringsRow, Bool.not_eq_false', Bool.and_eq_true, beq_iff_eq]
          at hrow
        exact hrow.2
      have hstarted : d.timing.started = d.timing.v := by
        rw [TimingGenerator.started, if_pos hv, if_pos (show d.timing.h = 0 from hfirst)]
      rw [d.startLine_of_again hrow]
      exact h.full (by omega)
  · rw [if_neg hfirst]
    refine ⟨h.next hfirst hvisible, h.full ?_⟩
    rw [TimingGenerator.started, if_pos hv, if_neg (show d.timing.h ≠ 0 from hfirst)]
    exact Nat.succ_pos _

/-- Emitting a pixel keeps the surface. A visible one is taken out of the line buffer, which goes on
by a pixel. -/
theorem emit_line (d : Display) (signals : VideoSignals) :
    (d.emit signals).1.prefetcher.surface = d.prefetcher.surface
      ∧ (signals.active = false ∧ (d.emit signals).1.line = d.line
        ∨ signals.active = true ∧ (d.emit signals).2.color = .ofRgb565 (d.lineFor signals).word
          ∧ (d.emit signals).1.line
            = (d.lineFor signals).advance (max d.timing.timing.horizontal.active 1)) := by
  cases hvisible : signals.active with
  | false =>
    rw [d.emit_of_blank hvisible]
    exact ⟨rfl, .inl ⟨rfl, rfl⟩⟩
  | true =>
    rw [d.emit_of_active hvisible, lineFor]
    by_cases hfirst : signals.h = 0
    · rw [if_pos hfirst]
      refine ⟨d.startLine_surface signals.v, .inr ⟨rfl, rfl, ?_⟩⟩
      dsimp only
      rw [(d.startLine_keeps signals.v).2]
    · rw [if_neg hfirst]
      exact ⟨rfl, .inr ⟨rfl, rfl, rfl⟩⟩

/-- What a cycle does to the display that the timing generator finds. -/
theorem tick_fed (d : Display) (a : Arbiter) (s : DisplaySurface) :
    ((d.tick a s).2.2 = none
        ∧ (d.tick a s).1 = { d.fed a s with timing.divider := d.timing.divider + 1 })
      ∨ ∃ e, e = emit { d.fed a s with
            timing := d.timing.advance
            restartPending := d.timing.signals.vsyncEdge } d.timing.signals
          ∧ (d.tick a s).2.2 = some e.2 ∧ (d.tick a s).1 = e.1 := by
  obtain ⟨hgoing, htiming, -⟩ := d.restart_keeps s
  rw [tick_restart, fed, ← htiming]
  generalize d.restart s = d at hgoing ⊢
  rw [d.tick_of_going a s hgoing]
  rcases d.timing.tick_cases with htick | htick
  · rw [htick]
    exact .inl ⟨rfl, rfl⟩
  · rw [htick]
    exact .inr ⟨_, rfl, rfl, rfl⟩

/-- The line buffer of a pixel does not depend on what the timing generator does next. -/
theorem lineFor_timing (d : Display) (timing : TimingGenerator) (restartPending : Bool)
    (signals : VideoSignals) :
    { d with timing, restartPending }.lineFor signals = d.lineFor signals := by
  unfold lineFor startLine
  dsimp only
  split
  · split
    · rfl
    · rfl
  · rfl

/-- What a cycle that emits the next pixel does with the surface and the line buffer. -/
theorem tick_line (d : Display) (a : Arbiter) (s : DisplaySurface) {pixel : Pixel}
    (hpixel : (d.tick a s).2.2 = some pixel) :
    pixel.signals = d.timing.signals
      ∧ (d.tick a s).1.timing = d.timing.advance
      ∧ (d.tick a s).1.prefetcher.surface = (d.fed a s).prefetcher.surface
      ∧ (d.timing.signals.active = false ∧ (d.tick a s).1.line = (d.fed a s).line
        ∨ d.timing.signals.active = true ∧ pixel.color = .ofRgb565 (d.lineShown a s).word
          ∧ (d.tick a s).1.line
            = (d.lineShown a s).advance (max d.timing.timing.horizontal.active 1)) := by
  rcases d.tick_fed a s with ⟨hnone, -⟩ | ⟨e, he, hsome, hafter⟩
  · rw [hnone] at hpixel
    cases hpixel
  · rw [hsome] at hpixel
    obtain rfl := Option.some.inj hpixel
    have hkeeps := emit_keeps { d.fed a s with
      timing := d.timing.advance
      restartPending := d.timing.signals.vsyncEdge } d.timing.signals
    have hline := emit_line { d.fed a s with
      timing := d.timing.advance
      restartPending := d.timing.signals.vsyncEdge } d.timing.signals
    rw [← he] at hkeeps hline
    rw [lineFor_timing, d.timing.timing_advance] at hline
    rw [hafter]
    exact ⟨hkeeps.1, hkeeps.2.2, hline⟩

/-- **A cycle.** -/
theorem Stretches.tick (h : d.Stretches) (hactive : 0 < d.timing.timing.horizontal.active)
    (a : Arbiter) (s : DisplaySurface) : (d.tick a s).1.Stretches := by
  have hfed := h.fed a s
  have htiming : (d.fed a s).timing = d.timing := (d.restart_keeps s).2.1
  cases hpixel : (d.tick a s).2.2 with
  | none =>
    rcases d.tick_fed a s with ⟨-, hafter⟩ | ⟨e, -, hsome, -⟩
    · rw [hafter, ← htiming]
      exact ⟨hfed.full, hfed.next, hfed.poised⟩
    · rw [hsome] at hpixel
      cases hpixel
  | some pixel =>
    obtain ⟨-, hadvance, hsurface, hline⟩ := d.tick_line a s hpixel
    refine ⟨fun hstarted => ?_, fun hh hvisible => ?_, d.poised_tick a s⟩
    · rw [hsurface]
      rw [hadvance] at hstarted
      rcases hline with ⟨hblank, hline⟩ | ⟨hvisible, -, hline⟩
      · -- no line has begun, and the one under way goes on
        have hbegun : d.timing.started + d.timing.startsLine.toNat = d.timing.started := by
          rw [TimingGenerator.startsLine, hblank]
          rfl
        rw [hline]
        refine hfed.full ?_
        rw [htiming, ← hbegun]
        rcases TimingGenerator.started_advance hactive with hsame | ⟨-, hzero⟩
        · rw [← hsame]
          exact hstarted
        · rw [hzero] at hstarted
          exact absurd hstarted (Nat.lt_irrefl 0)
      · rw [hline]
        rw [← htiming] at hvisible
        have hsize := (hfed.lineFor hvisible).2
        rw [htiming] at hsize
        exact hsize
    · rw [hadvance] at hh hvisible ⊢
      obtain ⟨hnext, hbefore⟩ := TimingGenerator.active_of_advance hh hvisible
      rcases hline with ⟨hblank, -⟩ | ⟨-, -, hline⟩
      · rw [hbefore] at hblank
        cases hblank
      · rw [← htiming] at hbefore
        have hat := (hfed.lineFor hbefore).1
        rw [htiming] at hat
        rw [hline, hnext, d.timing.timing_advance, Nat.max_eq_left hactive]
        exact hat.advance

/-! ## Runs -/

/-- A display after cycles in each of which it meets an arbiter and a surface. -/
def cycles (d : Display) (inputs : List (Arbiter × DisplaySurface)) : Display :=
  inputs.foldl (fun d input => (d.tick input.1 input.2).1) d

/-- Cycles keep the raster. -/
theorem timing_cycles (d : Display) (inputs : List (Arbiter × DisplaySurface)) :
    (d.cycles inputs).timing.timing = d.timing.timing := by
  induction inputs generalizing d with
  | nil => rfl
  | cons input inputs ih => exact (ih _).trans (d.timing_tick input.1 input.2)

/-- Cycles keep what is known of the display. -/
theorem Stretches.cycles (h : d.Stretches) (hactive : 0 < d.timing.timing.horizontal.active)
    (inputs : List (Arbiter × DisplaySurface)) : (d.cycles inputs).Stretches := by
  induction inputs generalizing d with
  | nil => exact h
  | cons input inputs ih =>
    refine ih (h.tick hactive input.1 input.2) ?_
    rw [d.timing_tick]
    exact hactive

/-- **A row is stretched exactly.** A display with any timing, any buffer and any burst goes through
any cycles, and the next one emits the visible pixel `h` of a line that shows `shown` pixels. The
line buffer has all the words of a row, of which there are `width`, and the pixel shows one of them.
If a word can hold `width + shown`, this is the word in column `h * width / shown`, the remainder is
that of this division, and the next sum does not overflow. The loop that goes on to the next pixel
ends in any case. A line begins with the first column. -/
theorem stretch_exact (timing : VideoTiming) (capacity burst : Nat)
    (inputs : List (Arbiter × DisplaySurface)) (a : Arbiter) (surface : DisplaySurface) :
    let d := (ofTiming timing capacity burst).cycles inputs
    ∀ pixel ∈ (d.tick a surface).2.2, pixel.signals.active = true →
      let line := d.lineShown a surface
      let after := (d.tick a surface).1
      let h := pixel.signals.h
      let width := after.prefetcher.surface.width
      let shown := timing.horizontal.active
      h < shown ∧ line.words.size = width
        ∧ (width + shown < UInt32.size →
          line.column = h * width / shown ∧ line.remainder = h * width % shown
            ∧ line.remainder + width < UInt32.size ∧ after.line.overflowed = line.overflowed)
        ∧ (h = 0 → line.column = 0 ∧ line.remainder = 0)
        ∧ (∃ hlt : line.column < line.words.size,
            pixel.color = .ofRgb565 line.words[line.column])
        ∧ after.line = line.advance shown
        ∧ (shown < UInt32.size → LineBuffer.Carries (.ofNat shown)
            line.column (.ofNat line.remainder + .ofNat width)
            after.line.column (.ofNat after.line.remainder)) := by
  intro d pixel hpixel hvisible line after h width shown
  have htiming : d.timing.timing = timing := timing_cycles _ inputs
  obtain ⟨hsignals, -, hsurface, hline⟩ := d.tick_line a surface hpixel
  have hh : h = d.timing.h := congrArg VideoSignals.h hsignals
  rw [hsignals] at hvisible
  have hlt : h < shown := by
    obtain ⟨hlt, -⟩ := (TimingGenerator.active_iff _).1 hvisible
    rw [htiming] at hlt
    omega
  have hactive : 0 < shown := Nat.zero_lt_of_lt hlt
  have hstretches : (d.fed a surface).Stretches :=
    ((stretches_ofTiming timing capacity burst).cycles hactive inputs).fed a surface
  have hfed : (d.fed a surface).timing = d.timing := (d.restart_keeps surface).2.1
  obtain ⟨hat, hsize⟩ : line.At shown h ∧ line.words.size = width := by
    have hline := hstretches.lineFor (by rw [hfed]; exact hvisible)
    rw [hfed, htiming] at hline
    rw [hh, show width = _ from congrArg DisplaySurface.width hsurface]
    exact hline
  obtain ⟨-, hcolor, hafter⟩ := hline.resolve_left fun hblank => by simp [hvisible] at hblank
  rw [htiming, Nat.max_eq_left hactive] at hafter
  have hafter : after.line = line.advance shown := hafter
  have hcolumn : line.column < line.words.size := by
    rw [hat.column, hsize]
    exact DisplaySurface.column_lt _ hlt
  refine ⟨hlt, hsize, fun hword => ?_, fun hfirst => ?_, ⟨hcolumn, ?_⟩, hafter, fun hword => ?_⟩
  · have hplace := after.prefetcher.surface.stretch_eq hword hactive h
    have hremainder : line.remainder = h * width % shown := by
      rw [hat.remainder, hsize]
      exact congrArg Prod.snd hplace
    have hrest : h * width % shown < shown := Nat.mod_lt _ hactive
    have hsum : line.remainder + width < UInt32.size := by omega
    refine ⟨?_, hremainder, hsum, ?_⟩
    · rw [hat.column, hsize]
      exact congrArg Prod.fst hplace
    · rw [hafter, LineBuffer.advance, hsize, decide_eq_false (Nat.not_le.2 hsum), Bool.or_false]
  · have hcolumn := hat.column
    have hremainder := hat.remainder
    rw [hfirst] at hcolumn hremainder
    exact ⟨hcolumn, hremainder⟩
  · rw [hcolor, LineBuffer.word, Array.getElem?_eq_getElem hcolumn]
    rfl
  · rw [hafter, ← hsize]
    exact LineBuffer.carries_advance hword hactive

/-- A row of two columns is shown at three pixels of two lines. Its second word has not come. The
second pixel of the second line still shows the first word, and is two thirds of a column past
it. -/
theorem stretch_exact_of_doubled_line :
    let timing : VideoTiming := ⟨⟨3, 0, 0, 0⟩, ⟨2, 0, 1, 0⟩, 2⟩
    let surface : DisplaySurface := { lineDouble := true, widthLog2 := 1 }
    let answer : Arbiter := { slots := .const (.ready ⟨0, [0x1111]⟩) }
    let d := (ofTiming timing 4 2).cycles
      (({}, surface) :: (answer, surface) :: .replicate 7 ({}, surface))
    let pixel : Pixel := ⟨⟨1, 1, true, false, false, false, false⟩, .ofRgb565 0x1111⟩
    (d.tick {} surface).2.2 = some pixel
      ∧ (d.lineShown {} surface).column = 0 ∧ (d.lineShown {} surface).remainder = 2
      ∧ LineBuffer.Carries 3 0 4 1 1 := by
  intro timing surface answer d pixel
  have hpixel : (d.tick {} surface).2.2 = some pixel := by decide +kernel
  have hwidth : (d.tick {} surface).1.prefetcher.surface.width = 2 := by decide +kernel
  have hd : (ofTiming timing 4 2).cycles
      (({}, surface) :: (answer, surface) :: .replicate 7 ({}, surface)) = d := rfl
  -- from here on the run is not to be evaluated
  clear_value d
  subst hd
  obtain ⟨-, hsize, hexact, -, -, hafter, hloop⟩ :=
    stretch_exact timing 4 2 _ {} surface pixel hpixel rfl
  have hshown : timing.horizontal.active = 3 := rfl
  have hplace : pixel.signals.h = 1 := rfl
  rw [hwidth] at hsize hexact hloop
  obtain ⟨hcolumn, hremainder, -, -⟩ := hexact (by decide)
  have hloop := hloop (by decide)
  rw [hplace, hshown] at hcolumn hremainder
  rw [hafter, LineBuffer.advance, hsize, hcolumn, hremainder, hshown] at hloop
  exact ⟨hpixel, hcolumn, hremainder, hloop⟩

end Display

end RasterGpu
