import Mathlib.Algebra.GroupWithZero.Nat
import Mathlib.Algebra.Order.BigOperators.Group.List
import Mathlib.Algebra.Order.Group.Nat
import RasterGpu.Proofs.Scanout.Raster
import RasterGpu.Proofs.Scanout.Stream

/-!
# A frame of the surface

What the display shows between two vertical sync edges depends on when the words arrive only by how
many of them each row found in the buffer. This file describes a frame by this list of numbers, from
the cycle in which the frame starts on, as long as the memory does not change.

* `Display.Loaded` relates the display to the numbers of words that its rows have found, oldest
  first. The words go to the rows in order, so that a row that finds too few leaves the rest to the
  next.
* `Display.Shows` adds where in the raster the display is. A cycle keeps it (`Shows.tick`), and a
  frame that starts establishes it (`restart_shows`).
* `Display.Lit` says which word of the surface a visible pixel shows: the words found by the rows
  before its own come first.
-/

namespace RasterGpu

namespace Display

variable {d₀ d : Display} {surface : DisplaySurface} {m : Sdram} {q : Port} {rows : List Nat}

/-! ## The rows that were loaded -/

/-- Since the display was `d₀` a frame of `surface` started, and rows were loaded that found
`rows` words. -/
structure Loaded (d₀ : Display) (surface : DisplaySurface) (m : Sdram) (d : Display) (q : Port)
    (rows : List Nat) : Prop where
  /-- The raster is the same. -/
  timing : d.timing.timing = d₀.timing.timing
  /-- The surface is streamed, -/
  surface_eq : d.prefetcher.surface = surface
  /-- as many rows as a frame shows. -/
  extent : d.prefetcher.extent = surface.width * d₀.rowsPerFrame surface
  /-- The rows have taken the words that they found out of the stream. -/
  streams : d.prefetcher.Streams m q d₀.prefetcher.stats.wordsFetched rows.sum
  /-- No row takes more words than it has pixels. -/
  found : ∀ n ∈ rows, n ≤ surface.width
  /-- The words that the rows did not find were counted. -/
  missing : d.underrunWords + rows.sum = d₀.underrunWords + rows.length * surface.width
  /-- The line buffer has the words that the last row found, and black for the others. -/
  words : ∀ before last, rows = before ++ [last] → d.line.words =
    (m.fetch (surfaceStart surface.base + before.sum) last
      ++ .replicate (surface.width - last) 0).toArray

/-- The words that were missing were missing in the last row or in those before it. -/
theorem Loaded.missing_split (h : Loaded d₀ surface m d q rows) {before : List Nat} {last : Nat}
    (hrows : rows = before ++ [last]) : ∃ late short,
      before.sum + late = before.length * surface.width ∧ last + short = surface.width
        ∧ d.underrunWords = d₀.underrunWords + late + short := by
  have hbefore : before.sum ≤ before.length * surface.width :=
    before.sum_le_card_nsmul _ fun n hn =>
      h.found n (by rw [hrows]; exact List.mem_append_left _ hn)
  have hlast : last ≤ surface.width := h.found last (by simp [hrows])
  have hmissing := h.missing
  rw [hrows, List.sum_append, List.sum_singleton, List.length_append, List.length_singleton,
    Nat.add_mul, Nat.one_mul] at hmissing
  exact ⟨before.length * surface.width - before.sum, surface.width - last, by omega, by omega,
    by omega⟩

/-- The line buffer has a word for each pixel of a row. -/
theorem Loaded.size (h : Loaded d₀ surface m d q rows) {before : List Nat} {last : Nat}
    (hrows : rows = before ++ [last]) : d.line.words.size = surface.width := by
  have hlast : last ≤ surface.width := h.found last (by simp [hrows])
  rw [h.words before last hrows]
  simp only [List.size_toArray, List.length_append, Sdram.length_fetch, List.length_replicate]
  omega

/-- The word of the next pixel: of the words that the row found, or else black. -/
theorem Loaded.word (h : Loaded d₀ surface m d q rows) {before : List Nat} {last shown i : Nat}
    (hrows : rows = before ++ [last]) (hat : d.line.At shown i) :
    d.line.word = if surface.column shown i < last
      then m.read (surfaceStart surface.base + before.sum + surface.column shown i) else 0 := by
  have hcolumn : d.line.column = surface.column shown i := by
    rw [hat.column, h.size hrows]
    rfl
  unfold LineBuffer.word
  rw [hcolumn, h.words before last hrows, List.getElem?_toArray]
  split
  · rename_i hlt
    rw [List.getElem?_append_left (by rw [Sdram.length_fetch]; exact hlt), m.getElem?_fetch hlt]
    rfl
  · rename_i hge
    rw [List.getElem?_append_right (by rw [Sdram.length_fetch]; omega), List.getElem?_replicate]
    split
    · rfl
    · rfl

/-- A line that is started either shows the row again or loads the next one. -/
theorem Loaded.startLine (h : Loaded d₀ surface m d q rows) (v : Nat) :
    ∃ more : List Nat, more.length = (surface.bringsRow v).toNat
      ∧ Loaded d₀ surface m (d.startLine v) q (rows ++ more)
      ∧ (d.startLine v).lines = d.lines + 1
      ∧ (d.startLine v).timing = d.timing := by
  cases hbrings : surface.bringsRow v with
  | false =>
    rw [d.startLine_of_again (by rw [h.surface_eq]; exact hbrings)]
    refine ⟨[], rfl, ?_, rfl, rfl⟩
    rw [List.append_nil]
    exact ⟨h.timing, h.surface_eq, h.extent, h.streams, h.found, h.missing, h.words⟩
  | true =>
    rw [d.startLine_of_brings (by rw [h.surface_eq]; exact hbrings), h.surface_eq]
    obtain ⟨hwords, hstreams⟩ := h.streams.popMany surface.width
    have hfound : (d.prefetcher.buffer.popMany surface.width).1.length ≤ surface.width := by
      rw [Queue.length_popMany]
      exact Nat.min_le_left _ _
    generalize d.prefetcher.buffer.popMany surface.width = pair at hwords hstreams hfound ⊢
    obtain ⟨words, buffer⟩ := pair
    dsimp only at hwords hstreams hfound ⊢
    refine ⟨[words.length], rfl,
      ⟨h.timing, h.surface_eq, h.extent, ?_, ?_, ?_, ?_⟩, rfl, rfl⟩
    · rw [List.sum_append, List.sum_singleton]
      exact hstreams
    · intro n hn
      rcases List.mem_append.1 hn with hn | hn
      · exact h.found n hn
      · obtain rfl := List.mem_singleton.1 hn
        exact hfound
    · have hmissing := h.missing
      rw [List.sum_append, List.sum_singleton, List.length_append, List.length_singleton,
        Nat.add_mul, Nat.one_mul]
      change d.underrunWords + (surface.width - words.length) + _ = _
      omega
    · intro before last hrows
      obtain ⟨rfl, hlast⟩ := List.append_inj' hrows rfl
      obtain rfl := (List.cons.inj hlast).1
      have hstart : d.prefetcher.start = surfaceStart surface.base := by
        rw [Prefetcher.start, h.surface_eq]
      rw [hstart] at hwords
      change (words ++ _).toArray = _
      rw [← hwords]

/-! ## Pixels -/

/-- A visible pixel of the frame, after rows that found `before` words, in a row that found `last`.
The frame had been shown `pass` times before; a frame without vertical sync is shown again and
again. The columns past those that were found are black. -/
structure Lit (d₀ : Display) (surface : DisplaySurface) (m : Sdram) (d : Display) (pixel : Pixel)
    (pass : Nat) (before : List Nat) (last : Nat) : Prop where
  /-- It lies in the visible part of its line, -/
  h_lt : pixel.signals.h < d₀.timing.timing.horizontal.active
  /-- in a visible line. -/
  v_lt : pixel.signals.v < d₀.timing.timing.vertical.active
  /-- Its row is that of its line. -/
  row : before.length = pass * d₀.rowsPerFrame surface + surface.rowOf pixel.signals.v
  /-- Its line was started last. -/
  lines : d.lines
    = d₀.lines + (pass * d₀.timing.timing.vertical.active + (pixel.signals.v + 1))
  /-- It shows its column. -/
  color : pixel.color = .ofRgb565 (
    if surface.column d₀.timing.timing.horizontal.active pixel.signals.h < last then
      m.read (surfaceStart surface.base + before.sum
        + surface.column d₀.timing.timing.horizontal.active pixel.signals.h)
    else 0)

/-- If all words of the rows before were found, a row that finds words is one of the first pass. The
surface has no more words than that. -/
theorem Lit.first_pass {pixel : Pixel} {pass last : Nat} {before : List Nat}
    (h : Lit d₀ surface m d pixel pass before last) (hl : Loaded d₀ surface m d q rows)
    (hrows : rows = before ++ [last]) (hbefore : before.length * surface.width ≤ before.sum)
    (hlast : 0 < last) : pass = 0 := by
  have htaken := hl.streams.taken_le
  rw [hl.extent, hrows, List.sum_append, List.sum_singleton, Nat.mul_comm] at htaken
  have hlt : before.length < d₀.rowsPerFrame surface :=
    Nat.lt_of_mul_lt_mul_right (a := surface.width) (by omega)
  by_contra hpass
  have hle : d₀.rowsPerFrame surface ≤ pass * d₀.rowsPerFrame surface :=
    Nat.le_mul_of_pos_left _ (Nat.pos_of_ne_zero hpass)
  have hrow := h.row
  omega

/-- Where the display is in the raster: `lines` visible lines of the frame have been started, which
had been shown `pass` times before. -/
structure Reached (d₀ : Display) (surface : DisplaySurface) (d : Display) (lines pass : Nat)
    (rows : List Nat) : Prop where
  /-- The rows of the lines that were started have been loaded. -/
  rows_eq : rows.length = pass * d₀.rowsPerFrame surface + surface.rows lines
  /-- The lines that were started are counted. -/
  lines_eq : d.lines = d₀.lines + (pass * d₀.timing.timing.vertical.active + lines)

/-- Before a visible pixel its line is started, if it is the first. -/
theorem Loaded.enter {g : TimingGenerator} {pass : Nat} (h : Loaded d₀ surface m d q rows)
    (hvisible : g.signals.active = true)
    (hreached : Reached d₀ surface d g.started pass rows)
    (hcolumn : g.h ≠ 0 → d.line.At d₀.timing.timing.horizontal.active g.h) :
    let d' := if g.h = 0 then d.startLine g.v else d
    ∃ more : List Nat, more.length = (surface.loads g.signals).toNat
      ∧ Loaded d₀ surface m d' q (rows ++ more)
      ∧ Reached d₀ surface d' (g.v + 1) pass (rows ++ more)
      ∧ d'.line.At d₀.timing.timing.horizontal.active g.h := by
  obtain ⟨-, hv⟩ := g.active_iff.1 hvisible
  by_cases hfirst : g.h = 0
  · have hstarted : g.started = g.v := by simp [TimingGenerator.started, hv, hfirst]
    have hloads : surface.loads g.signals = surface.bringsRow g.v :=
      surface.loads_of_first hvisible hfirst
    rw [hstarted] at hreached
    obtain ⟨more, hmore, hloaded, hlines, -⟩ := h.startLine g.v
    rw [if_pos hfirst]
    refine ⟨more, by rw [hmore, hloads], hloaded, ⟨?_, ?_⟩,
      by rw [hfirst]; exact d.startLine_at _ _⟩
    · rw [List.length_append, hmore, hreached.rows_eq, surface.rows_succ, Nat.add_assoc]
    · rw [hlines, hreached.lines_eq]
      omega
  · have hstarted : g.started = g.v + 1 := by simp [TimingGenerator.started, hv, hfirst]
    have hloads : surface.loads g.signals = false := surface.loads_of_later hfirst
    rw [hstarted] at hreached
    rw [if_neg hfirst]
    refine ⟨[], by rw [hloads]; rfl, ?_⟩
    rw [List.append_nil]
    exact ⟨h, hreached, hcolumn hfirst⟩

/-- A visible pixel shows the line buffer, which has the row loaded last. -/
theorem Loaded.lit {g : TimingGenerator} {pass : Nat} (h : Loaded d₀ surface m d q rows)
    (hg : g.timing = d₀.timing.timing) (hvisible : g.signals.active = true)
    (hreached : Reached d₀ surface d (g.v + 1) pass rows)
    (hat : d.line.At d₀.timing.timing.horizontal.active g.h) :
    ∃ before last, rows = before ++ [last]
      ∧ Lit d₀ surface m d ⟨g.signals, .ofRgb565 d.line.word⟩ pass before last := by
  obtain ⟨hh, hv⟩ := g.active_iff.1 hvisible
  rw [hg] at hh hv
  have hlength := hreached.rows_eq
  rw [surface.rows_succ_eq, ← Nat.add_assoc] at hlength
  have hne : rows ≠ [] := List.ne_nil_of_length_eq_add_one hlength
  obtain ⟨before, last, hrows⟩ : ∃ before last, rows = before ++ [last] :=
    ⟨_, _, (List.dropLast_concat_getLast hne).symm⟩
  refine ⟨before, last, hrows, hh, hv, ?_, hreached.lines_eq, ?_⟩
  · rw [hrows, List.length_append, List.length_singleton] at hlength
    exact Nat.succ.inj hlength
  · exact congrArg Rgba.ofRgb565 (h.word hrows hat)

/-- A pixel is emitted. If it is the first of a visible line, that is started. -/
theorem Loaded.emit {g : TimingGenerator} {pass : Nat} (h : Loaded d₀ surface m d q rows)
    (hg : g.timing = d₀.timing.timing) (hactive : 0 < d₀.timing.timing.horizontal.active)
    (hreached : Reached d₀ surface d g.started pass rows)
    (hcolumn : g.h ≠ 0 → g.signals.active = true →
      d.line.At d₀.timing.timing.horizontal.active g.h) :
    ∃ more : List Nat, more.length = (surface.loads g.signals).toNat
      ∧ Loaded d₀ surface m (d.emit g.signals).1 q (rows ++ more)
      ∧ Reached d₀ surface (d.emit g.signals).1 (g.started + g.startsLine.toNat) pass (rows ++ more)
      ∧ (g.signals.active = true →
        (d.emit g.signals).1.line.At d₀.timing.timing.horizontal.active (g.h + 1)
          ∧ ∃ before last, rows ++ more = before ++ [last]
            ∧ Lit d₀ surface m (d.emit g.signals).1 (d.emit g.signals).2 pass before last) := by
  cases hvisible : g.signals.active with
  | false =>
    have hstarts : g.startsLine = false := by
      rw [TimingGenerator.startsLine, hvisible]
      rfl
    have hloads : surface.loads g.signals = false := surface.loads_of_blank hvisible
    refine ⟨[], by rw [hloads]; rfl, ?_⟩
    rw [d.emit_of_blank hvisible, hstarts, List.append_nil]
    exact ⟨h, hreached, fun hcontra => by cases hcontra⟩
  | true =>
    obtain ⟨-, hv⟩ := g.active_iff.1 hvisible
    have hbegun : g.started + g.startsLine.toNat = g.v + 1 := by
      rw [TimingGenerator.started_add_startsLine (by rw [hg]; exact hactive), if_pos hv]
    obtain ⟨more, hmore, hloaded, hreached', hat⟩ :=
      h.enter hvisible hreached fun hh => hcolumn hh hvisible
    generalize hd' : (if g.h = 0 then d.startLine g.v else d) = d' at hloaded hreached' hat
    have hemit : d.emit g.signals
        = ({ d' with line := d'.line.advance (max d'.timing.timing.horizontal.active 1) },
          ⟨g.signals, .ofRgb565 d'.line.word⟩) := by
      rw [d.emit_of_active hvisible, ← hd']
      rfl
    obtain ⟨before, last, hrows, hlit⟩ := hloaded.lit hg hvisible hreached' hat
    rw [hemit, hbegun, hloaded.timing, Nat.max_eq_left hactive]
    refine ⟨more, hmore, ?_, ⟨hreached'.rows_eq, hreached'.lines_eq⟩, fun _ =>
      ⟨hat.advance, before, last, hrows, hlit.h_lt, hlit.v_lt, hlit.row, hlit.lines,
        hlit.color⟩⟩
    exact ⟨hloaded.timing, hloaded.surface_eq, hloaded.extent, hloaded.streams, hloaded.found,
      hloaded.missing, hloaded.words⟩

/-! ## The frame -/

/-- The rows loaded so far, and where the display is in the raster. -/
structure Shows (d₀ : Display) (surface : DisplaySurface) (m : Sdram) (d : Display) (q : Port)
    (pass : Nat) (rows : List Nat) : Prop extends Loaded d₀ surface m d q rows where
  /-- The lines that were started. -/
  reached : Reached d₀ surface d d.timing.started pass rows
  /-- The column of the next pixel, inside a visible line. -/
  column : d.timing.h ≠ 0 → d.timing.signals.active = true →
    d.line.At d₀.timing.timing.horizontal.active d.timing.h

/-- A cycle of the arbiter does not matter to what is shown. -/
theorem Shows.arbiter {a : Arbiter} {pass : Nat}
    (h : Shows d₀ surface m d (a.port .display) pass rows) (hw : a.WellFormed) :
    Shows d₀ surface m d ((a.tick m).1.port .display) pass rows :=
  { h with streams := h.streams.arbiter hw }

/-- **A frame that starts has loaded no row.** -/
theorem restart_shows (d₀ : Display) (surface : DisplaySurface) (m : Sdram) (q : Port)
    (hr : d₀.restartPending = true) (hp : d₀.timing.Poised) :
    Shows d₀ surface m (d₀.restart surface) q 0 [] := by
  rw [d₀.restart_of_pending surface hr]
  refine ⟨⟨rfl, rfl, rfl, ?_, ?_, ?_, ?_⟩, ⟨?_, ?_⟩, fun hh hvisible => ?_⟩
  · exact d₀.prefetcher.startFrame_streams surface _ m q
  · exact fun n hn => absurd hn List.not_mem_nil
  · simp
  · intro before last hrows
    exact absurd hrows.symm (List.append_ne_nil_of_right_ne_nil _ (List.cons_ne_nil _ _))
  · simp [hp.started_eq]
  · simp [hp.started_eq]
  · obtain ⟨-, hv⟩ := d₀.timing.active_iff.1 hvisible
    rcases hp with hpast | ⟨hzero, -⟩
    · exact absurd hv (Nat.not_lt.2 hpast)
    · exact absurd hzero hh

/-- A pixel is emitted, after the raster has moved on from it. -/
theorem Loaded.shows {g : TimingGenerator} {pass : Nat} (h : Loaded d₀ surface m d q rows)
    (hg : g.timing = d₀.timing.timing) (hnext : d.timing = g.advance)
    (hactive : 0 < d₀.timing.timing.horizontal.active)
    (hreached : Reached d₀ surface d g.started pass rows)
    (hcolumn : g.h ≠ 0 → g.signals.active = true →
      d.line.At d₀.timing.timing.horizontal.active g.h) :
    ∃ (pass' : Nat) (more : List Nat), more.length = (surface.loads g.signals).toNat
      ∧ Shows d₀ surface m (d.emit g.signals).1 q pass' (rows ++ more)
      ∧ (g.signals.active = true → ∃ pass before last, rows ++ more = before ++ [last]
        ∧ Lit d₀ surface m (d.emit g.signals).1 (d.emit g.signals).2 pass before last) := by
  obtain ⟨more, hmore, hloaded, hreached', hpixel⟩ := h.emit hg hactive hreached hcolumn
  have htiming : (d.emit g.signals).1.timing = g.advance := by
    rw [← hnext]
    exact (d.emit_keeps g.signals).2.2
  have hcolumn' : (d.emit g.signals).1.timing.h ≠ 0 →
      (d.emit g.signals).1.timing.signals.active = true →
      (d.emit g.signals).1.line.At d₀.timing.timing.horizontal.active
        (d.emit g.signals).1.timing.h := by
    rw [htiming]
    intro hh hvisible
    obtain ⟨hsucc, hvisible'⟩ := TimingGenerator.active_of_advance hh hvisible
    rw [hsucc]
    exact (hpixel hvisible').1
  have hlit : g.signals.active = true → ∃ pass before last, rows ++ more = before ++ [last]
      ∧ Lit d₀ surface m (d.emit g.signals).1 (d.emit g.signals).2 pass before last := by
    intro hvisible
    obtain ⟨-, before, last, hrows, hlit⟩ := hpixel hvisible
    exact ⟨pass, before, last, hrows, hlit⟩
  rcases TimingGenerator.started_advance (g := g) (by rw [hg]; exact hactive) with
    hgoes | ⟨hall, hagain⟩
  · refine ⟨pass, more, hmore, ⟨hloaded, ?_, hcolumn'⟩, hlit⟩
    rw [htiming, hgoes]
    exact hreached'
  · -- the frame is shown again
    refine ⟨pass + 1, more, hmore, ⟨hloaded, ?_, hcolumn'⟩, hlit⟩
    rw [htiming, hagain]
    rw [hall, hg] at hreached'
    refine ⟨?_, ?_⟩
    · rw [hreached'.rows_eq, surface.rows_zero, Nat.add_mul, Nat.one_mul]
      rfl
    · rw [hreached'.lines_eq, Nat.add_mul, Nat.one_mul]
      rfl

/-- **A cycle shows the frame further.** If it emits a visible pixel, that shows the word that the
rows loaded so far lead to. -/
theorem Shows.tick {a : Arbiter} {pass : Nat}
    (h : Shows d₀ surface m d (a.port .display) pass rows) (hr : d.restartPending = false)
    (hactive : 0 < d₀.timing.timing.horizontal.active) (s : DisplaySurface) :
    ∃ (pass' : Nat) (more : List Nat),
      more.length = ((d.tick a s).2.2.any fun pixel => surface.loads pixel.signals).toNat
      ∧ Shows d₀ surface m (d.tick a s).1 ((d.tick a s).2.1.port .display) pass' (rows ++ more)
      ∧ ∀ pixel ∈ (d.tick a s).2.2, pixel.signals.active = true →
        ∃ pass before last, rows ++ more = before ++ [last]
          ∧ Lit d₀ surface m (d.tick a s).1 pixel pass before last := by
  obtain ⟨hsurface, hextent⟩ := d.prefetcher.tick_surface a
  have hstreams := h.streams.tick
  rw [d.tick_of_going a s hr]
  rcases d.timing.tick_cases with htick | htick
  · rw [htick]
    refine ⟨pass, [], rfl, ?_⟩
    rw [List.append_nil]
    exact ⟨⟨⟨h.timing, hsurface.trans h.surface_eq, hextent.trans h.extent, hstreams, h.found,
        h.missing, h.words⟩, ⟨h.reached.rows_eq, h.reached.lines_eq⟩, h.column⟩,
      fun pixel hpixel => by cases hpixel⟩
  · rw [htick]
    -- the display just before it emits the pixel
    have hloaded : Loaded d₀ surface m { d with
        timing := d.timing.advance
        prefetcher := (d.prefetcher.tick a).1
        restartPending := d.timing.signals.vsyncEdge } ((d.prefetcher.tick a).2.port .display) rows :=
      ⟨d.timing.timing_advance.trans h.timing, hsurface.trans h.surface_eq, hextent.trans h.extent,
        hstreams, h.found, h.missing, h.words⟩
    obtain ⟨pass', more, hmore, hshows, hlit⟩ := hloaded.shows h.timing rfl hactive
      ⟨h.reached.rows_eq, h.reached.lines_eq⟩ h.column
    have hsignals := (emit_keeps { d with
      timing := d.timing.advance
      prefetcher := (d.prefetcher.tick a).1
      restartPending := d.timing.signals.vsyncEdge } d.timing.signals).1
    refine ⟨pass', more, ?_, hshows, fun pixel hmem hvisible => ?_⟩
    · rw [hmore, Option.any_some, hsignals]
    · obtain rfl := Option.some.inj hmem
      rw [hsignals] at hvisible
      exact hlit hvisible

end Display

end RasterGpu
