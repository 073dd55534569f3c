import RasterGpu.Proofs.Scanout.Bursts
import RasterGpu.Proofs.Scanout.Raster

/-!
# The rows of a frame

From the start of a frame of the surface on, the display takes rows out of the words that the
prefetcher has put into its buffer, in order, and shows them. Whatever happens to the memory
meanwhile, all that is shown comes from the bursts of the frame.

* `Display.burst?` and `Display.row?` are the burst that a cycle puts into the buffer, and the words
  that it takes out of it for a row.
* `Display.Plays` relates the display to the bursts and the rows of the frame. A frame that starts
  has none (`restart_plays`), and a cycle adds its own (`Plays.tick`).
-/

namespace RasterGpu

/-- The pixels of a row: the words that were found, and black for the others. -/
def DisplaySurface.pixels (surface : DisplaySurface) (row : List UInt16) : List UInt16 :=
  row ++ .replicate (surface.width - row.length) 0

namespace Display

variable {d : Display} {q : Port} {a : Arbiter} {bursts : List Response} {rows : List (List UInt16)}

/-- The burst that a cycle puts into the buffer. -/
def burst? (d : Display) (a : Arbiter) (surface : DisplaySurface) : Option Response :=
  (d.restart surface).prefetcher.burst? a

/-- The words that a cycle takes out of the buffer for a row, if it loads one. -/
def row? (d : Display) (a : Arbiter) (surface : DisplaySurface) : Option (List UInt16) :=
  let p := ((d.restart surface).prefetcher.tick a).1
  if (d.tick a surface).2.2.any (p.surface.loads ·.signals) then
    some (p.buffer.popMany p.surface.width).1
  else
    none

/-- A cycle loads a row for a pixel if the surface has a row for its line. -/
theorem isSome_row? (d : Display) (a : Arbiter) (surface : DisplaySurface) :
    (d.row? a surface).isSome
      = (d.tick a surface).2.2.any ((d.restart surface).prefetcher.surface.loads ·.signals) := by
  obtain ⟨hsurface, -⟩ := (d.restart surface).prefetcher.tick_surface a
  unfold row?
  dsimp only
  rw [hsurface]
  split
  · rename_i hloads
    rw [hloads]
    rfl
  · rename_i hloads
    exact (Bool.eq_false_iff.2 hloads).symm

/-- Starting a frame first makes no difference to what a cycle takes out of the buffer, -/
theorem row?_restart (d : Display) (a : Arbiter) (surface : DisplaySurface) :
    (d.restart surface).row? a surface = d.row? a surface := by
  rw [row?, row?, restart_restart, ← tick_restart]

/-- nor to what it puts into it. -/
theorem burst?_restart (d : Display) (a : Arbiter) (surface : DisplaySurface) :
    (d.restart surface).burst? a surface = d.burst? a surface := by
  rw [burst?, burst?, restart_restart]

/-! ## The invariant -/

/-- Since the frame started these bursts were put into the buffer, and these rows were loaded. -/
structure Loads (d : Display) (q : Port) (bursts : List Response) (rows : List (List UInt16)) :
    Prop where
  /-- The rows were taken out of the words that have come. -/
  fetches : d.prefetcher.Fetches q bursts rows.flatten
  /-- The surface has as many words as its rows have. -/
  extent : d.prefetcher.extent
    = d.prefetcher.surface.width * d.rowsPerFrame d.prefetcher.surface
  /-- No row takes more words than it has pixels. -/
  found : ∀ row ∈ rows, row.length ≤ d.prefetcher.surface.width
  /-- The line buffer has the row that was loaded last. -/
  line : ∀ row, rows.getLast? = some row →
    d.line.words = (d.prefetcher.surface.pixels row).toArray

/-- The bursts and the rows of a frame that is shown. -/
structure Plays (d : Display) (q : Port) (bursts : List Response) (rows : List (List UInt16)) : Prop
    extends d.Loads q bursts rows where
  /-- Once a visible line has been started a row has been loaded. -/
  begun : 0 < d.timing.timing.horizontal.active → 0 < d.timing.started → rows ≠ []
  /-- The column of the next pixel, inside a visible line. -/
  column : d.timing.h ≠ 0 → d.timing.signals.active = true →
    d.line.At d.timing.timing.horizontal.active d.timing.h

/-- **A frame that starts has neither.** -/
theorem restart_plays {taken : List UInt16} (h : d.prefetcher.Fetches q bursts taken)
    (hr : d.restartPending = true) (hp : d.timing.Poised) (surface : DisplaySurface) :
    (d.restart surface).Plays q [] [] ∧ (d.restart surface).prefetcher.surface = surface := by
  rw [d.restart_of_pending surface hr]
  refine ⟨⟨⟨h.startFrame surface _, rfl, ?_, ?_⟩, fun _ hstarted => ?_, fun hh hvisible => ?_⟩, rfl⟩
  · exact fun row hrow => absurd hrow List.not_mem_nil
  · exact fun row hrow => by cases hrow
  · rw [show TimingGenerator.started _ = d.timing.started from rfl, hp.started_eq] at hstarted
    exact absurd hstarted (Nat.lt_irrefl 0)
  · obtain ⟨-, hv⟩ := d.timing.active_iff.1 hvisible
    rcases hp with hpast | ⟨hzero, -⟩
    · exact absurd hv (Nat.not_lt.2 hpast)
    · exact absurd hzero hh

/-! ## Pixels -/

/-- A line that shows the row before again. -/
theorem Loads.again (h : d.Loads q bursts rows) {v : Nat}
    (hagain : d.prefetcher.surface.bringsRow v = false) :
    (d.startLine v).Loads q bursts rows
      ∧ (d.startLine v).prefetcher.surface = d.prefetcher.surface := by
  rw [d.startLine_of_again hagain]
  exact ⟨⟨h.fetches, h.extent, h.found, h.line⟩, rfl⟩

/-- A line that loads a row. -/
theorem Loads.load (h : d.Loads q bursts rows) {v : Nat}
    (hbrings : d.prefetcher.surface.bringsRow v = true) :
    (d.startLine v).Loads q bursts
        (rows ++ [(d.prefetcher.buffer.popMany d.prefetcher.surface.width).1])
      ∧ (d.startLine v).prefetcher.surface = d.prefetcher.surface := by
  have hfetches := h.fetches.popMany d.prefetcher.surface.width
  have hlength := d.prefetcher.buffer.length_popMany d.prefetcher.surface.width
  rw [d.startLine_of_brings hbrings]
  generalize d.prefetcher.buffer.popMany d.prefetcher.surface.width = pair at hfetches hlength ⊢
  obtain ⟨words, buffer⟩ := pair
  dsimp only at hfetches hlength ⊢
  refine ⟨⟨?_, h.extent, fun row hrow => ?_, fun row hlast => ?_⟩, rfl⟩
  · rw [List.flatten_append, List.flatten_singleton]
    exact hfetches
  · rcases List.mem_append.1 hrow with hrow | hrow
    · exact h.found row hrow
    · obtain rfl := List.mem_singleton.1 hrow
      rw [hlength]
      exact Nat.min_le_left _ _
  · rw [List.getLast?_concat] at hlast
    obtain rfl := Option.some.inj hlast
    rfl

/-- Before a visible pixel its line is started, if it is the first. Then a row has been loaded. -/
theorem Loads.enter {g : TimingGenerator} {shown : Nat} (h : d.Loads q bursts rows)
    (hvisible : g.signals.active = true) (hbegun : 0 < g.started → rows ≠ [])
    (hcolumn : g.h ≠ 0 → d.line.At shown g.h) :
    let d' := if g.h = 0 then d.startLine g.v else d
    let more := if d.prefetcher.surface.loads g.signals then
      [(d.prefetcher.buffer.popMany d.prefetcher.surface.width).1] else []
    d'.Loads q bursts (rows ++ more) ∧ rows ++ more ≠ []
      ∧ d'.prefetcher.surface = d.prefetcher.surface ∧ d'.line.At shown g.h := by
  obtain ⟨-, hv⟩ := g.active_iff.1 hvisible
  intro d' more
  by_cases hfirst : g.h = 0
  · have hd' : d' = d.startLine g.v := if_pos hfirst
    have hloads : d.prefetcher.surface.loads g.signals = d.prefetcher.surface.bringsRow g.v :=
      d.prefetcher.surface.loads_of_first hvisible hfirst
    have hat : (d.startLine g.v).line.At shown g.h := by
      rw [hfirst]
      exact d.startLine_at g.v shown
    rw [hd']
    cases hbrings : d.prefetcher.surface.bringsRow g.v with
    | false =>
      have hmore : more = [] := if_neg (by rw [hloads, hbrings]; exact Bool.false_ne_true)
      -- an odd line is not the first of the frame
      have hstarted : 0 < g.started := by
        simp [DisplaySurface.bringsRow] at hbrings
        simp only [TimingGenerator.started, hv, hfirst, if_true]
        omega
      obtain ⟨hloaded, hsurface⟩ := h.again hbrings
      rw [hmore, List.append_nil]
      exact ⟨hloaded, hbegun hstarted, hsurface, hat⟩
    | true =>
      have hmore : more = [(d.prefetcher.buffer.popMany d.prefetcher.surface.width).1] :=
        if_pos (by rw [hloads, hbrings])
      obtain ⟨hloaded, hsurface⟩ := h.load hbrings
      rw [hmore]
      exact ⟨hloaded, List.append_ne_nil_of_right_ne_nil _ (List.cons_ne_nil _ _), hsurface, hat⟩
  · have hd' : d' = d := if_neg hfirst
    have hloads : d.prefetcher.surface.loads g.signals = false :=
      d.prefetcher.surface.loads_of_later hfirst
    have hmore : more = [] := if_neg (by rw [hloads]; exact Bool.false_ne_true)
    have hstarted : 0 < g.started := by simp [TimingGenerator.started, hv, hfirst]
    rw [hd', hmore, List.append_nil]
    exact ⟨h, hbegun hstarted, rfl, hcolumn hfirst⟩

/-- A visible pixel of a line of `shown` pixels shows its column in the row that was loaded last. That
is the nearest column to the left of its place, if a 32-bit word can hold the width of the row and the
width shown together (`DisplaySurface.column_eq`). -/
def Shown (surface : DisplaySurface) (rows : List (List UInt16)) (shown : Nat) (pixel : Pixel) :
    Prop :=
  ∃ (row : List UInt16) (word : UInt16), rows.getLast? = some row
    ∧ (surface.pixels row)[surface.column shown pixel.signals.h]? = some word
    ∧ pixel.color = .ofRgb565 word

/-- The word that the line buffer shows is one of the row loaded last. -/
theorem Loads.shown {g : TimingGenerator} (h : d.Loads q bursts rows) (hne : rows ≠ [])
    (hh : g.h < g.timing.horizontal.active)
    (hat : d.line.At g.timing.horizontal.active g.h) :
    Shown d.prefetcher.surface rows g.timing.horizontal.active
      ⟨g.signals, .ofRgb565 d.line.word⟩ := by
  obtain ⟨row, hrow⟩ : ∃ row, rows.getLast? = some row :=
    ⟨_, List.getLast?_eq_some_getLast hne⟩
  have hwords := h.line row hrow
  have hlength : (d.prefetcher.surface.pixels row).length = d.prefetcher.surface.width := by
    have hfound := h.found row (List.mem_of_getLast? hrow)
    rw [DisplaySurface.pixels, List.length_append, List.length_replicate]
    omega
  have hcolumn : d.line.column
      = d.prefetcher.surface.column g.timing.horizontal.active g.h := by
    rw [hat.column, hwords, List.size_toArray, hlength]
    rfl
  have hlt : d.line.column < (d.prefetcher.surface.pixels row).length := by
    rw [hcolumn, hlength]
    exact d.prefetcher.surface.column_lt hh
  refine ⟨row, (d.prefetcher.surface.pixels row)[d.line.column], hrow, ?_, ?_⟩
  · show (d.prefetcher.surface.pixels row)[d.prefetcher.surface.column _ g.h]? = _
    rw [← hcolumn]
    exact List.getElem?_eq_getElem hlt
  · show Rgba.ofRgb565 (d.line.words[d.line.column]?.getD 0) = _
    rw [hwords, List.getElem?_toArray, List.getElem?_eq_getElem hlt]
    rfl

/-- After a pixel that is not visible no visible line is under way. -/
theorem Loads.blank {g : TimingGenerator} (h : d.Loads q bursts rows)
    (hg : g.timing = d.timing.timing) (hnext : d.timing = g.advance)
    (hbegun : 0 < g.timing.horizontal.active → 0 < g.started → rows ≠ [])
    (hblank : g.signals.active = false) : d.Plays q bursts rows := by
  refine ⟨h, fun hactive hstarted => ?_, fun hh hactive => ?_⟩
  · have hstarts : g.startsLine = false := by
      rw [TimingGenerator.startsLine, hblank]
      rfl
    rw [← hg] at hactive
    have hadvance := TimingGenerator.started_advance hactive
    rw [hstarts, ← hnext] at hadvance
    apply hbegun hactive
    rcases hadvance with hgoes | ⟨-, hagain⟩
    · rw [hgoes] at hstarted
      exact hstarted
    · omega
  · rw [hnext] at hh hactive
    obtain ⟨-, hbefore⟩ := TimingGenerator.active_of_advance hh hactive
    rw [hblank] at hbefore
    cases hbefore

/-- After a visible pixel the line buffer is one column further. -/
theorem Loads.visible {g : TimingGenerator} (h : d.Loads q bursts rows) (hne : rows ≠ [])
    (hg : g.timing = d.timing.timing) (hnext : d.timing = g.advance)
    (hactive : 0 < g.timing.horizontal.active)
    (hat : d.line.At g.timing.horizontal.active g.h) :
    Plays { d with line := d.line.advance (max d.timing.timing.horizontal.active 1) } q bursts
      rows := by
  refine ⟨⟨h.fetches, h.extent, h.found, h.line⟩, fun _ _ => hne, fun hlater hagain => ?_⟩
  dsimp only at hlater hagain ⊢
  rw [hnext] at hlater hagain
  obtain ⟨hsucc, -⟩ := TimingGenerator.active_of_advance hlater hagain
  rw [← hg, Nat.max_eq_left hactive, hnext, hsucc]
  exact hat.advance

/-- A pixel is emitted, after the raster has moved on from it. -/
theorem Loads.plays {g : TimingGenerator} (h : d.Loads q bursts rows)
    (hg : g.timing = d.timing.timing) (hnext : d.timing = g.advance)
    (hbegun : 0 < g.timing.horizontal.active → 0 < g.started → rows ≠ [])
    (hcolumn : g.h ≠ 0 → g.signals.active = true → d.line.At g.timing.horizontal.active g.h) :
    let more := if d.prefetcher.surface.loads g.signals then
      [(d.prefetcher.buffer.popMany d.prefetcher.surface.width).1] else []
    (d.emit g.signals).1.Plays q bursts (rows ++ more)
      ∧ (d.emit g.signals).1.prefetcher.surface = d.prefetcher.surface
      ∧ (g.signals.active = true →
        Shown d.prefetcher.surface (rows ++ more) g.timing.horizontal.active
          (d.emit g.signals).2) := by
  intro more
  cases hvisible : g.signals.active with
  | false =>
    have hmore : more = [] := by
      apply if_neg
      rw [d.prefetcher.surface.loads_of_blank hvisible]
      exact Bool.false_ne_true
    rw [d.emit_of_blank hvisible, hmore, List.append_nil]
    exact ⟨h.blank hg hnext hbegun hvisible, rfl, fun hcontra => by cases hcontra⟩
  | true =>
    obtain ⟨hh, -⟩ := g.active_iff.1 hvisible
    have hactive : 0 < g.timing.horizontal.active := Nat.zero_lt_of_lt hh
    obtain ⟨hloads, hne, hsurface, hat⟩ :=
      h.enter hvisible (hbegun hactive) fun hlater => hcolumn hlater hvisible
    have htiming : (if g.h = 0 then d.startLine g.v else d).timing = d.timing := by
      split
      · exact (d.startLine_keeps g.v).2
      · rfl
    generalize hd' : (if g.h = 0 then d.startLine g.v else d) = d' at hloads hsurface hat htiming
    have hemit : d.emit g.signals
        = ({ d' with line := d'.line.advance (max d'.timing.timing.horizontal.active 1) },
          ⟨g.signals, .ofRgb565 d'.line.word⟩) := by
      rw [d.emit_of_active hvisible, ← hd']
      rfl
    rw [hemit]
    refine ⟨?_, hsurface, fun _ => ?_⟩
    · exact hloads.visible hne (htiming.symm ▸ hg) (htiming.trans hnext) hactive hat
    · rw [← hsurface]
      exact hloads.shown hne hh hat

/-! ## Cycles -/

/-- **A cycle adds its own burst and row**, the arbiter's cycle before it included. The burst has
the words that are in memory, and a visible pixel shows the row that was loaded last. -/
theorem Plays.tick (h : d.Plays (a.port .display) bursts rows) (hr : d.restartPending = false)
    (hw : a.WellFormed) (m : Sdram) (s : DisplaySurface) :
    let a' := (a.tick m).1
    (d.tick a' s).1.Plays ((d.tick a' s).2.1.port .display) (bursts ++ (d.burst? a' s).toList)
        (rows ++ (d.row? a' s).toList)
      ∧ (d.tick a' s).1.prefetcher.surface = d.prefetcher.surface
      ∧ (∀ burst ∈ d.burst? a' s, burst.data = m.fetch burst.address burst.data.length)
      ∧ ∀ pixel ∈ (d.tick a' s).2.2, pixel.signals.active = true →
        Shown d.prefetcher.surface (rows ++ (d.row? a' s).toList)
          d.timing.timing.horizontal.active pixel := by
  intro a'
  obtain ⟨hfetches, hmemory⟩ := h.fetches.tick hw m
  obtain ⟨hsurface, hextent⟩ := d.prefetcher.tick_surface a'
  have hrestart : d.restart s = d := d.restart_of_going s hr
  have hburst : d.burst? a' s = d.prefetcher.burst? a' := by rw [burst?, hrestart]
  have hrow : d.row? a' s
      = if (d.tick a' s).2.2.any (d.prefetcher.surface.loads ·.signals) then
        some ((d.prefetcher.tick a').1.buffer.popMany d.prefetcher.surface.width).1 else none := by
    rw [row?, hrestart, hsurface]
  have hmore (loads : Bool) (row : List UInt16) :
      (if loads then some row else none).toList = if loads then [row] else [] := by
    cases loads <;> rfl
  rw [hburst, hrow, d.tick_of_going a' s hr]
  rcases d.timing.tick_cases with htick | htick
  · rw [htick]
    refine ⟨?_, hsurface, hmemory, fun pixel hpixel => by cases hpixel⟩
    simp only [Option.any_none, Bool.false_eq_true, if_false, Option.toList_none, List.append_nil]
    exact ⟨⟨hfetches, by rw [hextent, h.extent, hsurface]; rfl, hsurface.symm ▸ h.found,
      hsurface.symm ▸ h.line⟩, h.begun, h.column⟩
  · -- the display just before it emits the pixel
    have hloads : Loads { d with
        timing := d.timing.advance
        prefetcher := (d.prefetcher.tick a').1
        restartPending := d.timing.signals.vsyncEdge } ((d.prefetcher.tick a').2.port .display)
        (bursts ++ (d.prefetcher.burst? a').toList) rows := by
      refine ⟨hfetches, ?_, hsurface.symm ▸ h.found, hsurface.symm ▸ h.line⟩
      dsimp only
      rw [hextent, hsurface, h.extent, rowsPerFrame, rowsPerFrame, d.timing.timing_advance]
    have hsignals := (emit_keeps { d with
      timing := d.timing.advance
      prefetcher := (d.prefetcher.tick a').1
      restartPending := d.timing.signals.vsyncEdge } d.timing.signals).1
    obtain ⟨hplays, hsame, hshown⟩ :=
      hloads.plays (g := d.timing) d.timing.timing_advance.symm rfl h.begun h.column
    rw [htick]
    dsimp only at hplays hsame hshown ⊢
    rw [Option.any_some, hsignals]
    rw [hsurface] at hplays hsame hshown
    rw [hmore]
    refine ⟨hplays, hsame, hmemory, fun pixel hpixel hvisible => ?_⟩
    obtain rfl := Option.some.inj hpixel
    rw [hsignals] at hvisible
    exact hshown hvisible

end Display

end RasterGpu
