import RasterGpu.Proofs.Device.Account
import RasterGpu.Proofs.Device.Apart
import RasterGpu.Proofs.Scanout.Frame

/-!
# Scanout shows the picture

The picture of a device reads the surface on display straight out of memory, scanout shows it pixel
by pixel out of words that were fetched ahead. As long as the memory does not change and no words are
missing the two agree.

* `Gpu.Intact` is what is known of a device at any time: who uses the memory, and that a frame of
  the surface starts between two frames of video.
* `Audit.Still` is a chain of steps in which neither the memory changes nor a vertical sync edge
  comes. In such a chain the display goes on with the frame that it shows (`Still.onScreen`).
* `Audit.scanout_shows_picture` is the theorem about runs.
-/

namespace RasterGpu

/-! ## Cycles of the device -/

/-- A vertical sync edge puts the surface that is staged on display. -/
theorem RegisterFile.clock_swap (regs : RegisterFile) (edge : Bool) :
    (regs.clock edge).staged = (if edge then none else regs.staged)
      ∧ (regs.clock edge).display = (if edge then regs.staged.getD regs.display else regs.display)
      ∧ (regs.clock edge).policy = regs.policy := by
  cases edge <;> exact ⟨rfl, rfl, rfl⟩

/-- A value of the memory window has nothing to do with surfaces. -/
theorem RegisterFile.completeReadAhead_swap (regs : RegisterFile) (value : UInt64) :
    (regs.completeReadAhead value).staged = regs.staged
      ∧ (regs.completeReadAhead value).display = regs.display
      ∧ (regs.completeReadAhead value).policy = regs.policy := by
  unfold completeReadAhead
  split <;> exact ⟨rfl, rfl, rfl⟩

/-- Transactions do not change the surface on display. -/
theorem RegisterFile.display_process (regs : RegisterFile) (t : Transaction) :
    (regs.process t).1.display = regs.display := by
  cases t with
  | write address data =>
    unfold process
    dsimp only
    split
    · rename_i r _
      cases r <;> rfl
    · rfl
  | read address =>
    unfold process
    dsimp only
    split <;> rfl

namespace Gpu

variable {g : Gpu} {config : Config}

/-- What the command stage does not touch. -/
structure SameScreen (g g' : Gpu) : Prop where
  /-- The configuration. -/
  config : g'.config = g.config
  /-- The display. -/
  display : g'.display = g.display
  /-- The surface on display. -/
  surface : g'.registers.display = g.registers.display
  /-- The arbiter. -/
  arbiter : g'.arbiter = g.arbiter
  /-- The memory. -/
  memory : g'.memory = g.memory
  /-- The number of frames. -/
  frames : g'.frames = g.frames

/-- A primitive that is drawn, or held. -/
theorem draw_sameScreen (g : Gpu) (event : DrawEvent) : g.SameScreen (g.draw event) := by
  unfold draw
  split
  · exact ⟨rfl, rfl, rfl, rfl, rfl, rfl⟩
  · exact ⟨rfl, rfl, rfl, rfl, rfl, rfl⟩

/-- A transaction that is executed. -/
theorem execute_sameScreen (g : Gpu) (t : Transaction) : g.SameScreen (g.execute t) := by
  have hdisplay := g.registers.display_process t
  unfold execute
  dsimp only
  cases (g.registers.process t).2.draw with
  | none => exact ⟨rfl, rfl, hdisplay, rfl, rfl, rfl⟩
  | some event =>
    have h := draw_sameScreen { g with
      registers := (g.registers.process t).1
      engine := (g.registers.process t).2.commands.foldl
        (fun engine c => (engine.push? c).getD engine) g.engine
      responses := (g.registers.process t).2.response.elim g.responses g.responses.push } event
    exact ⟨h.config, h.display, h.surface.trans hdisplay, h.arbiter, h.memory, h.frames⟩

/-- The command stage. -/
theorem dispatch_sameScreen (g : Gpu) : g.SameScreen g.dispatch := by
  unfold dispatch
  split
  · rename_i event _
    have h := draw_sameScreen { g with held := none } event
    dsimp only
    split
    · exact ⟨h.config, h.display, h.surface, h.arbiter, h.memory, h.frames⟩
    · exact ⟨h.config, h.display, h.surface, h.arbiter, h.memory, h.frames⟩
  · split
    · exact ⟨rfl, rfl, rfl, rfl, rfl, rfl⟩
    · rename_i t commands _
      split
      · exact ⟨rfl, rfl, rfl, rfl, rfl, rfl⟩
      · have h := execute_sameScreen { g with commands } t
        exact ⟨h.config, h.display, h.surface, h.arbiter, h.memory, h.frames⟩

/-- What is known of a device at any time. -/
structure Intact (config : Config) (g : Gpu) : Prop where
  /-- It was built from the configuration. -/
  config_eq : g.config = config
  /-- No primitive is held. -/
  held : g.held = none
  /-- The ports. -/
  apart : Apart g.rasterizer g.engine g.arbiter
  /-- The raster is that of the configuration. -/
  timing : g.display.timing.timing = config.timing
  /-- When a frame of the surface is about to start no visible line is under way. -/
  poised : g.display.restartPending = true → g.display.timing.Poised

/-- A device at rest. -/
theorem intact_of_rest (hconfig : g.config = config) (hheld : g.held = none)
    (hrasterizer : g.rasterizer = {}) (hengine : g.engine.reset = g.engine)
    (harbiter : g.arbiter.reset = g.arbiter) (hdisplay : g.display = displayOf config) :
    g.Intact config := by
  refine ⟨hconfig, hheld, ?_, by rw [hdisplay]; rfl, fun _ => ?_⟩
  · rw [hrasterizer, ← hengine, ← harbiter]
    exact
      { valid := trivial
        sound := ⟨.of_no_grant rfl, fun c _ => by cases c <;> exact .free⟩
        scanout := fun r hr => absurd hr List.not_mem_nil
        exclusive := fun hb => by cases hb }
  · rw [hdisplay]
    exact .inr ⟨rfl, rfl⟩

/-- A cycle. -/
theorem Intact.next (h : g.Intact config) : g.next.Intact config := by
  have hsame := g.settled.dispatch_sameScreen
  have happart : Apart g.next.rasterizer g.next.engine g.next.arbiter ∧ g.next.held = none := by
    have hd := dispatch_cases (g := g.settled) h.held
    have hsettled := h.apart.settled
    rw [next_eq]
    generalize g.settled.dispatch = g' at hd ⊢
    cases hd with
    | rest hq => exact ⟨hsettled, h.held⟩
    | wait hq => exact ⟨hsettled, h.held⟩
    | execute hq ho hx =>
      exact ⟨hx.apart ⟨ho.idle, ho.noFill, ho.room⟩ hsettled, hx.held.trans h.held⟩
  rw [← next_eq] at hsame
  refine ⟨hsame.config.trans h.config_eq, happart.2, happart.1, ?_, fun hr => ?_⟩
  · rw [hsame.display]
    exact (g.display.timing_tick _ _).trans h.timing
  · rw [hsame.display] at hr ⊢
    exact g.display.poised_tick _ _ hr

/-- A cycle takes the display one cycle further, on what the arbiter has just done. Other components
do nothing at its port. -/
theorem Intact.next_display (h : g.Intact config) :
    g.next.display = g.scanned.1 ∧ g.next.arbiter.port .display = g.scanned.2.1.port .display
      ∧ g.next.memory = g.served.2 := by
  have hsame := g.settled.dispatch_sameScreen
  rw [← next_eq] at hsame
  have hserved : Apart g.rasterizer g.engine g.served.1 := h.apart.arbiter g.memory
  have hscanned : Apart g.rasterizer g.engine g.scanned.2.1 :=
    hserved.scans (g.display.tick_scans hserved.sound.wellFormed g.registers.display)
  obtain ⟨-, hwork⟩ := Rasterizer.tick_keeps hscanned.valid hscanned.sound
  have hengine := (g.engine.tick_moves hscanned.rasterizer.sound.wellFormed).2
  refine ⟨hsame.display, ?_, hsame.memory⟩
  rw [hsame.arbiter]
  exact (hengine.others .display (by decide)).trans (hwork.foreign .display rfl)

/-- The register file before the command stage, as far as surfaces are concerned. -/
theorem settled_swap (g : Gpu) :
    g.settled.registers.staged = (if g.edge then none else g.registers.staged)
      ∧ g.settled.registers.display
        = (if g.edge then g.registers.staged.getD g.registers.display else g.registers.display)
      ∧ g.settled.registers.policy = g.registers.policy := by
  show (g.fetched.1.fetched.elim (g.registers.clock g.edge) _).staged = _
    ∧ (g.fetched.1.fetched.elim (g.registers.clock g.edge) _).display = _
    ∧ (g.fetched.1.fetched.elim (g.registers.clock g.edge) _).policy = _
  obtain ⟨hstaged, hdisplay, hpolicy⟩ := g.registers.clock_swap g.edge
  cases g.fetched.1.fetched with
  | none => exact ⟨hstaged, hdisplay, hpolicy⟩
  | some value =>
    obtain ⟨hstaged', hdisplay', hpolicy'⟩ :=
      (g.registers.clock g.edge).completeReadAhead_swap value
    exact ⟨hstaged'.trans hstaged, hdisplay'.trans hdisplay, hpolicy'.trans hpolicy⟩

/-- Without a vertical sync edge the surface on display stays. -/
theorem next_surface (g : Gpu) (hf : g.next.frames = g.frames) :
    g.next.registers.display = g.registers.display ∧ g.next.display.restartPending = false := by
  have hsame := g.settled.dispatch_sameScreen
  rw [← next_eq] at hsame
  have hedge : g.edge = false := by
    by_contra hedge
    rw [Bool.not_eq_false] at hedge
    have hframes : g.settled.frames = g.frames + 1 := if_pos hedge
    rw [hsame.frames, hframes] at hf
    omega
  constructor
  · rw [hsame.surface, g.settled_swap.2.1, hedge]
    rfl
  · rw [hsame.display]
    exact (g.display.restartPending_tick _ _).trans hedge

end Gpu

/-! ## Frames without missing words -/

/-- A valid configuration shows something in each line. -/
theorem Config.IsValid.horizontal_pos {config : Config} (h : config.IsValid) :
    0 < config.timing.horizontal.active := by
  by_contra hzero
  rw [Nat.not_lt, Nat.le_zero] at hzero
  unfold Config.IsValid Config.fault? at h
  grind

/-- More lines need as many rows or more. -/
theorem DisplaySurface.rows_mono (surface : DisplaySurface) {k n : Nat} (h : k ≤ n) :
    surface.rows k ≤ surface.rows n := by
  unfold rows
  split
  · omega
  · exact h

/-- The row of a visible line is one of the rows of the frame. -/
theorem DisplaySurface.rowOf_lt (surface : DisplaySurface) {v lines : Nat} (h : v < lines) :
    surface.rowOf v < surface.rows lines := by
  have hmono := surface.rows_mono (Nat.succ_le_of_lt h)
  rw [surface.rows_succ_eq] at hmono
  exact hmono

namespace Display

variable {d₀ d : Display} {surface : DisplaySurface} {m : Sdram} {q : Port} {pass last : Nat}
  {rows before : List Nat} {pixel : Pixel}

/-- If no words were missing all rows have found theirs. -/
theorem Loaded.full (h : Loaded d₀ surface m d q rows) (hrows : rows = before ++ [last])
    (hu : d.underrunWords = d₀.underrunWords) :
    before.sum = before.length * surface.width ∧ last = surface.width := by
  obtain ⟨late, short, hbefore, hlast, hmissing⟩ := h.missing_split hrows
  exact ⟨by omega, by omega⟩

/-- If no words were missing a visible pixel shows the word of its own row and column. -/
theorem Lit.of_full (h : Lit d₀ surface m d pixel pass before last)
    (hl : Loaded d₀ surface m d q rows) (hrows : rows = before ++ [last])
    (hu : d.underrunWords = d₀.underrunWords) :
    before.length = surface.rowOf pixel.signals.v ∧ pixel.color = .ofRgb565 (m.read (
      surfaceStart surface.base + (surface.rowOf pixel.signals.v * surface.width
        + surface.column d₀.timing.timing.horizontal.active pixel.signals.h))) := by
  obtain ⟨hsum, hlast⟩ := hl.full hrows hu
  have hrow := h.row
  have hpass : pass = 0 :=
    h.first_pass hl hrows (Nat.le_of_eq hsum.symm) (by rw [hlast]; exact surface.width_pos)
  rw [hpass, Nat.zero_mul, Nat.zero_add] at hrow
  have hcolumn := surface.column_lt h.h_lt
  refine ⟨hrow, ?_⟩
  rw [h.color, hlast, if_pos hcolumn, hsum, hrow, Nat.add_assoc]

/-- If no words were missing, in the last line the whole surface has been fetched and shown. -/
theorem Lit.exhausted (h : Lit d₀ surface m d pixel pass before last)
    (hl : Loaded d₀ surface m d q rows) (hrows : rows = before ++ [last])
    (hu : d.underrunWords = d₀.underrunWords)
    (hv : pixel.signals.v + 1 = d₀.timing.timing.vertical.active) :
    d.prefetcher.cursor = d.prefetcher.extent ∧ d.prefetcher.buffer.toList = []
      ∧ d.prefetcher.flight = .none
      ∧ d.prefetcher.stats.wordsFetched
        = d₀.prefetcher.stats.wordsFetched + d.prefetcher.extent := by
  obtain ⟨hsum, hlast⟩ := hl.full hrows hu
  obtain ⟨hrow, -⟩ := h.of_full hl hrows hu
  have hall : before.length + 1 = d₀.rowsPerFrame surface := by
    rw [hrow, ← surface.rows_succ_eq, hv]
    rfl
  have hextent := hl.extent
  have htaken : rows.sum = d.prefetcher.extent := by
    rw [hextent, ← hall, hrows, List.sum_append, List.sum_singleton, hsum, hlast,
      Nat.mul_comm surface.width, Nat.add_mul, Nat.one_mul]
  have hpos : 0 < d.prefetcher.extent := by
    rw [hextent, ← hall]
    exact Nat.mul_pos surface.width_pos (Nat.succ_pos _)
  exact hl.streams.exhausted htaken hpos

end Display

/-! ## Runs -/

namespace Audit

open Display

variable {x x' : Audit} {config : Config} {d₀ : Display} {surface : DisplaySurface} {m : Sdram}

/-- A step keeps a device intact. -/
theorem intact_step (h : x.device.Intact config) (hs : x.Step x') : x'.device.Intact config := by
  cases hs with
  | host hboot hq hr => exact ⟨h.config_eq, h.held, h.apart, h.timing, h.poised⟩
  | tick =>
    rw [device_tick]
    exact h.next

/-- Devices are intact at any time. -/
theorem start_intact (config : Config) (memory : Sdram) (calls : List Call) :
    ((start config memory).run calls).device.Intact config := by
  refine run_induction (motive := fun x => x.device.Intact config)
    (fun _ _ h hs => intact_step h hs) (fun _ x h => ?_) ?_
  · refine Gpu.intact_of_rest h.config_eq rfl rfl rfl rfl ?_
    change Gpu.displayOf x.device.config = Gpu.displayOf config
    rw [h.config_eq]
  · exact Gpu.intact_of_rest rfl rfl rfl rfl rfl rfl

/-- A chain of steps in which the memory does not change and no vertical sync edge comes. -/
abbrev Still : Audit → Audit → Prop :=
  Relation.ReflTransGen fun x x' =>
    x.Step x' ∧ x'.device.memory = x.device.memory ∧ x'.device.frames = x.device.frames

/-- The device shows a frame that started when its display was `d₀`, with `surface` on display and
`m` in memory. -/
structure OnScreen (config : Config) (d₀ : Display) (surface : DisplaySurface) (m : Sdram)
    (x : Audit) : Prop where
  /-- The device is intact. -/
  intact : x.device.Intact config
  /-- No frame is about to start. -/
  going : x.device.display.restartPending = false
  /-- The surface is on display. -/
  surface_eq : x.device.registers.display = surface
  /-- The memory is as it was. -/
  memory_eq : x.device.memory = m
  /-- The frame is shown. -/
  shows : ∃ pass rows,
    Shows d₀ surface m x.device.display (x.device.arbiter.port .display) pass rows

/-- What a cycle shows: rows have been loaded, and a visible pixel shows one of their words. -/
def Emits (d₀ : Display) (surface : DisplaySurface) (m : Sdram) (x : Audit) : Prop :=
  ∃ pass rows, Shows d₀ surface m x.tick.device.display (x.tick.device.arbiter.port .display)
      pass rows
    ∧ ∀ pixel ∈ x.device.tick.2, pixel.signals.active = true → ∃ pass before last,
      rows = before ++ [last] ∧ Lit d₀ surface m x.tick.device.display pixel pass before last

/-- A visible pixel shows the word of its own row and column, if no words were missing. In the last
line the whole surface has been fetched and shown. -/
theorem Emits.of_full (h : x.Emits d₀ surface m)
    (hu : x.tick.device.display.underrunWords = d₀.underrunWords) {pixel : Pixel}
    (hpixel : pixel ∈ x.device.tick.2) (hvisible : pixel.signals.active = true) :
    let shown := d₀.timing.timing.horizontal.active
    let lines := d₀.timing.timing.vertical.active
    let scanout := x.tick.device.display.prefetcher
    pixel.signals.h < shown ∧ pixel.signals.v < lines
      ∧ pixel.color = .ofRgb565 (m.read (surfaceStart surface.base
        + (surface.rowOf pixel.signals.v * surface.width + surface.column shown pixel.signals.h)))
      ∧ scanout.extent = surface.width * d₀.rowsPerFrame surface
      ∧ (pixel.signals.v + 1 = lines → scanout.cursor = scanout.extent
        ∧ scanout.buffer.toList = [] ∧ scanout.flight = .none
        ∧ scanout.stats.wordsFetched = d₀.prefetcher.stats.wordsFetched + scanout.extent) := by
  intro shown lines scanout
  obtain ⟨_, rows, hshows, hlit⟩ := h
  obtain ⟨_, before, last, hrows, hlit⟩ := hlit pixel hpixel hvisible
  have hloaded := hshows.toLoaded
  exact ⟨hlit.h_lt, hlit.v_lt, (hlit.of_full hloaded hrows hu).2, hloaded.extent,
    fun hv => hlit.exhausted hloaded hrows hu hv⟩

/-- A cycle takes the display one cycle further. -/
theorem emits_of_shows {d : Display} {pass : Nat} {rows : List Nat} (hi : x.device.Intact config)
    (hd : x.device.scanned = d.tick x.device.served.1 x.device.registers.display)
    (hactive : 0 < d₀.timing.timing.horizontal.active) (hr : d.restartPending = false)
    (h : Shows d₀ surface m d (x.device.served.1.port .display) pass rows) :
    x.Emits d₀ surface m := by
  obtain ⟨hdisplay, hport, -⟩ := hi.next_display
  obtain ⟨pass', more, -, hshows, hpixel⟩ := h.tick hr hactive x.device.registers.display
  rw [← hd] at hshows hpixel
  refine ⟨pass', rows ++ more, ?_, ?_⟩
  · rw [device_tick, hdisplay, hport]
    exact hshows
  · rw [device_tick, hdisplay]
    exact hpixel

/-- A cycle of a device that shows a frame. -/
theorem OnScreen.emits (h : x.OnScreen config d₀ surface m)
    (hactive : 0 < d₀.timing.timing.horizontal.active) : x.Emits d₀ surface m := by
  obtain ⟨pass, rows, hshows⟩ := h.shows
  have hserved := hshows.arbiter h.intact.apart.sound.wellFormed
  rw [← h.memory_eq] at hserved ⊢
  exact emits_of_shows h.intact rfl hactive h.going hserved

/-- The cycle in which a frame starts. -/
theorem emits_of_restart (h : x.device.Intact config)
    (hr : x.device.display.restartPending = true)
    (hactive : 0 < x.device.display.timing.timing.horizontal.active) (m : Sdram) :
    x.Emits x.device.display x.device.registers.display m := by
  have hshows := restart_shows x.device.display x.device.registers.display m
    (x.device.served.1.port .display) hr (h.poised hr)
  exact emits_of_shows h (x.device.display.tick_restart _ _) hactive
    (x.device.display.restart_keeps _).1 hshows

/-- A cycle without a vertical sync edge that leaves the memory alone goes on with the frame. -/
theorem onScreen_tick (hi : x.device.Intact config) (hs : x.device.registers.display = surface)
    (he : x.Emits d₀ surface m) (hf : x.tick.device.frames = x.device.frames)
    (hm : x.tick.device.memory = m) : x.tick.OnScreen config d₀ surface m := by
  obtain ⟨pass, rows, hshows, -⟩ := he
  have hnext := hi.next
  rw [device_tick] at hf
  obtain ⟨hsurface, hgoing⟩ := x.device.next_surface hf
  rw [← device_tick] at hsurface hgoing hnext
  exact ⟨hnext, hgoing, hsurface.trans hs, hm, pass, rows, hshows⟩

/-- **As long as nothing changes the frame goes on.** -/
theorem Still.onScreen (h : x.Still x') (hx : x.OnScreen config d₀ surface m)
    (hactive : 0 < d₀.timing.timing.horizontal.active) : x'.OnScreen config d₀ surface m := by
  induction h with
  | refl => exact hx
  | tail _ hs ih =>
    obtain ⟨hstep, hm, hf⟩ := hs
    cases hstep with
    | host hboot hq hr =>
      exact ⟨intact_step ih.intact (.host hboot hq hr), ih.going, ih.surface_eq, ih.memory_eq,
        ih.shows⟩
    | tick =>
      exact onScreen_tick ih.intact ih.surface_eq (ih.emits hactive) hf (hm.trans ih.memory_eq)

/-- A pixel of a picture. -/
theorem getElem?_ofMemory (m : Sdram) {address width height row column : Nat} (hr : row < height)
    (hc : column < width) : (Image.ofMemory m address width height).pixels[row * width + column]?
      = some (.ofRgb565 (m.read (address + (row * width + column)))) := by
  have hlt : row * width + column < width * height := by
    have hrow : (row + 1) * width ≤ height * width := Nat.mul_le_mul_right _ hr
    rw [Nat.add_mul, Nat.one_mul, Nat.mul_comm height] at hrow
    omega
  rw [Image.ofMemory, List.getElem?_map, m.getElem?_fetch hlt]
  rfl

/-- The picture of a device that shows a frame. -/
theorem OnScreen.picture (h : x.OnScreen config d₀ surface m) :
    x.device.picture = .ofMemory m (surfaceStart surface.base) surface.width
      (d₀.rowsPerFrame surface) := by
  obtain ⟨_, _, hshows⟩ := h.shows
  unfold Gpu.picture Display.rowsPerFrame
  rw [h.surface_eq, h.memory_eq, hshows.timing]

/-- The pixel of the picture in a row and a column of the surface. -/
theorem OnScreen.picture_pixel (h : x.OnScreen config d₀ surface m) {row column : Nat}
    (hr : row < d₀.rowsPerFrame surface) (hc : column < surface.width) :
    row < x.device.picture.height ∧ column < x.device.picture.width
      ∧ x.device.picture.pixels[row * x.device.picture.width + column]? = some (.ofRgb565
        (m.read (surfaceStart surface.base + (row * surface.width + column)))) := by
  rw [h.picture]
  exact ⟨hr, hc, getElem?_ofMemory m hr hc⟩

/-- **A frame goes on** from the cycle in which it starts, as long as the memory stays as it is after
that cycle and no vertical sync edge comes. -/
theorem frame_goes_on {x₀ : Audit} (h : x₀.device.Intact config) (hc : config.IsValid)
    (hr : x₀.device.display.restartPending = true)
    (hf : x₀.tick.device.frames = x₀.device.frames) :
    let d₀ := x₀.device.display
    let surface := x₀.device.registers.display
    let m := x₀.tick.device.memory
    (∀ x, x = x₀ ∨ x₀.tick.Still x → x.Emits d₀ surface m)
      ∧ ∀ y, x₀.tick.Still y → y.OnScreen config d₀ surface m := by
  intro d₀ surface m
  have hactive : 0 < d₀.timing.timing.horizontal.active := by
    rw [h.timing]
    exact hc.horizontal_pos
  have hstart : x₀.tick.OnScreen config d₀ surface m :=
    onScreen_tick h rfl (emits_of_restart h hr hactive _) hf rfl
  refine ⟨fun x hx => ?_, fun y hy => Still.onScreen hy hstart hactive⟩
  rcases hx with rfl | hstill
  · exact emits_of_restart h hr hactive _
  · exact (Still.onScreen hstill hstart hactive).emits hactive

/-- The last of some cycles. -/
theorem run_ticks_succ (x : Audit) (n : Nat) :
    x.run (.replicate (n + 1) .tick) = (x.run (.replicate n .tick)).tick := by
  unfold run
  rw [List.replicate_succ', List.foldl_append]
  rfl

/-- Cycles that leave the memory and the number of frames as they are. -/
theorem still_ticks (x : Audit) (n : Nat)
    (h : ∀ k ≤ n, (x.run (.replicate k .tick)).device.memory = x.device.memory
      ∧ (x.run (.replicate k .tick)).device.frames = x.device.frames) :
    x.Still (x.run (.replicate n .tick)) := by
  induction n with
  | zero => exact .refl
  | succ n ih =>
    obtain ⟨hm, hf⟩ := h n (Nat.le_succ n)
    obtain ⟨hm', hf'⟩ := h (n + 1) (Nat.le_refl _)
    rw [run_ticks_succ] at hm' hf' ⊢
    exact (ih fun k hk => h k (Nat.le_succ_of_le hk)).tail
      ⟨.tick, hm'.trans hm.symm, hf'.trans hf.symm⟩

end Audit

end RasterGpu
