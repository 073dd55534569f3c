import Mathlib.Data.List.Induction
import RasterGpu.Proofs.Device.Reachable
import RasterGpu.Proofs.Device.WriteOrder
import RasterGpu.Proofs.Scanout.Playback

/-!
# Surfaces are swapped between frames

A write to the display register stages a surface. A vertical sync edge puts it on display, and
scanout begins with it in the cycle after. Display, register file and command stage go one after the
other in a cycle, so it has to be said which surface is meant when all of this falls into the same
cycle or the next.

* `Film` is a device with what it was at the beginning of each cycle since reset. Between cycles the
  host may do anything to the command queue, the answers and the memory. All that a host can do is
  made of that (`Film.of_reachable`).
* `Film.staged` are the surfaces staged since the last vertical sync edge, and `Film.frame` the
  cycles of the frame that scanout shows.
* `Film.Atomic` says what a cycle does to the surface on display and to the one that scanout reads,
  and that all bursts, rows and pixels of a frame are of one surface (`Film.Single`).
* `Film.Swaps` says what becomes of the surfaces that are staged between two edges.
* `Film.Invariant` holds before each cycle. From it follow both, and so `Film.swaps_between_frames`.
-/

namespace RasterGpu

/-! ## Staging -/

/-- The surface that a transaction stages. -/
def Transaction.surface? : Transaction → Option DisplaySurface
  | write address data =>
    if address = Register.display.address then some (.ofWord data) else none
  | read _ => none

namespace RegisterFile

/-- A transaction stages its surface, if it has one, and does not change the policy. -/
theorem process_swap (regs : RegisterFile) (t : Transaction) :
    (regs.process t).1.staged = (t.surface?.or regs.staged)
      ∧ (regs.process t).1.policy = regs.policy := by
  cases t with
  | read address =>
    unfold process
    dsimp only
    split <;> exact ⟨rfl, rfl⟩
  | write address data =>
    unfold process
    dsimp only
    by_cases ha : address = Register.display.address
    · subst ha
      rw [Register.ofAddress?_address, Transaction.surface?, if_pos rfl]
      exact ⟨rfl, rfl⟩
    · rw [Transaction.surface?, if_neg ha]
      split
      · rename_i r hr
        have hne : r ≠ .display := by
          rintro rfl
          exact ha (Register.address_of_ofAddress? hr).symm
        cases r <;> first | exact absurd rfl hne | exact ⟨rfl, rfl⟩
      · exact ⟨rfl, rfl⟩

end RegisterFile

namespace Gpu

variable {g : Gpu} {config : Config}

/-! ## A cycle, seen from outside -/

/-- The surface that a cycle stages, if it processes a write to the display register. -/
def stages? (g : Gpu) : Option DisplaySurface :=
  g.executed?.bind Transaction.surface?

/-- The burst that a cycle puts into the scanout buffer. -/
def burst? (g : Gpu) : Option Response :=
  g.display.burst? g.served.1 g.registers.display

/-- The words that a cycle takes out of the scanout buffer for a row. -/
def row? (g : Gpu) : Option (List UInt16) :=
  g.display.row? g.served.1 g.registers.display

/-- The pixel that a cycle emits comes from the display. -/
theorem tick_pixel (g : Gpu) : g.tick.2 = g.scanned.2.2 := rfl

/-- The register file after a cycle, with the transaction that the cycle executes. That can be
processed. -/
theorem next_registers (hheld : g.held = none) :
    g.next.registers = g.executed?.elim g.settled.registers
        (fun t => (g.settled.registers.process t).1)
      ∧ ∀ t ∈ g.executed?, g.settled.registers.canProcess t = true := by
  let x : Audit := { device := g }
  have hnext : x.tick.device = g.next := x.device_tick
  unfold executed?
  cases Audit.tick_cases (x := x) hheld with
  | rest stallCycles hd ha =>
    rw [hnext] at hd
    have hless : ¬ g.next.commands.size < g.settled.commands.size := by
      rw [hd]
      exact Nat.lt_irrefl _
    rw [if_neg hless, hd]
    exact ⟨rfl, fun t ht => by cases ht⟩
  | @execute t commands hq ho hp hx hprocessed haccepted =>
    rw [hnext] at hx
    have hqueue : g.settled.commands.entries.toList = t :: commands.entries.toList := hq
    rw [if_pos (hx.size_lt hqueue), hqueue, List.head?_cons, hx.registers]
    refine ⟨rfl, fun t' ht => ?_⟩
    obtain rfl := Option.some.inj ht
    exact hp

/-- **What a cycle does with surfaces.** An edge puts the one that is staged on display, and after
that the cycle may stage another. -/
theorem next_swap (hheld : g.held = none) :
    g.next.registers.staged = g.stages?.or (if g.edge then none else g.registers.staged)
      ∧ g.next.registers.display
        = (if g.edge then g.registers.staged.getD g.registers.display else g.registers.display)
      ∧ g.next.registers.policy = g.registers.policy := by
  obtain ⟨hregisters, -⟩ := next_registers hheld
  obtain ⟨hstaged, hdisplay, hpolicy⟩ := g.settled_swap
  rw [hregisters, stages?, ← hstaged, ← hdisplay, ← hpolicy]
  cases g.executed? with
  | none => exact ⟨rfl, rfl, rfl⟩
  | some t =>
    obtain ⟨hstaged', hpolicy'⟩ := g.settled.registers.process_swap t
    exact ⟨hstaged', g.settled.registers.display_process t, hpolicy'⟩

end Gpu

/-! ## Films -/

/-- A device, with what it was at the beginning of each cycle since reset, oldest first. -/
structure Film where
  /-- The device now. -/
  device : Gpu
  /-- The device at the beginning of each cycle. -/
  cycles : List Gpu := []

namespace Film

/-- What happens to a device. -/
inductive Act where
  /-- A cycle passes. -/
  | tick
  /-- The host does something to the command queue, to the answers and to the memory. -/
  | host (commands : CommandQueue) (responses : Queue UInt64) (memory : Sdram)
  /-- The device is reset. -/
  | reset

/-- A new device. -/
def start (config : Config) : Film where
  device := .ofConfig config

/-- What becomes of a film. -/
def act (f : Film) : Act → Film
  | .tick => { device := f.device.next, cycles := f.cycles ++ [f.device] }
  | .host commands responses memory =>
    { f with device := { f.device with commands, responses, memory } }
  | .reset => { device := f.device.reset }

/-- Things happen, one after the other. -/
def run (f : Film) (acts : List Act) : Film :=
  acts.foldl act f

/-- The device at the beginning of each cycle, the one that is to come included. -/
def moments (f : Film) : List Gpu :=
  f.cycles ++ [f.device]

/-- **Whatever a host does to a device is made of these.** -/
theorem of_reachable {config : Config} {g : Gpu} (h : g.Reachable config) :
    ∃ acts, ((start config).run acts).device = g := by
  have hmore {g : Gpu} (hg : ∃ acts, ((start config).run acts).device = g) (more : Act) {g' : Gpu}
      (hg' : ∀ f : Film, f.device = g → (f.act more).device = g') :
      ∃ acts, ((start config).run acts).device = g' := by
    obtain ⟨acts, hacts⟩ := hg
    refine ⟨acts ++ [more], ?_⟩
    rw [run, List.foldl_concat]
    exact hg' _ hacts
  apply h.induction
  · intro memory
    exact ⟨[.host (Gpu.commandQueue config) .empty memory], rfl⟩
  · intro g commands responses _ hg
    apply hmore hg (.host commands responses g.memory)
    rintro f rfl
    rfl
  · intro g memory hg
    apply hmore hg (.host g.commands g.responses memory)
    rintro f rfl
    rfl
  · intro g hg
    apply hmore hg .tick
    rintro f rfl
    rfl
  · intro g hg
    apply hmore hg .reset
    rintro f rfl
    rfl

/-- A moment is the present one, or the beginning of a cycle. -/
theorem moment_cases {f : Film} {past rest : List Gpu} {g : Gpu}
    (h : f.moments = past ++ g :: rest) :
    past = f.cycles ∧ g = f.device ∨ ∃ rest, f.cycles = past ++ g :: rest := by
  rcases List.eq_nil_or_concat' rest with rfl | ⟨rest, last, rfl⟩
  · obtain ⟨hpast, hg⟩ := List.append_inj' h rfl
    exact .inl ⟨hpast.symm, (List.singleton_inj.1 hg).symm⟩
  · rw [← List.cons_append, ← List.append_assoc] at h
    exact .inr ⟨rest, (List.append_inj' h rfl).1⟩

/-- Something is true at every moment of a film. -/
def Always (f : Film) (motive : List Gpu → Gpu → Prop) : Prop :=
  ∀ past g rest, f.moments = past ++ g :: rest → motive past g

/-- It is true now. -/
theorem Always.now {f : Film} {motive : List Gpu → Gpu → Prop} (h : f.Always motive) :
    motive f.cycles f.device :=
  h f.cycles f.device [] rfl

/-- It was true at the beginning of each cycle. -/
theorem Always.before {f : Film} {motive : List Gpu → Gpu → Prop} (h : f.Always motive)
    {past rest : List Gpu} {g : Gpu} (hcycles : f.cycles = past ++ g :: rest) : motive past g := by
  refine h past g (rest ++ [f.device]) ?_
  rw [moments, hcycles, List.append_assoc, List.cons_append]

/-- What is true of a new device and stays true, whatever happens, is always true. -/
theorem always_run {config : Config} {motive : List Gpu → Gpu → Prop}
    (hstart : motive [] (.ofConfig config))
    (htick : ∀ past g, motive past g → motive (past ++ [g]) g.next)
    (hhost : ∀ past (g : Gpu) (commands : CommandQueue) (responses : Queue UInt64)
      (memory : Sdram), motive past g → motive past { g with commands, responses, memory })
    (hreset : ∀ past g, motive past g → motive [] g.reset) (acts : List Act) :
    ((start config).run acts).Always motive := by
  have hnone {past rest : List Gpu} {g : Gpu} (hm : [] = past ++ g :: rest) : motive past g :=
    absurd hm.symm (List.append_ne_nil_of_right_ne_nil _ (List.cons_ne_nil _ _))
  have hact {f : Film} (h : f.Always motive) (more : Act) : (f.act more).Always motive := by
    intro past g rest hm
    cases more with
    | tick =>
      rcases moment_cases hm with ⟨rfl, rfl⟩ | ⟨rest, hcycles⟩
      · exact htick _ _ h.now
      · exact h past g rest hcycles
    | host commands responses memory =>
      rcases moment_cases hm with ⟨rfl, rfl⟩ | ⟨rest, hcycles⟩
      · exact hhost _ _ commands responses memory h.now
      · exact h.before hcycles
    | reset =>
      rcases moment_cases hm with ⟨rfl, rfl⟩ | ⟨rest, hcycles⟩
      · exact hreset _ _ h.now
      · exact hnone hcycles
  have hfirst : (start config).Always motive := by
    intro past g rest hm
    rcases moment_cases hm with ⟨rfl, rfl⟩ | ⟨rest, hcycles⟩
    · exact hstart
    · exact hnone hcycles
  generalize start config = f at hfirst ⊢
  induction acts generalizing f with
  | nil => exact hfirst
  | cons more acts ih => exact ih (f.act more) (hact hfirst more)

/-! ### What has happened -/

/-- The cycles since the last vertical sync edge. The one that brought it is the first of them,
since its transaction came after the edge. -/
def sinceEdge (past : List Gpu) : List Gpu :=
  past.foldl (fun cycles g => if g.edge then [g] else cycles ++ [g]) []

/-- The surfaces staged since the last vertical sync edge, oldest first. -/
def staged (past : List Gpu) : List DisplaySurface :=
  (sinceEdge past).filterMap Gpu.stages?

/-- The cycles of the frame that scanout shows. It begins in the cycle after a vertical sync
edge. -/
def frame (past : List Gpu) : List Gpu :=
  past.foldl (fun cycles g => if g.edge then [] else cycles ++ [g]) []

/-- The next cycle is the first of all, or comes after a vertical sync edge. -/
def restarts (past : List Gpu) : Bool :=
  past.getLast?.all (·.edge)

variable {past mid : List Gpu} {g e : Gpu} {config : Config}

/-- A cycle stages a surface, after those staged before unless it brings an edge. -/
theorem staged_concat (past : List Gpu) (g : Gpu) :
    staged (past ++ [g]) = (if g.edge then [] else staged past) ++ g.stages?.toList := by
  simp only [staged, sinceEdge, List.foldl_concat]
  split
  · exact filterMap_concat Gpu.stages? [] g
  · exact filterMap_concat Gpu.stages? _ g

/-- Cycles without an edge stage surfaces after those staged before. -/
theorem staged_append (past : List Gpu) (hmid : ∀ c ∈ mid, c.edge = false) :
    staged (past ++ mid) = staged past ++ mid.filterMap Gpu.stages? := by
  induction mid generalizing past with
  | nil => simp
  | cons c mid ih =>
    have hc : c.edge = false := hmid c List.mem_cons_self
    have hrest := ih (past ++ [c]) fun c' hc' => hmid c' (List.mem_cons_of_mem c hc')
    rw [List.append_assoc, List.singleton_append] at hrest
    rw [hrest, staged_concat, hc, List.filterMap_cons]
    cases c.stages? <;> simp

/-- The surfaces staged by a cycle and by others after it that have no edge. -/
theorem staged_append_cons (past : List Gpu) (e : Gpu) (hmid : ∀ c ∈ mid, c.edge = false) :
    staged (past ++ e :: mid)
      = (if e.edge then [] else staged past) ++ (e :: mid).filterMap Gpu.stages? := by
  rw [List.append_cons, staged_append _ hmid, staged_concat, List.append_assoc,
    List.filterMap_cons]
  cases e.stages? <;> rfl

/-- A cycle belongs to the frame before the edge that it brings. -/
theorem frame_concat (past : List Gpu) (g : Gpu) :
    frame (past ++ [g]) = if g.edge then [] else frame past ++ [g] := by
  simp only [frame, List.foldl_concat]

/-- After an edge a frame is about to start. -/
theorem restarts_concat (past : List Gpu) (g : Gpu) : restarts (past ++ [g]) = g.edge := by
  rw [restarts, List.getLast?_concat, Option.all_some]

/-- When a frame starts it has had no cycle. -/
theorem frame_of_restarts (h : restarts past = true) : frame past = [] := by
  rcases List.eq_nil_or_concat' past with rfl | ⟨past, g, rfl⟩
  · rfl
  · rw [restarts_concat] at h
    rw [frame_concat, if_pos h]

/-- The bursts that cycles put into the scanout buffer. -/
def bursts (cycles : List Gpu) : List Response :=
  cycles.filterMap Gpu.burst?

/-- The rows that cycles took out of the scanout buffer. -/
def rows (cycles : List Gpu) : List (List UInt16) :=
  cycles.filterMap Gpu.row?

/-! ### One surface at a time -/

/-- A cycle of `g` goes on with a frame of `surface`, after `earlier` cycles of the frame. -/
structure Single (config : Config) (surface : DisplaySurface) (earlier : List Gpu) (g : Gpu) :
    Prop where
  /-- All cycles of the frame read this surface. -/
  same : ∀ c ∈ earlier ++ [g], c.next.display.prefetcher.surface = surface
  /-- The words that they put into the buffer are those of the surface, in order, -/
  addresses : (bursts (earlier ++ [g])).flatMap Response.addresses
    = List.range' (surfaceStart surface.base) (Response.words (bursts (earlier ++ [g]))).length
  /-- and no more than a frame of it has. -/
  length_le : (Response.words (bursts (earlier ++ [g]))).length
    ≤ surface.width * surface.rows config.timing.vertical.active
  /-- They are the words in memory. -/
  memory : ∀ burst ∈ g.burst?, burst.data = g.memory.fetch burst.address burst.data.length
  /-- The rows are taken out of these words, in order, and the others are in the buffer. -/
  words : Response.words (bursts (earlier ++ [g]))
    = (rows (earlier ++ [g])).flatten ++ g.next.display.prefetcher.buffer.toList
  /-- A row is loaded for each line that the surface has one for, -/
  loads : g.row?.isSome = g.tick.2.any (surface.loads ·.signals)
  /-- and takes no more words than the surface is wide. -/
  widths : ∀ row ∈ rows (earlier ++ [g]), row.length ≤ surface.width
  /-- A visible pixel shows the row that was loaded last. -/
  pixel : ∀ pixel ∈ g.tick.2, pixel.signals.active = true →
    Display.Shown surface (rows (earlier ++ [g])) config.timing.horizontal.active pixel

/-- What a cycle of `g` does with surfaces, after the cycles `past`. -/
structure Atomic (config : Config) (past : List Gpu) (g : Gpu) : Prop where
  /-- Between two cycles neither surface changes. -/
  kept : ∀ before, past.getLast? = some before →
    g.registers.display = before.next.registers.display
      ∧ g.display.prefetcher.surface = before.next.display.prefetcher.surface
  /-- The surface on display changes with a vertical sync edge only, to the one staged last since
  the edge before. -/
  display : g.next.registers.display
    = if g.edge then (staged past).getLast?.getD g.registers.display else g.registers.display
  /-- The surface that scanout reads changes in the cycle after an edge only, or in the first cycle,
  to the one that is on display then. -/
  scanned : g.next.display.prefetcher.surface
    = if restarts past then g.registers.display else g.display.prefetcher.surface
  /-- What a frame shows is of one surface. -/
  single : Single config g.next.display.prefetcher.surface (frame past) g
  /-- Under the blocking policy no transaction is executed between a write and the next edge. -/
  blocked : config.swapPolicy = .blockUntilVsync → staged past ≠ [] → g.edge = false →
    g.executed? = none

/-! ### The invariant -/

/-- What is known of a device after the cycles `past`. -/
structure Invariant (config : Config) (past : List Gpu) (g : Gpu) : Prop where
  /-- The device is intact. -/
  intact : g.Intact config
  /-- The policy is that of the configuration. -/
  policy : g.registers.policy = config.swapPolicy
  /-- The surface staged last waits for the next edge. -/
  staged_eq : g.registers.staged = (staged past).getLast?
  /-- Whether a frame is about to start. -/
  restart : g.display.restartPending = restarts past
  /-- Nothing has changed since the last cycle. -/
  kept : ∀ before, past.getLast? = some before →
    g.registers.display = before.next.registers.display
      ∧ g.display.prefetcher.surface = before.next.display.prefetcher.surface
  /-- All cycles of the frame read one surface. -/
  same : ∀ c ∈ frame past, c.next.display.prefetcher.surface = g.display.prefetcher.surface
  /-- What is on its way to the scanout buffer. -/
  fetches : ∃ bursts taken,
    g.display.prefetcher.Fetches (g.arbiter.port .display) bursts taken
  /-- The frame is shown. -/
  plays : restarts past = false → g.display.Plays (g.arbiter.port .display) (bursts (frame past))
    (rows (frame past))

/-- A device at rest. -/
theorem invariant_of_rest (hi : g.Intact config) (hpolicy : g.registers.policy = config.swapPolicy)
    (hregisters : g.registers.reset = g.registers) (harbiter : g.arbiter.reset = g.arbiter)
    (hdisplay : g.display = Gpu.displayOf config) : Invariant config [] g where
  intact := hi
  policy := hpolicy
  staged_eq := by
    rw [← hregisters]
    rfl
  restart := by
    rw [hdisplay]
    rfl
  kept := fun before hb => by cases hb
  same := fun c hc => absurd hc List.not_mem_nil
  fetches := by
    rw [hdisplay, ← harbiter]
    exact ⟨[], [], rfl, rfl, Nat.le_refl _, .none rfl rfl⟩
  plays := fun hno => by cases hno

/-- The host does something. -/
theorem Invariant.host (h : Invariant config past g) (commands : CommandQueue)
    (responses : Queue UInt64) (memory : Sdram) :
    Invariant config past { g with commands, responses, memory } :=
  { h with intact := { h.intact with } }

/-- A reset starts over. -/
theorem Invariant.reset (h : Invariant config past g) : Invariant config [] g.reset := by
  have hconfig : g.config = config := h.intact.config_eq
  have hdisplay : g.reset.display = Gpu.displayOf config := congrArg Gpu.displayOf hconfig
  refine invariant_of_rest ?_ h.policy rfl rfl hdisplay
  exact Gpu.intact_of_rest hconfig rfl rfl rfl rfl hdisplay

/-- The display, once it has started the frame that is about to start, if one is. -/
theorem Invariant.started (h : Invariant config past g) :
    (g.display.restart g.registers.display).Plays (g.arbiter.port .display) (bursts (frame past))
        (rows (frame past))
      ∧ (g.display.restart g.registers.display).prefetcher.surface
        = if restarts past then g.registers.display else g.display.prefetcher.surface := by
  by_cases hr : restarts past = true
  · obtain ⟨_, _, hfetches⟩ := h.fetches
    have hpending : g.display.restartPending = true := h.restart.trans hr
    rw [frame_of_restarts hr, if_pos hr]
    exact Display.restart_plays hfetches hpending (h.intact.poised hpending) g.registers.display
  · have hgoing : restarts past = false := Bool.eq_false_iff.2 hr
    rw [g.display.restart_of_going _ (h.restart.trans hgoing), if_neg hr]
    exact ⟨h.plays hgoing, rfl⟩

/-- **Scanout in a cycle.** If a frame is about to start the cycle starts it, and else it goes on
with the one that is shown. -/
theorem Invariant.scan (h : Invariant config past g) :
    g.next.display.prefetcher.surface
        = (if restarts past then g.registers.display else g.display.prefetcher.surface)
      ∧ g.next.display.Plays (g.next.arbiter.port .display) (bursts (frame past ++ [g]))
        (rows (frame past ++ [g]))
      ∧ Single config g.next.display.prefetcher.surface (frame past) g := by
  obtain ⟨hplays, hsurface⟩ := h.started
  obtain ⟨hgoing, htiming, -⟩ := g.display.restart_keeps g.registers.display
  have htick :=
    hplays.tick hgoing h.intact.apart.sound.wellFormed g.memory g.registers.display
  simp only [← Display.tick_restart, Display.row?_restart, Display.burst?_restart, htiming,
    h.intact.timing] at htick
  obtain ⟨hplays, hsame, hmemory, hshown⟩ := htick
  obtain ⟨hdisplay, hport, -⟩ := h.intact.next_display
  have hbursts : bursts (frame past ++ [g]) = bursts (frame past) ++ g.burst?.toList :=
    filterMap_concat Gpu.burst? _ g
  have hrows : rows (frame past ++ [g]) = rows (frame past) ++ g.row?.toList :=
    filterMap_concat Gpu.row? _ g
  have hplays' : g.next.display.Plays (g.next.arbiter.port .display) (bursts (frame past ++ [g]))
      (rows (frame past ++ [g])) := by
    rw [hbursts, hrows, hdisplay, hport]
    exact hplays
  have hsurface' : g.next.display.prefetcher.surface
      = (g.display.restart g.registers.display).prefetcher.surface := by
    rw [hdisplay]
    exact hsame
  refine ⟨hsurface'.trans hsurface, hplays', ?_⟩
  exact
    { same := fun c hc => by
        rcases List.mem_append.1 hc with hc | hc
        · rw [h.same c hc, hsurface', hsurface, if_neg]
          intro hr
          rw [frame_of_restarts hr] at hc
          exact absurd hc List.not_mem_nil
        · rw [List.mem_singleton.1 hc]
      addresses := hplays'.fetches.addresses
      length_le := by
        have hle := hplays'.fetches.length_le
        rw [hplays'.extent, Display.rowsPerFrame, h.intact.next.timing] at hle
        exact hle
      memory := hmemory
      words := hplays'.fetches.words
      loads := by
        rw [hsurface', Gpu.tick_pixel]
        exact g.display.isSome_row? g.served.1 g.registers.display
      widths := hplays'.found
      pixel := by
        rw [hsurface', hrows]
        exact hshown }

/-- What a cycle does with surfaces follows. -/
theorem Invariant.atomic (h : Invariant config past g) : Atomic config past g := by
  obtain ⟨hscanned, -, hsingle⟩ := h.scan
  obtain ⟨-, hdisplay, -⟩ := Gpu.next_swap h.intact.held
  refine ⟨h.kept, ?_, hscanned, hsingle, fun hblocking hne hedge => ?_⟩
  · rw [hdisplay, h.staged_eq]
  · obtain ⟨-, hprocess⟩ := Gpu.next_registers h.intact.held
    obtain ⟨hstaged, -, hpolicy⟩ := g.settled_swap
    rw [hedge, if_neg Bool.false_ne_true, h.staged_eq,
      List.getLast?_eq_some_getLast hne] at hstaged
    have hblocked : g.settled.registers.isSwapBlocked = true := by
      rw [RegisterFile.isSwapBlocked, hpolicy, h.policy, hblocking, hstaged]
      rfl
    apply Option.eq_none_iff_forall_not_mem.2
    intro t ht
    have hcan := hprocess t ht
    rw [RegisterFile.canProcess, hblocked] at hcan
    cases hcan

/-- **A cycle.** -/
theorem Invariant.tick (h : Invariant config past g) : Invariant config (past ++ [g]) g.next := by
  obtain ⟨-, hplays, hsingle⟩ := h.scan
  obtain ⟨hstaged, -, hpolicy⟩ := Gpu.next_swap h.intact.held
  refine
    { intact := h.intact.next
      policy := hpolicy.trans h.policy
      staged_eq := ?_
      restart := ?_
      kept := fun before hbefore => ?_
      same := fun c hc => ?_
      fetches := ⟨_, _, hplays.fetches⟩
      plays := fun hgoing => ?_ }
  · rw [hstaged, staged_concat, h.staged_eq]
    cases g.stages? with
    | none => split <;> simp
    | some surface => simp
  · rw [restarts_concat, h.intact.next_display.1]
    exact g.display.restartPending_tick _ _
  · rw [List.getLast?_concat] at hbefore
    obtain rfl := Option.some.inj hbefore
    exact ⟨rfl, rfl⟩
  · rw [frame_concat] at hc
    split at hc
    · exact absurd hc List.not_mem_nil
    · exact hsingle.same c hc
  · rw [restarts_concat] at hgoing
    rw [frame_concat, hgoing]
    exact hplays

/-! ### Runs -/

/-- The invariant holds now, and it did at the beginning of each cycle. -/
structure Sound (config : Config) (f : Film) : Prop where
  /-- It holds now. -/
  now : Invariant config f.cycles f.device
  /-- It did before each cycle. -/
  before : ∀ past g rest, f.cycles = past ++ g :: rest → Invariant config past g

/-- A moment is the present one or the beginning of a cycle. -/
theorem Sound.moment {f : Film} {rest : List Gpu} (h : f.Sound config)
    (hm : f.moments = past ++ g :: rest) : Invariant config past g := by
  rcases moment_cases hm with ⟨rfl, rfl⟩ | ⟨rest, hcycles⟩
  · exact h.now
  · exact h.before past g rest hcycles

/-- A film, however long. -/
theorem sound_run (config : Config) (acts : List Act) : ((start config).run acts).Sound config := by
  have hstart : Invariant config [] (.ofConfig config) := by
    refine invariant_of_rest ?_ rfl rfl rfl rfl
    exact Gpu.intact_of_rest rfl rfl rfl rfl rfl rfl
  have halways : ((start config).run acts).Always (Invariant config) := by
    apply always_run hstart
    · intro past g h
      exact h.tick
    · intro past g commands responses memory h
      exact h.host commands responses memory
    · intro past g h
      exact h.reset
  constructor
  · exact halways.now
  · intro past g rest hcycles
    exact halways.before hcycles

/-! ### From one edge to the next -/

/-- What becomes of surfaces when `e` is followed by the cycles `mid`, none of which brings an edge,
and these by `g`. -/
structure Swaps (config : Config) (e : Gpu) (mid : List Gpu) (g : Gpu) : Prop where
  /-- From an edge to the next, scanout reads the surface that the edge has put on display. -/
  shown : e.edge = true → g.registers.display = e.next.registers.display
    ∧ g.next.display.prefetcher.surface = e.next.registers.display
  /-- Of the surfaces staged between two edges, the second edge puts the last on display, and those
  before it are never shown. -/
  last : e.edge = true → g.edge = true → ∀ earlier surface,
    (e :: mid).filterMap Gpu.stages? = earlier ++ [surface] → g.next.registers.display = surface
  /-- Under the blocking policy each surface that is staged is put on display by the next edge, and
  no transaction is executed before that. -/
  blocked : config.swapPolicy = .blockUntilVsync → ∀ surface ∈ e.stages?,
    if g.edge then g.next.registers.display = surface else g.executed? = none

variable {f : Film} {rest : List Gpu}

/-- From an edge to the next the surface on display stays as it is, and scanout reads it. -/
theorem Sound.shown (h : f.Sound config) (hm : f.moments = past ++ e :: (mid ++ g :: rest))
    (hmid : ∀ c ∈ mid, c.edge = false) (he : e.edge = true) :
    g.registers.display = e.next.registers.display
      ∧ g.next.display.prefetcher.surface = e.next.registers.display := by
  induction mid using List.reverseRecOn generalizing g rest with
  | nil =>
    rw [List.nil_append, List.append_cons] at hm
    have hatomic := (h.moment hm).atomic
    obtain ⟨hkept, -⟩ := hatomic.kept e List.getLast?_concat
    refine ⟨hkept, ?_⟩
    rw [hatomic.scanned, restarts_concat, if_pos he, hkept]
  | append_singleton mid c ih =>
    rw [List.append_assoc, List.singleton_append] at hm
    obtain ⟨hdisplay, hscanned⟩ := ih hm fun c' hc' => hmid c' (List.mem_append_left _ hc')
    have hc : c.edge = false := hmid c (List.mem_append_right _ (List.mem_singleton_self c))
    have hm' : f.moments = (past ++ e :: mid) ++ c :: (g :: rest) := by
      rw [hm, List.append_assoc, List.cons_append]
    have hbefore := (h.moment hm').atomic
    rw [List.append_cons] at hm'
    have hatomic := (h.moment hm').atomic
    obtain ⟨hkept, hkept'⟩ := hatomic.kept c List.getLast?_concat
    constructor
    · rw [hkept, hbefore.display, hc, if_neg Bool.false_ne_true, hdisplay]
    · rw [hatomic.scanned, restarts_concat, hc, if_neg Bool.false_ne_true, hkept', hscanned]

/-- What becomes of surfaces from one cycle to another, with no edge between them. -/
theorem Sound.swaps (h : f.Sound config) (hm : f.moments = past ++ e :: (mid ++ g :: rest))
    (hmid : ∀ c ∈ mid, c.edge = false) : Swaps config e mid g := by
  have hm' : f.moments = (past ++ e :: mid) ++ g :: rest := by
    rw [hm, List.append_assoc, List.cons_append]
  have hatomic := (h.moment hm').atomic
  refine ⟨h.shown hm hmid, fun he hg earlier surface hstages => ?_,
    fun hpolicy surface hsurface => ?_⟩
  · rw [hatomic.display, if_pos hg, staged_append_cons past e hmid, if_pos he, List.nil_append,
      hstages, List.getLast?_concat, Option.getD_some]
  · have hstages (after : List Gpu) : (e :: after).filterMap Gpu.stages?
        = surface :: after.filterMap Gpu.stages? := List.filterMap_cons_some hsurface
    have hwaiting {after : List Gpu} (hafter : ∀ c ∈ after, c.edge = false) :
        staged (past ++ e :: after) ≠ [] := by
      rw [staged_append_cons past e hafter, hstages]
      exact List.append_ne_nil_of_right_ne_nil _ (List.cons_ne_nil _ _)
    by_cases hg : g.edge = true
    · -- nothing is executed while the surface waits, so that no other is staged
      have hquiet : mid.filterMap Gpu.stages? = [] := by
        apply List.filterMap_eq_nil_iff.2
        intro c hc
        have hedge : c.edge = false := hmid c hc
        obtain ⟨mid₁, mid₂, rfl⟩ := List.append_of_mem hc
        have hm'' : f.moments = (past ++ e :: mid₁) ++ c :: (mid₂ ++ g :: rest) := by
          rw [hm]
          simp
        have hnone := (h.moment hm'').atomic.blocked hpolicy
          (hwaiting fun c' hc' => hmid c' (List.mem_append_left _ hc')) hedge
        rw [Gpu.stages?, hnone]
        rfl
      rw [if_pos hg, hatomic.display, if_pos hg, staged_append_cons past e hmid, hstages, hquiet,
        List.getLast?_concat, Option.getD_some]
    · rw [if_neg hg]
      exact hatomic.blocked hpolicy (hwaiting hmid) (Bool.not_eq_true _ ▸ hg)

/-- Three surfaces are written in the first three cycles, the third of which brings an edge. The
bases that scanout reads are these, in frames of four cycles. The first surface is shown under the
blocking policy only. -/
example :
    let scanned (swapPolicy : SwapPolicy) : List Nat :=
      let config : Config :=
        { bootSequence := false, memoryWords := 8, memoryLatency := 1, scanoutCapacity := 4
          scanoutBurst := 2, swapPolicy, timing := ⟨⟨2, 0, 0, 0⟩, ⟨1, 0, 1, 0⟩, 1⟩ }
      let write (base : Nat) : Transaction :=
        .write Register.display.address (DisplaySurface.toWord { base })
      let commands := [write 1, write 2, write 3].foldl (fun q t => (q.offer t).1)
        (Gpu.commandQueue config)
      let film := (start config).run (.host commands .empty (.zeroed 8 1) :: .replicate 14 .tick)
      film.cycles.map (·.next.display.prefetcher.surface.base)
    scanned .lastWriteWins = [0, 0, 0, 2, 2, 2, 2, 3, 3, 3, 3, 3, 3, 3]
      ∧ scanned .blockUntilVsync = [0, 0, 0, 1, 1, 1, 1, 2, 2, 2, 2, 3, 3, 3] := by
  decide +kernel

end Film

end RasterGpu
