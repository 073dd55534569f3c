import RasterGpu.Proofs.Drawing.Fate
import RasterGpu.Proofs.Drawing.Normalization

/-!
# Programming the factors that would be derived

The factors of a triangle are used in two places. Setup looks at the programmed ones, to see whether
they ask for derived factors, and computes the weights' factors from them; from then on only these
count, and the register is not looked at again. So a triangle is drawn in the same way whether its
factors are derived, or the derived ones are programmed.

In the same way means here: cycle by cycle. `programmed` puts other factors into the state of a
primitive, of a job, of a phase and of a bench, and changes nothing else.

* Setup makes of the primitive with the derived factors programmed what it makes of the primitive
  (`DrawEvent.accepts_derived`).
* From there on a rasterizer goes through the same stages with the same counters, whatever the
  factors in its state (`Stage.Step.programmed`, `Rasterizer.tick_programmed`), and asks the arbiter
  for the same accesses, so that both benches stay the same (`Bench.moves_programmed`).

`Bench.derived_programmed` says this of triangles, with what the derived factors are like.
-/

namespace RasterGpu

/-! ## Programmed factors -/

/-- The primitive with programmed factors. -/
def DrawEvent.programmed (event : DrawEvent) (factors : AreaFactors) : DrawEvent :=
  { event with state := { event.state with area := factors } }

/-- The job with other factors in its state. Its shape keeps the factors that it has. -/
def Job.programmed (job : Job) (factors : AreaFactors) : Job :=
  { job with state := { job.state with area := factors } }

/-- The result of setup with other factors in its state. -/
def SetupResult.programmed (factors : AreaFactors) : SetupResult → SetupResult
  | culled => culled
  | nothing => nothing
  | job made => job (made.programmed factors)

/-- The phase with other factors in its state. -/
def Phase.programmed (factors : AreaFactors) : Phase → Phase
  | idle => idle
  | setup event => setup (event.programmed factors)
  | start job => start (job.programmed factors)
  | scan job cursor stage => scan (job.programmed factors) cursor stage

/-- The rasterizer with other factors in its state. -/
def Rasterizer.programmed (r : Rasterizer) (factors : AreaFactors) : Rasterizer :=
  { r with phase := r.phase.programmed factors }

/-- The bench with other factors in the state of the rasterizer. -/
def Bench.programmed (b : Bench) (factors : AreaFactors) : Bench :=
  { b with rasterizer := b.rasterizer.programmed factors }

/-- Setup makes the same of a primitive with these factors programmed. -/
def DrawEvent.Accepts (event : DrawEvent) (factors : AreaFactors) : Prop :=
  (event.programmed factors).setup = event.setup.programmed factors

/-- Setup, if it is still to come, makes the same of the primitive with these factors programmed. -/
def Phase.Accepts (factors : AreaFactors) : Phase → Prop
  | setup event => event.Accepts factors
  | _ => True

variable {factors : AreaFactors}

/-! ## Setup -/

/-- A triangle has the same geometry with derived factors and with the derived ones programmed. -/
theorem Triangle.ofVertices_derived {p : Triple Point} {automatic : AreaFactors}
    (h : automatic.isAutomatic = true) :
    ofVertices p (.ofDoubledArea (doubledAreaOf p)) = ofVertices p automatic := by
  simp [ofVertices, h]

/-- **Setup makes the same of a triangle with derived factors programmed.** -/
theorem DrawEvent.accepts_derived {vertices : Triple Vertex} {winding : Winding} {state : DrawState}
    (h : state.area.isAutomatic = true) :
    DrawEvent.Accepts ⟨.triangle vertices winding, state⟩
      (.ofDoubledArea (Triangle.doubledAreaOf (vertices.map Vertex.position))) := by
  unfold Accepts programmed setup
  dsimp only
  rw [Triangle.ofVertices_derived h]
  split
  · rfl
  · split
    · rfl
    · unfold SetupResult.ofShape
      dsimp only
      split <;> rfl

/-! ## Cycles -/

/-- What happens to a pixel does not depend on programmed factors. -/
theorem Stage.Step.programmed {a a' : Arbiter} {job : Job} {cursor : Cursor}
    {stage stage' : Stage} {gain : RasterStats}
    (h : Stage.Step job cursor a stage gain stage' a') (factors : AreaFactors) :
    Stage.Step (job.programmed factors) cursor a stage gain stage' a' := by
  cases h with
  | outside hc => exact .outside hc
  | masked hc hs => exact .masked hc hs
  | inside hc hs => exact .inside hc hs
  | weighed => exact .weighed
  | outOfRange hd => exact .outOfRange hd
  | transparent hd ha => exact .transparent hd ha
  | comparing hd ha hz => exact .comparing hd ha hz
  | shown hd ha hz => exact .shown hd ha hz
  | depthAsked hs => exact .depthAsked hs
  | depthRefused hs => exact .depthRefused hs
  | depthTaken ht => exact .depthTaken ht
  | depthAwaited ht => exact .depthAwaited ht
  | visible hz => exact .visible hz
  | hidden hz => exact .hidden hz
  | accessAsked hs => exact .accessAsked hs
  | accessRefused hs => exact .accessRefused hs
  | accessTaken ht hn => exact .accessTaken ht hn
  | written ht hn => exact .written ht hn
  | accessAwaited ht => exact .accessAwaited ht

namespace Rasterizer

variable {r : Rasterizer} {job : Job} {cursor : Cursor} {stage : Stage}

/-- Programmed factors do not make the rasterizer busy. -/
theorem isBusy_programmed (r : Rasterizer) (factors : AreaFactors) :
    (r.programmed factors).isBusy = r.isBusy := by
  unfold isBusy programmed
  cases r.phase <;> rfl

/-- A pixel is taken one cycle further in the same way. -/
theorem step_programmed (hr : r.phase = .scan job cursor stage) (a : Arbiter)
    (factors : AreaFactors) :
    (r.programmed factors).step (job.programmed factors) cursor stage a
        = ((r.step job cursor stage a).1.programmed factors, (r.step job cursor stage a).2)
      ∧ (r.step job cursor stage a).1.phase.Accepts factors := by
  by_cases hn : stage = .next
  · subst hn
    have hnext : cursor.next? (job.programmed factors) = cursor.next? job := rfl
    simp only [step, advance, hnext]
    cases cursor.next? job with
    | none => exact ⟨rfl, trivial⟩
    | some next => exact ⟨rfl, trivial⟩
  · obtain ⟨gain, stage', a', hstep, hcase⟩ := step_cases hr hn a
    have hphase : (r.programmed factors).phase = .scan (job.programmed factors) cursor stage := by
      simp only [programmed, hr, Phase.programmed]
    rw [hstep, step_eq (hcase.programmed factors) hphase]
    exact ⟨rfl, trivial⟩

/-- **A cycle does the same with programmed factors.** -/
theorem tick_programmed (h : r.phase.Accepts factors) (a : Arbiter) :
    (r.programmed factors).tick a = ((r.tick a).1.programmed factors, (r.tick a).2)
      ∧ (r.tick a).1.phase.Accepts factors := by
  have hphase : (r.programmed factors).phase = r.phase.programmed factors := rfl
  cases hr : r.phase with
  | idle =>
    rw [hr] at hphase
    rw [tick_idle hr, tick_idle hphase, hr]
    exact ⟨rfl, trivial⟩
  | setup event =>
    rw [hr] at hphase h
    rw [tick_setup hr, tick_setup hphase]
    have hsetup : (event.programmed factors).setup = event.setup.programmed factors := h
    unfold setup
    dsimp only
    rw [hsetup]
    cases event.setup with
    | culled => exact ⟨rfl, trivial⟩
    | nothing => exact ⟨rfl, trivial⟩
    | job job => exact ⟨rfl, trivial⟩
  | start job =>
    rw [hr] at hphase
    rw [tick_start hr, tick_start hphase]
    exact ⟨rfl, trivial⟩
  | scan job cursor stage =>
    rw [hr] at hphase
    rw [tick_scan hr, tick_scan hphase]
    exact step_programmed (r := r.clocked) hr a factors

end Rasterizer

/-! ## On the bench -/

namespace Bench

variable {b : Bench}

/-- **A move does the same with programmed factors.** -/
theorem move_programmed (h : b.rasterizer.phase.Accepts factors) (m : Move) :
    (b.programmed factors).move m = (b.move m).programmed factors
      ∧ (b.move m).rasterizer.phase.Accepts factors := by
  cases m with
  | rasterizer =>
    obtain ⟨htick, haccepts⟩ := Rasterizer.tick_programmed h b.arbiter
    refine ⟨?_, haccepts⟩
    simp only [move, programmed, htick]
  | arbiter => exact ⟨rfl, h⟩
  | read bystander address length =>
    simp only [move, programmed]
    cases b.arbiter.submit? bystander.client (.read address length) with
    | none => exact ⟨rfl, h⟩
    | some arbiter => exact ⟨rfl, h⟩
  | collect bystander =>
    simp only [move, programmed]
    cases b.arbiter.take? bystander.client with
    | none => exact ⟨rfl, h⟩
    | some taken => exact ⟨rfl, h⟩

/-- Moves do the same with programmed factors. -/
theorem moves_programmed (h : b.rasterizer.phase.Accepts factors) (ms : List Move) :
    (b.programmed factors).moves ms = (b.moves ms).programmed factors := by
  induction ms generalizing b with
  | nil => rfl
  | cons m ms ih =>
    obtain ⟨hmove, haccepts⟩ := move_programmed h m
    simp only [moves, List.foldl_cons, hmove]
    exact ih haccepts

/-- Two benches have done the same, and their rasterizers have counted the same. -/
structure SameDrawing (b b' : Bench) : Prop where
  /-- The same accesses were made. -/
  accesses : b'.accesses = b.accesses
  /-- The memories are the same. -/
  memory : b'.memory = b.memory
  /-- The arbiters are in the same state. -/
  arbiter : b'.arbiter = b.arbiter
  /-- Both rasterizers are drawing, or none is. -/
  isBusy : b'.rasterizer.isBusy = b.rasterizer.isBusy
  /-- The counters of the primitive are the same. -/
  current : b'.rasterizer.current = b.rasterizer.current
  /-- The counters of all primitives are the same. -/
  totals : b'.rasterizer.totals = b.rasterizer.totals

/-- A bench has done the same with programmed factors. -/
theorem sameDrawing_programmed (b : Bench) (factors : AreaFactors) :
    b.SameDrawing (b.programmed factors) where
  accesses := rfl
  memory := rfl
  arbiter := rfl
  isBusy := b.rasterizer.isBusy_programmed factors
  current := rfl
  totals := rfl

/-- A primitive that is accepted with programmed factors is drawn in the same way. -/
theorem draw_programmed {event : DrawEvent} (h : event.Accepts factors)
    (hidle : b.rasterizer.isBusy = false) (ms : List Move) :
    ((b.draw event).moves ms).SameDrawing ((b.draw (event.programmed factors)).moves ms) := by
  have hdraw : b.draw (event.programmed factors) = (b.draw event).programmed factors := by
    rw [draw_of_idle hidle, draw_of_idle hidle]
    rfl
  have haccepts : (b.draw event).rasterizer.phase.Accepts factors := by
    rw [draw_of_idle hidle]
    exact h
  rw [hdraw, moves_programmed haccepts]
  exact sameDrawing_programmed _ factors

/-- What is drawn and counted of pixels does not depend on what else happens. -/
theorem Invariant.draw_alike (h : b.Invariant) {event : DrawEvent} {during during' : List Move}
    (hidle : b.rasterizer.isBusy = false)
    (hdone : ((b.draw event).moves during).rasterizer.isBusy = false)
    (hdone' : ((b.draw event).moves during').rasterizer.isBusy = false) :
    let b₁ := (b.draw event).moves during
    let b₂ := (b.draw event).moves during'
    b₂.accesses = b₁.accesses ∧ b₂.memory = b₁.memory
      ∧ b₂.rasterizer.current.ofPixels = b₁.rasterizer.current.ofPixels := by
  intro b₁ b₂
  have houtcome : (⟨b₂.accesses, b₂.memory⟩ : Trace) = ⟨b₁.accesses, b₁.memory⟩ := by
    calc (⟨b₂.accesses, b₂.memory⟩ : Trace)
        = b₂.outcome := (outcome_of_idle hdone').symm
      _ = (b.draw event).outcome := ((h.draw event).moves during').2
      _ = b₁.outcome := ((h.draw event).moves during).2.symm
      _ = ⟨b₁.accesses, b₁.memory⟩ := outcome_of_idle hdone
  obtain ⟨haccesses, hmemory⟩ := Trace.mk.inj houtcome
  exact ⟨haccesses, hmemory, (h.current_draw hidle hdone').trans (h.current_draw hidle hdone).symm⟩

/-- **Derived factors can be programmed.** The factors that are derived for a triangle with an area
fit the register, come back from it, and do not ask for derived factors. A rasterizer at rest, after
whatever has happened before, draws the triangle with derived factors, whatever the shift in the
register, and comes to rest if the other clients let it; or else it draws it with those factors
programmed. In the same circumstances both do the same at any time. And if the circumstances differ,
the accesses are still the same when it has drawn, and so are the memory and the counters of
pixels. -/
theorem derived_programmed (policy : ArbiterPolicy) (memory : Sdram) (before : List Call)
    (vertices : Triple Vertex) (winding : Winding) (state : DrawState) (shift : Nat) :
    let b := (start policy memory).run before
    let area := Triangle.doubledAreaOf (vertices.map Vertex.position)
    let factors := AreaFactors.ofDoubledArea area
    let event : DrawEvent := ⟨.triangle vertices winding, state⟩
    let derived := b.draw (event.programmed ⟨0, shift⟩)
    let programmed := b.draw (event.programmed factors)
    0 < area →
      ((1 ≤ factors.inverse ∧ factors.inverse ≤ 65535 ∧ factors.shift ≤ 15)
        ∧ factors.isAutomatic = false ∧ AreaFactors.ofWord factors.toWord = factors)
      ∧ (b.rasterizer.isBusy = false →
        (∃ n, (derived.moves (rounds n)).rasterizer.isBusy = false)
        ∧ (∀ during, (derived.moves during).SameDrawing (programmed.moves during))
        ∧ ∀ during during', (derived.moves during).rasterizer.isBusy = false →
          (programmed.moves during').rasterizer.isBusy = false →
          (programmed.moves during').accesses = (derived.moves during).accesses
            ∧ (programmed.moves during').memory = (derived.moves during).memory
            ∧ (programmed.moves during').rasterizer.current.ofPixels
              = (derived.moves during).rasterizer.current.ofPixels) := by
  intro b area factors event derived programmed hpos
  have hfit : factors.Normalize area :=
    AreaFactors.ofDoubledArea_normalize hpos (Triangle.doubledAreaOf_lt vertices)
  refine ⟨⟨⟨hfit.inverse_pos, Nat.le_of_lt_succ hfit.inverse_lt, Nat.le_of_lt_succ hfit.shift_lt⟩,
    hfit.isAutomatic, hfit.ofWord_toWord_eq⟩, fun hidle => ?_⟩
  have hb : b.Invariant := (start_invariant policy memory).run before
  have haccepts : (event.programmed ⟨0, shift⟩).Accepts factors := DrawEvent.accepts_derived rfl
  have hsame (during : List Move) : (derived.moves during).SameDrawing (programmed.moves during) :=
    draw_programmed haccepts hidle during
  refine ⟨(hb.draw _).exists_rest, hsame, fun during during' hdone hdone' => ?_⟩
  obtain ⟨haccesses, hmemory, hcounters⟩ := hb.draw_alike hidle hdone
    ((hsame during').isBusy.symm.trans hdone')
  refine ⟨(hsame during').accesses.trans haccesses, (hsame during').memory.trans hmemory, ?_⟩
  rw [(hsame during').current]
  exact hcounters

/-- A blended triangle between pixels, with derived factors while scanout reads, and with those
factors programmed while nothing else happens. -/
theorem derived_programmed_blended :
    let corner (x y : Int16) (z : UInt16) (color : UInt32) : Vertex :=
      { word := { x, y, z }, attributes := { color0 := .ofPacked color } }
    let vertices : Triple Vertex :=
      ⟨corner (-21) 3 5 0xFF102030, corner 70 (-9) 900 0x80F05060, corner 33 50 40 0x40708090⟩
    let mode : RenderMode :=
      { gouraud := true, colorWrite := true, depthWrite := true, blend := .blend }
    let event : DrawEvent := ⟨.triangle vertices .order012,
      { mode, framebuffer := { depthBase := 1, widthLog2 := 2, heightLog2 := 2 } }⟩
    let factors : AreaFactors := ⟨428, 5⟩
    let during : List Move :=
      .read .display 0 2 :: .rasterizer :: (List.replicate 175 [.arbiter, .rasterizer]).flatten
    let b := (start .roundRobin (.zeroed 512 1)).run []
    let derived := b.draw (event.programmed ⟨0, 3⟩)
    let programmed := b.draw (event.programmed factors)
    AreaFactors.ofDoubledArea (Triangle.doubledAreaOf (vertices.map Vertex.position)) = factors
      ∧ factors.isAutomatic = false ∧ AreaFactors.ofWord factors.toWord = factors
      ∧ (derived.moves during).SameDrawing (programmed.moves during)
      ∧ (programmed.moves (rounds 175)).accesses = (derived.moves during).accesses
      ∧ (derived.moves during).accesses.length = 30 := by
  intro corner vertices mode event factors during b derived programmed
  have hpos : 0 < Triangle.doubledAreaOf (vertices.map Vertex.position) := by decide
  have hfactors : AreaFactors.ofDoubledArea (Triangle.doubledAreaOf (vertices.map Vertex.position))
      = factors := by
    decide
  have hidle : b.rasterizer.isBusy = false := by decide
  have hdone : (derived.moves during).rasterizer.isBusy = false := by decide +kernel
  have hdone' : (programmed.moves (rounds 175)).rasterizer.isBusy = false := by decide +kernel
  have hlength : (derived.moves during).accesses.length = 30 := by decide +kernel
  have h := derived_programmed .roundRobin (.zeroed 512 1) [] vertices .order012 event.state 3 hpos
  rw [hfactors] at h
  clear_value during
  obtain ⟨⟨-, hprogrammed, hword⟩, hdrawn⟩ := h
  obtain ⟨-, hsame, hend⟩ := hdrawn hidle
  exact ⟨hfactors, hprogrammed, hword, hsame during, (hend during _ hdone hdone').1, hlength⟩

end Bench

end RasterGpu
