import RasterGpu.Proofs.Drawing.Coverage
import RasterGpu.Proofs.Drawing.Fate

/-!
# Tests and what is found out by them

A pixel of the shape is put to four tests, one after the other, and the first that it fails is the
one that it is counted under. Three of them are about the pixel alone. The last one compares its
depth with the stored one, which is read when the pixel has its turn, and what the rasterizer goes
by is the word that it got.

* `PixelTest` lists the tests, and `Job.failed?` is the first that a pixel fails, where a given
  depth is stored. The fate of the pixel follows from it (`Job.fateOver_eq`).
* `Job.due` adds up what is counted about pixels, given a depth for each of them, wherever that
  comes from; `Job.count_due` turns the sum into numbers of pixels.
* `Phase.due` is what a primitive has still to be counted with. A cycle of the rasterizer moves as
  much to the counters as it takes off what is due, as long as the words that it gets are the given
  depths (`Rasterizer.tick_due`).
* `Phase.toCompare` are the pixels whose stored depths are still to be read.
-/

namespace RasterGpu

/-! ## Tests -/

/-- The tests that a pixel of the shape is put to. -/
inductive PixelTest where
  /-- The stipple mask lets it through. -/
  | stipple
  /-- Its depth is drawn. -/
  | depthRange
  /-- Its alpha passes. -/
  | alpha
  /-- Its depth passes against the stored one. -/
  | depth
  deriving DecidableEq, Repr

/-- All tests, in the order in which they are applied. -/
def PixelTest.all : List PixelTest := [stipple, depthRange, alpha, depth]

/-- Whether passing all tests makes any difference to the memory. -/
def RenderMode.writes (mode : RenderMode) : Bool :=
  mode.colorWrite || mode.depthWrite

namespace Job

variable (job : Job) (stored : UInt16) (pixel : Int × Int)

/-- Whether a pixel passes a test, where the given depth is stored. A test that is switched off lets
every pixel pass. -/
def passes : PixelTest → Bool
  | .stipple => !job.state.mode.stipple || job.state.stipple.passes pixel.1 pixel.2
  | .depthRange => job.state.depthRange.passes (job.fragmentAt pixel).depth
  | .alpha => job.passesAlpha (job.fragmentAt pixel)
  | .depth =>
    !job.state.mode.depthTest
      || job.state.mode.depthCompare.passes (job.fragmentAt pixel).depth stored

/-- The first test that a pixel fails, where the given depth is stored. -/
def failed? : Option PixelTest :=
  PixelTest.all.find? fun test => !job.passes stored pixel test

/-- What becomes of a pixel of the shape that fails a test, or none. -/
def fateOf : Option PixelTest → Fate
  | some .stipple => .masked
  | some .depthRange => .outOfRange
  | some .alpha => .transparent
  | some .depth => .hidden
  | none => job.writeFate

/-- Whether a fragment gets as far as being compared with the stored depth. -/
def comparesFragment (f : Fragment) : Bool :=
  job.state.depthRange.passes f.depth && job.passesAlpha f && job.state.mode.depthTest

/-- Whether a pixel gets as far as being compared with the stored depth. -/
def compares : Bool :=
  job.contains pixel && (!job.state.mode.stipple || job.state.stipple.passes pixel.1 pixel.2)
    && job.comparesFragment (job.fragmentAt pixel)

/-- The fate of a fragment follows from the first test that it fails, if it is not masked out. -/
theorem fragmentFate_eq (hm : job.passes stored pixel .stipple = true) :
    job.fragmentFate (job.fragmentAt pixel) stored = job.fateOf (job.failed? stored pixel) := by
  unfold failed? PixelTest.all
  rw [List.find?_cons_of_neg (by simp [hm])]
  cases hd : job.state.depthRange.passes (job.fragmentAt pixel).depth with
  | false =>
    rw [fragmentFate_of_outOfRange _ hd, List.find?_cons_of_pos (by simp [passes, hd])]
    rfl
  | true =>
    rw [List.find?_cons_of_neg (by simp [passes, hd])]
    cases ha : job.passesAlpha (job.fragmentAt pixel) with
    | false =>
      rw [fragmentFate_of_transparent _ hd ha, List.find?_cons_of_pos (by simp [passes, ha])]
      rfl
    | true =>
      rw [fragmentFate_of_passes _ hd ha, List.find?_cons_of_neg (by simp [passes, ha])]
      cases hz : job.state.mode.depthTest with
      | false =>
        rw [List.find?_cons_of_neg (by simp [passes, hz])]
        rfl
      | true =>
        cases hc : job.state.mode.depthCompare.passes (job.fragmentAt pixel).depth stored with
        | false =>
          rw [List.find?_cons_of_pos (by simp [passes, hz, hc]), depthFate, hc]
          rfl
        | true =>
          rw [List.find?_cons_of_neg (by simp [passes, hz, hc]), depthFate, hc]
          rfl

/-- **The fate of a pixel follows from the first test that it fails**, if it is in the shape. -/
theorem fateOver_eq : job.fateOver stored pixel
    = if job.contains pixel then job.fateOf (job.failed? stored pixel) else .outside := by
  cases hc : job.contains pixel with
  | false => exact fateOver_of_outside stored hc
  | true =>
    cases hm : job.passes stored pixel .stipple with
    | false =>
      have hfailed : job.failed? stored pixel = some .stipple :=
        List.find?_cons_of_pos (by simp [hm])
      rw [fateOver_of_masked stored hc hm, hfailed]
      rfl
    | true => exact (fateOver_of_inside stored hc hm).trans (job.fragmentFate_eq stored pixel hm)

/-! ## Adding up -/

variable (depth : Int × Int → UInt16)

/-- What is counted of pixels, where the given depths are stored. -/
def due (pixels : List (Int × Int)) : RasterStats :=
  (pixels.map fun pixel => (job.fateOver (depth pixel) pixel).stats).sum

variable {job depth}

/-- The pixels of a first one and others. -/
theorem due_cons (pixel : Int × Int) (pixels : List (Int × Int)) :
    job.due depth (pixel :: pixels)
      = (job.fateOver (depth pixel) pixel).stats + job.due depth pixels := by
  rw [due, List.map_cons, List.sum_cons]
  rfl

/-- A counter that adds up shows the number of pixels that it is raised for. -/
theorem count_due (counter : RasterStats → Nat) (hzero : counter 0 = 0)
    (hadd : ∀ s t, counter (s + t) = counter s + counter t) {picks : Int × Int → Bool}
    (hcount : ∀ pixel, counter (job.fateOver (depth pixel) pixel).stats = (picks pixel).toNat)
    (pixels : List (Int × Int)) :
    counter (job.due depth pixels) = (pixels.filter picks).length := by
  induction pixels with
  | nil => exact hzero
  | cons pixel pixels ih =>
    rw [due_cons, hadd, hcount, ih]
    cases hp : picks pixel with
    | false => rw [List.filter_cons_of_neg (by simp [hp]), Bool.toNat_false, Nat.zero_add]
    | true =>
      rw [List.filter_cons_of_pos hp, List.length_cons, Bool.toNat_true, Nat.add_comm]

end Job

namespace DrawEvent

variable {event : DrawEvent}

/-- What is counted of the pixels of a primitive, where the given depths are stored. -/
def due (event : DrawEvent) (depth : Int × Int → UInt16) : RasterStats :=
  event.job?.elim 0 fun job => job.due depth job.box.pixels

/-- A primitive without pixels has nothing to be counted. -/
theorem due_of_pixels_eq_nil (h : event.pixels = []) (depth : Int × Int → UInt16) :
    event.due depth = 0 := by
  unfold due
  cases hj : event.job? with
  | none => rfl
  | some job =>
    rw [Option.elim_some, ← pixels_of_job? hj, h]
    rfl

/-- The job of a primitive has its drawing state. -/
theorem state_of_job? {job : Job} (h : event.job? = some job) : job.state = event.state := by
  obtain ⟨drawn, -, rfl⟩ := Option.map_eq_some_iff.1 h
  rfl

/-- A counter that adds up shows the number of pixels of a primitive that it is raised for. -/
theorem count_due (counter : RasterStats → Nat) (hzero : counter 0 = 0)
    (hadd : ∀ s t, counter (s + t) = counter s + counter t) {depth : Int × Int → UInt16}
    {picks : Job → Int × Int → Bool}
    (hcount : ∀ job pixel,
      counter (job.fateOver (depth pixel) pixel).stats = (picks job pixel).toNat) :
    counter (event.due depth) = (event.picked picks).length := by
  unfold due picked
  cases event.job? with
  | none => exact hzero
  | some job => exact Job.count_due counter hzero hadd (hcount job) job.box.pixels

end DrawEvent

/-! ## What is due -/

/-- What a primitive is still counted with, where the given depths are stored. -/
def Phase.due (depth : Int × Int → UInt16) : Phase → RasterStats
  | .idle => 0
  | .setup event => event.due depth
  | .start job => job.due depth job.box.pixels
  | .scan job cursor stage =>
    stage.ending job cursor (depth cursor.pixel) + job.due depth (cursor.following job)

/-- If the rasterizer has been answered which depth is stored, it is the given one. -/
def Phase.Told (depth : Int × Int → UInt16) (port : Port) (phase : Phase) : Prop :=
  ∀ job cursor f response, phase = .scan job cursor (.depthRead f true) → port = .ready response →
    depth cursor.pixel = Rasterizer.firstWord response

namespace Rasterizer

variable {r : Rasterizer} {a : Arbiter} {depth : Int × Int → UInt16}

/-- A pixel is taken one cycle further, and counts what it takes off what is due. -/
theorem step_due {job : Job} {cursor : Cursor} {stage : Stage}
    (hr : r.phase = .scan job cursor stage) (hv : r.phase.Valid)
    (ht : r.phase.Told depth (a.port .depth)) :
    (r.step job cursor stage a).1.current.ofPixels + (r.step job cursor stage a).1.phase.due depth
      = r.current.ofPixels + r.phase.due depth := by
  rw [hr] at hv ht ⊢
  by_cases hn : stage = .next
  · subst hn
    have hnone : (Phase.scan job cursor .next).due depth = job.due depth (cursor.following job) :=
      zero_add _
    rw [hnone]
    change (r.advance job cursor).current.ofPixels + (r.advance job cursor).phase.due depth = _
    unfold advance
    split
    · rename_i next hnext
      rw [Cursor.following_next (Box.le_of_isEmpty hv.1).1 hnext, Job.due_cons]
      rfl
    · rename_i hnext
      rw [Cursor.following_end hnext]
      rfl
  · obtain ⟨gain, stage', a', hstep, hcase⟩ := step_cases hr hn a
    have hpixel := hcase.ending_eq hv.2 (depth cursor.pixel) fun f response hs hp =>
      ht job cursor f response (by rw [hs]) hp
    rw [hstep]
    change (r.current + gain).ofPixels
      + (stage'.ending job cursor (depth cursor.pixel) + job.due depth (cursor.following job)) = _
    rw [RasterStats.ofPixels_add, hcase.ofPixels_gain, Phase.due, ← hpixel, add_assoc, add_assoc]

/-- **A cycle counts what it takes off what is due.** -/
theorem tick_due (hv : r.phase.Valid) (ht : r.phase.Told depth (a.port .depth)) :
    (r.tick a).1.current.ofPixels + (r.tick a).1.phase.due depth
      = r.current.ofPixels + r.phase.due depth := by
  cases hr : r.phase with
  | idle => rw [tick_idle hr, hr]
  | setup event =>
    obtain ⟨culled, hcurrent, hphase⟩ := r.clocked.setup_eq event
    rw [tick_setup hr, hcurrent, hphase]
    refine congrArg (r.current.ofPixels + ·) ?_
    rcases event.setup_cases with ⟨job, hsetup, hj, -⟩ | ⟨hsetup, hnone⟩
    · rw [hsetup, Phase.due, Phase.due, DrawEvent.due, hj]
      rfl
    · rw [Phase.due, DrawEvent.due_of_pixels_eq_nil hnone]
      rcases hsetup with hsetup | hsetup <;> rw [hsetup] <;> rfl
  | start job =>
    rw [hr] at hv
    rw [tick_start hr, Phase.due, Box.pixels_eq hv, Job.due_cons]
    rfl
  | scan job cursor stage =>
    rw [tick_scan hr, ← hr]
    exact step_due (r := r.clocked) hr hv ht

end Rasterizer

/-! ## Depths that are read -/

/-- The pixel at a cursor, if its stored depth is still to be read, given how far the request has
come. -/
def Stage.toCompare (job : Job) (cursor : Cursor) (port : Port) : Stage → List (Int × Int)
  | .edgeTest => [cursor.pixel].filter job.compares
  | .weigh =>
    if job.comparesFragment (job.fragmentOf (job.shape.weights cursor.values)) then [cursor.pixel]
    else []
  | .interpolate weights =>
    if job.comparesFragment (job.fragmentOf weights) then [cursor.pixel] else []
  | .depthRead _ false => [cursor.pixel]
  | .depthRead _ true =>
    match port with
    | .ready _ => []
    | .free | .pending _ | .granted _ => [cursor.pixel]
  | .depthTest _ _ | .write _ _ _ | .next => []

/-- The pixels of a primitive whose stored depths are still to be read. -/
def Phase.toCompare (port : Port) : Phase → List (Int × Int)
  | .idle => []
  | .setup event => event.picked Job.compares
  | .start job => job.box.pixels.filter job.compares
  | .scan job cursor stage =>
    stage.toCompare job cursor port ++ (cursor.following job).filter job.compares

/-- A pixel keeps its place among those whose stored depths are to be read. -/
theorem Stage.Step.toCompare_eq {job : Job} {cursor : Cursor} {a a' : Arbiter}
    {stage stage' : Stage} {gain : RasterStats} (h : Step job cursor a stage gain stage' a')
    (hv : cursor.Valid job) :
    stage'.toCompare job cursor (a'.port .depth) = stage.toCompare job cursor (a.port .depth) := by
  have hcovers := hv.covers_values
  have hfirst (f : Fragment) : (job.firstStage f).toCompare job cursor (a'.port .depth) = [] := by
    unfold Job.firstStage
    split <;> rfl
  have hno (hc : job.compares cursor.pixel = false) : [cursor.pixel].filter job.compares = [] :=
    List.filter_cons_of_neg (by rw [hc]; exact Bool.false_ne_true)
  cases h with
  | outside hc =>
    rw [hcovers] at hc
    exact (hno (by simp [Job.compares, hc])).symm
  | masked hc hm =>
    have hm' : (!job.state.mode.stipple
        || job.state.stipple.passes cursor.pixel.1 cursor.pixel.2) = false := hm
    exact (hno (by rw [Job.compares, hm', Bool.and_false, Bool.false_and])).symm
  | inside hc hm =>
    rw [hcovers] at hc
    have hm' : (!job.state.mode.stipple
        || job.state.stipple.passes cursor.pixel.1 cursor.pixel.2) = true := hm
    have hcompares : job.compares cursor.pixel
        = job.comparesFragment (job.fragmentOf (job.shape.weights cursor.values)) := by
      rw [Job.compares, hc, hm', hv.values]
      rfl
    rw [toCompare, toCompare, ← hcompares]
    cases hp : job.compares cursor.pixel with
    | false => exact (hno hp).symm
    | true => simp [hp]
  | weighed => rfl
  | outOfRange hd =>
    rw [toCompare, toCompare, Job.comparesFragment, hd]
    rfl
  | transparent hd ha =>
    rw [toCompare, toCompare, Job.comparesFragment, hd, ha]
    rfl
  | comparing hd ha hz =>
    rw [toCompare, toCompare, Job.comparesFragment, hd, ha, hz]
    rfl
  | shown hd ha hz =>
    rw [hfirst, toCompare, Job.comparesFragment, hd, ha, hz]
    rfl
  | depthAsked hs =>
    have hpending := congrFun (Arbiter.port_submit? hs) .depth
    rw [Function.update_self] at hpending
    simp only [toCompare, hpending]
  | depthTaken ht => simp only [toCompare, (Arbiter.take?_eq_some ht).1]
  | visible => exact hfirst _
  | _ => rfl

/-- **A cycle of the rasterizer loses no pixel whose stored depth is to be read.** -/
theorem Rasterizer.tick_toCompare {r : Rasterizer} (hv : r.phase.Valid) (a : Arbiter) :
    (r.tick a).1.phase.toCompare ((r.tick a).2.port .depth)
      = r.phase.toCompare (a.port .depth) := by
  cases hr : r.phase with
  | idle => rw [tick_idle hr, hr]
  | setup event =>
    obtain ⟨-, -, hphase⟩ := r.clocked.setup_eq event
    rw [tick_setup hr, hphase]
    rcases event.setup_cases with ⟨job, hsetup, hj, -⟩ | ⟨hsetup, hnone⟩
    · rw [hsetup, Phase.toCompare, Phase.toCompare, DrawEvent.picked, hj]
      rfl
    · rw [Phase.toCompare, DrawEvent.picked_of_pixels_eq_nil hnone]
      rcases hsetup with hsetup | hsetup <;> rw [hsetup] <;> rfl
  | start job =>
    rw [hr] at hv
    rw [tick_start hr, Phase.toCompare, Phase.toCompare, Box.pixels_eq hv, Stage.toCompare,
      ← List.filter_append]
    rfl
  | scan job cursor stage =>
    rw [hr] at hv
    rw [tick_scan hr]
    by_cases hn : stage = .next
    · subst hn
      change (r.clocked.advance job cursor).phase.toCompare (a.port .depth) = _
      unfold advance
      split
      · rename_i next hnext
        have hfollowing := Cursor.following_next (Box.le_of_isEmpty hv.1).1 hnext
        rw [Phase.toCompare, Phase.toCompare, hfollowing, Stage.toCompare, Stage.toCompare,
          ← List.filter_append]
        rfl
      · rename_i hnext
        rw [Phase.toCompare, Cursor.following_end hnext]
        rfl
    · obtain ⟨gain, stage', a', hstep, hcase⟩ := step_cases (r := r.clocked) hr hn a
      rw [hstep]
      exact congrArg (· ++ _) (hcase.toCompare_eq hv.2)

/-- The pixel whose stored depth an access reads, with the depth. -/
def Phase.sighted? (m : Sdram) (performed : Option (Client × Request)) :
    Phase → Option ((Int × Int) × UInt16)
  | .scan job cursor _ =>
    match performed with
    | some (.depth, .read _ _) =>
      some (cursor.pixel, m.read (job.depthAddress cursor.x cursor.y))
    | _ => none
  | _ => none

namespace Phase

variable {phase : Phase} {depth : Int × Int → UInt16} {p p' : Client → Port} {m m' : Sdram}
  {performed : Option (Client × Request)}

/-- What is granted at the depth port is the read of a stored depth, or no read. -/
theorem granted_depth (h : phase.work.Served Client.isDrawing p) {request : Request}
    (hp : p .depth = .granted request) :
    ∃ job cursor stage, phase = .scan job cursor stage
      ∧ ((∃ f, stage = .depthRead f true)
          ∧ request = .read (job.depthAddress cursor.x cursor.y) 1
        ∨ (∃ f step, stage = .write f step true) ∧ request.isRead = false) := by
  have hserves := h .depth rfl
  rw [hp] at hserves
  have hw := hserves.eq_of_granted
  cases phase with
  | idle => cases hw
  | setup event => cases hw
  | start job => cases hw
  | scan job cursor stage =>
    refine ⟨job, cursor, stage, rfl, ?_⟩
    rw [work, Work.request?_andThen] at hw
    cases stage with
    | depthRead f waiting =>
      cases waiting with
      | false => cases hw
      | true => exact .inl ⟨⟨f, rfl⟩, (Option.some.inj hw).symm⟩
    | write f step waiting =>
      cases waiting with
      | false => cases hw
      | true =>
        refine .inr ⟨⟨f, step, rfl⟩, ?_⟩
        cases step with
        | writeDepth =>
          obtain rfl := Option.some.inj hw
          rfl
        | readDestination => cases hw
        | writeColor destination => cases hw
    | _ => cases hw

/-- **A cycle of the arbiter reads the depth of the first pixel that is to be compared, or of
none.** -/
theorem sighted_step (h : phase.work.Served Client.isDrawing p)
    (hs : Arbiter.PortStep p m performed p' m') :
    (phase.sighted? m performed).toList.map Prod.fst ++ phase.toCompare (p' .depth)
      = phase.toCompare (p .depth) := by
  have hnone : phase.sighted? m none = none := by cases phase <;> rfl
  cases hs with
  | wait =>
    rw [hnone]
    rfl
  | @grant c request hp =>
    rw [hnone]
    by_cases hc : Client.depth = c
    · subst hc
      rw [Function.update_self, hp]
      cases phase with
      | scan job cursor stage =>
        cases stage with
        | depthRead f waiting => cases waiting <;> rfl
        | _ => rfl
      | _ => rfl
    · rw [Function.update_of_ne hc]
      rfl
  | @perform c request hp =>
    by_cases hc : Client.depth = c
    · subst hc
      rw [Function.update_self, hp]
      obtain ⟨job, cursor, stage, rfl, ⟨⟨f, rfl⟩, rfl⟩ | ⟨⟨f, step, rfl⟩, hread⟩⟩ :=
        granted_depth h hp
      · rfl
      · cases request with
        | read => cases hread
        | write => rfl
    · have hother : phase.sighted? m (some (c, request)) = none := by
        cases phase with
        | scan => cases c <;> first | rfl | exact absurd rfl hc
        | _ => rfl
      rw [hother, Function.update_of_ne hc]
      rfl

/-- What the rasterizer is answered by a cycle of the arbiter is the depth that was read. -/
theorem Told.step (ht : phase.Told depth (p .depth)) (h : phase.work.Served Client.isDrawing p)
    (hs : Arbiter.PortStep p m performed p' m')
    (hsight : ∀ reading ∈ phase.sighted? m performed, depth reading.1 = reading.2) :
    phase.Told depth (p' .depth) := by
  cases hs with
  | wait => exact ht
  | @grant c request hp =>
    by_cases hc : Client.depth = c
    · subst hc
      rw [Function.update_self]
      exact fun job cursor f response _ hready => Port.noConfusion hready
    · rw [Function.update_of_ne hc]
      exact ht
  | @perform c request hp =>
    by_cases hc : Client.depth = c
    · subst hc
      rw [Function.update_self]
      intro job cursor f response hphase hready
      obtain ⟨job', cursor', stage, hphase', ⟨-, rfl⟩ | ⟨⟨f', step, rfl⟩, -⟩⟩ := granted_depth h hp
      · rw [hphase'] at hphase hsight
        obtain ⟨rfl, rfl, -⟩ := Phase.scan.inj hphase
        have hword := congrArg (Rasterizer.firstWord ∘ Prod.fst)
          ((⟨[], m⟩ : Trace).perform_read .depth (job'.depthAddress cursor'.x cursor'.y))
        exact (hsight _ rfl).trans (hword.symm.trans (congrArg _ (Port.ready.inj hready)))
      · cases hphase'.symm.trans hphase
    · rw [Function.update_of_ne hc]
      exact ht

end Phase

/-- After a cycle of its own the rasterizer has no answer that it has not used. -/
theorem Rasterizer.tick_told (r : Rasterizer) (a : Arbiter) (depth : Int × Int → UInt16) :
    (r.tick a).1.phase.Told depth ((r.tick a).2.port .depth) := by
  intro job cursor f response hphase hready
  cases hr : r.phase with
  | idle =>
    rw [tick_idle hr, hr] at hphase
    cases hphase
  | setup event =>
    obtain ⟨-, -, hnext⟩ := r.clocked.setup_eq event
    rw [tick_setup hr, hnext] at hphase
    split at hphase <;> cases hphase
  | start job' =>
    rw [tick_start hr] at hphase
    cases hphase
  | scan job' cursor' stage =>
    rw [tick_scan hr] at hphase hready
    by_cases hn : stage = .next
    · subst hn
      change (r.clocked.advance job' cursor').phase = _ at hphase
      unfold advance at hphase
      split at hphase <;> cases hphase
    · obtain ⟨gain, stage', a', hstep, hcase⟩ := step_cases (r := r.clocked) hr hn a
      rw [hstep] at hphase hready
      obtain ⟨rfl, rfl, rfl⟩ := Phase.scan.inj hphase
      have hfirst (g : Fragment) : job'.firstStage g ≠ .depthRead f true := by
        unfold Job.firstStage
        split <;> exact Stage.noConfusion
      generalize hs : Stage.depthRead f true = stage' at hcase
      cases hcase with
      | depthAsked hsubmit =>
        have hpending := congrFun (Arbiter.port_submit? hsubmit) .depth
        rw [Function.update_self, hready] at hpending
        cases hpending
      | depthAwaited htake =>
        have hnone := Arbiter.responses_of_take? htake
        rw [hready] at hnone
        cases hnone
      | shown => exact absurd hs.symm (hfirst _)
      | visible => exact absurd hs.symm (hfirst _)
      | _ => cases hs

end RasterGpu
