import Mathlib.Algebra.Group.Defs
import RasterGpu.Rasterizer.Basic

/-!
# What a cycle can do to a pixel

The rasterizer takes the pixel at its cursor from stage to stage, and counts on the way what it
finds out about it. `Stage.Step` lists all that one cycle can do: under which conditions a stage
gives way to which other, what is added to the counters, and what is asked of the arbiter.
`Rasterizer.step_cases` says that nothing else happens, as long as the pixel is not done, and
`Rasterizer.step_eq` that each entry does happen where its conditions hold. What becomes of the
pixel, of the counters and of the accesses is then a matter of going through the list.
-/

namespace RasterGpu

/-! ## Adding up counters -/

attribute [ext] RasterStats

instance : Zero RasterStats := ⟨{}⟩

instance : AddCommMonoid RasterStats where
  add_assoc s t u := by
    ext <;> exact Nat.add_assoc _ _ _
  zero_add s := by
    ext <;> exact Nat.zero_add _
  add_zero s := rfl
  add_comm s t := by
    ext <;> exact Nat.add_comm _ _
  nsmul := nsmulRec

/-! ## Stages -/

/-- The fragment of a pixel with the given weights. -/
def Job.fragmentOf (job : Job) (weights : Triple Int) : Fragment :=
  job.shape.fragment job.state.mode.gouraud weights

/-- Whether the alpha test lets a fragment through. -/
def Job.passesAlpha (job : Job) (f : Fragment) : Bool :=
  job.state.mode.alphaTest.passes f.color.a job.state.mode.alphaReference

/-- The stage of a fragment that has passed all tests. -/
def Job.firstStage (job : Job) (f : Fragment) : Stage :=
  match job.state.mode.firstWrite? with
  | some step => .write f step false
  | none => .next

/-- What a cycle can do to the pixel at a cursor: a stage gives way to another, the counters gain
something, and the arbiter may be asked for an access, or give a response away. -/
inductive Stage.Step (job : Job) (cursor : Cursor) (a : Arbiter) :
    Stage → RasterStats → Stage → Arbiter → Prop where
  /-- It is not in the shape. -/
  | outside (hc : job.shape.covers cursor.values = false) :
    Step job cursor a .edgeTest { tested := 1 } .next a
  /-- It is masked out. -/
  | masked (hc : job.shape.covers cursor.values = true)
    (hs : (!job.state.mode.stipple || job.state.stipple.passes cursor.x cursor.y) = false) :
    Step job cursor a .edgeTest { tested := 1, covered := 1, discardedStipple := 1 } .next a
  /-- It is in the shape, and let through. -/
  | inside (hc : job.shape.covers cursor.values = true)
    (hs : (!job.state.mode.stipple || job.state.stipple.passes cursor.x cursor.y) = true) :
    Step job cursor a .edgeTest { tested := 1, covered := 1 } .weigh a
  /-- Its weights are known. -/
  | weighed : Step job cursor a .weigh 0 (.interpolate (job.shape.weights cursor.values)) a
  /-- Its depth is not drawn. -/
  | outOfRange {weights : Triple Int}
    (hd : job.state.depthRange.passes (job.fragmentOf weights).depth = false) :
    Step job cursor a (.interpolate weights) { discardedDepthRange := 1 } .next a
  /-- It fails the alpha test. -/
  | transparent {weights : Triple Int}
    (hd : job.state.depthRange.passes (job.fragmentOf weights).depth = true)
    (ha : job.passesAlpha (job.fragmentOf weights) = false) :
    Step job cursor a (.interpolate weights) { discardedAlpha := 1 } .next a
  /-- It is to be compared with the stored depth. -/
  | comparing {weights : Triple Int}
    (hd : job.state.depthRange.passes (job.fragmentOf weights).depth = true)
    (ha : job.passesAlpha (job.fragmentOf weights) = true)
    (hz : job.state.mode.depthTest = true) :
    Step job cursor a (.interpolate weights) 0 (.depthRead (job.fragmentOf weights) false) a
  /-- It is drawn without a depth test. -/
  | shown {weights : Triple Int}
    (hd : job.state.depthRange.passes (job.fragmentOf weights).depth = true)
    (ha : job.passesAlpha (job.fragmentOf weights) = true)
    (hz : job.state.mode.depthTest = false) :
    Step job cursor a (.interpolate weights) 0 (job.firstStage (job.fragmentOf weights)) a
  /-- The read of the stored depth is submitted. -/
  | depthAsked {f : Fragment} {a' : Arbiter}
    (hs : a.submit? .depth (.read (job.depthAddress cursor.x cursor.y) 1) = some a') :
    Step job cursor a (.depthRead f false) 0 (.depthRead f true) a'
  /-- The read of the stored depth is not taken. -/
  | depthRefused {f : Fragment}
    (hs : a.submit? .depth (.read (job.depthAddress cursor.x cursor.y) 1) = none) :
    Step job cursor a (.depthRead f false) 0 (.depthRead f false) a
  /-- The stored depth is there. -/
  | depthTaken {f : Fragment} {response : Response} {a' : Arbiter}
    (ht : a.take? .depth = some (response, a')) :
    Step job cursor a (.depthRead f true) 0 (.depthTest f (Rasterizer.firstWord response)) a'
  /-- The stored depth is not there yet. -/
  | depthAwaited {f : Fragment} (ht : a.take? .depth = none) :
    Step job cursor a (.depthRead f true) 0 (.depthRead f true) a
  /-- It is not hidden. -/
  | visible {f : Fragment} {stored : UInt16}
    (hz : job.state.mode.depthCompare.passes f.depth stored = true) :
    Step job cursor a (.depthTest f stored) 0 (job.firstStage f) a
  /-- It is hidden. -/
  | hidden {f : Fragment} {stored : UInt16}
    (hz : job.state.mode.depthCompare.passes f.depth stored = false) :
    Step job cursor a (.depthTest f stored) { discardedDepth := 1 } .next a
  /-- An access of the write is submitted. -/
  | accessAsked {f : Fragment} {step : WriteStep} {a' : Arbiter}
    (hs : a.submit? step.client (job.request cursor.x cursor.y f step) = some a') :
    Step job cursor a (.write f step false) 0 (.write f step true) a'
  /-- An access of the write is not taken. -/
  | accessRefused {f : Fragment} {step : WriteStep}
    (hs : a.submit? step.client (job.request cursor.x cursor.y f step) = none) :
    Step job cursor a (.write f step false) 0 (.write f step false) a
  /-- An access of the write was answered, and another one follows. -/
  | accessTaken {f : Fragment} {step next : WriteStep} {response : Response} {a' : Arbiter}
    (ht : a.take? step.client = some (response, a'))
    (hn : job.nextWrite? (Rasterizer.firstWord response) step = some next) :
    Step job cursor a (.write f step true) 0 (.write f next false) a'
  /-- The last access of the write was answered. -/
  | written {f : Fragment} {step : WriteStep} {response : Response} {a' : Arbiter}
    (ht : a.take? step.client = some (response, a'))
    (hn : job.nextWrite? (Rasterizer.firstWord response) step = none) :
    Step job cursor a (.write f step true) { written := 1 } .next a'
  /-- An access of the write is not answered yet. -/
  | accessAwaited {f : Fragment} {step : WriteStep} (ht : a.take? step.client = none) :
    Step job cursor a (.write f step true) 0 (.write f step true) a

namespace Rasterizer

variable {r : Rasterizer} {job : Job} {cursor : Cursor} {stage : Stage} {a : Arbiter}

/-- The rasterizer with its pixel in another stage, and something more counted. -/
def goTo (r : Rasterizer) (job : Job) (cursor : Cursor) (stage : Stage) (gain : RasterStats) :
    Rasterizer :=
  { r with phase := .scan job cursor stage, current := r.current + gain }

/-- A rasterizer whose pixel stays in its stage stays as it is. -/
theorem goTo_self (hr : r.phase = .scan job cursor stage) : r.goTo job cursor stage 0 = r := by
  unfold goTo
  rw [add_zero, ← hr]

/-- Beginning to write goes to the first stage of writing. -/
theorem beginWrite_eq (r : Rasterizer) (job : Job) (cursor : Cursor) (f : Fragment) :
    r.beginWrite job cursor f = r.goTo job cursor (job.firstStage f) 0 := by
  unfold beginWrite Job.firstStage
  cases job.state.mode.firstWrite? <;> rfl

/-- **A cycle does one of the things in the list to a pixel that is not done.** -/
theorem step_cases (hr : r.phase = .scan job cursor stage) (hn : stage ≠ .next) (a : Arbiter) :
    ∃ gain stage' a', r.step job cursor stage a = (r.goTo job cursor stage' gain, a')
      ∧ Stage.Step job cursor a stage gain stage' a' := by
  have hstay : r.goTo job cursor stage 0 = r := goTo_self hr
  cases stage with
  | edgeTest =>
    simp only [step, edgeTest]
    split
    · rename_i hc
      split
      · rename_i hs
        exact ⟨_, _, _, rfl, .inside hc hs⟩
      · rename_i hs
        exact ⟨_, _, _, rfl, .masked hc (Bool.eq_false_iff.2 hs)⟩
    · rename_i hc
      exact ⟨_, _, _, rfl, .outside (Bool.eq_false_iff.2 hc)⟩
  | weigh => exact ⟨_, _, _, rfl, .weighed⟩
  | interpolate weights =>
    simp only [step, interpolate, beginWrite_eq]
    split
    · rename_i hd
      exact ⟨_, _, _, rfl, .outOfRange (Bool.not_eq_true' _ ▸ hd)⟩
    · rename_i hd
      rw [Bool.not_eq_true', Bool.not_eq_false] at hd
      split
      · rename_i ha
        exact ⟨_, _, _, rfl, .transparent hd (Bool.not_eq_true' _ ▸ ha)⟩
      · rename_i ha
        rw [Bool.not_eq_true', Bool.not_eq_false] at ha
        split
        · rename_i hz
          exact ⟨_, _, _, rfl, .comparing hd ha hz⟩
        · rename_i hz
          exact ⟨_, _, _, rfl, .shown hd ha (Bool.eq_false_iff.2 hz)⟩
  | depthRead f waiting =>
    cases waiting with
    | false =>
      simp only [step]
      split
      · rename_i hs
        exact ⟨_, _, _, rfl, .depthAsked hs⟩
      · rename_i hs
        exact ⟨_, _, _, by rw [hstay], .depthRefused hs⟩
    | true =>
      simp only [step]
      split
      · rename_i ht
        exact ⟨_, _, _, rfl, .depthTaken ht⟩
      · rename_i ht
        exact ⟨_, _, _, by rw [hstay], .depthAwaited ht⟩
  | depthTest f stored =>
    simp only [step, depthTest, beginWrite_eq]
    split
    · rename_i hz
      exact ⟨_, _, _, rfl, .visible hz⟩
    · rename_i hz
      exact ⟨_, _, _, rfl, .hidden (Bool.eq_false_iff.2 hz)⟩
  | write f access waiting =>
    cases waiting with
    | false =>
      simp only [step]
      split
      · rename_i hs
        exact ⟨_, _, _, rfl, .accessAsked hs⟩
      · rename_i hs
        exact ⟨_, _, _, by rw [hstay], .accessRefused hs⟩
    | true =>
      simp only [step, advanceWrite]
      split
      · rename_i ht
        split
        · rename_i hnext
          exact ⟨_, _, _, rfl, .accessTaken ht hnext⟩
        · rename_i hnext
          exact ⟨_, _, _, rfl, .written ht hnext⟩
      · rename_i ht
        exact ⟨_, _, _, by rw [hstay], .accessAwaited ht⟩
  | next => exact absurd rfl hn

/-- **What is in the list happens.** -/
theorem step_eq {stage' : Stage} {gain : RasterStats} {a' : Arbiter}
    (h : Stage.Step job cursor a stage gain stage' a') (hr : r.phase = .scan job cursor stage) :
    r.step job cursor stage a = (r.goTo job cursor stage' gain, a') := by
  have hstay : r.goTo job cursor stage 0 = r := goTo_self hr
  cases h with
  | outside hc =>
    simp only [step, edgeTest, hc]
    rfl
  | masked hc hs =>
    simp only [step, edgeTest, hc, hs]
    rfl
  | inside hc hs =>
    simp only [step, edgeTest, hc, hs]
    rfl
  | weighed => rfl
  | outOfRange hd =>
    unfold Job.fragmentOf at hd
    simp only [step, interpolate, hd]
    rfl
  | transparent hd ha =>
    unfold Job.fragmentOf Job.passesAlpha at *
    simp only [step, interpolate, hd, ha]
    rfl
  | comparing hd ha hz =>
    unfold Job.fragmentOf Job.passesAlpha at *
    simp only [step, interpolate, hd, ha, hz]
    rfl
  | shown hd ha hz =>
    unfold Job.fragmentOf Job.passesAlpha at *
    simp only [step, interpolate, hd, ha, hz, beginWrite_eq]
    rfl
  | depthAsked hs =>
    simp only [step, hs]
    rfl
  | depthRefused hs => simp only [step, hs, hstay]
  | depthTaken ht =>
    simp only [step, ht]
    rfl
  | depthAwaited ht => simp only [step, ht, hstay]
  | visible hz =>
    simp only [step, depthTest, hz, beginWrite_eq]
    rfl
  | hidden hz =>
    simp only [step, depthTest, hz]
    rfl
  | accessAsked hs =>
    simp only [step, hs]
    rfl
  | accessRefused hs => simp only [step, hs, hstay]
  | accessTaken ht hn =>
    simp only [step, ht, advanceWrite, hn]
    rfl
  | written ht hn =>
    simp only [step, ht, advanceWrite, hn]
    rfl
  | accessAwaited ht => simp only [step, ht, hstay]

/-! ## Cycles -/

/-- The rasterizer with one more cycle counted. -/
def clocked (r : Rasterizer) : Rasterizer :=
  { r with current.busyCycles := r.current.busyCycles + 1 }

/-- A rasterizer at rest has no primitive. -/
theorem phase_of_idle (h : r.isBusy = false) : r.phase = .idle := by
  unfold isBusy at h
  split at h
  · assumption
  · cases h

/-- Without a primitive a cycle does nothing. -/
theorem tick_idle (hr : r.phase = .idle) (a : Arbiter) : r.tick a = (r, a) := by
  obtain ⟨phase, current, totals⟩ := r
  obtain rfl : phase = .idle := hr
  rfl

/-- A cycle that sets a primitive up. -/
theorem tick_setup {event : DrawEvent} (hr : r.phase = .setup event) (a : Arbiter) :
    r.tick a = (r.clocked.setup event, a) := by
  obtain ⟨phase, current, totals⟩ := r
  obtain rfl : phase = .setup event := hr
  rfl

/-- A cycle that goes to the first pixel. -/
theorem tick_start (hr : r.phase = .start job) (a : Arbiter) :
    r.tick a = ({ r.clocked with phase := .scan job (.start job) .edgeTest }, a) := by
  obtain ⟨phase, current, totals⟩ := r
  obtain rfl : phase = .start job := hr
  rfl

/-- A cycle that takes a pixel further. -/
theorem tick_scan (hr : r.phase = .scan job cursor stage) (a : Arbiter) :
    r.tick a = r.clocked.step job cursor stage a := by
  obtain ⟨phase, current, totals⟩ := r
  obtain rfl : phase = .scan job cursor stage := hr
  rfl

/-- Setting a primitive up counts it, leaves the counters of pixels as they are, and makes its job if
it has one. -/
theorem setup_eq (r : Rasterizer) (event : DrawEvent) :
    ∃ culled, (r.setup event).current = { r.current with primitives := 1, culled }
      ∧ (r.setup event).phase = match event.setup with
        | .job job => .start job
        | .culled | .nothing => .idle := by
  unfold setup
  cases event.setup with
  | culled => exact ⟨1, rfl, rfl⟩
  | nothing => exact ⟨_, rfl, rfl⟩
  | job job => exact ⟨_, rfl, rfl⟩

end Rasterizer

end RasterGpu
