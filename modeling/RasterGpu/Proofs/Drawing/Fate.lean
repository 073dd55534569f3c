import RasterGpu.Proofs.Drawing.Bench
import RasterGpu.Proofs.Drawing.Pixels

/-!
# What becomes of pixels, and what is counted

Of every pixel that it visits the rasterizer finds out one of seven things, its `Fate`: the first
test that it fails, or that it passes all of them and is written or not. The fate depends on the
memory by the stored depth only, as it is when the pixel has its turn.

* `Job.fate` reads the fate of a pixel off a memory, and `Job.tally` adds up what is counted about
  pixels that are drawn one after the other.
* The rasterizer counts its findings in several stages of a pixel. `Stage.ending` is what a pixel
  still has to be counted with, and `Phase.left` what a primitive has; every cycle moves as much to
  the counters as it takes off what is left (`Stage.Step.ending_eq`, `Rasterizer.tick_left`), and no
  other move on the bench changes anything (`Bench.Invariant.counters_move`).

So a primitive is counted as `DrawEvent.tally` says, whatever happens at the same time
(`Bench.Invariant.current_draw`).
-/

namespace RasterGpu

/-! ## Fates -/

/-- What becomes of a pixel that is visited. -/
inductive Fate where
  /-- It is not in the shape. -/
  | outside
  /-- The stipple mask keeps it out. -/
  | masked
  /-- Its depth is not drawn. -/
  | outOfRange
  /-- It fails the alpha test. -/
  | transparent
  /-- It fails the depth test. -/
  | hidden
  /-- It passes all tests, and nothing is to be written. -/
  | unwritten
  /-- It passes all tests, and is written. -/
  | written
  deriving DecidableEq, Repr

namespace Fate

/-- What is counted of a pixel in the end. -/
def ending : Fate → RasterStats
  | outside | unwritten => 0
  | masked => { discardedStipple := 1 }
  | outOfRange => { discardedDepthRange := 1 }
  | transparent => { discardedAlpha := 1 }
  | hidden => { discardedDepth := 1 }
  | written => { written := 1 }

/-- All that is counted of a pixel. -/
def stats (fate : Fate) : RasterStats :=
  { tested := 1, covered := if fate = outside then 0 else 1 } + fate.ending

end Fate

namespace Job

variable (job : Job) (f : Fragment) (stored : UInt16)

/-- What becomes of a fragment that has passed all tests. -/
def writeFate : Fate :=
  if job.state.mode.colorWrite || job.state.mode.depthWrite then .written else .unwritten

/-- What becomes of a fragment that is compared with the stored depth. -/
def depthFate : Fate :=
  if job.state.mode.depthCompare.passes f.depth stored then job.writeFate else .hidden

/-- What becomes of a fragment where the given depth is stored. -/
def fragmentFate : Fate :=
  if !job.state.depthRange.passes f.depth then .outOfRange
  else if !job.passesAlpha f then .transparent
  else if job.state.mode.depthTest then job.depthFate f stored
  else job.writeFate

/-- The fragment of a pixel. -/
def fragmentAt (pixel : Int × Int) : Fragment :=
  job.fragmentOf (job.shape.weights (job.shape.edgeValues pixel.1 pixel.2))

/-- What becomes of a pixel where the given depth is stored. -/
def fateOver (pixel : Int × Int) : Fate :=
  if !job.contains pixel then .outside
  else if !(!job.state.mode.stipple || job.state.stipple.passes pixel.1 pixel.2) then .masked
  else job.fragmentFate (job.fragmentAt pixel) stored

/-- What becomes of a pixel in a memory. -/
def fate (pixel : Int × Int) (m : Sdram) : Fate :=
  job.fateOver (m.read (job.depthAddress pixel.1 pixel.2)) pixel

/-- What is counted of pixels that are drawn one after the other. -/
def tally : List (Int × Int) → Trace → RasterStats
  | [], _ => 0
  | pixel :: pixels, t =>
    (job.fate pixel t.memory).stats + tally pixels (job.plot pixel.1 pixel.2 t)

variable {job} {f} {pixel : Int × Int}

/-- A fragment whose depth is not drawn. -/
theorem fragmentFate_of_outOfRange (hd : job.state.depthRange.passes f.depth = false) :
    job.fragmentFate f stored = .outOfRange := by
  rw [fragmentFate, hd]
  rfl

/-- A fragment that fails the alpha test. -/
theorem fragmentFate_of_transparent (hd : job.state.depthRange.passes f.depth = true)
    (ha : job.passesAlpha f = false) : job.fragmentFate f stored = .transparent := by
  rw [fragmentFate, hd, ha]
  rfl

/-- A fragment that is compared with the stored depth, or passes all tests. -/
theorem fragmentFate_of_passes (hd : job.state.depthRange.passes f.depth = true)
    (ha : job.passesAlpha f = true) :
    job.fragmentFate f stored
      = if job.state.mode.depthTest then job.depthFate f stored else job.writeFate := by
  rw [fragmentFate, hd, ha]
  rfl

/-- A pixel with a fragment is in the shape. -/
theorem fragmentFate_ne_outside : job.fragmentFate f stored ≠ .outside := by
  unfold fragmentFate depthFate writeFate
  repeat' split
  all_goals exact Fate.noConfusion

/-- A pixel that is not in the shape. -/
theorem fateOver_of_outside (hc : job.contains pixel = false) :
    job.fateOver stored pixel = .outside := by
  rw [fateOver, hc]
  rfl

/-- A pixel that is masked out. -/
theorem fateOver_of_masked (hc : job.contains pixel = true)
    (hm : (!job.state.mode.stipple || job.state.stipple.passes pixel.1 pixel.2) = false) :
    job.fateOver stored pixel = .masked := by
  rw [fateOver, hc, hm]
  rfl

/-- A pixel in the shape that is let through. -/
theorem fateOver_of_inside (hc : job.contains pixel = true)
    (hm : (!job.state.mode.stipple || job.state.stipple.passes pixel.1 pixel.2) = true) :
    job.fateOver stored pixel = job.fragmentFate (job.fragmentAt pixel) stored := by
  rw [fateOver, hc, hm]
  rfl

end Job

/-- What is counted of the pixels of a primitive. -/
def DrawEvent.tally (event : DrawEvent) (t : Trace) : RasterStats :=
  event.job?.elim 0 fun job => job.tally job.box.pixels t

/-- A primitive without pixels has nothing to count. -/
theorem DrawEvent.tally_of_pixels_eq_nil {event : DrawEvent} (h : event.pixels = []) (t : Trace) :
    event.tally t = 0 := by
  unfold tally
  cases hj : event.job? with
  | none => rfl
  | some job =>
    rw [Option.elim_some, ← pixels_of_job? hj, h]
    rfl

/-! ## What a pixel is still counted with -/

/-- The counters of pixels, without those of primitives and cycles. -/
def RasterStats.ofPixels (s : RasterStats) : RasterStats :=
  { s with primitives := 0, culled := 0, busyCycles := 0 }

/-- The counters of pixels add up. -/
theorem RasterStats.ofPixels_add (s t : RasterStats) :
    (s + t).ofPixels = s.ofPixels + t.ofPixels := rfl

namespace Stage

variable (job : Job) (cursor : Cursor)

/-- What a pixel in a stage is still counted with, where the given depth is stored. -/
def ending (stored : UInt16) : Stage → RasterStats
  | .edgeTest => (job.fateOver stored cursor.pixel).stats
  | .weigh =>
    (job.fragmentFate (job.fragmentOf (job.shape.weights cursor.values)) stored).ending
  | .interpolate weights => (job.fragmentFate (job.fragmentOf weights) stored).ending
  | .depthRead f _ => (job.depthFate f stored).ending
  | .depthTest f seen => (job.depthFate f seen).ending
  | .write _ _ _ => { written := 1 }
  | .next => 0

/-- The depth that a pixel will be compared with: the one that it was answered, or else the one in
memory. -/
def stored (p : Client → Port) (m : Sdram) : Stage → UInt16
  | .depthRead _ true =>
    match p .depth with
    | .ready response => Rasterizer.firstWord response
    | _ => m.read (job.depthAddress cursor.x cursor.y)
  | _ => m.read (job.depthAddress cursor.x cursor.y)

/-- What a pixel in a stage is still counted with. -/
def left (p : Client → Port) (m : Sdram) (stage : Stage) : RasterStats :=
  stage.ending job cursor (stage.stored job cursor p m)

variable {job cursor} {stage : Stage}

/-- A fragment that has passed all tests is counted as written if it is. -/
theorem ending_firstStage (f : Fragment) (stored : UInt16) :
    (job.firstStage f).ending job cursor stored = job.writeFate.ending := by
  unfold Job.firstStage Job.writeFate RenderMode.firstWrite?
  cases job.state.mode.colorWrite with
  | true =>
    by_cases hb : job.state.mode.blend = .disabled
    · simp only [hb, if_true]
      rfl
    · simp only [hb, if_true, if_false]
      rfl
  | false => cases job.state.mode.depthWrite <;> rfl

/-- What a cycle counts of a pixel is in the counters of pixels. -/
theorem Step.ofPixels_gain {a a' : Arbiter} {stage' : Stage} {gain : RasterStats}
    (h : Step job cursor a stage gain stage' a') : gain.ofPixels = gain := by
  cases h <;> rfl

/-- **A cycle counts what it takes off what a pixel is still counted with**, whatever depth is
stored, unless the stored depth is there: then it has to be this one. -/
theorem Step.ending_eq {a a' : Arbiter} {stage stage' : Stage} {gain : RasterStats}
    (h : Step job cursor a stage gain stage' a') (hv : cursor.Valid job) (stored : UInt16)
    (hs : ∀ f response, stage = .depthRead f true → a.port .depth = .ready response →
      stored = Rasterizer.firstWord response) :
    gain + stage'.ending job cursor stored = stage.ending job cursor stored := by
  have hcovers := hv.covers_values
  cases h with
  | outside hc =>
    rw [hcovers] at hc
    rw [ending, ending, Job.fateOver_of_outside _ hc]
    rfl
  | masked hc hm =>
    rw [hcovers] at hc
    rw [ending, ending, Job.fateOver_of_masked _ hc hm]
    rfl
  | inside hc hm =>
    rw [hcovers] at hc
    rw [ending, ending, Job.fateOver_of_inside _ hc hm, hv.values, Fate.stats,
      if_neg (Job.fragmentFate_ne_outside _)]
    rfl
  | weighed => exact zero_add _
  | outOfRange hd =>
    rw [ending, ending, Job.fragmentFate_of_outOfRange _ hd]
    rfl
  | transparent hd ha =>
    rw [ending, ending, Job.fragmentFate_of_transparent _ hd ha]
    rfl
  | comparing hd ha hz =>
    rw [ending, ending, Job.fragmentFate_of_passes _ hd ha, if_pos hz, zero_add]
  | shown hd ha hz =>
    rw [ending_firstStage, ending, Job.fragmentFate_of_passes _ hd ha,
      if_neg (Bool.eq_false_iff.1 hz), zero_add]
  | @depthTaken f response _ ht =>
    rw [hs f response rfl (Arbiter.take?_eq_some ht).1, zero_add]
    rfl
  | visible hz =>
    rw [ending_firstStage, ending, Job.depthFate, if_pos hz, zero_add]
  | hidden hz =>
    rw [ending, ending, Job.depthFate, if_neg (Bool.eq_false_iff.1 hz)]
    rfl
  | written => rfl
  | depthAsked => exact zero_add _
  | depthRefused => exact zero_add _
  | depthAwaited => exact zero_add _
  | accessAsked => exact zero_add _
  | accessRefused => exact zero_add _
  | accessTaken => exact zero_add _
  | accessAwaited => exact zero_add _

/-- A cycle counts what it takes off what is left of a pixel. -/
theorem Step.left_eq {a a' : Arbiter} {stage stage' : Stage} {gain : RasterStats}
    (h : Step job cursor a stage gain stage' a') (hv : cursor.Valid job) (m : Sdram) :
    gain + stage'.left job cursor a'.port m = stage.left job cursor a.port m := by
  have hstored : stage'.left job cursor a'.port m
      = stage'.ending job cursor (stage.stored job cursor a.port m) := by
    cases h with
    | shown => rw [left, ending_firstStage, ending_firstStage]
    | visible => rw [left, ending_firstStage, ending_firstStage]
    | depthAsked hs =>
      have hpending := congrFun (Arbiter.port_submit? hs) .depth
      rw [Function.update_self] at hpending
      rw [left, stored, hpending]
      rfl
    | _ => rfl
  rw [hstored, left]
  refine h.ending_eq hv _ fun f response hstage hp => ?_
  rw [hstage, stored, hp]

/-- What is left of a pixel depends on the ports of the rasterizer only. -/
theorem left_congr {p p' : Client → Port} (h : p' .depth = p .depth) (m : Sdram) (stage : Stage) :
    stage.left job cursor p' m = stage.left job cursor p m := by
  have hstored : stage.stored job cursor p' m = stage.stored job cursor p m := by
    unfold stored
    rw [h]
  rw [left, left, hstored]

/-- A cycle of the arbiter changes nothing about what is left of a pixel, if other clients read. -/
theorem left_step {p p' : Client → Port} {m m' : Sdram} {performed : Option (Client × Request)}
    (h : (stage.work job cursor).Served Client.isDrawing p)
    (hs : Arbiter.PortStep p m performed p' m')
    (hread : ∀ c, c.isDrawing = false → (p c).ReadsOnly) :
    stage.left job cursor p' m' = stage.left job cursor p m := by
  cases hs with
  | wait => rfl
  | @grant c request hp =>
    by_cases hc : c = .depth
    · -- a request that is granted is no response, and neither was it while it was pending
      subst hc
      have hstored : stage.stored job cursor (Function.update p .depth (.granted request)) m
          = stage.stored job cursor p m := by
        unfold stored
        split
        · rw [Function.update_self, hp]
        · rfl
      rw [left, left, hstored]
    · exact left_congr (Function.update_of_ne (Ne.symm hc) _ _) m stage
  | @perform c request hp =>
    cases hc : c.isDrawing with
    | false =>
      have hdepth : Client.depth ≠ c := by
        rintro rfl
        cases hc
      have hr : request.isRead = true :=
        hread c hc request (by rw [hp]; exact List.mem_singleton_self _)
      rw [request.perform_of_isRead hr]
      exact left_congr (Function.update_of_ne hdepth _ _) m stage
    | true =>
      -- the access is the one that the pixel waits for
      have hw : (stage.work job cursor).request? c = some request := by
        have hserves := h c hc
        rw [hp] at hserves
        exact hserves.eq_of_granted
      cases stage with
      | depthRead f waiting =>
        cases waiting with
        | false => cases hw
        | true =>
          rw [work, Work.request?] at hw
          split at hw
          · rename_i hdepth
            obtain rfl := hdepth
            obtain rfl := Option.some.inj hw
            have hword := congrArg (Rasterizer.firstWord ∘ Prod.fst)
              ((⟨[], m⟩ : Trace).perform_read .depth (job.depthAddress cursor.x cursor.y))
            rw [left, left, stored, stored, Function.update_self, hp]
            exact congrArg (ending job cursor · (.depthRead f true)) hword
          · cases hw
      | write f step waiting => rfl
      | _ => cases hw

end Stage

/-! ## What a primitive is still counted with -/

/-- What a primitive is still counted with, given how far its requests have come. -/
def Phase.left (p : Client → Port) (t : Trace) : Phase → RasterStats
  | .idle => 0
  | .setup event => event.tally t
  | .start job => job.tally job.box.pixels t
  | .scan job cursor stage =>
    stage.left job cursor p t.memory
      + job.tally (cursor.following job) ((stage.work job cursor).run p t)

namespace Phase

variable {phase : Phase} {p p' : Client → Port}

/-- A change at the port of another client changes nothing about what is left. -/
theorem left_foreign {c : Client} (hc : c.isDrawing = false) (x : Port) (t : Trace) :
    phase.left (Function.update p c x) t = phase.left p t := by
  cases phase with
  | idle => rfl
  | setup event => rfl
  | start job => rfl
  | scan job cursor stage =>
    have hdepth : Client.depth ≠ c := by
      rintro rfl
      cases hc
    rw [left, left, Stage.left_congr (Function.update_of_ne hdepth _ _),
      Work.run_foreign (stage.work_within job cursor) hc]

/-- A cycle of the arbiter changes nothing about what is left, if other clients read. -/
theorem left_step {t : Trace} {m' : Sdram} {performed : Option (Client × Request)}
    (h : phase.work.Served Client.isDrawing p) (hs : Arbiter.PortStep p t.memory performed p' m')
    (hread : ∀ c, c.isDrawing = false → (p c).ReadsOnly) :
    phase.left p' ⟨t.accesses ++ Work.made Client.isDrawing performed, m'⟩ = phase.left p t := by
  -- without a request no access is made, and the trace stays as it is
  have hnow {rest : Trace → Trace} (hw : phase.work = .now rest) :
      (⟨t.accesses ++ Work.made Client.isDrawing performed, m'⟩ : Trace) = t := by
    have hnone : (Work.now id).Served Client.isDrawing p := fun c hc => by
      have hserves := h c hc
      rw [hw] at hserves
      exact hserves
    exact hnone.run_step (fun c hc => absurd rfl hc) hs hread
  cases phase with
  | idle => rfl
  | setup event => rw [hnow rfl]; rfl
  | start job => rw [hnow rfl]; rfl
  | scan job cursor stage =>
    have hserved : (stage.work job cursor).Served Client.isDrawing p := fun c hc => by
      have hserves := h c hc
      rw [work, Work.request?_andThen] at hserves
      exact hserves
    rw [left, left, hserved.run_step (stage.work_within job cursor) hs hread]
    exact congrArg (· + _) (Stage.left_step hserved hs hread)

end Phase

namespace Rasterizer

variable {r : Rasterizer} {a : Arbiter}

/-- A pixel is taken one cycle further, and counts what it takes off what is left. -/
theorem step_left {job : Job} {cursor : Cursor} {stage : Stage}
    (hr : r.phase = .scan job cursor stage) (hv : (Phase.scan job cursor stage).Valid)
    (hs : (Phase.scan job cursor stage).work.Sound Client.isDrawing a) (t : Trace) :
    (r.step job cursor stage a).1.current.ofPixels
        + (r.step job cursor stage a).1.phase.left (r.step job cursor stage a).2.port t
      = r.current.ofPixels + (Phase.scan job cursor stage).left a.port t := by
  by_cases hn : stage = .next
  · subst hn
    have hnone : (Phase.scan job cursor .next).left a.port t
        = job.tally (cursor.following job) t := zero_add _
    rw [hnone]
    change (r.advance job cursor).current.ofPixels + (r.advance job cursor).phase.left a.port t = _
    unfold advance
    split
    · rename_i next hnext
      rw [Cursor.following_next (Box.le_of_isEmpty hv.1).1 hnext]
      rfl
    · rename_i hnext
      rw [Cursor.following_end hnext]
      rfl
  · obtain ⟨gain, stage', a', hstep, hcase⟩ := step_cases hr hn a
    have hpixel := hcase.left_eq hv.2 t.memory
    have hrest := (hcase.keeps hv.2 (Work.sound_andThen.1 hs)).run t
    rw [hstep]
    change (r.current + gain).ofPixels + (_ + job.tally _ _) = _
    rw [RasterStats.ofPixels_add, hcase.ofPixels_gain, hrest, Phase.left, ← hpixel, add_assoc,
      add_assoc]

/-- **A cycle counts what it takes off what is left of a primitive.** -/
theorem tick_left (hv : r.phase.Valid) (hs : r.phase.work.Sound Client.isDrawing a) (t : Trace) :
    (r.tick a).1.current.ofPixels + (r.tick a).1.phase.left (r.tick a).2.port t
      = r.current.ofPixels + r.phase.left a.port t := by
  cases hr : r.phase with
  | idle => rw [tick_idle hr, hr]
  | setup event =>
    obtain ⟨culled, hcurrent, hphase⟩ := r.clocked.setup_eq event
    rw [tick_setup hr, hcurrent, hphase]
    refine congrArg (r.current.ofPixels + ·) ?_
    rcases event.setup_cases with ⟨job, hsetup, hj, -⟩ | ⟨hsetup, hnone⟩
    · rw [hsetup, Phase.left, Phase.left, DrawEvent.tally, hj]
      rfl
    · rw [Phase.left, DrawEvent.tally_of_pixels_eq_nil hnone]
      rcases hsetup with hsetup | hsetup <;> rw [hsetup] <;> rfl
  | start job =>
    rw [hr] at hv
    rw [tick_start hr, Phase.left, Box.pixels_eq hv]
    rfl
  | scan job cursor stage =>
    rw [hr] at hv hs
    rw [tick_scan hr]
    exact step_left (r := r.clocked) hr hv hs t

end Rasterizer

/-! ## On the bench -/

namespace Bench

variable {b : Bench}

/-- What the counters of pixels will show when the rasterizer has finished. -/
def counters (b : Bench) : RasterStats :=
  b.rasterizer.current.ofPixels + b.rasterizer.phase.left b.arbiter.port ⟨b.accesses, b.memory⟩

/-- **No move changes what the counters will show.** -/
theorem Invariant.counters_move (h : b.Invariant) (m : Move) : (b.move m).counters = b.counters := by
  cases m with
  | rasterizer => exact Rasterizer.tick_left h.valid h.sound ⟨b.accesses, b.memory⟩
  | arbiter =>
    have hs := Arbiter.tick_portStep h.sound.wellFormed b.memory
    exact congrArg (b.rasterizer.current.ofPixels + ·)
      (Phase.left_step (t := ⟨b.accesses, b.memory⟩) h.sound.served hs h.reading)
  | read bystander address length =>
    unfold Bench.move
    dsimp only
    split
    · rename_i a hs
      unfold counters
      rw [Arbiter.port_submit? hs, Phase.left_foreign bystander.isDrawing_client]
    · rfl
  | collect bystander =>
    unfold Bench.move
    dsimp only
    split
    · rename_i response a ht
      unfold counters
      rw [Arbiter.port_take? h.sound.wellFormed ht, Phase.left_foreign bystander.isDrawing_client]
    · rfl

/-- Moves do not change what the counters will show. -/
theorem Invariant.counters_moves (h : b.Invariant) (ms : List Move) :
    (b.moves ms).counters = b.counters := by
  induction ms generalizing b with
  | nil => rfl
  | cons m ms ih => exact (ih (h.move m).1).trans (h.counters_move m)

/-- **A primitive is counted pixel by pixel.** It is handed to a rasterizer at rest; if this is at
rest again, its counters of pixels show the tally of the primitive. -/
theorem Invariant.current_draw (h : b.Invariant) {event : DrawEvent} {during : List Move}
    (hidle : b.rasterizer.isBusy = false)
    (hdone : ((b.draw event).moves during).rasterizer.isBusy = false) :
    ((b.draw event).moves during).rasterizer.current.ofPixels = event.tally ⟨[], b.memory⟩ := by
  have hcounters := (h.draw event).counters_moves during
  unfold counters at hcounters
  rw [Rasterizer.phase_of_idle hdone, Phase.left, add_zero] at hcounters
  rw [hcounters, draw_of_idle hidle]
  exact zero_add _

end Bench

end RasterGpu
