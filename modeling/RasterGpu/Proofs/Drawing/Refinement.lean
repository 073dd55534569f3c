import RasterGpu.Proofs.Drawing.Remainder
import RasterGpu.Proofs.Drawing.Step

/-!
# The rasterizer draws what the program draws

A cycle of the rasterizer leaves the work of its phase as it was (`Rasterizer.tick_keeps`): it says
the same work differently, or submits the request that the work begins with, or goes on with a
response. Most cycles are about one pixel, and leave the work of that pixel as it was
(`Stage.Step.keeps`); then what follows the pixel is left as well.

Cycles of the arbiter perform the accesses that the work begins with. So whatever happens in
between, the accesses made and the work left are together `DrawEvent.render`, and when nothing is
left the accesses are all of it; the next file makes this a statement about a rasterizer on a bench.
-/

namespace RasterGpu

/-! ## A cycle of one pixel -/

namespace Job

variable {job : Job} {f : Fragment} {px py : Int}

/-- A fragment whose depth is not drawn is dropped. -/
theorem plotFragment_of_outOfRange (hd : job.state.depthRange.passes f.depth = false) (t : Trace) :
    job.plotFragment px py f t = t := by
  rw [plotFragment_eq, hd]
  rfl

/-- A fragment that fails the alpha test is dropped. -/
theorem plotFragment_of_transparent (hd : job.state.depthRange.passes f.depth = true)
    (ha : job.passesAlpha f = false) (t : Trace) : job.plotFragment px py f t = t := by
  unfold passesAlpha at ha
  rw [plotFragment_eq, hd, ha]
  rfl

/-- A fragment that is not dropped is compared with the stored depth, or written. -/
theorem plotFragment_of_passes (hd : job.state.depthRange.passes f.depth = true)
    (ha : job.passesAlpha f = true) (t : Trace) :
    job.plotFragment px py f t
      = if job.state.mode.depthTest then job.compareDepth px py f t else job.put px py f t := by
  unfold passesAlpha at ha
  rw [plotFragment_eq, hd, ha]
  rfl

end Job

namespace Stage

variable {job : Job} {cursor : Cursor} {stage stage' : Stage} {a a' : Arbiter}

/-- A pixel waits at the ports of the rasterizer. -/
theorem work_within (stage : Stage) (job : Job) (cursor : Cursor) :
    (stage.work job cursor).Within Client.isDrawing := by
  intro c hc
  refine (Phase.scan job cursor stage).work_within c ?_
  rw [Phase.work, Work.request?_andThen]
  exact hc

/-- A fragment that has passed all tests is written from its first stage on. -/
theorem work_firstStage (job : Job) (cursor : Cursor) (f : Fragment) :
    ∃ rest, (job.firstStage f).work job cursor = .now rest
      ∧ ∀ t, rest t = job.put cursor.x cursor.y f t := by
  unfold Job.firstStage
  cases hs : job.state.mode.firstWrite? with
  | none =>
    refine ⟨_, rfl, fun t => ?_⟩
    rw [job.put_eq, hs]
    rfl
  | some step =>
    refine ⟨_, rfl, fun t => ?_⟩
    rw [job.put_eq, hs]
    rfl

/-- What a fragment that has passed all tests leaves to do is to write it. -/
theorem keeps_firstStage {before : Trace → Trace} {f : Fragment}
    (hs : (Work.now before).Sound Client.isDrawing a)
    (heq : ∀ t, before t = job.put cursor.x cursor.y f t) :
    (Work.now before).Keeps Client.isDrawing a ((job.firstStage f).work job cursor) a := by
  obtain ⟨rest, hrest, hput⟩ := work_firstStage job cursor f
  rw [hrest]
  exact hs.keeps_now fun t => (hput t).trans (heq t).symm

/-- With the response a pixel goes on as it has to. -/
theorem keeps_response {c : Client} {request : Request} {resume : Response → Trace → Trace}
    {response : Response} {after : Trace → Trace}
    (hs : (Work.await c request resume).Sound Client.isDrawing a) (hc : c.isDrawing = true)
    (heq : ∀ t, after t = resume response t) (ht : a.take? c = some (response, a')) :
    (Work.await c request resume).Keeps Client.isDrawing a (.now after) a' := by
  obtain rfl : after = resume response := funext heq
  exact hs.keeps_take hc ht

/-- **A cycle leaves the work of a pixel as it was.** -/
theorem Step.keeps {gain : RasterStats} (h : Step job cursor a stage gain stage' a')
    (hv : cursor.Valid job) (hs : (stage.work job cursor).Sound Client.isDrawing a) :
    (stage.work job cursor).Keeps Client.isDrawing a (stage'.work job cursor) a' := by
  have hvalues := hv.values
  have hclient (step : WriteStep) : step.client.isDrawing = true := by cases step <;> rfl
  cases h with
  | outside hc =>
    rw [hvalues] at hc
    exact hs.keeps_now fun t => (job.plot_of_not_covers _ _ (Bool.eq_false_iff.1 hc) t).symm
  | masked hc hm =>
    exact hs.keeps_now fun t => (job.plot_of_stippled _ _ (Bool.eq_false_iff.1 hm) t).symm
  | inside hc hm =>
    rw [hvalues] at hc
    refine hs.keeps_now fun t => ?_
    rw [hvalues]
    exact (job.plot_of_covers _ _ hc hm t).symm
  | weighed => exact hs.keeps_now fun _ => rfl
  | outOfRange hd => exact hs.keeps_now fun t => (Job.plotFragment_of_outOfRange hd t).symm
  | transparent hd ha =>
    exact hs.keeps_now fun t => (Job.plotFragment_of_transparent hd ha t).symm
  | comparing hd ha hz =>
    refine hs.keeps_now fun t => ?_
    exact ((Job.plotFragment_of_passes hd ha t).trans (if_pos hz)).symm
  | shown hd ha hz =>
    refine keeps_firstStage hs fun t => ?_
    exact (Job.plotFragment_of_passes hd ha t).trans (if_neg (Bool.eq_false_iff.1 hz))
  | depthAsked hask => exact hs.keeps_submit rfl (fun _ => rfl) hask
  | depthRefused => exact hs.keeps
  | depthTaken ht => exact hs.keeps_take rfl ht
  | depthAwaited => exact hs.keeps
  | visible hz => exact keeps_firstStage hs fun _ => if_pos hz
  | hidden hz => exact hs.keeps_now fun _ => (if_neg (Bool.eq_false_iff.1 hz)).symm
  | @accessAsked f step _ hask => exact hs.keeps_submit (hclient step) (fun _ => rfl) hask
  | accessRefused => exact hs.keeps
  | @accessTaken f step next response _ ht hn =>
    refine keeps_response hs (hclient step) (fun t => ?_) ht
    rw [job.afterWrite_eq, hn]
    rfl
  | @written f step response _ ht hn =>
    refine keeps_response hs (hclient step) (fun t => ?_) ht
    rw [job.afterWrite_eq, hn]
    rfl
  | accessAwaited => exact hs.keeps

end Stage

/-! ## A cycle of the rasterizer -/

namespace Rasterizer

variable {r : Rasterizer} {a : Arbiter} {job : Job} {cursor : Cursor}

/-- The rasterizer has moved on, with the same work left to do. -/
structure Keeps (phase : Phase) (a : Arbiter) (next : Rasterizer × Arbiter) : Prop where
  /-- The new phase is valid. -/
  valid : next.1.phase.Valid
  /-- The work and the ports. -/
  work : phase.work.Keeps Client.isDrawing a next.1.phase.work next.2

/-- Setting up changes nothing about what is to be drawn. -/
theorem keeps_setup (r : Rasterizer) {event : DrawEvent}
    (h : (Phase.setup event).work.Sound Client.isDrawing a) :
    Keeps (.setup event) a (r.setup event, a) := by
  unfold setup
  dsimp only
  split
  · rename_i hs
    refine ⟨trivial, h.keeps_now fun t => ?_⟩
    rw [DrawEvent.render, hs]
    rfl
  · rename_i hs
    refine ⟨trivial, h.keeps_now fun t => ?_⟩
    rw [DrawEvent.render, hs]
    rfl
  · rename_i job hs
    refine ⟨DrawEvent.isEmpty_of_setup hs, h.keeps_now fun t => ?_⟩
    rw [DrawEvent.render, hs]

/-- The first pixel begins what is to be drawn. -/
theorem keeps_start (hv : (Phase.start job).Valid)
    (h : (Phase.start job).work.Sound Client.isDrawing a)
    (hr : r.phase = .scan job (.start job) .edgeTest) : Keeps (.start job) a (r, a) := by
  obtain ⟨hx, hy⟩ := Box.le_of_isEmpty hv
  refine ⟨by rw [hr]; exact ⟨hv, Cursor.start_valid job⟩, ?_⟩
  rw [hr]
  exact h.keeps_now fun t => (job.render_eq hx hy t).symm

/-- After the last pixel nothing is left to be drawn, after another one the next pixel is. -/
theorem keeps_advance (r : Rasterizer) (hv : (Phase.scan job cursor .next).Valid)
    (h : (Phase.scan job cursor .next).work.Sound Client.isDrawing a) :
    Keeps (.scan job cursor .next) a (r.advance job cursor, a) := by
  obtain ⟨he, hc⟩ := hv
  unfold advance
  split
  · rename_i next hn
    refine ⟨⟨he, hc.next? hn⟩, h.keeps_now fun t => ?_⟩
    exact (Cursor.renderAfter_next (Box.le_of_isEmpty he).1 hn t).symm
  · rename_i hn
    exact ⟨trivial, h.keeps_now fun t => (Cursor.renderAfter_end hn t).symm⟩

/-- A pixel is taken one cycle further, and what follows it is left. -/
theorem keeps_step {stage : Stage} (hr : r.phase = .scan job cursor stage)
    (hv : (Phase.scan job cursor stage).Valid)
    (h : (Phase.scan job cursor stage).work.Sound Client.isDrawing a) :
    Keeps (.scan job cursor stage) a (r.step job cursor stage a) := by
  by_cases hn : stage = .next
  · subst hn
    exact keeps_advance r hv h
  · obtain ⟨gain, stage', a', hstep, hcase⟩ := step_cases hr hn a
    have hpixel := hcase.keeps hv.2 (Work.sound_andThen.1 h)
    rw [hstep]
    exact ⟨hv, hpixel.andThen _⟩

/-- **A cycle of the rasterizer leaves the work of its phase as it was.** -/
theorem tick_keeps (hv : r.phase.Valid) (h : r.phase.work.Sound Client.isDrawing a) :
    Keeps r.phase a (r.tick a) := by
  unfold tick
  split
  · exact ⟨hv, h.keeps⟩
  · dsimp only
    split
    · exact ⟨hv, h.keeps⟩
    · rename_i hp
      rw [hp] at h ⊢
      exact keeps_setup _ h
    · rename_i hp
      rw [hp] at hv h ⊢
      exact keeps_start hv h rfl
    · rename_i hp
      rw [hp] at hv h ⊢
      exact keeps_step rfl hv h

end Rasterizer

end RasterGpu
