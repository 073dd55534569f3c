import RasterGpu.Proofs.Arbiter.Turn
import RasterGpu.Proofs.Drawing.Refinement

/-!
# The rasterizer gets on

A primitive has finitely many pixels, and a pixel finitely many stages. `Phase.load` counts both:
the pixels that are left, and the stages that are left of the one being visited. Every cycle of the
rasterizer makes it less, but for one that waits for the memory (`Stage.Step.load_lt`,
`Rasterizer.tick_getsOn`). Waiting, the rasterizer has a request at a port, pending or granted; a
response that is there is taken.
-/

namespace RasterGpu

/-! ## Waiting at a port -/

/-- A client that waits has a request at its port, or a response. -/
theorem Port.Serves.requests_ne_nil {p : Port} {request : Request} (h : p.Serves (some request))
    (hnone : p.responses = []) : p.requests ≠ [] := by
  cases h with
  | pending request => exact List.cons_ne_nil _ _
  | granted request => exact List.cons_ne_nil _ _
  | ready request response => cases hnone

/-! ## Counting -/

/-- Pixels of the box after the one that the cursor is at. -/
def Cursor.left (cursor : Cursor) (job : Job) : Nat :=
  (job.box.y1 - cursor.y).toNat * ((job.box.x1 - job.box.x0).toNat + 1)
    + (job.box.x1 - cursor.x).toNat

/-- After the next pixel fewer are left. -/
theorem Cursor.left_next {cursor next : Cursor} {job : Job}
    (h : cursor.next? job = some next) : next.left job < cursor.left job := by
  unfold next? at h
  split at h
  · rename_i hx
    obtain rfl := Option.some.inj h
    unfold left
    dsimp only
    omega
  · split at h
    · rename_i hx hy
      obtain rfl := Option.some.inj h
      have hrows : (job.box.y1 - cursor.y).toNat = (job.box.y1 - (cursor.y + 1)).toNat + 1 := by
        omega
      unfold left
      dsimp only
      rw [hrows, Nat.succ_mul]
      omega
    · cases h

/-- Cycles that a step of writing a pixel and those after it take, beside those of the memory. -/
def WriteStep.load : WriteStep → Nat
  | readDestination => 6
  | writeColor _ => 4
  | writeDepth => 2

/-- Cycles that a stage and those after it take at most, beside those of the memory. -/
def Stage.load : Stage → Nat
  | edgeTest => 12
  | weigh => 11
  | interpolate _ => 10
  | depthRead _ waiting => 9 - waiting.toNat
  | depthTest _ _ => 7
  | write _ step waiting => step.load - waiting.toNat
  | next => 0

/-- A step of writing a pixel leads to a later one. -/
theorem WriteStep.load_next {job : Job} {word : UInt16} {step next : WriteStep}
    (h : job.nextWrite? word step = some next) : next.load + 2 ≤ step.load := by
  cases step with
  | readDestination =>
    obtain rfl := Option.some.inj h
    exact Nat.le_refl _
  | writeColor destination =>
    unfold Job.nextWrite? at h
    dsimp only at h
    split at h
    · obtain rfl := Option.some.inj h
      exact Nat.le_refl _
    · cases h
  | writeDepth => cases h

/-- Every step of writing a pixel takes a cycle to ask and one to be answered. -/
theorem WriteStep.two_le_load (step : WriteStep) : 2 ≤ step.load := by
  cases step with
  | readDestination => exact Nat.le_add_left 2 4
  | writeColor destination => exact Nat.le_add_left 2 2
  | writeDepth => exact Nat.le_refl 2

/-- A fragment that has passed all tests is in a late stage. -/
theorem Job.load_firstStage (job : Job) (f : Fragment) : (job.firstStage f).load ≤ 6 := by
  unfold firstStage
  cases job.state.mode.firstWrite? with
  | none => exact Nat.zero_le _
  | some step =>
    cases step with
    | readDestination => exact Nat.le_refl 6
    | writeColor destination => exact Nat.le_add_left 4 2
    | writeDepth => exact Nat.le_add_left 2 4

/-- What the pixel at the cursor, in the given stage, and those after it count. -/
def Cursor.load (cursor : Cursor) (job : Job) (stage : Stage) : Nat :=
  16 * cursor.left job + stage.load + 1

/-- What is left of a primitive. -/
def Phase.load : Phase → Nat
  | idle => 0
  | setup event =>
    match event.setup with
    | .job job => (Cursor.start job).load job .edgeTest + 2
    | .culled | .nothing => 1
  | start job => (Cursor.start job).load job .edgeTest + 1
  | scan job cursor stage => cursor.load job stage

/-- A primitive is being drawn exactly while something is left of it. -/
theorem Rasterizer.isBusy_eq (r : Rasterizer) : r.isBusy = decide (0 < r.phase.load) := by
  unfold isBusy
  cases r.phase with
  | idle => rfl
  | setup event => cases h : event.setup <;> simp [Phase.load, h]
  | start job => simp [Phase.load]
  | scan job cursor stage => simp [Phase.load, Cursor.load]

/-! ## Cycles -/

namespace Rasterizer

variable {a : Arbiter}

/-- Taking a pixel one cycle further leaves it the same client's turn. -/
theorem step_sameTurn (r : Rasterizer) (job : Job) (cursor : Cursor) (stage : Stage) (a : Arbiter) :
    a.SameTurn (r.step job cursor stage a).2 := by
  unfold step
  split
  · exact .refl a
  · exact .refl a
  · exact .refl a
  · split
    · exact .submit? ‹_›
    · exact .refl a
  · split
    · exact .take? ‹_›
    · exact .refl a
  · exact .refl a
  · split
    · exact .submit? ‹_›
    · exact .refl a
  · split
    · exact .take? ‹_›
    · exact .refl a
  · exact .refl a

/-- A cycle of the rasterizer leaves it the same client's turn. -/
theorem tick_sameTurn (r : Rasterizer) (a : Arbiter) : a.SameTurn (r.tick a).2 := by
  unfold tick
  split
  · exact .refl a
  · dsimp only
    split
    · exact .refl a
    · exact .refl a
    · exact .refl a
    · exact step_sameTurn _ _ _ _ a

end Rasterizer

/-- Work that waits at one port waits at no other. -/
theorem Work.request?_of_ne {w : Work} {c d : Client} {request : Request}
    (h : w.request? c = some request) (hd : d ≠ c) : w.request? d = none := by
  cases w with
  | now rest => rfl
  | await e r resume =>
    simp only [request?] at h ⊢
    by_cases hc : c = e
    · rw [if_neg (hc ▸ hd)]
    · rw [if_neg hc] at h
      cases h

/-- A primitive waits for the memory, if anything is left of it: there is a request at a port, and
no response. -/
structure Phase.Waits (phase : Phase) (a : Arbiter) : Prop where
  /-- There is a request, if anything is left. -/
  requests : 0 < phase.load → ∃ c, c.isDrawing = true ∧ (a.port c).requests ≠ []
  /-- There is no response. -/
  responses : ∀ c, c.isDrawing = true → (a.port c).responses = []

namespace Phase

variable {phase : Phase} {a : Arbiter}

/-- Without a primitive the ports are free. -/
theorem waits_idle (h : Phase.idle.work.Sound Client.isDrawing a) : Phase.idle.Waits a where
  requests hpos := absurd hpos (Nat.lt_irrefl 0)
  responses c hc := by
    have hserves := h.served c hc
    rw [hserves.eq_free]
    rfl

/-- A primitive whose response is not there has its request at the port. -/
theorem waits_await {c : Client} {request : Request}
    (h : phase.work.Sound Client.isDrawing a) (hr : phase.work.request? c = some request)
    (ht : a.take? c = none) : phase.Waits a := by
  have hc : c.isDrawing = true :=
    phase.work_within c (by rw [hr]; exact Option.some_ne_none _)
  have hnone := Arbiter.responses_of_take? ht
  have hserves := h.served c hc
  rw [hr] at hserves
  refine ⟨fun _ => ⟨c, hc, hserves.requests_ne_nil hnone⟩, fun d hd => ?_⟩
  by_cases hdc : d = c
  · rw [hdc]
    exact hnone
  · have hother := h.served d hd
    rw [Work.request?_of_ne hr hdc] at hother
    rw [hother.eq_free]
    rfl

end Phase

namespace Stage

variable {job : Job} {cursor : Cursor} {stage stage' : Stage} {a a' : Arbiter}

/-- A stage that is about to ask is not refused. -/
theorem submit?_ne_none {before : Trace → Trace} {c : Client}
    (h : (stage.work job cursor).Sound Client.isDrawing a)
    (hb : stage.work job cursor = .now before) (hc : c.isDrawing = true) (request : Request) :
    a.submit? c request ≠ none := by
  have hserves := h.served c hc
  rw [hb] at hserves
  obtain ⟨a', hs⟩ := Arbiter.submit?_of_free hserves.eq_free request
  rw [hs]
  exact Option.some_ne_none a'

/-- **A cycle takes a pixel to a later stage**, or nothing happens, and the pixel waits for the
memory. -/
theorem Step.load_lt {gain : RasterStats} (h : Step job cursor a stage gain stage' a')
    (hs : (Phase.scan job cursor stage).work.Sound Client.isDrawing a) :
    stage'.load < stage.load
      ∨ (stage' = stage ∧ gain = 0 ∧ a' = a) ∧ (Phase.scan job cursor stage).Waits a := by
  have hpixel := Work.sound_andThen.1 hs
  have hclient (step : WriteStep) : step.client.isDrawing = true := by cases step <;> rfl
  cases h with
  | outside => exact .inl (Nat.succ_pos _)
  | masked => exact .inl (Nat.succ_pos _)
  | inside => exact .inl (Nat.lt_succ_self _)
  | weighed => exact .inl (Nat.lt_succ_self _)
  | outOfRange => exact .inl (Nat.succ_pos _)
  | transparent => exact .inl (Nat.succ_pos _)
  | comparing => exact .inl (Nat.lt_succ_self _)
  | @shown weights =>
    have hlate := job.load_firstStage (job.fragmentOf weights)
    exact .inl (Nat.lt_of_le_of_lt hlate (Nat.lt_add_left 3 (Nat.lt_succ_self 6)))
  | depthAsked => exact .inl (Nat.lt_succ_self _)
  | depthRefused hask => exact absurd hask (submit?_ne_none hpixel rfl rfl _)
  | depthTaken => exact .inl (Nat.lt_succ_self _)
  | depthAwaited ht => exact .inr ⟨⟨rfl, rfl, rfl⟩, Phase.waits_await hs rfl ht⟩
  | visible => exact .inl (Nat.lt_succ_of_le (job.load_firstStage _))
  | hidden => exact .inl (Nat.succ_pos _)
  | @accessAsked f step =>
    have hpos := step.two_le_load
    exact .inl (Nat.sub_lt (Nat.lt_of_lt_of_le Nat.two_pos hpos) Nat.one_pos)
  | @accessRefused f step hask => exact absurd hask (submit?_ne_none hpixel rfl (hclient step) _)
  | @accessTaken f step next _ _ _ hn =>
    have hless := WriteStep.load_next hn
    left
    simp only [load, Bool.toNat_false, Bool.toNat_true]
    omega
  | @written f step =>
    have hpos := step.two_le_load
    left
    simp only [load, Bool.toNat_true]
    omega
  | @accessAwaited f step ht =>
    have hw : (Phase.scan job cursor (.write f step true)).work.request? step.client
        = some (job.request cursor.x cursor.y f step) := by
      cases step <;> rfl
    exact .inr ⟨⟨rfl, rfl, rfl⟩, Phase.waits_await hs hw ht⟩

end Stage

namespace Rasterizer

variable {r : Rasterizer} {a : Arbiter} {job : Job} {cursor : Cursor}

/-- A cycle has brought the primitive on, or it waits. -/
def GetsOn (phase : Phase) (a : Arbiter) (r' : Rasterizer) : Prop :=
  r'.phase.load < phase.load ∨ r'.phase = phase ∧ phase.Waits a

/-- The next pixel is one fewer to visit. -/
theorem load_advance (r : Rasterizer) (job : Job) (cursor : Cursor) :
    (r.advance job cursor).phase.load < cursor.load job .next := by
  unfold advance
  split
  · rename_i next hn
    have hless := Cursor.left_next hn
    simp only [Phase.load, Cursor.load, Stage.load]
    omega
  · simp [finish, Phase.load, Cursor.load]

/-- Setting up leaves what the primitive was counted with. -/
theorem load_setup (r : Rasterizer) (event : DrawEvent) :
    (r.setup event).phase.load < (Phase.setup event).load := by
  unfold setup
  cases h : event.setup <;> simp [Phase.load, h, finish]

/-- A pixel is taken one cycle further. -/
theorem load_step {stage : Stage} (hr : r.phase = .scan job cursor stage)
    (h : (Phase.scan job cursor stage).work.Sound Client.isDrawing a) :
    (r.step job cursor stage a).1.phase.load < (Phase.scan job cursor stage).load
      ∨ r.step job cursor stage a = (r, a) ∧ (Phase.scan job cursor stage).Waits a := by
  by_cases hn : stage = .next
  · subst hn
    exact .inl (r.load_advance job cursor)
  · obtain ⟨gain, stage', a', hstep, hcase⟩ := step_cases hr hn a
    rw [hstep]
    rcases hcase.load_lt h with hless | ⟨⟨rfl, rfl, rfl⟩, hwaits⟩
    · left
      simp only [goTo, Phase.load, Cursor.load]
      omega
    · exact .inr ⟨by rw [goTo_self hr], hwaits⟩

/-- A cycle of the rasterizer leaves less to be done, or it waits for the memory and leaves the
phase and the ports as they are. -/
theorem tick_load (h : r.phase.work.Sound Client.isDrawing a) :
    (r.tick a).1.phase.load < r.phase.load
      ∨ ((r.tick a).1.phase = r.phase ∧ (r.tick a).2 = a) ∧ r.phase.Waits a := by
  cases hr : r.phase with
  | idle =>
    rw [hr] at h
    rw [tick_idle hr]
    exact .inr ⟨⟨hr, rfl⟩, Phase.waits_idle h⟩
  | setup event =>
    rw [tick_setup hr]
    exact .inl (load_setup _ event)
  | start job =>
    rw [tick_start hr]
    exact .inl (Nat.lt_succ_self _)
  | scan job cursor stage =>
    rw [hr] at h
    rw [tick_scan hr]
    rcases load_step (r := r.clocked) hr h with hless | ⟨hstays, hwaits⟩
    · exact .inl hless
    · rw [hstays]
      exact .inr ⟨⟨hr, rfl⟩, hwaits⟩

/-- **A cycle of the rasterizer leaves less to be done**, unless it waits for the memory. -/
theorem tick_getsOn (h : r.phase.work.Sound Client.isDrawing a) :
    GetsOn r.phase a (r.tick a).1 :=
  (tick_load h).imp_right fun hstays => ⟨hstays.1.1, hstays.2⟩

end Rasterizer

end RasterGpu
