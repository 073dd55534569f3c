import RasterGpu.Proofs.Drawing.Step

/-!
# Counting primitives

The rasterizer counts a primitive when it sets it up, and adds the counters of the primitive to its
totals when it ends it. So the totals lag behind the primitives that were taken by the one that is
being drawn, however far that has come.

* `Rasterizer.taken` is the number of primitives taken: those in the totals, and the one being drawn.
* `Rasterizer.Counted` is the invariant behind it: once a primitive has been set up, its own counters
  show exactly one.

A cycle keeps both (`tick_counted`), and only `accept?` makes the number grow (`accept?_counted`).
-/

namespace RasterGpu

/-- The primitives of two sets of counters add up. -/
theorem RasterStats.primitives_add (s t : RasterStats) :
    (s + t).primitives = s.primitives + t.primitives := rfl

namespace Rasterizer

/-- Primitives that were taken: those that have ended, and the one being drawn. -/
def taken (r : Rasterizer) : Nat :=
  r.totals.primitives + r.isBusy.toNat

/-- A primitive that has been set up is counted once in its own counters. -/
def Counted (r : Rasterizer) : Prop :=
  match r.phase with
  | .idle | .setup _ => True
  | .start _ | .scan _ _ _ => r.current.primitives = 1

variable {r r' : Rasterizer}

/-- The rasterizer goes on with the primitive that it is drawing. -/
structure GoesOn (r r' : Rasterizer) : Prop where
  /-- It visits some pixel. -/
  scanning : ∃ job cursor stage, r'.phase = .scan job cursor stage
  /-- The primitive stays counted as it was. -/
  primitives : r'.current.primitives = r.current.primitives
  /-- The totals are as they were. -/
  totals : r'.totals = r.totals

/-- A step either goes on with the primitive or ends it. -/
theorem step_goesOn (r : Rasterizer) (job : Job) (cursor : Cursor) (stage : Stage) (a : Arbiter)
    (hr : r.phase = .scan job cursor stage) :
    r.GoesOn (r.step job cursor stage a).1 ∨ (r.step job cursor stage a).1 = r.finish := by
  by_cases hn : stage = .next
  · subst hn
    simp only [step, advance]
    split
    · exact .inl ⟨⟨job, _, _, rfl⟩, rfl, rfl⟩
    · exact .inr rfl
  · obtain ⟨gain, stage', a', hstep, hcase⟩ := step_cases hr hn a
    have hprimitives : gain.primitives = 0 := by cases hcase <;> rfl
    rw [hstep]
    refine .inl ⟨⟨job, cursor, stage', rfl⟩, ?_, rfl⟩
    change (r.current + gain).primitives = r.current.primitives
    rw [RasterStats.primitives_add, hprimitives, Nat.add_zero]

/-- A rasterizer that goes on has the same number of primitives. -/
theorem GoesOn.counted (h : r.GoesOn r') (hc : r.current.primitives = 1) :
    r'.Counted ∧ r'.taken = r.totals.primitives + 1 := by
  obtain ⟨job, cursor, stage, hphase⟩ := h.scanning
  constructor
  · rw [Counted, hphase]
    exact h.primitives.trans hc
  · simp [taken, isBusy, hphase, h.totals]

/-- A primitive that ends moves from its own counters to the totals. -/
theorem finish_counted (hc : r.current.primitives = 1) :
    r.finish.Counted ∧ r.finish.taken = r.totals.primitives + 1 := by
  constructor
  · trivial
  · change (r.totals + r.current).primitives + 0 = r.totals.primitives + 1
    rw [RasterStats.primitives_add, hc]

/-- Setting a primitive up counts it, whatever comes of it. -/
theorem setup_counted (r : Rasterizer) (event : DrawEvent) :
    (r.setup event).Counted ∧ (r.setup event).taken = r.totals.primitives + 1 := by
  unfold setup
  dsimp only
  split
  · exact finish_counted rfl
  · exact finish_counted rfl
  · exact ⟨rfl, rfl⟩

/-- **A cycle takes no primitive and loses none.** -/
theorem tick_counted (h : r.Counted) (a : Arbiter) :
    (r.tick a).1.Counted ∧ (r.tick a).1.taken = r.taken := by
  unfold Counted at h
  cases hr : r.phase with
  | idle =>
    rw [tick_idle hr]
    refine ⟨?_, rfl⟩
    rw [Counted, hr]
    trivial
  | setup event =>
    have htaken : r.taken = r.totals.primitives + 1 := by simp [taken, isBusy, hr]
    rw [tick_setup hr, htaken]
    exact setup_counted _ event
  | start job =>
    rw [hr] at h
    have htaken : r.taken = r.totals.primitives + 1 := by simp [taken, isBusy, hr]
    rw [tick_start hr, htaken]
    exact ⟨h, rfl⟩
  | scan job cursor stage =>
    rw [hr] at h
    have htaken : r.taken = r.totals.primitives + 1 := by simp [taken, isBusy, hr]
    rw [tick_scan hr, htaken]
    rcases r.clocked.step_goesOn job cursor stage a hr with hgoes | hends
    · exact hgoes.counted h
    · rw [hends]
      exact finish_counted h

/-- **A cycle goes on with a primitive, or ends it and adds its counters to the totals.** -/
theorem tick_totals (a : Arbiter) (hb : r.isBusy = true) :
    ((r.tick a).1.isBusy = true ∧ (r.tick a).1.totals = r.totals)
      ∨ ((r.tick a).1.isBusy = false ∧ (r.tick a).1.totals = r.totals + (r.tick a).1.current) := by
  cases hr : r.phase with
  | idle =>
    rw [isBusy, hr] at hb
    cases hb
  | setup event =>
    rw [tick_setup hr]
    unfold setup
    dsimp only
    split
    · exact .inr ⟨rfl, rfl⟩
    · exact .inr ⟨rfl, rfl⟩
    · exact .inl ⟨rfl, rfl⟩
  | start job =>
    rw [tick_start hr]
    exact .inl ⟨rfl, rfl⟩
  | scan job cursor stage =>
    rw [tick_scan hr]
    rcases r.clocked.step_goesOn job cursor stage a hr with hgoes | hends
    · obtain ⟨job', cursor', stage', hphase⟩ := hgoes.scanning
      exact .inl ⟨by rw [isBusy, hphase], hgoes.totals⟩
    · rw [hends]
      exact .inr ⟨rfl, rfl⟩

/-- A rasterizer at rest that takes a primitive has taken one more. -/
theorem accept?_counted {event : DrawEvent} (h : r.accept? event = some r') :
    r'.Counted ∧ r'.taken = r.taken + 1 := by
  unfold accept? at h
  split at h
  · cases h
  · rename_i hidle
    obtain rfl := Option.some.inj h
    rw [Bool.not_eq_true] at hidle
    refine ⟨trivial, ?_⟩
    rw [taken, taken, hidle]
    rfl

end Rasterizer

end RasterGpu
