import RasterGpu.Proofs.Drawing.Findings
import RasterGpu.Proofs.Drawing.Primitives

/-!
# What the counters show

Primitives are drawn on the bench, one after another, while the other clients read and write as they
please. A pixel that gets as far as the depth test is compared with the depth that is stored when
its turn has come, and what that is may depend on everything else that happens. So a record is kept
of each primitive: which of its pixels were compared, and with which stored depths.

* `Record.Counted` says what counters have to show of a primitive, given its record: how many of its
  pixels were visited, were in the shape, failed each of the tests, and were written.
* `Census` is the bench with the record of the primitive being drawn, and those of the primitives
  that were drawn before, each with the counters that the rasterizer then had.
* `Record.Underway` is the invariant: what has been counted of the primitive and what is due
  together are what is due in all, for any depths that agree with the record; and what was read and
  what is to be read are the pixels to be compared.

`Census.run_counts` is the result, for every run.
-/

namespace RasterGpu

/-! ## Counters -/

/-- The counter of pixels that fail a test. -/
def RasterStats.discarded (s : RasterStats) : PixelTest → Nat
  | .stipple => s.discardedStipple
  | .depthRange => s.discardedDepthRange
  | .alpha => s.discardedAlpha
  | .depth => s.discardedDepth

/-- Every pixel in the shape was written or failed a test. -/
def RasterStats.Balanced (s : RasterStats) : Prop :=
  s.covered = s.written + (PixelTest.all.map s.discarded).sum

/-- What is balanced adds up to something balanced. -/
theorem RasterStats.Balanced.add {s t : RasterStats} (hs : s.Balanced) (ht : t.Balanced) :
    (s + t).Balanced := by
  simp only [Balanced, PixelTest.all, List.map_cons, List.map_nil, List.sum_cons, List.sum_nil]
    at hs ht ⊢
  change s.covered + t.covered = s.written + t.written
    + (s.discardedStipple + t.discardedStipple
      + (s.discardedDepthRange + t.discardedDepthRange
        + (s.discardedAlpha + t.discardedAlpha + (s.discardedDepth + t.discardedDepth + 0))))
  simp only [discarded] at hs ht
  omega

/-- Every pixel is counted as visited. -/
theorem Fate.tested_stats (fate : Fate) : fate.stats.tested = 1 := by
  cases fate <;> rfl

namespace Job

variable {job : Job} {stored : UInt16} {pixel : Int × Int}

/-- A pixel that fails no test is written if anything is. -/
theorem fateOf_none :
    job.fateOf none = if job.state.mode.writes then .written else .unwritten := rfl

/-- A pixel is counted as covered if it is in the shape. -/
theorem covered_stats :
    (job.fateOver stored pixel).stats.covered = (job.contains pixel).toNat := by
  rw [fateOver_eq]
  cases job.contains pixel with
  | false => rfl
  | true =>
    rw [if_pos rfl]
    cases job.failed? stored pixel with
    | none =>
      rw [fateOf_none]
      split <;> rfl
    | some test => cases test <;> rfl

/-- A pixel in the shape is counted under the first test that it fails. -/
theorem discarded_stats (test : PixelTest) :
    (job.fateOver stored pixel).stats.discarded test
      = (job.contains pixel && job.failed? stored pixel == some test).toNat := by
  rw [fateOver_eq]
  cases job.contains pixel with
  | false => cases test <;> rfl
  | true =>
    rw [if_pos rfl, Bool.true_and]
    cases job.failed? stored pixel with
    | none =>
      rw [fateOf_none]
      split <;> cases test <;> rfl
    | some failed => cases failed <;> cases test <;> rfl

/-- A pixel in the shape that fails no test is counted as written if anything is. -/
theorem written_stats :
    (job.fateOver stored pixel).stats.written
      = (job.state.mode.writes
          && (job.contains pixel && job.failed? stored pixel == none)).toNat := by
  rw [fateOver_eq]
  cases job.contains pixel with
  | false =>
    rw [Bool.false_and, Bool.and_false]
    rfl
  | true =>
    rw [if_pos rfl, Bool.true_and]
    cases job.failed? stored pixel with
    | none =>
      rw [fateOf_none]
      split
      · rename_i hw
        rw [hw]
        rfl
      · rename_i hw
        rw [Bool.eq_false_iff.2 hw]
        rfl
    | some test =>
      have hsome : (some test == (none : Option PixelTest)) = false := rfl
      rw [hsome, Bool.and_false]
      cases test <;> rfl

/-- Where anything is written, what is counted of a pixel is balanced. -/
theorem balanced_stats (hw : job.state.mode.writes = true) :
    (job.fateOver stored pixel).stats.Balanced := by
  rw [fateOver_eq]
  cases job.contains pixel with
  | false => rfl
  | true =>
    rw [if_pos rfl]
    cases job.failed? stored pixel with
    | none =>
      rw [fateOf_none, if_pos hw]
      rfl
    | some test => cases test <;> rfl

/-- Where anything is written, what is counted of pixels is balanced. -/
theorem balanced_due (hw : job.state.mode.writes = true) (depth : Int × Int → UInt16)
    (pixels : List (Int × Int)) : (job.due depth pixels).Balanced := by
  induction pixels with
  | nil => rfl
  | cons pixel pixels ih =>
    rw [due_cons]
    exact (balanced_stats hw).add ih

end Job

/-- The area of the box of a primitive, clipped to the surface and the scissor rectangle; zero for a
triangle that is culled or has no positive area. -/
def DrawEvent.clippedArea (event : DrawEvent) : Nat :=
  match event.primitive with
  | .triangle vertices _ =>
    let positions := vertices.map Vertex.position
    let doubledArea := Triangle.doubledAreaOf positions
    if event.state.mode.cull.drops doubledArea || doubledArea ≤ 0 then 0
    else ((Box.ofTriangle positions).clip event.state.framebuffer event.state.scissor).area
  | .rectangle corner0 corner1 =>
    ((Box.ofCorners corner0.position corner1.position).clip event.state.framebuffer
      event.state.scissor).area

/-- A primitive has as many pixels as the area of its clipped box says. -/
theorem DrawEvent.length_pixels (event : DrawEvent) : event.pixels.length = event.clippedArea := by
  unfold pixels job? shape? clippedArea
  cases event.primitive with
  | rectangle corner0 corner1 => exact Box.length_pixels _
  | triangle vertices _ =>
    dsimp only
    split
    · rename_i hd
      exact (if_pos hd).symm
    · rename_i hd
      exact (Box.length_pixels _).trans (if_neg hd).symm

/-! ## Records -/

/-- A primitive, and the stored depths that were read for its pixels. -/
structure Record where
  /-- The primitive. -/
  event : DrawEvent
  /-- Pixels, and the depths that were stored there when they were compared, oldest first. -/
  readings : List ((Int × Int) × UInt16) := []

namespace Record

/-- The depth that a pixel was compared with. Where it was not compared, the depth does not matter,
and is zero. -/
def depth (record : Record) (pixel : Int × Int) : UInt16 :=
  (record.readings.lookup pixel).getD 0

/-- Depths agree with what was read. -/
def Agrees (record : Record) (depth : Int × Int → UInt16) : Prop :=
  ∀ reading ∈ record.readings, depth reading.1 = reading.2

/-- A record agrees with itself if no pixel was read twice. -/
theorem agrees_depth {record : Record} (h : (record.readings.map Prod.fst).Nodup) :
    record.Agrees record.depth := by
  obtain ⟨event, readings⟩ := record
  unfold Agrees depth
  dsimp only at h ⊢
  induction readings with
  | nil => exact fun _ hr => absurd hr List.not_mem_nil
  | cons first readings ih =>
    obtain ⟨hfirst, hrest⟩ := List.nodup_cons.1 h
    intro reading hr
    rcases List.mem_cons.1 hr with rfl | hr
    · rw [List.lookup_cons_self]
      rfl
    · have hne : reading.1 ≠ first.1 := fun heq => hfirst (heq ▸ List.mem_map_of_mem hr)
      rw [List.lookup_cons, beq_false_of_ne hne]
      exact ih hrest reading hr

/-- Counters show what has become of the pixels of a primitive. -/
structure Counted (record : Record) (counters : RasterStats) : Prop where
  /-- One stored depth was read for every pixel that gets as far as being compared, in the order of
  drawing, and none for any other. -/
  compared : record.readings.map Prod.fst = record.event.picked Job.compares
  /-- It is one primitive. -/
  primitives : counters.primitives = 1
  /-- It is counted as culled if it was. -/
  culled : counters.culled = if record.event.setup = .culled then 1 else 0
  /-- All pixels of the clipped box were visited. -/
  tested : counters.tested = record.event.clippedArea
  /-- Those in the shape were covered. -/
  covered : counters.covered = (record.event.picked Job.contains).length
  /-- Those of them that fail a test were counted under the first one that they fail. -/
  discarded : ∀ test, counters.discarded test = (record.event.picked fun job pixel =>
    job.contains pixel && job.failed? (record.depth pixel) pixel == some test).length
  /-- Those that fail none were written if anything is. -/
  written : counters.written = if record.event.state.mode.writes then
      (record.event.picked fun job pixel =>
        job.contains pixel && job.failed? (record.depth pixel) pixel == none).length
    else 0
  /-- If anything is written, all of those in the shape are accounted for. -/
  balanced : record.event.state.mode.writes = true → counters.Balanced

end Record

/-- The counters of a primitive as a whole: none before it has been set up, and then they say that
it is one, and whether it was culled. -/
def Rasterizer.Draws (event : DrawEvent) (r : Rasterizer) : Prop :=
  match r.phase with
  | .setup e => e = event ∧ r.current.primitives = 0 ∧ r.current.culled = 0
  | .idle | .start _ | .scan _ _ _ =>
    r.current.primitives = 1 ∧ r.current.culled = if event.setup = .culled then 1 else 0

/-- A cycle leaves the counters of a primitive as a whole as they have to be. -/
theorem Rasterizer.Draws.tick {r : Rasterizer} {event : DrawEvent} (h : r.Draws event)
    (a : Arbiter) : (r.tick a).1.Draws event := by
  unfold Draws at h
  cases hr : r.phase with
  | idle =>
    rw [tick_idle hr, Draws, hr]
    rw [hr] at h
    exact h
  | setup e =>
    rw [hr] at h
    obtain ⟨rfl, -, hculled⟩ := h
    rw [tick_setup hr]
    unfold Rasterizer.setup Draws
    cases hs : e.setup with
    | culled => exact ⟨rfl, rfl⟩
    | nothing => exact ⟨rfl, hculled⟩
    | job job => exact ⟨rfl, hculled⟩
  | start job =>
    rw [hr] at h
    rw [tick_start hr]
    exact h
  | scan job cursor stage =>
    rw [hr] at h
    rw [tick_scan hr]
    by_cases hn : stage = .next
    · subst hn
      change (r.clocked.advance job cursor).Draws event
      unfold advance
      split <;> exact h
    · obtain ⟨gain, stage', a', hstep, hcase⟩ := step_cases (r := r.clocked) hr hn a
      have hgain : gain.primitives = 0 ∧ gain.culled = 0 := by cases hcase <;> exact ⟨rfl, rfl⟩
      rw [hstep]
      change r.current.primitives + gain.primitives = 1
        ∧ r.current.culled + gain.culled = if event.setup = .culled then 1 else 0
      rw [hgain.1, hgain.2]
      exact h

/-! ## The bench with clients that write -/

namespace Bench

/-- What can happen on the bench. -/
inductive Act where
  /-- A primitive is handed over. -/
  | draw (event : DrawEvent)
  /-- A cycle of the rasterizer. -/
  | rasterizer
  /-- A cycle of the arbiter. -/
  | arbiter
  /-- Another client wants to read or write. -/
  | submit (bystander : Bystander) (request : Request)
  /-- Another client collects its response. -/
  | collect (bystander : Bystander)

/-- Lets something happen. A request on an occupied slot is refused. -/
def act (b : Bench) : Act → Bench
  | .draw event => b.draw event
  | .rasterizer => b.move .rasterizer
  | .arbiter => b.move .arbiter
  | .submit bystander request =>
    match b.arbiter.submit? bystander.client request with
    | some arbiter => { b with arbiter }
    | none => b
  | .collect bystander => b.move (.collect bystander)

/-- The primitive that is taken, if there is one. -/
def accepted? (b : Bench) : Act → Option DrawEvent
  | .draw event => if b.rasterizer.isBusy then none else some event
  | .rasterizer | .arbiter | .submit .. | .collect _ => none

/-- The primitives that are taken in the course of a run. -/
def accepted (b : Bench) : List Act → List DrawEvent
  | [] => []
  | a :: acts => (b.accepted? a).toList ++ (b.act a).accepted acts

/-- What other clients do is done at their own ports. -/
theorem act_foreign (b : Bench) (hw : b.arbiter.WellFormed) {a : Act}
    (ha : (∃ bystander request, a = .submit bystander request)
      ∨ ∃ bystander, a = .collect bystander) :
    ∃ arbiter bystander, ∃ x : Port, b.act a = { b with arbiter } ∧ arbiter.WellFormed
      ∧ arbiter.port = Function.update b.arbiter.port (Bystander.client bystander) x := by
  have hself (c : Client) : b.arbiter.port = Function.update b.arbiter.port c (b.arbiter.port c) :=
    (Function.update_eq_self c _).symm
  rcases ha with ⟨bystander, request, rfl⟩ | ⟨bystander, rfl⟩
  · unfold act
    dsimp only
    split
    · rename_i arbiter hs
      exact ⟨arbiter, bystander, _, rfl, hw.submit? hs, Arbiter.port_submit? hs⟩
    · exact ⟨b.arbiter, bystander, _, rfl, hw, hself _⟩
  · unfold act move
    dsimp only
    split
    · rename_i response arbiter ht
      exact ⟨arbiter, bystander, _, rfl, hw.take? ht, Arbiter.port_take? hw ht⟩
    · exact ⟨b.arbiter, bystander, _, rfl, hw, hself _⟩

end Bench

/-! ## Primitives being drawn -/

namespace Record

/-- The record with one more reading, if there is one. -/
def note (record : Record) (reading? : Option ((Int × Int) × UInt16)) : Record :=
  { record with readings := record.readings ++ reading?.toList }

/-- What holds on the bench while a primitive is being drawn. -/
structure Underway (record : Record) (b : Bench) : Prop where
  /-- It is counted as a whole. -/
  draws : b.rasterizer.Draws record.event
  /-- What was read and what is to be read are the pixels to be compared. -/
  compared : record.readings.map Prod.fst
    ++ b.rasterizer.phase.toCompare (b.arbiter.port .depth) = record.event.picked Job.compares
  /-- What was counted and what is due are what is due in all. -/
  due : ∀ depth, record.Agrees depth →
    b.rasterizer.current.ofPixels + b.rasterizer.phase.due depth = record.event.due depth
  /-- What the rasterizer was answered was read. -/
  told : ∀ depth, record.Agrees depth → b.rasterizer.phase.Told depth (b.arbiter.port .depth)

variable {record : Record} {b : Bench}

/-- A primitive that has been taken is underway. -/
theorem underway_draw (event : DrawEvent) (hidle : b.rasterizer.isBusy = false) :
    (⟨event, []⟩ : Record).Underway (b.draw event) := by
  rw [Bench.draw_of_idle hidle]
  exact
    { draws := ⟨rfl, rfl, rfl⟩
      compared := rfl
      due := fun _ _ => zero_add _
      told := fun _ _ _ _ _ _ hphase => Phase.noConfusion hphase }

/-- A cycle of the rasterizer. -/
theorem Underway.rasterizer (h : record.Underway b) (hv : b.rasterizer.phase.Valid) :
    record.Underway (b.move .rasterizer) where
  draws := h.draws.tick b.arbiter
  compared := (congrArg (_ ++ ·) (Rasterizer.tick_toCompare hv b.arbiter)).trans h.compared
  due depth ha := (Rasterizer.tick_due hv (h.told depth ha)).trans (h.due depth ha)
  told depth _ := b.rasterizer.tick_told b.arbiter depth

/-- A cycle of the arbiter. -/
theorem Underway.arbiter (h : record.Underway b)
    (hs : b.rasterizer.phase.work.Sound Client.isDrawing b.arbiter) :
    (record.note (b.rasterizer.phase.sighted? b.memory b.arbiter.performed?)).Underway
      (b.move .arbiter) := by
  have hstep := Arbiter.tick_portStep hs.wellFormed b.memory
  generalize hsighted : b.rasterizer.phase.sighted? b.memory b.arbiter.performed? = sighted?
  -- depths that agree with the longer record agree with the shorter one, and with the new reading
  have hagrees {depth : Int × Int → UInt16} (ha : (record.note sighted?).Agrees depth) :
      record.Agrees depth ∧ ∀ reading ∈ sighted?, depth reading.1 = reading.2 :=
    ⟨fun reading hr => ha reading (List.mem_append_left _ hr),
      fun reading hr => ha reading (List.mem_append_right _ (Option.mem_toList.2 hr))⟩
  refine ⟨h.draws, ?_, fun depth ha => h.due depth (hagrees ha).1, fun depth ha => ?_⟩
  · have hcompared := Phase.sighted_step hs.served hstep
    rw [hsighted] at hcompared
    rw [note, List.map_append, List.append_assoc]
    exact (congrArg (_ ++ ·) hcompared).trans h.compared
  · exact (h.told depth (hagrees ha).1).step hs.served hstep (hsighted ▸ (hagrees ha).2)

/-- Another client does something at its port. -/
theorem Underway.foreign (h : record.Underway b) {arbiter : Arbiter}
    (hp : arbiter.port .depth = b.arbiter.port .depth) :
    record.Underway { b with arbiter } where
  draws := h.draws
  compared := by
    rw [hp]
    exact h.compared
  due := h.due
  told depth ha := by
    rw [hp]
    exact h.told depth ha

end Record

/-- What a primitive picks where something is written. -/
theorem DrawEvent.length_picked_writes (event : DrawEvent) (picks : Job → Int × Int → Bool) :
    (event.picked fun job pixel => job.state.mode.writes && picks job pixel).length
      = if event.state.mode.writes then (event.picked picks).length else 0 := by
  unfold picked
  cases hj : event.job? with
  | none => exact (ite_self 0).symm
  | some job =>
    simp only [Option.elim_some, state_of_job? hj]
    cases event.state.mode.writes with
    | false => exact congrArg List.length (List.filter_false _)
    | true =>
      simp only [Bool.true_and]
      rfl

/-- **When the rasterizer is at rest its counters show what has become of the pixels.** -/
theorem Record.Underway.counted {record : Record} {b : Bench} (h : record.Underway b)
    (hidle : b.rasterizer.isBusy = false) : record.Counted b.rasterizer.current := by
  obtain ⟨hdraws, hcompared, hdue, -⟩ := h
  have hphase := Rasterizer.phase_of_idle hidle
  unfold Rasterizer.Draws at hdraws
  rw [hphase] at hdraws hcompared hdue
  rw [Phase.toCompare, List.append_nil] at hcompared
  have hall := hdue _ (agrees_depth (hcompared ▸ record.event.nodup_picked _))
  rw [Phase.due, add_zero] at hall
  have htested := congrArg RasterStats.tested hall
  have hcovered := congrArg RasterStats.covered hall
  have hwritten := congrArg RasterStats.written hall
  refine ⟨hcompared, hdraws.1, hdraws.2, htested.trans ?_, hcovered.trans ?_, fun test => ?_,
    hwritten.trans ?_, fun hw => ?_⟩
  · rw [← DrawEvent.length_pixels, ← DrawEvent.picked_all]
    exact DrawEvent.count_due _ rfl (fun _ _ => rfl) fun _ _ => Fate.tested_stats _
  · exact DrawEvent.count_due _ rfl (fun _ _ => rfl) fun _ _ => Job.covered_stats
  · have hdiscarded := congrArg (RasterStats.discarded · test) hall
    have hpixels : b.rasterizer.current.ofPixels.discarded test
        = b.rasterizer.current.discarded test := by cases test <;> rfl
    refine hpixels.symm.trans (hdiscarded.trans ?_)
    refine DrawEvent.count_due (RasterStats.discarded · test) ?_ (fun s t => ?_) fun _ _ =>
      Job.discarded_stats test
    · cases test <;> rfl
    · cases test <;> rfl
  · rw [← DrawEvent.length_picked_writes]
    exact DrawEvent.count_due _ rfl (fun _ _ => rfl) fun _ _ => Job.written_stats
  · change b.rasterizer.current.ofPixels.Balanced
    rw [hall, DrawEvent.due]
    cases hj : record.event.job? with
    | none => rfl
    | some job => exact Job.balanced_due (DrawEvent.state_of_job? hj ▸ hw) _ _

/-! ## The census -/

/-- The bench with records of its primitives. -/
structure Census where
  /-- The bench. -/
  bench : Bench
  /-- The primitive that is being drawn. -/
  inHand : Option Record := none
  /-- The primitives that were drawn, with the counters that the rasterizer had then. -/
  drawn : List (Record × RasterStats) := []

namespace Census

/-- The bench at rest, and nothing drawn. -/
def start (policy : ArbiterPolicy) (memory : Sdram) : Census :=
  { bench := .start policy memory }

/-- Lets something happen. A primitive is in hand from the time at which it is taken to that at
which the rasterizer is at rest again, and in between every stored depth that is read for it is
noted. -/
def act (census : Census) (a : Bench.Act) : Census :=
  let bench := census.bench.act a
  match a with
  | .draw event =>
    if census.bench.rasterizer.isBusy then { census with bench }
    else { census with bench, inHand := some { event } }
  | .rasterizer =>
    if bench.rasterizer.isBusy then { census with bench }
    else
      { bench
        inHand := none
        drawn := census.drawn ++ census.inHand.toList.map (·, bench.rasterizer.current) }
  | .arbiter =>
    { census with
      bench
      inHand := census.inHand.map (·.note
        (census.bench.rasterizer.phase.sighted? census.bench.memory
          census.bench.arbiter.performed?)) }
  | .submit .. | .collect _ => { census with bench }

/-- Lets things happen, one after the other. -/
def run (census : Census) (acts : List Bench.Act) : Census := acts.foldl act census

/-- The primitives that were drawn, and the one that is being drawn. -/
def records (census : Census) : List Record :=
  census.drawn.map Prod.fst ++ census.inHand.toList

/-- What holds at all times. -/
structure Invariant (census : Census) : Prop where
  /-- The phase of the rasterizer is valid. -/
  valid : census.bench.rasterizer.phase.Valid
  /-- The ports of the rasterizer hold what it waits for. -/
  sound : census.bench.rasterizer.phase.work.Sound Client.isDrawing census.bench.arbiter
  /-- A primitive is in hand while the rasterizer is busy. -/
  busy : census.bench.rasterizer.isBusy = census.inHand.isSome
  /-- It is underway. -/
  underway : ∀ record ∈ census.inHand, record.Underway census.bench
  /-- Those that were drawn are counted. -/
  counted : ∀ d ∈ census.drawn, d.1.Counted d.2
  /-- The totals are those of the primitives that were drawn. -/
  totals : census.bench.rasterizer.totals = (census.drawn.map Prod.snd).sum
  /-- At rest the counters are those of the last one. -/
  latest : census.inHand = none →
    census.bench.rasterizer.current = (census.drawn.map Prod.snd).getLastD 0

variable {census : Census}

/-- At the start nothing has been drawn. -/
theorem start_invariant (policy : ArbiterPolicy) (memory : Sdram) :
    (start policy memory).Invariant where
  valid := (Bench.start_invariant policy memory).valid
  sound := (Bench.start_invariant policy memory).sound
  busy := rfl
  underway _ hr := by cases hr
  counted _ hd := absurd hd List.not_mem_nil
  totals := rfl
  latest _ := rfl

/-- A primitive is handed over, taken or not. -/
theorem Invariant.draw (h : census.Invariant) (event : DrawEvent) :
    (census.act (.draw event)).Invariant := by
  unfold act Bench.act
  dsimp only
  cases hidle : census.bench.rasterizer.isBusy with
  | true =>
    have hsame : census.bench.draw event = census.bench := by
      unfold Bench.draw Rasterizer.accept?
      rw [hidle]
      rfl
    rw [if_pos rfl, hsame]
    exact h
  | false =>
    have hserved := h.sound.served
    rw [Rasterizer.phase_of_idle hidle] at hserved
    rw [if_neg Bool.false_ne_true]
    refine ⟨?_, ?_, ?_, fun record hr => ?_, h.counted, ?_, fun hnone => ?_⟩
    · rw [Bench.draw_of_idle hidle]
      trivial
    · rw [Bench.draw_of_idle hidle]
      exact ⟨h.sound.wellFormed, hserved⟩
    · rw [Bench.draw_of_idle hidle]
      rfl
    · obtain rfl := Option.some.inj hr
      exact Record.underway_draw event hidle
    · rw [Bench.draw_of_idle hidle]
      exact h.totals
    · cases hnone

/-- A cycle of the rasterizer. -/
theorem Invariant.rasterizer (h : census.Invariant) : (census.act .rasterizer).Invariant := by
  obtain ⟨hvalid, hkeeps⟩ := Rasterizer.tick_keeps h.valid h.sound
  have hsound := hkeeps.sound
  cases hbusy : census.bench.rasterizer.isBusy with
  | false =>
    -- at rest nothing is in hand, and nothing changes
    have hnone : census.inHand = none := by
      rw [h.busy] at hbusy
      exact Option.not_isSome_iff_eq_none.1 (Bool.eq_false_iff.1 hbusy)
    have hsame : census.act .rasterizer = census := by
      have hbench : census.bench.act .rasterizer = census.bench := by
        unfold Bench.act Bench.move
        rw [Rasterizer.tick_idle (Rasterizer.phase_of_idle hbusy)]
      unfold act
      rw [hbench]
      dsimp only
      rw [if_neg (Bool.eq_false_iff.1 hbusy), hnone]
      obtain ⟨bench, inHand, drawn⟩ := census
      obtain rfl : inHand = none := hnone
      exact congrArg _ (List.append_nil _)
    rw [hsame]
    exact h
  | true =>
    obtain ⟨record, hrecord⟩ := Option.isSome_iff_exists.1 (h.busy.symm.trans hbusy)
    have hunder := (h.underway record hrecord).rasterizer h.valid
    unfold act Bench.act
    dsimp only
    rcases Rasterizer.tick_totals census.bench.arbiter hbusy with
      ⟨hstill, htotals⟩ | ⟨hrest, htotals⟩
    · have hstill' : (census.bench.move .rasterizer).rasterizer.isBusy = true := hstill
      rw [if_pos hstill']
      refine ⟨hvalid, hsound, ?_, fun r hr => ?_, h.counted, htotals.trans h.totals,
        fun hnone => ?_⟩
      · rw [hstill', hrecord]
        rfl
      · obtain rfl := Option.some.inj (hrecord.symm.trans hr)
        exact hunder
      · cases hrecord.symm.trans hnone
    · have hrest' : (census.bench.move .rasterizer).rasterizer.isBusy = false := hrest
      rw [hrecord, if_neg (Bool.eq_false_iff.1 hrest')]
      refine ⟨hvalid, hsound, hrest', fun r hr => ?_, fun d hd => ?_, ?_, fun _ => ?_⟩
      · cases hr
      · rcases List.mem_append.1 hd with hd | hd
        · exact h.counted d hd
        · obtain rfl := List.mem_singleton.1 hd
          exact hunder.counted hrest'
      · rw [List.map_append, List.sum_append, ← h.totals]
        exact htotals.trans (congrArg _ (add_zero _).symm)
      · rw [List.map_append]
        exact List.getLastD_concat.symm

/-- A cycle of the arbiter. -/
theorem Invariant.arbiter (h : census.Invariant) : (census.act .arbiter).Invariant := by
  have hstep := Arbiter.tick_portStep h.sound.wellFormed census.bench.memory
  refine ⟨h.valid, ⟨h.sound.wellFormed.tick _, h.sound.served.step hstep⟩, ?_, fun r hr => ?_,
    h.counted, h.totals, fun hnone => h.latest (Option.map_eq_none_iff.1 hnone)⟩
  · exact h.busy.trans Option.isSome_map.symm
  · obtain ⟨record, hrecord, rfl⟩ := Option.map_eq_some_iff.1 hr
    exact (h.underway record hrecord).arbiter h.sound

/-- Other clients do something at their ports. -/
theorem Invariant.foreign (h : census.Invariant) {arbiter : Arbiter} (hw : arbiter.WellFormed)
    {bystander : Bystander} {x : Port}
    (hp : arbiter.port = Function.update census.bench.arbiter.port bystander.client x) :
    ({ census with bench := { census.bench with arbiter } } : Census).Invariant := by
  have hdepth : arbiter.port .depth = census.bench.arbiter.port .depth := by
    rw [hp]
    cases bystander <;> rfl
  exact ⟨h.valid, h.sound.foreign hw bystander.isDrawing_client hp, h.busy,
    fun record hr => (h.underway record hr).foreign hdepth, h.counted, h.totals, h.latest⟩

/-- **Whatever happens, the invariant stays.** -/
theorem Invariant.act (h : census.Invariant) (a : Bench.Act) : (census.act a).Invariant := by
  cases a with
  | draw event => exact h.draw event
  | rasterizer => exact h.rasterizer
  | arbiter => exact h.arbiter
  | submit bystander request =>
    obtain ⟨arbiter, _, x, hbench, hw, hp⟩ :=
      census.bench.act_foreign h.sound.wellFormed (.inl ⟨bystander, request, rfl⟩)
    unfold Census.act
    rw [hbench]
    exact h.foreign hw hp
  | collect bystander =>
    obtain ⟨arbiter, _, x, hbench, hw, hp⟩ :=
      census.bench.act_foreign h.sound.wellFormed (.inr ⟨bystander, rfl⟩)
    unfold Census.act
    rw [hbench]
    exact h.foreign hw hp

/-- The invariant holds throughout a run. -/
theorem Invariant.run (h : census.Invariant) (acts : List Bench.Act) :
    (census.run acts).Invariant := by
  induction acts generalizing census with
  | nil => exact h
  | cons a acts ih => exact ih (h.act a)

/-- The bench of a census takes its own course. -/
theorem bench_run (census : Census) (acts : List Bench.Act) :
    (census.run acts).bench = acts.foldl Bench.act census.bench := by
  induction acts generalizing census with
  | nil => rfl
  | cons a acts ih =>
    have hbench : (census.act a).bench = census.bench.act a := by
      unfold act
      cases a <;> dsimp only <;> split <;> rfl
    refine (ih (census.act a)).trans ?_
    rw [hbench]
    rfl

/-- There is a record of every primitive that is taken. -/
theorem Invariant.records_act (h : census.Invariant) (a : Bench.Act) :
    (census.act a).records.map Record.event
      = census.records.map Record.event ++ (census.bench.accepted? a).toList := by
  have hnil (events : List DrawEvent) : events = events ++ (none : Option DrawEvent).toList :=
    (List.append_nil _).symm
  cases a with
  | draw event =>
    unfold Census.act Bench.accepted?
    dsimp only
    cases hidle : census.bench.rasterizer.isBusy with
    | true => exact hnil _
    | false =>
      have hnone : census.inHand = none := by
        rw [h.busy] at hidle
        exact Option.not_isSome_iff_eq_none.1 (Bool.eq_false_iff.1 hidle)
      rw [if_neg Bool.false_ne_true, if_neg Bool.false_ne_true, records, records, hnone,
        List.map_append, List.map_append, List.append_assoc]
      rfl
  | rasterizer =>
    unfold Census.act
    dsimp only
    split
    · exact hnil _
    · refine (congrArg (List.map Record.event) ?_).trans (hnil _)
      rw [records, records, List.map_append, List.map_map, List.append_assoc]
      exact congrArg _ ((List.append_nil _).trans (List.map_id _))
  | arbiter =>
    refine Eq.trans ?_ (hnil _)
    unfold Census.act records
    rw [List.map_append, List.map_append]
    cases census.inHand <;> rfl
  | submit bystander request => exact hnil _
  | collect bystander => exact hnil _

/-- The records of a run are those of the primitives that are taken. -/
theorem Invariant.records_run (h : census.Invariant) (acts : List Bench.Act) :
    (census.run acts).records.map Record.event
      = census.records.map Record.event ++ census.bench.accepted acts := by
  induction acts generalizing census with
  | nil => exact (List.append_nil _).symm
  | cons a acts ih =>
    have hbench : (census.act a).bench = census.bench.act a := census.bench_run [a]
    refine (ih (h.act a)).trans ?_
    rw [h.records_act, hbench, List.append_assoc]
    rfl

/-- **The counters show what has become of the pixels.** Whatever memory and policy the bench starts
with, and whatever happens: there is a record of every primitive that was taken, the last one in
hand as long as the rasterizer is busy. Each primitive that was drawn was counted as its record
says. The totals are the sum of the counters of all of them, and at rest the rasterizer shows the
counters of the last one. -/
theorem run_counts (policy : ArbiterPolicy) (memory : Sdram) (acts : List Bench.Act) :
    let census := (start policy memory).run acts
    let r := census.bench.rasterizer
    census.bench = acts.foldl Bench.act (.start policy memory)
    ∧ census.records.map Record.event = (Bench.start policy memory).accepted acts
    ∧ r.isBusy = census.inHand.isSome
    ∧ (∀ d ∈ census.drawn, d.1.Counted d.2)
    ∧ r.totals = (census.drawn.map Prod.snd).sum
    ∧ (r.isBusy = false → r.current = (census.drawn.map Prod.snd).getLastD 0) := by
  intro census r
  have hstart := start_invariant policy memory
  have h : census.Invariant := hstart.run acts
  refine ⟨bench_run _ acts, hstart.records_run acts, h.busy, h.counted, h.totals, fun hidle => ?_⟩
  rw [h.busy] at hidle
  exact h.latest (Option.not_isSome_iff_eq_none.1 (Bool.eq_false_iff.1 hidle))

/-- A triangle is drawn through a stipple mask while the memory engine stores a depth that hides one
of its pixels, and then the same triangle is culled. -/
theorem run_counts_store :
    let corner (x y : Int16) : Vertex := { word := { x, y, z := 5 } }
    let vertices : Triple Vertex := ⟨corner (-21) 3, corner 70 (-9), corner 33 50⟩
    let mode : RenderMode :=
      { depthWrite := true, depthTest := true, depthCompare := .greater, stipple := true }
    let state : DrawState :=
      { mode
        framebuffer := { widthLog2 := 2, heightLog2 := 2 }
        scissor := ⟨1, 0, 2, 9⟩
        stipple := ⟨0xFF00FFFFFFFF02FF⟩ }
    let shown : DrawEvent := ⟨.triangle vertices .order012, state⟩
    let culled : DrawEvent := { shown with state.mode.cull := .counterClockwise }
    let rounds (n : Nat) : List Bench.Act := (List.replicate n [.arbiter, .rasterizer]).flatten
    let acts : List Bench.Act :=
      .draw shown :: .submit .engine (.write 9 [7]) :: rounds 80 ++ [.draw culled, .rasterizer]
    let census := (start .fixedPriority (.zeroed 32 1)).run acts
    census.drawn.map (fun d => (d.1.readings, d.2.tested, d.2.covered, d.2.discardedStipple,
        d.2.discardedDepth, d.2.written))
      = [([((1, 0), 0), ((2, 0), 0), ((1, 1), 0), ((1, 2), 7), ((2, 2), 0), ((2, 3), 0)],
            8, 7, 1, 1, 5),
          ([], 0, 0, 0, 0, 0)]
      ∧ ∀ d ∈ census.drawn, d.1.Counted d.2 := by
  intro corner vertices mode state shown culled rounds acts census
  obtain ⟨-, -, -, hcounted, -⟩ := run_counts .fixedPriority (.zeroed 32 1) acts
  exact ⟨by decide +kernel, hcounted⟩

end Census

end RasterGpu
