import RasterGpu.Proofs.Registers.Readback

/-!
# Vertex assembly

A vertex is submitted by one transaction and drawn by later ones, and its attributes are written
before it. The register file keeps the last three vertices in a ring and the attributes in force; a
history has all of them.

* What the ring remembers does not depend on how many vertices there were
  (`VertexRing.recent_push_zero`, `VertexRing.recent_push_succ`).
* `RegisterFile.submitted` are the vertices of a history, each with the words last written to the
  color and texture registers before it.
* `RegisterFile.Assembled` says that ring and counters are those of the history; every call keeps it
  (`Assembled.call`).

`RegisterFile.kick_draws_submitted` draws the conclusion: a kick draws what a look into the history
finds.
-/

namespace RasterGpu

/-! ## The ring -/

namespace VertexRing

/-- A new vertex changes its slot only. -/
theorem slot_push (ring : VertexRing) (v : Vertex) (index : Nat) :
    (ring.push v).slot index = if ring.count % 3 = index % 3 then v else ring.slot index :=
  Vector.getElem_set (Nat.mod_lt _ (by decide)) (Nat.mod_lt _ (by decide))

/-- The newest vertex is the one submitted last. -/
@[simp] theorem recent_push_zero (ring : VertexRing) (v : Vertex) : (ring.push v).recent 0 = v := by
  have hcount : (ring.push v).count = ring.count + 1 := rfl
  rw [recent, slot_push, hcount, if_pos (by omega)]

/-- The others are one submission older than before. -/
theorem recent_push_succ (ring : VertexRing) (v : Vertex) {age : Nat} (h : age < 2) :
    (ring.push v).recent (age + 1) = ring.recent age := by
  have hcount : (ring.push v).count = ring.count + 1 := rfl
  rw [recent, slot_push, hcount, if_neg (by omega), recent]
  congr 1
  omega

/-- Before any vertex the slots hold the zero vertex. -/
theorem recent_empty (age : Nat) : recent {} age = {} := by
  have hslot : ∀ i : Fin 3, ({} : VertexRing).slots.get i = {} := by decide
  exact hslot _

end VertexRing

/-! ## Submissions and kicks -/

/-- A write to the register submits a vertex. -/
def Register.submits : Register → Bool
  | vertex | kick012 | kick021 | kickRectangle => true
  | _ => false

/-- Whether the transaction kicks a primitive. -/
def Transaction.isKick : Transaction → Bool
  | write address _ =>
    address == Register.kick012.address || address == Register.kick021.address
      || address == Register.kickRectangle.address
  | read _ => false

/-- The primitive that a write to the register kicks, of vertices by age. A triangle has the last
three, from the oldest to the newest or with the last two exchanged, a rectangle the last two. -/
def Register.primitive? (vertex : Nat → Vertex) : Register → Option Primitive
  | kick012 => some (.triangle ⟨vertex 2, vertex 1, vertex 0⟩ .order012)
  | kick021 => some (.triangle ⟨vertex 2, vertex 0, vertex 1⟩ .order021)
  | kickRectangle => some (.rectangle (vertex 1) (vertex 0))
  | _ => none

/-- A primitive has no vertices but the last three. -/
theorem Register.primitive?_congr {vertex vertex' : Nat → Vertex}
    (h : ∀ age < 3, vertex age = vertex' age) (r : Register) :
    r.primitive? vertex = r.primitive? vertex' := by
  have h0 := h 0 (by decide)
  have h1 := h 1 (by decide)
  have h2 := h 2 (by decide)
  cases r <;> simp only [primitive?, h0, h1, h2]

namespace RegisterFile

/-- A vertex is submitted. -/
def Call.submits : Call → Bool
  | process (.write address _) => (Register.ofAddress? address).any Register.submits
  | _ => false

/-- A primitive is kicked. -/
def Call.kicks : Call → Bool
  | process t => t.isKick
  | _ => false

/-- A write to a register that submits latches a vertex with the attributes in force, and counts
it. -/
theorem process_submits (regs : RegisterFile) {r : Register} (hr : r.submits = true)
    (data : UInt64) :
    (regs.process (.write r.address data)).1.ring = regs.ring.push ⟨.ofWord data, regs.attributes⟩
      ∧ (regs.process (.write r.address data)).1.stats.vertices = regs.stats.vertices + 1 := by
  rw [process_write]
  cases r <;> first | exact ⟨rfl, rfl⟩ | cases hr

/-- A transaction that submits no vertex leaves the ring as it is, and counts none. -/
theorem process_not_submits (regs : RegisterFile) {t : Transaction}
    (h : (Call.process t).submits = false) :
    (regs.process t).1.ring = regs.ring
      ∧ (regs.process t).1.stats.vertices = regs.stats.vertices := by
  induction t using Transaction.byRegister with
  | read address =>
    rw [(regs.process_read address).1]
    split <;> exact ⟨rfl, rfl⟩
  | write r data =>
    have hr : r.submits = false := by
      simpa only [Call.submits, Register.ofAddress?_address, Option.any_some] using h
    rw [process_write]
    cases r <;> first | exact ⟨rfl, rfl⟩ | cases hr
  | unassigned address data hnone =>
    rw [process_unassigned regs hnone]
    exact ⟨rfl, rfl⟩

/-- A call that submits no vertex leaves the ring as it is, unless it is a reset. -/
theorem call_not_submits (regs : RegisterFile) {c : Call} (hc : c ≠ .reset)
    (h : c.submits = false) :
    (regs.call c).ring = regs.ring ∧ (regs.call c).stats.vertices = regs.stats.vertices := by
  cases c with
  | process t => exact regs.process_not_submits h
  | clock vsyncEdge =>
    simp only [call, clock]
    split <;> exact ⟨rfl, rfl⟩
  | completeReadAhead value =>
    simp only [call, completeReadAhead]
    split <;> exact ⟨rfl, rfl⟩
  | reset => exact absurd rfl hc

/-- A transaction draws exactly if it is a kick. -/
theorem isSome_draw (regs : RegisterFile) (t : Transaction) :
    (regs.process t).2.draw.isSome = t.isKick := by
  induction t using Transaction.byRegister with
  | read address => rw [(regs.process_read address).2.2]; rfl
  | write r data =>
    rw [process_write]
    cases r <;> rfl
  | unassigned address data hnone =>
    have hne (r : Register) : (address == r.address) = false :=
      beq_false_of_ne (Register.ne_of_unassigned hnone r)
    rw [process_unassigned regs hnone]
    simp only [Transaction.isKick, hne]
    rfl

/-- Primitives come from transactions that kick. -/
theorem isKick_of_draw {regs : RegisterFile} {t : Transaction} {event : DrawEvent}
    (h : (regs.process t).2.draw = some event) : t.isKick = true := by
  rw [← regs.isSome_draw t, h]
  rfl

/-- Kicks are counted. -/
theorem draws_process (regs : RegisterFile) (t : Transaction) :
    (regs.process t).1.stats.draws = regs.stats.draws + (regs.process t).2.draw.toList.length := by
  induction t using Transaction.byRegister with
  | read address =>
    rw [(regs.process_read address).1, (regs.process_read address).2.2]
    split <;> rfl
  | write r data =>
    rw [process_write]
    cases r <;> rfl
  | unassigned address data hnone =>
    rw [process_unassigned regs hnone]
    rfl

/-- A write to a register kicks its primitive, of the vertices in the ring after the write. -/
theorem draw_process (regs : RegisterFile) (r : Register) (data : UInt64) :
    let written := regs.process (.write r.address data)
    written.2.draw = (r.primitive? written.1.ring.recent).map (⟨·, regs.drawState⟩) := by
  intro written
  have hwritten : written = writeRegister _ r data := regs.process_write r data
  rw [hwritten]
  cases r <;> rfl

/-! ## The vertices of a history -/

/-- The vertex that a call submits after others, with the attributes last written by them. -/
def Call.vertex? (past : List Call) : Call → Option Vertex
  | process (.write address data) =>
    if (Register.ofAddress? address).any Register.submits then
      some ⟨.ofWord data, .ofWords (lastWritten past .color) (lastWritten past .texCoord)⟩
    else
      none
  | _ => none

/-- The vertices that calls submit after others, oldest first. -/
def submittedAfter (past : List Call) : List Call → List Vertex
  | [] => []
  | c :: rest => (c.vertex? past).toList ++ submittedAfter (past ++ [c]) rest

/-- The vertices submitted since the reset, oldest first. -/
def submitted (calls : List Call) : List Vertex := submittedAfter [] (sinceReset calls)

/-- The vertex submitted `age` submissions before the last one, or the zero vertex if there are not
so many since the reset. -/
def vertexAgo (calls : List Call) (age : Nat) : Vertex := (submitted calls).reverse[age]?.getD {}

variable {calls : List Call} {c : Call} {regs : RegisterFile}

/-- What the last call submits comes last. -/
theorem submittedAfter_concat (past : List Call) :
    submittedAfter past (calls ++ [c])
      = submittedAfter past calls ++ (c.vertex? (past ++ calls)).toList := by
  induction calls generalizing past with
  | nil => simp [submittedAfter]
  | cons d calls ih =>
    simp only [List.cons_append, submittedAfter, ih, List.append_assoc, List.nil_append]

/-- The calls before the reset do not count for what was last written. -/
theorem lastWritten_sinceReset : lastWritten (sinceReset calls) = lastWritten calls := by
  funext r
  unfold lastWritten sinceReset
  rw [List.rtakeWhile_idempotent]

/-- A call that does not reset submits its vertex, if it has one. -/
theorem submitted_concat (h : c ≠ .reset) :
    submitted (calls ++ [c]) = submitted calls ++ (c.vertex? calls).toList := by
  have hvertex : c.vertex? (sinceReset calls) = c.vertex? calls := by
    unfold Call.vertex?
    rw [lastWritten_sinceReset]
  rw [submitted, sinceReset_concat calls h, submittedAfter_concat, List.nil_append, hvertex]
  rfl

/-- A call that submits a vertex makes all others one submission older. -/
theorem vertexAgo_concat {v : Vertex} (hv : c.vertex? calls = some v) (age : Nat) :
    vertexAgo (calls ++ [c]) age = if age = 0 then v else vertexAgo calls (age - 1) := by
  have hc : c ≠ .reset := by
    rintro rfl
    cases hv
  rw [vertexAgo, submitted_concat hc, hv, Option.toList_some, List.reverse_append]
  cases age with
  | zero => rfl
  | succ age => rfl

/-- A call that submits a vertex writes to a register that submits. -/
theorem Call.write_of_submits (h : c.submits = true) :
    ∃ r data, c = .process (.write (Register.address r) data) ∧ r.submits = true := by
  cases c with
  | process t =>
    induction t using Transaction.byRegister with
    | read address => cases h
    | write r data =>
      refine ⟨r, data, rfl, ?_⟩
      rwa [Call.submits, Register.ofAddress?_address, Option.any_some] at h
    | unassigned address data hnone =>
      rw [Call.submits, hnone] at h
      cases h
  | clock vsyncEdge => cases h
  | completeReadAhead value => cases h
  | reset => cases h

/-- A call has a vertex exactly if it submits one. -/
theorem Call.isSome_vertex? (past : List Call) (c : Call) : (c.vertex? past).isSome = c.submits := by
  unfold Call.vertex? Call.submits
  split
  · split
    · exact (‹_› : _ = true).symm
    · exact (eq_false_of_ne_true ‹_›).symm
  · rfl

/-- There are as many vertices as calls that submit one. -/
theorem length_submittedAfter (past calls : List Call) :
    (submittedAfter past calls).length = calls.countP Call.submits := by
  induction calls generalizing past with
  | nil => rfl
  | cons c calls ih =>
    have hone : (c.vertex? past).toList.length = if c.submits then 1 else 0 := by
      rw [← Call.isSome_vertex? past c]
      cases c.vertex? past <;> rfl
    rw [submittedAfter, List.length_append, ih, hone, List.countP_cons, Nat.add_comm]

/-- There are as many vertices as were submitted since the reset. -/
theorem length_submitted (calls : List Call) :
    (submitted calls).length = (sinceReset calls).countP Call.submits :=
  length_submittedAfter [] _

/-! ## Ring and counters -/

/-- Ring and counters are those of the calls. -/
structure Assembled (regs : RegisterFile) (calls : List Call) : Prop where
  /-- The registers hold the words last written. -/
  holds : regs.Holds (lastWritten calls)
  /-- The ring has counted the vertices submitted, -/
  count : regs.ring.count = (submitted calls).length
  /-- and remembers the last three. -/
  recent : ∀ age < 3, regs.ring.recent age = vertexAgo calls age
  /-- The vertices submitted are counted, -/
  vertices : regs.stats.vertices = (sinceReset calls).countP Call.submits
  /-- and the primitives kicked. -/
  draws : regs.stats.draws = (sinceReset calls).countP Call.kicks

/-- After a reset there are no vertices. -/
theorem assembled_reset {policy : SwapPolicy} (hlast : lastWritten calls = Register.resetWord)
    (hnone : sinceReset calls = []) : Assembled { policy } calls where
  holds := hlast ▸ holds_reset policy
  count := by rw [length_submitted, hnone]; rfl
  recent age hage := by
    have hempty : submitted calls = [] := by rw [submitted, hnone]; rfl
    rw [vertexAgo, hempty]
    exact VertexRing.recent_empty age
  vertices := by rw [hnone]; rfl
  draws := by rw [hnone]; rfl

/-- A call that does not reset pushes its vertex into the ring, if it has one, and counts it. -/
theorem Holds.vertex_call (h : regs.Holds (lastWritten calls)) (hc : c ≠ .reset) :
    (regs.call c).ring = (c.vertex? calls).elim regs.ring regs.ring.push
      ∧ (regs.call c).stats.vertices = regs.stats.vertices + c.submits.toNat := by
  by_cases hsubmits : c.submits = true
  · obtain ⟨r, data, rfl, hr⟩ := Call.write_of_submits hsubmits
    obtain ⟨hring, hcount⟩ := regs.process_submits hr data
    have hvertex : (Call.process (.write r.address data)).vertex? calls
        = some ⟨.ofWord data, .ofWords (lastWritten calls .color) (lastWritten calls .texCoord)⟩ :=
      if_pos hsubmits
    rw [h.attributes] at hring
    rw [hsubmits, hvertex]
    exact ⟨hring, hcount⟩
  · rw [Bool.not_eq_true] at hsubmits
    have hnone : c.vertex? calls = none := by
      rw [← Option.not_isSome_iff_eq_none, Call.isSome_vertex?, hsubmits]
      exact Bool.false_ne_true
    rw [hnone, hsubmits]
    exact regs.call_not_submits hc hsubmits

/-- A call that does not reset counts its primitive, if it kicks one. -/
theorem draws_call (regs : RegisterFile) (hc : c ≠ .reset) :
    (regs.call c).stats.draws = regs.stats.draws + c.kicks.toNat := by
  cases c with
  | process t =>
    rw [Call.kicks, ← regs.isSome_draw t, RegisterFile.call, regs.draws_process t]
    cases (regs.process t).2.draw <;> rfl
  | clock vsyncEdge =>
    simp only [RegisterFile.call, RegisterFile.clock]
    split <;> rfl
  | completeReadAhead value =>
    simp only [RegisterFile.call, RegisterFile.completeReadAhead]
    split <;> rfl
  | reset => exact absurd rfl hc

/-- Ring and counters are those of the calls, and with one call more they still are. -/
theorem Assembled.call (h : regs.Assembled calls) (c : Call) :
    (regs.call c).Assembled (calls ++ [c]) := by
  by_cases hc : c = .reset
  · subst hc
    exact assembled_reset (lastWritten_concat_reset calls) (sinceReset_concat_reset calls)
  obtain ⟨hring, hvertices⟩ := h.holds.vertex_call hc
  have hcountP (p : Call → Bool) :
      (sinceReset (calls ++ [c])).countP p = (sinceReset calls).countP p + (p c).toNat := by
    rw [sinceReset_concat calls hc, List.countP_append, List.countP_singleton]
    cases p c <;> rfl
  have hcount := h.count
  have hrecent := h.recent
  refine ⟨h.holds.call c, ?_, fun age hage => ?_, ?_, ?_⟩
  · rw [hring, submitted_concat hc, List.length_append, ← hcount]
    cases c.vertex? calls <;> rfl
  · rw [hring]
    cases hv : c.vertex? calls with
    | none =>
      rw [vertexAgo, submitted_concat hc, hv, Option.toList_none, List.append_nil]
      exact hrecent age hage
    | some v =>
      rw [vertexAgo_concat hv]
      cases age with
      | zero => exact regs.ring.recent_push_zero v
      | succ age =>
        rw [if_neg (Nat.succ_ne_zero age)]
        exact (regs.ring.recent_push_succ v (Nat.lt_of_succ_lt_succ hage)).trans
          (hrecent age (Nat.lt_of_succ_lt hage))
  · rw [hvertices, h.vertices, hcountP]
  · rw [regs.draws_call hc, h.draws, hcountP]

/-- Ring and counters are those of the calls, whatever was called. -/
theorem assembled_run (policy : SwapPolicy) (calls : List Call) :
    (run { policy } calls).Assembled calls :=
  run_induction (fun calls regs => regs.Assembled calls) (assembled_reset rfl rfl)
    (fun _ _ c h => h.call c) calls

/-- **A kick draws the last vertices submitted**, whatever happened to a register file. A primitive
is drawn exactly by a write to one of the three registers that kick. It has the last vertices
submitted since the reset, the one of its own write included and the zero vertex for those that are
missing, each with the attributes last written before it, and the drawing state last written. A
vertex goes to the slot that the number of vertices before it names modulo three, and the others
stay. Vertices and primitives are counted. -/
theorem kick_draws_submitted (policy : SwapPolicy) (calls : List Call) (t : Transaction) :
    let regs := run { policy } calls
    let regs' := (regs.process t).1
    let calls' := calls ++ [.process t]
    let earlier := (submitted calls).length
    (regs.process t).2.draw.isSome = t.isKick
      ∧ (∀ r data, t = .write (Register.address r) data →
        (regs.process t).2.draw
          = (r.primitive? (vertexAgo calls')).map (⟨·, .ofWords (lastWritten calls)⟩))
      ∧ (∀ v, (Call.process t).vertex? calls = some v →
        regs.ring.nextSlot = earlier % 3
          ∧ ∀ index, regs'.ring.slot index
            = if index % 3 = earlier % 3 then v else regs.ring.slot index)
      ∧ ((Call.process t).vertex? calls = none → regs'.ring = regs.ring)
      ∧ regs'.stats.vertices = (submitted calls').length
      ∧ (submitted calls').length = (sinceReset calls').countP Call.submits
      ∧ regs'.stats.draws = (sinceReset calls').countP Call.kicks := by
  intro regs regs' calls' earlier
  have hbefore : regs.Assembled calls := assembled_run policy calls
  have hafter : regs'.Assembled calls' := hbefore.call (.process t)
  obtain ⟨hring, -⟩ := hbefore.holds.vertex_call (c := .process t) (by simp)
  refine ⟨regs.isSome_draw t, fun r data ht => ?_, fun v hv => ?_, fun hnone => ?_, ?_,
    length_submitted calls', hafter.draws⟩
  · subst ht
    have hvertices := Register.primitive?_congr hafter.recent r
    rw [regs.draw_process r data, hbefore.holds.drawState, ← hvertices]
  · have hpush : regs'.ring = regs.ring.push v := by rw [hv] at hring; exact hring
    refine ⟨congrArg (· % 3) hbefore.count, fun index => ?_⟩
    rw [hpush, VertexRing.slot_push, hbefore.count]
    exact ite_congr (propext eq_comm) (fun _ => rfl) fun _ => rfl
  · rw [hnone] at hring
    exact hring
  · rw [hafter.vertices, length_submitted]

/-- The first corner of a rectangle has the color of its own submission, not that of the kick. -/
example :
    let calls : List Call := [.process (.write Register.color.address 0xFF),
      .process (.write Register.vertex.address 5), .process (.write Register.color.address 0xFF00)]
    ((run {} calls).process (.write Register.kickRectangle.address 9)).2.draw
      = some ⟨.rectangle ⟨.ofWord 5, .ofWords 0xFF 0⟩ ⟨.ofWord 9, .ofWords 0xFF00 0⟩, {}⟩ := by
  decide

end RegisterFile

end RasterGpu
