import Mathlib.Order.Bounds.Defs
import RasterGpu.Proofs.Drawing.Bench
import RasterGpu.Proofs.Drawing.DepthBuffer

/-!
# The order of depth-buffered primitives

Depth-buffered primitives are drawn one after another, on a bench where anything may happen in
between. `Bench.run_nearest` says what comes out of it:

* The depth of a pixel is the least of the one that was there and those of its fragments.
* No call makes a depth greater.
* Drawn in another order, and with other things going on, the same primitives leave the same depths;
  and where all of them write colors and no two fragments have one depth, the same color.

What will have been done is known on the bench at every moment (`Bench.outcome`), so the texels of
the outcome are followed from call to call (`Invariant.texel_run`). Accesses are made in the order
of the outcome, and `Bench.Descends` says that none of its accesses makes a depth greater.
-/

namespace RasterGpu

namespace DrawEvent

/-- The depths of the fragments at a pixel, of one primitive after the other. -/
def depths (events : List DrawEvent) (x y : Nat) : List UInt16 :=
  events.filterMap fun event => (event.fragment? x y).map Fragment.depth

/-- What a pixel is offered, by one primitive after the other. -/
def shades (events : List DrawEvent) (x y : Nat) : List Shade :=
  events.filterMap fun event => event.shade? x y

variable {event : DrawEvent} {events : List DrawEvent} {x y : Nat}

/-- The depths that are offered are those of the fragments. -/
theorem map_depth_shades (events : List DrawEvent) (x y : Nat) :
    (shades events x y).map Shade.depth = depths events x y := by
  simp only [shades, depths, List.map_filterMap, map_depth_shade?]

/-- The shades of a first primitive and of others. -/
theorem shadeAll_cons (texel : Texel) (event : DrawEvent) (events : List DrawEvent) (x y : Nat) :
    texel.shadeAll (shades (event :: events) x y)
      = (texel.offer (event.shade? x y)).shadeAll (shades events x y) := by
  unfold shades
  cases hs : event.shade? x y with
  | none =>
    simp only [List.filterMap_cons, hs]
    rfl
  | some s =>
    simp only [List.filterMap_cons, hs]
    rfl

/-- A primitive that writes colors offers colors. -/
theorem color_of_shade? (hc : event.state.mode.colorWrite = true) {s : Shade}
    (hs : event.shade? x y = some s) : s.color.isSome = true := by
  unfold shade? at hs
  cases hsetup : event.setup with
  | job job =>
    rw [hsetup] at hs
    dsimp only at hs
    split at hs
    · unfold Job.shade? at hs
      obtain ⟨f, -, rfl⟩ := Option.map_eq_some_iff.1 hs
      rw [← (of_setup hsetup).1] at hc
      simp [Job.shadeOf, hc]
    · cases hs
  | culled =>
    rw [hsetup] at hs
    cases hs
  | nothing =>
    rw [hsetup] at hs
    cases hs

end DrawEvent

namespace Bench

/-- The primitive that a call hands over. -/
def Call.event? : Call → Option DrawEvent
  | .move _ => none
  | .draw event => some event

/-- The primitives that are handed over. -/
def events (calls : List Call) : List DrawEvent := calls.filterMap Call.event?

/-- Every primitive is handed over to a rasterizer at rest, and the last one is finished. -/
def InTurn (b : Bench) : List Call → Prop
  | [] => b.rasterizer.isBusy = false
  | .move m :: calls => (b.move m).InTurn calls
  | .draw event :: calls => b.rasterizer.isBusy = false ∧ (b.draw event).InTurn calls

instance decidableInTurn : (b : Bench) → (calls : List Call) → Decidable (b.InTurn calls)
  | b, [] => inferInstanceAs (Decidable (b.rasterizer.isBusy = false))
  | b, .move m :: calls => decidableInTurn (b.move m) calls
  | b, .draw event :: calls =>
    have := decidableInTurn (b.draw event) calls
    inferInstanceAs (Decidable (b.rasterizer.isBusy = false ∧ (b.draw event).InTurn calls))

variable {b : Bench} {c : Call} {calls : List Call} {fb : Framebuffer} {x y : Nat}

/-- A primitive of later calls. -/
theorem mem_events_cons {event : DrawEvent} (he : event ∈ events calls) :
    event ∈ events (c :: calls) := by
  obtain ⟨d, hd, hev⟩ := List.mem_filterMap.1 he
  exact List.mem_filterMap.2 ⟨d, List.mem_cons_of_mem c hd, hev⟩

/-- Primitives stay in turn. -/
theorem InTurn.call (h : b.InTurn (c :: calls)) : (b.call c).InTurn calls := by
  cases c with
  | move m => exact h
  | draw event => exact h.2

/-- The invariant holds after a call. -/
theorem Invariant.call (h : b.Invariant) (c : Call) : (b.call c).Invariant := by
  cases c with
  | move m => exact (h.move m).1
  | draw event => exact h.draw event

/-! ## Texels -/

/-- The texels of the outcome take the shades of the primitives to come. -/
theorem Invariant.texel_run (h : b.Invariant) (hturn : b.InTurn calls)
    (hb : ∀ event ∈ events calls, event.state.DepthBuffered fb)
    (hs : fb.Separate b.outcome.memory) (hp : fb.Has x y) :
    fb.texel (b.run calls).memory x y
      = (fb.texel b.outcome.memory x y).shadeAll (DrawEvent.shades (events calls) x y) := by
  induction calls generalizing b with
  | nil =>
    rw [outcome_of_idle hturn]
    rfl
  | cons c calls ih =>
    cases c with
    | move m =>
      obtain ⟨hm, hout⟩ := h.move m
      have hrest := ih hm hturn hb (by rw [hout]; exact hs)
      rw [hout] at hrest
      exact hrest
    | draw event =>
      obtain ⟨hidle, hturn⟩ := hturn
      rw [outcome_of_idle hidle] at hs ⊢
      have hpaints := DrawEvent.render_paints (t := ⟨[], b.memory⟩)
        (hb event List.mem_cons_self) hs
      rw [← outcome_draw hidle] at hpaints
      have hrest := ih (h.draw event) hturn (fun e he => hb e (List.mem_cons_of_mem event he))
        hpaints.separate
      rw [hpaints.texel x y hp, ← DrawEvent.shadeAll_cons] at hrest
      exact hrest

/-! ## Accesses -/

/-- A move makes accesses, and the memory changes by them only. -/
theorem Invariant.move_made (h : b.Invariant) (m : Move) :
    ∃ made, (b.move m).accesses = b.accesses ++ made ∧
      (b.move m).memory = b.memory.after made := by
  have hnone : ∃ made, b.accesses = b.accesses ++ made ∧ b.memory = b.memory.after made :=
    ⟨[], (List.append_nil _).symm, rfl⟩
  cases m with
  | rasterizer => exact hnone
  | arbiter =>
    refine ⟨_, rfl, ?_⟩
    have hs := Arbiter.tick_portStep h.sound.wellFormed b.memory
    change (b.arbiter.tick b.memory).2 = _
    generalize (b.arbiter.tick b.memory).1.port = p, (b.arbiter.tick b.memory).2 = memory,
      b.arbiter.performed? = performed at hs ⊢
    cases hs with
    | wait => rfl
    | grant hp => rfl
    | @perform c request hp =>
      cases hc : c.isDrawing with
      | true =>
        rw [Work.made, if_pos hc]
        rfl
      | false =>
        have hread : request.isRead = true :=
          h.reading c hc request (by rw [hp]; exact List.mem_singleton_self _)
        rw [Work.made, hc, if_neg Bool.false_ne_true, request.perform_of_isRead hread]
        rfl
  | read bystander address length =>
    unfold Bench.move
    dsimp only
    split
    · exact hnone
    · exact hnone
  | collect bystander =>
    unfold Bench.move
    dsimp only
    split
    · exact hnone
    · exact hnone

/-- The accesses that were made come first in the outcome, if the primitive in hand is finished. -/
theorem Invariant.accesses_prefix (h : b.Invariant) (hturn : b.InTurn calls) :
    b.accesses <+: b.outcome.accesses := by
  induction calls generalizing b with
  | nil => simp [outcome_of_idle hturn]
  | cons c calls ih =>
    cases c with
    | move m =>
      obtain ⟨hm, hout⟩ := h.move m
      obtain ⟨made, hlog, -⟩ := h.move_made m
      have hlater := ih hm hturn
      rw [hout, hlog] at hlater
      exact (List.prefix_append _ _).trans hlater
    | draw event => simp [outcome_of_idle hturn.1]

/-- Since the primitive in hand was taken no access has made a depth greater, and none that is left
will. -/
structure Descends (fb : Framebuffer) (b : Bench) (taken : Sdram) : Prop where
  /-- The memory since the primitive was taken. -/
  memory : b.memory = taken.after b.accesses
  /-- All accesses, those that are left included. -/
  sinks : fb.Sinks taken b.outcome.accesses
  /-- The words of the surfaces have places of their own. -/
  separate : fb.Separate b.outcome.memory

/-- At rest before the first primitive. -/
theorem start_descends {policy : ArbiterPolicy} {memory : Sdram} (hs : fb.Separate memory) :
    Descends fb (start policy memory) memory :=
  ⟨rfl, trivial, hs⟩

/-- **A call makes no depth greater.** -/
theorem Descends.call {taken : Sdram} (hd : Descends fb b taken) (h : b.Invariant)
    (hturn : b.InTurn (c :: calls))
    (hb : ∀ event ∈ events (c :: calls), event.state.DepthBuffered fb) :
    fb.Nearer b.memory (b.call c).memory ∧ ∃ taken', Descends fb (b.call c) taken' := by
  cases c with
  | move m =>
    obtain ⟨hm, hout⟩ := h.move m
    obtain ⟨made, hlog, hmem⟩ := h.move_made m
    obtain ⟨rest, hrest⟩ := hm.accesses_prefix hturn
    rw [hlog, hout] at hrest
    have hsinks := hd.sinks
    rw [← hrest, Framebuffer.sinks_append, Framebuffer.sinks_append, ← hd.memory] at hsinks
    obtain ⟨⟨-, hmade⟩, -⟩ := hsinks
    change fb.Nearer b.memory (b.move m).memory ∧ ∃ taken', Descends fb (b.move m) taken'
    refine ⟨?_, taken, ?_, ?_, ?_⟩
    · rw [hmem]
      exact hmade.nearer
    · rw [hmem, hlog, Sdram.after_append, ← hd.memory]
    · rw [hout]
      exact hd.sinks
    · rw [hout]
      exact hd.separate
  | draw event =>
    obtain ⟨hidle, -⟩ := hturn
    have hs := hd.separate
    rw [outcome_of_idle hidle] at hs
    have hpaints := DrawEvent.render_paints (t := ⟨[], b.memory⟩)
      (hb event List.mem_cons_self) hs
    rw [← outcome_draw hidle] at hpaints
    obtain ⟨made, hlog, -, hsinks⟩ := hpaints.sinks
    have hsame : (b.draw event).memory = b.memory ∧ (b.draw event).accesses = [] := by
      unfold Bench.draw Rasterizer.accept?
      rw [hidle]
      exact ⟨rfl, rfl⟩
    change fb.Nearer b.memory (b.draw event).memory ∧ ∃ taken', Descends fb (b.draw event) taken'
    refine ⟨?_, b.memory, ?_, ?_, hpaints.separate⟩
    · rw [hsame.1]
      exact .refl fb b.memory
    · rw [hsame.1, hsame.2]
      rfl
    · rw [hlog]
      exact hsinks

/-- No call of a run makes a depth greater. -/
theorem Descends.run {taken : Sdram} (hd : Descends fb b taken) (h : b.Invariant)
    {done rest : List Call} (hturn : b.InTurn (done ++ c :: rest))
    (hb : ∀ event ∈ events (done ++ c :: rest), event.state.DepthBuffered fb) :
    fb.Nearer (b.run done).memory (b.run (done ++ [c])).memory := by
  induction done generalizing b taken with
  | nil => exact (hd.call h hturn hb).1
  | cons d done ih =>
    obtain ⟨-, taken', hd'⟩ := hd.call h hturn hb
    exact ih hd' (h.call d) hturn.call fun event he => hb event (mem_events_cons he)

/-! ## The order of primitives -/

/-- The depth of a pixel after a run is the least of the one before and those of its fragments. -/
theorem Invariant.isLeast_depth (h : b.Invariant) (hturn : b.InTurn calls)
    (hb : ∀ event ∈ events calls, event.state.DepthBuffered fb)
    (hs : fb.Separate b.outcome.memory) (hp : fb.Has x y) :
    IsLeast {d | d ∈ (fb.texel b.outcome.memory x y).depth :: DrawEvent.depths (events calls) x y}
      (fb.texel (b.run calls).memory x y).depth := by
  rw [h.texel_run hturn hb hs hp, ← DrawEvent.map_depth_shades]
  exact Texel.shadeAll_depth _ _

/-- **Depth-buffered primitives keep what is nearest, in whatever order they come.** Primitives are
drawn one after another to the same surfaces, whose words have places of their own. Then the depth
of every pixel is the least of the one that was there and the depths of its fragments; no call makes
a depth greater; and if the same primitives are drawn in another order, the depths are the same, and
so are the colors of pixels whose fragments have pairwise distinct depths, if all primitives write
colors. -/
theorem run_nearest (policy : ArbiterPolicy) (memory : Sdram) (fb : Framebuffer)
    (calls : List Call) (hs : fb.Separate memory)
    (hturn : (start policy memory).InTurn calls)
    (hb : ∀ event ∈ events calls, event.state.DepthBuffered fb) :
    let b := start policy memory
    (∀ x y, fb.Has x y →
      IsLeast {d | d ∈ (fb.texel memory x y).depth :: DrawEvent.depths (events calls) x y}
        (fb.texel (b.run calls).memory x y).depth) ∧
    (∀ done call rest, calls = done ++ call :: rest →
      fb.Nearer (b.run done).memory (b.run (done ++ [call])).memory) ∧
    ∀ policy' calls', (start policy' memory).InTurn calls' →
      (events calls').Perm (events calls) →
      let b' := start policy' memory
      ∀ x y, fb.Has x y →
        (fb.texel (b'.run calls').memory x y).depth = (fb.texel (b.run calls).memory x y).depth ∧
        ((∀ event ∈ events calls, event.state.mode.colorWrite = true) →
          (DrawEvent.depths (events calls) x y).Nodup →
          (fb.texel (b'.run calls').memory x y).color
            = (fb.texel (b.run calls).memory x y).color) := by
  intro b
  have hinv := start_invariant policy memory
  refine ⟨fun x y hp => hinv.isLeast_depth hturn hb hs hp, ?_, ?_⟩
  · rintro done call rest rfl
    exact (start_descends hs).run hinv hturn hb
  · intro policy' calls' hturn' hperm b' x y hp
    have hinv' := start_invariant policy' memory
    have hb' : ∀ event ∈ events calls', event.state.DepthBuffered fb :=
      fun event he => hb event (hperm.mem_iff.1 he)
    have hshades : (DrawEvent.shades (events calls') x y).Perm
        (DrawEvent.shades (events calls) x y) := hperm.filterMap _
    have htexel := hinv.texel_run hturn hb hs hp
    have htexel' := hinv'.texel_run hturn' hb' hs hp
    rw [htexel, htexel']
    refine ⟨Texel.shadeAll_depth_perm hshades _, fun hcolor hdepths => ?_⟩
    rw [← DrawEvent.map_depth_shades] at hdepths
    have hcolors : ∀ s ∈ DrawEvent.shades (events calls) x y, s.color.isSome = true := by
      intro s hmem
      obtain ⟨event, he, hshade⟩ := List.mem_filterMap.1 hmem
      exact DrawEvent.color_of_shade? (hcolor event he) hshade
    exact congrArg Texel.color (Texel.shadeAll_perm hshades.symm hcolors hdepths _).symm

/-- Two rectangles that share a pixel, in both orders. -/
theorem run_nearest_two :
    let corner (x y : Int16) (z : UInt16) (color : UInt32) : Vertex :=
      { word := { x, y, z }, attributes := { color0 := .ofPacked color } }
    let mode : RenderMode := { depthTest := true, depthWrite := true, colorWrite := true }
    let fb : Framebuffer := { depthBase := 1, widthLog2 := 1 }
    let state : DrawState := { mode, framebuffer := fb }
    let far : DrawEvent := ⟨.rectangle (corner 0 0 9 0) (corner 32 16 9 0xFF102030), state⟩
    let near : DrawEvent := ⟨.rectangle (corner 0 0 5 0) (corner 16 16 5 0xFF405060), state⟩
    let during : List Call := (List.replicate 40 [.move .arbiter, .move .rasterizer]).flatten
    let calls (first second : DrawEvent) := .draw first :: during ++ .draw second :: during
    let memory := (Sdram.zeroed 6 1).clear 0xFFFF
    let b := start .roundRobin memory
    fb.texel (b.run (calls near far)).memory 0 0 = fb.texel (b.run (calls far near)).memory 0 0 := by
  intro corner mode fb state far near during calls memory b
  have hs : fb.Separate memory := by
    intro plane plane' x y x' y' hp hp' heq
    have hall : ∀ x x' : Fin 2, memory.index (fb.address plane x 0)
        = memory.index (fb.address plane' x' 0) → plane = plane' ∧ x = x' := by
      cases plane <;> cases plane' <;> decide +kernel
    obtain rfl : y = 0 := Nat.lt_one_iff.1 hp.2
    obtain rfl : y' = 0 := Nat.lt_one_iff.1 hp'.2
    obtain ⟨hplane, hx⟩ := hall ⟨x, hp.1⟩ ⟨x', hp'.1⟩ heq
    exact ⟨hplane, Fin.mk.inj hx, rfl⟩
  have hevents : events (calls far near) = [far, near] := by decide +kernel
  have hb : ∀ event ∈ events (calls far near), event.state = state := by
    rw [hevents]
    intro event he
    rcases List.mem_pair.1 he with rfl | rfl <;> rfl
  obtain ⟨-, -, horder⟩ := run_nearest .roundRobin memory fb (calls far near) hs
    (by decide +kernel) fun event he => by
      rw [hb event he]
      exact ⟨rfl, rfl, rfl, rfl, rfl⟩
  have hperm : (events (calls near far)).Perm (events (calls far near)) := by
    have hevents' : events (calls near far) = [near, far] := by decide +kernel
    rw [hevents, hevents']
    exact List.Perm.swap far near []
  obtain ⟨hdepth, hcolor⟩ := horder .roundRobin (calls near far) (by decide +kernel) hperm 0 0
    ⟨by decide, by decide⟩
  have hsame := hcolor (fun event he => by rw [hb event he]) (by rw [hevents]; decide +kernel)
  exact Texel.ext hsame hdepth

end Bench

end RasterGpu
