import RasterGpu.Proofs.Drawing.Pixels
import RasterGpu.Proofs.Drawing.Texel

/-!
# Drawing with a depth buffer

A primitive is *depth buffered* if it is drawn where it is nearer than what is there, and leaves its
depth behind: the depth test is on and asks for less, depths are written, and colors are not
combined. All else is left open, whether colors are written too.

* `Framebuffer.Paints` says of a stretch of a program what became of each texel, and that no access
  of it made a depth greater. Stretches compose (`Paints.trans`, `Paints.foldl`).
* `DrawEvent.fragment?` is the fragment that a primitive has at a pixel, if it covers the pixel and
  the fragment passes the tests that do not look at memory. `DrawEvent.shade?` is what it offers the
  texel there.
* A pixel that is drawn offers its shade to its own texel (`Job.plot_paints`). A loop over columns
  or rows passes every place once, so a primitive offers each pixel of the surfaces its shade once
  (`DrawEvent.render_paints`).
-/

namespace RasterGpu

/-! ## Memory in the course of accesses -/

namespace Sdram

/-- The memory after accesses. -/
def after (m : Sdram) (accesses : List Access) : Sdram :=
  accesses.foldl (fun m access => (access.request.perform m).1) m

/-- Accesses after others. -/
theorem after_append (m : Sdram) (accesses accesses' : List Access) :
    m.after (accesses ++ accesses') = (m.after accesses).after accesses' :=
  List.foldl_append

/-- The memory after a word was written. -/
theorem after_write (m : Sdram) (c : Client) (address : Nat) (word : UInt16) :
    m.after [⟨c, .write address [word]⟩] = m.write address word := by
  change m.store address [word] = m.write address word
  rw [store_cons, store_nil]

end Sdram

namespace Framebuffer

variable {fb : Framebuffer} {m : Sdram}

/-- No depth of the surfaces is greater in the second memory. -/
def Nearer (fb : Framebuffer) (m m' : Sdram) : Prop :=
  ∀ x y : Nat, fb.Has x y → (fb.texel m' x y).depth ≤ (fb.texel m x y).depth

/-- No access makes a depth greater. -/
def Sinks (fb : Framebuffer) : Sdram → List Access → Prop
  | _, [] => True
  | m, access :: rest => fb.Nearer m (m.after [access]) ∧ fb.Sinks (m.after [access]) rest

/-- In the same memory no depth is greater. -/
theorem Nearer.refl (fb : Framebuffer) (m : Sdram) : fb.Nearer m m :=
  fun _ _ _ => UInt16.le_refl _

/-- No depth is greater after two changes that make none greater. -/
theorem Nearer.trans {m' m'' : Sdram} (h : fb.Nearer m m') (h' : fb.Nearer m' m'') :
    fb.Nearer m m'' :=
  fun x y hp => UInt16.le_trans (h' x y hp) (h x y hp)

/-- Accesses in two parts. -/
theorem sinks_append (made made' : List Access) :
    fb.Sinks m (made ++ made') ↔ fb.Sinks m made ∧ fb.Sinks (m.after made) made' := by
  induction made generalizing m with
  | nil => simp [Sinks, Sdram.after]
  | cons access made ih =>
    simp only [List.cons_append, Sinks, ih, and_assoc]
    rfl

/-- After accesses that make no depth greater no depth is greater. -/
theorem Sinks.nearer {made : List Access} (h : fb.Sinks m made) : fb.Nearer m (m.after made) := by
  induction made generalizing m with
  | nil => exact .refl fb m
  | cons access made ih => exact h.1.trans (ih h.2)

/-! ## What a program makes of the texels -/

/-- On the way from the first trace to the second every texel was changed as given, and no access
made a depth greater. -/
structure Paints (fb : Framebuffer) (change : Nat → Nat → Texel → Texel) (t t' : Trace) : Prop where
  /-- The words of the surfaces still have places of their own. -/
  separate : fb.Separate t'.memory
  /-- What became of each texel. -/
  texel : ∀ x y : Nat, fb.Has x y → fb.texel t'.memory x y = change x y (fb.texel t.memory x y)
  /-- The accesses that were made lead from one memory to the other, and none of them made a depth
  greater. -/
  sinks : ∃ made, t'.accesses = t.accesses ++ made ∧ t'.memory = t.memory.after made ∧
    fb.Sinks t.memory made

/-- Changes the texel of one pixel. -/
def changeAt (px py : Int) (change : Texel → Texel) (x y : Nat) : Texel → Texel :=
  if px = x ∧ py = y then change else id

variable {change change' : Nat → Nat → Texel → Texel} {t t' t'' : Trace} {x y : Nat}

/-- Nothing happened. -/
theorem Paints.refl (h : fb.Separate t.memory) : fb.Paints (fun _ _ => id) t t where
  separate := h
  texel _ _ _ := rfl
  sinks := ⟨[], (List.append_nil _).symm, rfl, trivial⟩

/-- A change may be said differently. -/
theorem Paints.congr (h : fb.Paints change t t')
    (heq : ∀ x y, fb.Has x y →
      change' x y (fb.texel t.memory x y) = change x y (fb.texel t.memory x y)) :
    fb.Paints change' t t' where
  separate := h.separate
  texel x y hp := (h.texel x y hp).trans (heq x y hp).symm
  sinks := h.sinks

/-- One stretch after another. -/
theorem Paints.trans (h : fb.Paints change t t') (h' : fb.Paints change' t' t'') :
    fb.Paints (fun x y texel => change' x y (change x y texel)) t t'' where
  separate := h'.separate
  texel x y hp := by rw [h'.texel x y hp, h.texel x y hp]
  sinks := by
    obtain ⟨made, hlog, hmem, hsinks⟩ := h.sinks
    obtain ⟨made', hlog', hmem', hsinks'⟩ := h'.sinks
    refine ⟨made ++ made', ?_, ?_, ?_⟩
    · rw [hlog', hlog, List.append_assoc]
    · rw [hmem', hmem, Sdram.after_append]
    · rw [sinks_append, ← hmem]
      exact ⟨hsinks, hsinks'⟩

/-- A loop makes the changes of its rounds, one after the other. -/
theorem Paints.foldl {α : Type} {body : Trace → α → Trace} {change : α → Nat → Nat → Texel → Texel}
    {l : List α} (hbody : ∀ a ∈ l, ∀ t : Trace, fb.Separate t.memory →
      fb.Paints (change a) t (body t a)) (h : fb.Separate t.memory) :
    fb.Paints (fun x y texel => l.foldl (fun texel a => change a x y texel) texel) t
      (l.foldl body t) := by
  induction l generalizing t with
  | nil => exact .refl h
  | cons a l ih =>
    have hfirst := hbody a List.mem_cons_self t h
    exact hfirst.trans (ih (fun b hb => hbody b (List.mem_cons_of_mem a hb)) hfirst.separate)

/-- The change of one pixel is seen at that pixel only. -/
theorem changeAt_pixel (x y : Nat) (change : Texel → Texel) (x' y' : Nat) :
    changeAt x y change x' y' = if x = x' ∧ y = y' then change else id := by
  simp only [changeAt, Int.ofNat_inj]

/-- A word is read. -/
theorem read_paints (h : fb.Separate t.memory) (c : Client) (address : Nat) :
    fb.Paints (fun _ _ => id) t (t.read c address).2 where
  separate := h
  texel _ _ _ := rfl
  sinks := ⟨_, rfl, rfl, .refl fb t.memory, trivial⟩

/-- A color of the surfaces is written. -/
theorem writeColor_paints (h : fb.Separate t.memory) (hp : fb.Has x y) (word : UInt16) :
    fb.Paints (changeAt x y fun texel => { texel with color := word }) t
      (t.write .color (fb.address .color x y) word) := by
  have htexel := fun x' y' (hp' : fb.Has x' y') => texel_write_color h hp hp' word
  refine ⟨h.write _ _, fun x' y' hp' => ?_, _, rfl, (t.memory.after_write _ _ _).symm, ?_, trivial⟩
  · refine (htexel x' y' hp').trans ?_
    rw [changeAt_pixel]
    split <;> rfl
  · intro x' y' hp'
    rw [Sdram.after_write, htexel x' y' hp']
    split <;> exact UInt16.le_refl _

/-- A depth of the surfaces is overwritten by one that is not greater. -/
theorem writeDepth_paints (h : fb.Separate t.memory) (hp : fb.Has x y) {word : UInt16}
    (hle : word ≤ (fb.texel t.memory x y).depth) :
    fb.Paints (changeAt x y fun texel => { texel with depth := word }) t
      (t.write .depth (fb.address .depth x y) word) := by
  have htexel := fun x' y' (hp' : fb.Has x' y') => texel_write_depth h hp hp' word
  refine ⟨h.write _ _, fun x' y' hp' => ?_, _, rfl, (t.memory.after_write _ _ _).symm, ?_, trivial⟩
  · refine (htexel x' y' hp').trans ?_
    rw [changeAt_pixel]
    split <;> rfl
  · intro x' y' hp'
    rw [Sdram.after_write, htexel x' y' hp']
    split
    · rename_i hsame
      obtain ⟨rfl, rfl⟩ := hsame
      exact hle
    · exact UInt16.le_refl _

end Framebuffer

/-! ## Pixels -/

/-- Drawing that keeps what is nearer. -/
structure DrawState.DepthBuffered (fb : Framebuffer) (state : DrawState) : Prop where
  /-- The surfaces that are drawn to. -/
  framebuffer : state.framebuffer = fb
  /-- Depths are compared. -/
  depthTest : state.mode.depthTest = true
  /-- What is nearer is drawn. -/
  depthCompare : state.mode.depthCompare = .less
  /-- Its depth is written. -/
  depthWrite : state.mode.depthWrite = true
  /-- Colors are not combined. -/
  blend : state.mode.blend = .disabled

namespace Job

/-- The fragment at a pixel, if the shape covers the pixel, the stipple mask lets it through, and
the depth range and the alpha test let the fragment through. -/
def fragment? (job : Job) (px py : Int) : Option Fragment :=
  let mode := job.state.mode
  let values := job.shape.edgeValues px py
  let f := job.shape.fragment mode.gouraud (job.shape.weights values)
  if !job.shape.covers values then none
  else if mode.stipple && !job.state.stipple.passes px py then none
  else if !job.state.depthRange.passes f.depth then none
  else if !mode.alphaTest.passes f.color.a mode.alphaReference then none
  else some f

/-- What a fragment offers its pixel. -/
def shadeOf (job : Job) (px py : Int) (f : Fragment) : Shade where
  depth := f.depth
  color := if job.state.mode.colorWrite then some (job.colorWord px py f .zero) else none

/-- What a pixel is offered. -/
def shade? (job : Job) (px py : Int) : Option Shade :=
  (job.fragment? px py).map (job.shadeOf px py)

variable {job : Job} {fb : Framebuffer} {px py : Int} {f : Fragment} {t : Trace} {x y : Nat}

/-- A pixel without a fragment is left alone, and a fragment is drawn where it is nearer. -/
theorem plot_of_depthBuffered (hb : job.state.DepthBuffered fb) (t : Trace) :
    job.plot px py t = (job.fragment? px py).elim t fun f =>
      let (stored, t) := t.read .depth (job.depthAddress px py)
      if f.depth < stored then job.put px py f t else t := by
  unfold plot plotFragment fragment?
  dsimp only
  split
  · rfl
  · split
    · rfl
    · split
      · rfl
      · split
        · rfl
        · simp only [hb.depthTest, if_true, Option.elim_some, putIfVisible, hb.depthCompare,
            DepthCompare.passes, decide_eq_true_eq]

/-- The color of a pixel of the surfaces. -/
theorem colorAddress_eq (hb : job.state.DepthBuffered fb) (x y : Nat) :
    job.colorAddress x y = fb.address .color x y := by
  simp [colorAddress, pixelOffset, Framebuffer.address, Framebuffer.base, hb.framebuffer]

/-- The depth of a pixel of the surfaces. -/
theorem depthAddress_eq (hb : job.state.DepthBuffered fb) (x y : Nat) :
    job.depthAddress x y = fb.address .depth x y := by
  simp [depthAddress, pixelOffset, Framebuffer.address, Framebuffer.base, hb.framebuffer]

/-- A nearer fragment leaves its shade. -/
theorem put_paints (hb : job.state.DepthBuffered fb) (hs : fb.Separate t.memory) (hp : fb.Has x y)
    (hlt : f.depth < (fb.texel t.memory x y).depth) :
    fb.Paints (Framebuffer.changeAt x y fun texel => texel.shade (job.shadeOf x y f)) t
      (job.put x y f t) := by
  have hle : f.depth ≤ (fb.texel t.memory x y).depth := UInt16.le_of_lt hlt
  unfold put putDepth putColor
  simp only [hb.depthWrite, hb.blend, job.colorAddress_eq hb, job.depthAddress_eq hb, if_true]
  cases hc : job.state.mode.colorWrite with
  | false =>
    refine (Framebuffer.writeDepth_paints hs hp hle).congr fun x' y' _ => ?_
    rw [Framebuffer.changeAt_pixel, Framebuffer.changeAt_pixel]
    split
    · rename_i hsame
      obtain ⟨rfl, rfl⟩ := hsame
      simp [Texel.shade, shadeOf, hc, hlt]
    · rfl
  | true =>
    have hcolor := Framebuffer.writeColor_paints hs hp (job.colorWord x y f .zero)
    have hsame : (fb.texel (t.write .color (fb.address .color x y)
        (job.colorWord x y f .zero)).memory x y).depth = (fb.texel t.memory x y).depth := by
      rw [hcolor.texel x y hp, Framebuffer.changeAt_pixel, if_pos ⟨rfl, rfl⟩]
    have hdepth := Framebuffer.writeDepth_paints hcolor.separate hp (hsame ▸ hle)
    simp only [colorWord, hb.blend] at hcolor hdepth
    refine (hcolor.trans hdepth).congr fun x' y' _ => ?_
    rw [Framebuffer.changeAt_pixel, Framebuffer.changeAt_pixel, Framebuffer.changeAt_pixel]
    split
    · rename_i hsame
      obtain ⟨rfl, rfl⟩ := hsame
      simp [Texel.shade, shadeOf, colorWord, hb.blend, hc, hlt]
    · rfl

/-- **A pixel is offered its shade, and no other pixel is offered anything.** -/
theorem plot_paints (hb : job.state.DepthBuffered fb) (hs : fb.Separate t.memory)
    (hp : fb.Has x y) :
    fb.Paints (Framebuffer.changeAt x y fun texel => texel.offer (job.shade? x y)) t
      (job.plot x y t) := by
  rw [plot_of_depthBuffered hb, shade?]
  cases job.fragment? x y with
  | none =>
    refine (Framebuffer.Paints.refl hs).congr fun x' y' _ => ?_
    rw [Framebuffer.changeAt_pixel]
    split <;> rfl
  | some f =>
    have hread := Framebuffer.read_paints hs .depth (job.depthAddress x y)
    have hstored : (t.read .depth (job.depthAddress x y)).1 = (fb.texel t.memory x y).depth := by
      rw [job.depthAddress_eq hb]
      rfl
    dsimp only [Option.elim_some, Option.map_some]
    split
    · rename_i hlt
      exact hread.trans (put_paints hb hread.separate hp (hstored ▸ hlt))
    · rename_i hge
      refine hread.congr fun x' y' _ => ?_
      rw [Framebuffer.changeAt_pixel]
      split
      · rename_i hsame
        obtain ⟨rfl, rfl⟩ := hsame
        rw [hstored] at hge
        exact if_neg hge
      · rfl

end Job

/-! ## Primitives -/

/-- A loop that passes a place once changes it once. -/
theorem foldl_once {α β : Type} [DecidableEq α] {l : List α} (hl : l.Nodup) (k : α)
    (g : α → β → β) (b : β) :
    l.foldl (fun b a => if a = k then g a b else b) b = if k ∈ l then g k b else b := by
  induction l generalizing b with
  | nil => rfl
  | cons a l ih =>
    obtain ⟨ha, hl⟩ := List.nodup_cons.1 hl
    rw [List.foldl_cons, ih hl]
    by_cases hk : a = k
    · subst hk
      rw [if_neg ha, if_pos rfl, if_pos List.mem_cons_self]
    · simp [hk, Ne.symm hk]

/-- Whether a pixel lies in a box. -/
def Box.Has (box : Box) (x y : Nat) : Prop :=
  (y : Int) ∈ span box.y0 box.y1 ∧ (x : Int) ∈ span box.x0 box.x1

instance (box : Box) (x y : Nat) : Decidable (box.Has x y) :=
  inferInstanceAs (Decidable (_ ∧ _))

namespace Job

variable {job : Job} {fb : Framebuffer} {t : Trace}

/-- Every pixel of the box is on the surfaces. -/
structure Fits (job : Job) (fb : Framebuffer) : Prop where
  /-- The columns are. -/
  columns : 0 ≤ job.box.x0 ∧ job.box.x1 < fb.width
  /-- The rows are. -/
  rows : 0 ≤ job.box.y0 ∧ job.box.y1 < fb.height

/-- Every pixel of a row is offered its shade. -/
theorem renderRow_paints (hb : job.state.DepthBuffered fb) (hf : job.Fits fb)
    (hs : fb.Separate t.memory) {py : Int} (hy : py ∈ span job.box.y0 job.box.y1) :
    fb.Paints (fun x y texel => if py = y then
        if (x : Int) ∈ span job.box.x0 job.box.x1 then texel.offer (job.shade? x py) else texel
      else texel) t (job.renderRow py t) := by
  have hbody : ∀ px ∈ span job.box.x0 job.box.x1, ∀ t : Trace, fb.Separate t.memory →
      fb.Paints (Framebuffer.changeAt px py fun texel => texel.offer (job.shade? px py)) t
        (job.plot px py t) := by
    intro px hx t hs
    obtain ⟨⟨hx0, hx1⟩, hy0, hy1⟩ := hf
    have hx := mem_span.1 hx
    have hy := mem_span.1 hy
    obtain ⟨x, rfl⟩ := Int.eq_ofNat_of_zero_le (Int.le_trans hx0 hx.1)
    obtain ⟨y, rfl⟩ := Int.eq_ofNat_of_zero_le (Int.le_trans hy0 hy.1)
    exact plot_paints hb hs ⟨by omega, by omega⟩
  refine (Framebuffer.Paints.foldl hbody hs).congr fun x y _ => ?_
  by_cases hrow : py = y
  · have honce := foldl_once (nodup_span job.box.x0 job.box.x1) (x : Int)
      (fun px texel => texel.offer (job.shade? px py)) (fb.texel t.memory x y)
    rw [if_pos hrow, ← honce]
    congr 1
    funext texel px
    by_cases hcolumn : px = x <;> simp [Framebuffer.changeAt, hrow, hcolumn]
  · have hnone : (fun texel px => Framebuffer.changeAt px py
        (fun texel => texel.offer (job.shade? px py)) x y texel) = fun texel _ => texel := by
      funext texel px
      simp [Framebuffer.changeAt, hrow]
    rw [if_neg hrow, hnone]
    exact (List.foldl_fixed _).symm

/-- **Every pixel of the box is offered its shade.** -/
theorem render_paints (hb : job.state.DepthBuffered fb) (hf : job.Fits fb)
    (hs : fb.Separate t.memory) :
    fb.Paints (fun x y texel => if job.box.Has x y then texel.offer (job.shade? x y) else texel) t
      (job.render t) := by
  refine (Framebuffer.Paints.foldl (fun py hy t hs => renderRow_paints hb hf hs hy) hs).congr
    fun x y _ => ?_
  have honce := foldl_once (nodup_span job.box.y0 job.box.y1) (y : Int)
    (fun py texel =>
      if (x : Int) ∈ span job.box.x0 job.box.x1 then texel.offer (job.shade? x py) else texel)
    (fb.texel t.memory x y)
  rw [honce, ← ite_and]
  rfl

end Job

namespace DrawEvent

variable {event : DrawEvent} {fb : Framebuffer} {t : Trace}

/-- The fragment that a primitive has at a pixel, if it passes the tests that do not look at
memory. -/
def fragment? (event : DrawEvent) (x y : Nat) : Option Fragment :=
  match event.setup with
  | .job job => if job.box.Has x y then job.fragment? x y else none
  | .culled | .nothing => none

/-- What a primitive offers a pixel. -/
def shade? (event : DrawEvent) (x y : Nat) : Option Shade :=
  match event.setup with
  | .job job => if job.box.Has x y then job.shade? x y else none
  | .culled | .nothing => none

/-- What is offered has the depth of the fragment. -/
theorem map_depth_shade? (event : DrawEvent) (x y : Nat) :
    (event.shade? x y).map Shade.depth = (event.fragment? x y).map Fragment.depth := by
  unfold shade? fragment? Job.shade?
  split
  · split
    · rw [Option.map_map]
      rfl
    · rfl
  · rfl
  · rfl

/-- Setup keeps the drawing state, and leaves no pixel that is not on the surfaces. -/
theorem of_setup {job : Job} (h : event.setup = .job job) :
    job.state = event.state ∧ job.Fits event.state.framebuffer := by
  have ofShape {shape : Shape} {bounds : Box}
      (h : SetupResult.ofShape event.state shape bounds = .job job) :
      job.state = event.state ∧ job.Fits event.state.framebuffer := by
    unfold SetupResult.ofShape at h
    dsimp only at h
    split at h
    · cases h
    · cases h
      refine ⟨rfl, ⟨?_, ?_⟩, ?_, ?_⟩ <;> dsimp only [Box.clip] <;> omega
  unfold setup at h
  split at h
  · dsimp only at h
    split at h
    · cases h
    · split at h
      · cases h
      · exact ofShape h
  · exact ofShape h

/-- **A primitive offers its shade to every pixel of the surfaces.** -/
theorem render_paints (hb : event.state.DepthBuffered fb) (hs : fb.Separate t.memory) :
    fb.Paints (fun x y texel => texel.offer (event.shade? x y)) t (event.render t) := by
  have hnothing : fb.Paints (fun _ _ texel => texel.offer none) t t := .refl hs
  unfold render shade?
  cases hsetup : event.setup with
  | job job =>
    obtain ⟨hstate, hfits⟩ := of_setup hsetup
    rw [hb.framebuffer] at hfits
    have hbuffered : job.state.DepthBuffered fb := hstate ▸ hb
    refine (Job.render_paints hbuffered hfits hs).congr fun x y _ => ?_
    dsimp only
    by_cases hbox : job.box.Has x y
    · rw [if_pos hbox, if_pos hbox]
    · rw [if_neg hbox, if_neg hbox]
      rfl
  | culled => exact hnothing
  | nothing => exact hnothing

end DrawEvent

end RasterGpu
