import Mathlib.Algebra.Group.Basic
import Mathlib.Data.List.Pairwise
import RasterGpu.Proofs.Drawing.Fate
import RasterGpu.Proofs.Drawing.Texel

/-!
# Drawing in two parts

A primitive may be drawn in two parts, by splitting its scissor rectangle. The two parts are drawn
with boxes of their own: the rasterizer begins each of them at another pixel, and goes to the next
row elsewhere. As long as different pixels have different words in memory this makes no difference.

* `Job.writes` lists the words that are written for a pixel; they are words of the pixel, and depend
  on what these held. So two pixels with words of their own may change places
  (`Job.visit_comm`), and pixels may be drawn in any order (`Job.foldl_visit_perm`).
* `Scissor.Splits` says that a rectangle is split into two, side by side or one below the other. The
  pixels of the parts are together the pixels of the whole, in another order
  (`Scissor.Splits.pixels_perm`).
-/

namespace RasterGpu

/-! ## Writing words -/

namespace Sdram

variable {m : Sdram} {words words' : List (Nat × UInt16)} {address : Nat}

/-- Writes words, one after the other. -/
def writeAll (m : Sdram) (words : List (Nat × UInt16)) : Sdram :=
  words.foldl (fun m word => m.write word.1 word.2) m

/-- Writes in two parts. -/
theorem writeAll_append (m : Sdram) (words words' : List (Nat × UInt16)) :
    m.writeAll (words ++ words') = (m.writeAll words).writeAll words' :=
  List.foldl_append

/-- Writes do not move the places of a device. -/
theorem index_writeAll (m : Sdram) (words : List (Nat × UInt16)) (address : Nat) :
    (m.writeAll words).index address = m.index address := by
  induction words generalizing m with
  | nil => rfl
  | cons word words ih => exact (ih _).trans (m.index_write _ _ _)

/-- A word at another place reads as before. -/
theorem read_writeAll (h : ∀ word ∈ words, m.index word.1 ≠ m.index address) :
    (m.writeAll words).read address = m.read address := by
  induction words generalizing m with
  | nil => rfl
  | cons word words ih =>
    have hfirst := h word List.mem_cons_self
    refine (ih fun word' hw => ?_).trans ?_
    · rw [index_write, index_write]
      exact h word' (List.mem_cons_of_mem _ hw)
    · rw [read_write, if_neg hfirst]

/-- Writes to different places may change places. -/
theorem write_comm {address' : Nat} (h : m.index address ≠ m.index address')
    (value value' : UInt16) :
    (m.write address value).write address' value'
      = (m.write address' value').write address value := by
  unfold write
  congr 1
  simp only [index, Array.size_set] at h ⊢
  exact Array.set_comm _ _ h

/-- A write may change places with writes to other places. -/
theorem write_writeAll {value : UInt16} (h : ∀ word ∈ words, m.index address ≠ m.index word.1) :
    (m.write address value).writeAll words = (m.writeAll words).write address value := by
  induction words generalizing m with
  | nil => rfl
  | cons word words ih =>
    have hfirst := write_comm (h word List.mem_cons_self) value word.2
    change ((m.write address value).write word.1 word.2).writeAll words
      = ((m.write word.1 word.2).writeAll words).write address value
    rw [hfirst]
    refine ih fun word' hw => ?_
    rw [index_write, index_write]
    exact h word' (List.mem_cons_of_mem _ hw)

/-- Writes may change places with writes to other places. -/
theorem writeAll_comm
    (h : ∀ word ∈ words, ∀ word' ∈ words', m.index word.1 ≠ m.index word'.1) :
    (m.writeAll words).writeAll words' = (m.writeAll words').writeAll words := by
  induction words generalizing m with
  | nil => rfl
  | cons word words ih =>
    change ((m.write word.1 word.2).writeAll words).writeAll words'
      = ((m.writeAll words').write word.1 word.2).writeAll words
    rw [← write_writeAll (h word List.mem_cons_self)]
    refine ih fun first hfirst second hsecond => ?_
    rw [index_write, index_write]
    exact h first (List.mem_cons_of_mem _ hfirst) second hsecond

end Sdram

/-! ## The words of a pixel -/

namespace Framebuffer

/-- Addresses of the words of a pixel. -/
def wordsOf (fb : Framebuffer) (pixel : Int × Int) : List Nat :=
  [fb.address .color pixel.1.toNat pixel.2.toNat, fb.address .depth pixel.1.toNat pixel.2.toNat]

/-- Two pixels have no word in common, in a device with the places of this one. -/
def NoCommonWord (fb : Framebuffer) (m : Sdram) (pixel other : Int × Int) : Prop :=
  ∀ address ∈ fb.wordsOf pixel, ∀ address' ∈ fb.wordsOf other, m.index address ≠ m.index address'

/-- No two of the pixels have a word in common. -/
def Apart (fb : Framebuffer) (m : Sdram) (pixels : List (Int × Int)) : Prop :=
  ∀ pixel ∈ pixels, ∀ other ∈ pixels, pixel ≠ other → fb.NoCommonWord m pixel other

/-- Pixels among pixels that are apart are apart. -/
theorem Apart.mono {fb : Framebuffer} {m : Sdram} {pixels pixels' : List (Int × Int)}
    (h : fb.Apart m pixels) (hsub : pixels' ⊆ pixels) : fb.Apart m pixels' :=
  fun pixel hp other ho => h pixel (hsub hp) other (hsub ho)

/-- Pixels are apart in any memory with the same places. -/
theorem Apart.congr {fb : Framebuffer} {m m' : Sdram} {pixels : List (Int × Int)}
    (h : fb.Apart m pixels) (heq : ∀ address, m'.index address = m.index address) :
    fb.Apart m' pixels := by
  intro pixel hp other ho hne address ha address' ha'
  rw [heq, heq]
  exact h pixel hp other ho hne address ha address' ha'

/-- Pixels are apart if all their words have places of their own. -/
theorem apart_of_nodup {fb : Framebuffer} {m : Sdram} {pixels : List (Int × Int)}
    (h : ((pixels.flatMap fb.wordsOf).map m.index).Nodup) : fb.Apart m pixels := by
  intro pixel hp other ho hne address ha address' ha' heq
  have hsame : address = address' := List.inj_on_of_nodup_map h
    (List.mem_flatMap.2 ⟨pixel, hp, ha⟩) (List.mem_flatMap.2 ⟨other, ho, ha'⟩) heq
  have : Std.Symm (Function.onFun List.Disjoint fb.wordsOf) := ⟨fun _ _ h _ ha hb => h hb ha⟩
  have hdisjoint := (List.nodup_flatMap.1 h.of_map).2.forall hp ho hne
  exact hdisjoint ha (hsame ▸ ha')

end Framebuffer

namespace Job

variable (job : Job)

/-- The color that a fragment is combined with where the given word is stored. -/
def destination (color : UInt16) : Rgba :=
  if job.state.mode.blend = .disabled then .zero else .ofRgb565 color

/-- The color word that is written for a fragment where the given one is stored. -/
def colorWrites (pixel : Int × Int) (f : Fragment) (color : UInt16) : List (Nat × UInt16) :=
  if job.state.mode.colorWrite then
    [(job.colorAddress pixel.1 pixel.2,
      job.colorWord pixel.1 pixel.2 f (job.destination color))]
  else []

/-- The depth word that is written for a fragment. -/
def depthWrites (pixel : Int × Int) (f : Fragment) : List (Nat × UInt16) :=
  if job.state.mode.depthWrite then [(job.depthAddress pixel.1 pixel.2, f.depth)] else []

/-- The words that are written for a pixel. -/
def writes (pixel : Int × Int) (m : Sdram) : List (Nat × UInt16) :=
  if job.fate pixel m = .written then
    job.colorWrites pixel (job.fragmentAt pixel) (m.read (job.colorAddress pixel.1 pixel.2))
      ++ job.depthWrites pixel (job.fragmentAt pixel)
  else []

variable (pixel : Int × Int) (f : Fragment) (t : Trace)

/-- Writing the depth writes its word. -/
theorem putDepth_memory : (job.putDepth pixel.1 pixel.2 f t).memory
    = t.memory.writeAll (job.depthWrites pixel f) := by
  unfold putDepth depthWrites
  split <;> rfl

/-- Writing a fragment writes its words. -/
theorem put_memory : (job.put pixel.1 pixel.2 f t).memory
    = t.memory.writeAll (job.colorWrites pixel f (t.memory.read (job.colorAddress pixel.1 pixel.2))
        ++ job.depthWrites pixel f) := by
  rw [Sdram.writeAll_append]
  unfold put colorWrites destination
  dsimp only
  cases job.state.mode.colorWrite with
  | false => exact job.putDepth_memory pixel f t
  | true =>
    by_cases hb : job.state.mode.blend = .disabled
    · simp only [if_pos hb]
      exact job.putDepth_memory pixel f _
    · simp only [if_neg hb]
      exact job.putDepth_memory pixel f _

/-- Writing a fragment writes its words, if there are any to be written. -/
theorem put_memory_of_writeFate : (job.put pixel.1 pixel.2 f t).memory
    = if job.writeFate = .written then t.memory.writeAll
        (job.colorWrites pixel f (t.memory.read (job.colorAddress pixel.1 pixel.2))
          ++ job.depthWrites pixel f)
      else t.memory := by
  rw [put_memory]
  unfold writeFate
  split
  · rfl
  · rename_i hnone
    rw [Bool.or_eq_true, not_or, Bool.not_eq_true, Bool.not_eq_true] at hnone
    rw [colorWrites, depthWrites, hnone.1, hnone.2]
    rfl

/-- A fragment that is compared with the stored depth is written if that is its fate. -/
theorem compareDepth_memory : (job.compareDepth pixel.1 pixel.2 f t).memory
    = if job.depthFate f (t.memory.read (job.depthAddress pixel.1 pixel.2)) = .written then
        t.memory.writeAll
          (job.colorWrites pixel f (t.memory.read (job.colorAddress pixel.1 pixel.2))
            ++ job.depthWrites pixel f)
      else t.memory := by
  have hread : job.compareDepth pixel.1 pixel.2 f t
      = job.putIfVisible pixel.1 pixel.2 f (t.memory.read (job.depthAddress pixel.1 pixel.2))
          (t.read .depth (job.depthAddress pixel.1 pixel.2)).2 := by
    rw [compareDepth, Trace.perform_read]
    rfl
  rw [hread, putIfVisible, depthFate]
  split
  · exact job.put_memory_of_writeFate pixel f _
  · rfl

/-- A fragment is written if that is its fate. -/
theorem plotFragment_memory : (job.plotFragment pixel.1 pixel.2 f t).memory
    = if job.fragmentFate f (t.memory.read (job.depthAddress pixel.1 pixel.2)) = .written then
        t.memory.writeAll
          (job.colorWrites pixel f (t.memory.read (job.colorAddress pixel.1 pixel.2))
            ++ job.depthWrites pixel f)
      else t.memory := by
  cases hd : job.state.depthRange.passes f.depth with
  | false =>
    rw [plotFragment_of_outOfRange hd, fragmentFate_of_outOfRange _ hd]
    rfl
  | true =>
    cases ha : job.passesAlpha f with
    | false =>
      rw [plotFragment_of_transparent hd ha, fragmentFate_of_transparent _ hd ha]
      rfl
    | true =>
      rw [plotFragment_of_passes hd ha, fragmentFate_of_passes _ hd ha]
      cases job.state.mode.depthTest with
      | false => exact job.put_memory_of_writeFate pixel f t
      | true => exact job.compareDepth_memory pixel f t

/-- **Drawing a pixel writes its words.** -/
theorem plot_memory : (job.plot pixel.1 pixel.2 t).memory
    = t.memory.writeAll (job.writes pixel t.memory) := by
  unfold writes fate
  cases hc : job.contains pixel with
  | false =>
    rw [job.plot_of_not_covers _ _ (Bool.eq_false_iff.1 hc), fateOver_of_outside _ hc]
    rfl
  | true =>
    cases hm : !job.state.mode.stipple || job.state.stipple.passes pixel.1 pixel.2 with
    | false =>
      rw [job.plot_of_stippled _ _ (Bool.eq_false_iff.1 hm), fateOver_of_masked _ hc hm]
      rfl
    | true =>
      rw [job.plot_of_covers _ _ hc hm, fateOver_of_inside _ hc hm]
      refine (job.plotFragment_memory pixel (job.fragmentAt pixel) t).trans ?_
      split <;> rfl

/-! ## Pixels in any order -/

/-- Counts a pixel and writes its words. -/
def visit (s : RasterStats × Sdram) (pixel : Int × Int) : RasterStats × Sdram :=
  (s.1 + (job.fate pixel s.2).stats, s.2.writeAll (job.writes pixel s.2))

/-- Pixels are counted and drawn by visiting them. -/
theorem foldl_visit (pixels : List (Int × Int)) (s : RasterStats) (t : Trace) :
    pixels.foldl job.visit (s, t.memory)
      = (s + job.tally pixels t, (job.plotAll pixels t).memory) := by
  induction pixels generalizing s t with
  | nil => exact congrArg (·, t.memory) (add_zero s).symm
  | cons pixel pixels ih =>
    rw [List.foldl_cons, visit, ← plot_memory, ih, tally, add_assoc]
    rfl

variable {job} {pixel other : Int × Int} {m : Sdram}

/-- What is written for a pixel are words of it. -/
theorem mem_wordsOf_of_writes {word : Nat × UInt16} (h : word ∈ job.writes pixel m) :
    word.1 ∈ job.state.framebuffer.wordsOf pixel := by
  unfold writes colorWrites depthWrites at h
  split at h
  · rcases List.mem_append.1 h with hcolor | hdepth
    · split at hcolor
      · obtain rfl := List.mem_singleton.1 hcolor
        exact List.mem_cons_self
      · cases hcolor
    · split at hdepth
      · obtain rfl := List.mem_singleton.1 hdepth
        exact List.mem_cons_of_mem _ List.mem_cons_self
      · cases hdepth
  · cases h

/-- A word of another pixel reads as before a pixel was drawn. -/
theorem read_after_writes (h : job.state.framebuffer.NoCommonWord m pixel other) {address : Nat}
    (ha : address ∈ job.state.framebuffer.wordsOf other) :
    (m.writeAll (job.writes pixel m)).read address = m.read address :=
  Sdram.read_writeAll fun _ hword => h _ (mem_wordsOf_of_writes hword) _ ha

/-- Drawing a pixel changes neither the fate of another one nor what is written for it. -/
theorem after_writes (job : Job) (h : job.state.framebuffer.NoCommonWord m pixel other) :
    job.fate other (m.writeAll (job.writes pixel m)) = job.fate other m
      ∧ job.writes other (m.writeAll (job.writes pixel m)) = job.writes other m := by
  have hdepth : (m.writeAll (job.writes pixel m)).read (job.depthAddress other.1 other.2)
      = m.read (job.depthAddress other.1 other.2) :=
    read_after_writes h (List.mem_cons_of_mem _ List.mem_cons_self)
  have hcolor : (m.writeAll (job.writes pixel m)).read (job.colorAddress other.1 other.2)
      = m.read (job.colorAddress other.1 other.2) :=
    read_after_writes h List.mem_cons_self
  have hfate : job.fate other (m.writeAll (job.writes pixel m)) = job.fate other m := by
    rw [fate, fate, hdepth]
  refine ⟨hfate, ?_⟩
  rw [writes, hfate, hcolor]
  rfl

/-- **Two pixels without a common word may change places.** -/
theorem visit_comm {s : RasterStats × Sdram}
    (h : job.state.framebuffer.NoCommonWord s.2 pixel other)
    (h' : job.state.framebuffer.NoCommonWord s.2 other pixel) :
    job.visit (job.visit s pixel) other = job.visit (job.visit s other) pixel := by
  obtain ⟨hfate, hwrites⟩ := after_writes job h
  obtain ⟨hfate', hwrites'⟩ := after_writes job h'
  unfold visit
  rw [hfate, hwrites, hfate', hwrites', add_right_comm]
  refine congrArg (Prod.mk _) (Sdram.writeAll_comm fun word hword word' hword' => ?_)
  exact h _ (mem_wordsOf_of_writes hword) _ (mem_wordsOf_of_writes hword')

/-- **Pixels without common words may be drawn in any order.** -/
theorem foldl_visit_perm {pixels pixels' : List (Int × Int)} (h : pixels.Perm pixels')
    {s : RasterStats × Sdram} (ha : job.state.framebuffer.Apart s.2 pixels) :
    pixels.foldl job.visit s = pixels'.foldl job.visit s := by
  induction h generalizing s with
  | nil => rfl
  | cons pixel _ ih =>
    refine ih ?_
    exact (ha.mono (List.subset_cons_self _ _)).congr fun address => s.2.index_writeAll _ address
  | swap pixel other rest =>
    rw [List.foldl_cons, List.foldl_cons, List.foldl_cons, List.foldl_cons]
    by_cases hne : other = pixel
    · rw [hne]
    · have hpixel : pixel ∈ other :: pixel :: rest := List.mem_cons_of_mem _ List.mem_cons_self
      have hother : other ∈ other :: pixel :: rest := List.mem_cons_self
      rw [visit_comm (ha _ hother _ hpixel hne) (ha _ hpixel _ hother (Ne.symm hne))]
  | trans hfirst _ ih ih' =>
    exact (ih ha).trans (ih' (ha.mono hfirst.symm.subset))

end Job

/-! ## Splitting the scissor rectangle -/

/-- A rectangle is split into two: side by side, or one below the other. -/
inductive Scissor.Splits : Scissor → Scissor → Scissor → Prop where
  /-- A left part and a right part. -/
  | columns (x y width₁ width₂ height : Nat) :
    Splits ⟨x, y, width₁ + width₂, height⟩ ⟨x, y, width₁, height⟩ ⟨x + width₁, y, width₂, height⟩
  /-- An upper part and a lower part. -/
  | rows (x y width height₁ height₂ : Nat) :
    Splits ⟨x, y, width, height₁ + height₂⟩ ⟨x, y, width, height₁⟩ ⟨x, y + height₁, width, height₂⟩

namespace Scissor.Splits

variable {whole first second : Scissor}

/-- A pixel in the whole is in one of the parts. -/
theorem contains_iff (h : Splits whole first second) (px py : Int) :
    whole.Contains px py ↔ first.Contains px py ∨ second.Contains px py := by
  cases h with
  | columns x y width₁ width₂ height =>
    constructor
    · rintro ⟨hcolumn, hrow⟩
      by_cases hleft : px < x + width₁
      · exact .inl ⟨⟨hcolumn.1, hleft⟩, hrow⟩
      · exact .inr ⟨by dsimp only at hcolumn ⊢; omega, hrow⟩
    · rintro (⟨hcolumn, hrow⟩ | ⟨hcolumn, hrow⟩)
      · exact ⟨by dsimp only at hcolumn ⊢; omega, hrow⟩
      · exact ⟨by dsimp only at hcolumn ⊢; omega, hrow⟩
  | rows x y width height₁ height₂ =>
    constructor
    · rintro ⟨hcolumn, hrow⟩
      by_cases habove : py < y + height₁
      · exact .inl ⟨hcolumn, hrow.1, habove⟩
      · exact .inr ⟨hcolumn, by dsimp only at hrow ⊢; omega⟩
    · rintro (⟨hcolumn, hrow⟩ | ⟨hcolumn, hrow⟩)
      · exact ⟨hcolumn, by dsimp only at hrow ⊢; omega⟩
      · exact ⟨hcolumn, by dsimp only at hrow ⊢; omega⟩

/-- No pixel is in both parts. -/
theorem not_both (h : Splits whole first second) {px py : Int} (hfirst : first.Contains px py) :
    ¬ second.Contains px py := by
  rintro ⟨hcolumn, hrow⟩
  obtain ⟨hcolumn', hrow'⟩ := hfirst
  cases h with
  | columns => dsimp only at hcolumn hcolumn'; omega
  | rows => dsimp only at hrow hrow'; omega

/-- The pixels of a box in the parts are together those in the whole. -/
theorem pixels_perm (h : Splits whole first second) (box : Box) (fb : Framebuffer) :
    (box.clip fb whole).pixels.Perm
      ((box.clip fb first).pixels ++ (box.clip fb second).pixels) := by
  have hdisjoint : (box.clip fb first).pixels.Disjoint (box.clip fb second).pixels := by
    rintro ⟨px, py⟩ hfirst hsecond
    exact h.not_both (Box.mem_pixels_clip.1 hfirst).2.2 (Box.mem_pixels_clip.1 hsecond).2.2
  refine (List.perm_ext_iff_of_nodup (Box.nodup_pixels _)
    ((Box.nodup_pixels _).append (Box.nodup_pixels _) hdisjoint)).2 fun ⟨px, py⟩ => ?_
  rw [List.mem_append, Box.mem_pixels_clip, Box.mem_pixels_clip, Box.mem_pixels_clip,
    h.contains_iff, and_or_left, and_or_left]

end Scissor.Splits

namespace DrawEvent

/-- The primitive with another scissor rectangle. -/
def clippedTo (event : DrawEvent) (scissor : Scissor) : DrawEvent :=
  { event with state := { event.state with scissor } }

variable {event : DrawEvent} {m : Sdram}

/-- A primitive that is not drawn counts nothing and leaves the memory alone. -/
theorem visits_of_shape?_eq_none (event : DrawEvent) (h : event.shape? = none) (t : Trace) :
    event.tally t = 0 ∧ event.render t = t := by
  rw [tally, render_eq_plotAll, job?, h]
  exact ⟨rfl, rfl⟩

/-- A primitive is counted and drawn by visiting the pixels of its clipped box. -/
theorem visits_of_shape?_eq_some {shape : Shape} {bounds : Box}
    (h : event.shape? = some (shape, bounds)) (scissor : Scissor) (s : RasterStats) (t : Trace) :
    (bounds.clip event.state.framebuffer scissor).pixels.foldl
        (Job.visit ⟨event.state, shape, bounds⟩) (s, t.memory)
      = (s + (event.clippedTo scissor).tally t,
          ((event.clippedTo scissor).render t).memory) := by
  have hshape : (event.clippedTo scissor).shape? = some (shape, bounds) := h
  rw [tally, render_eq_plotAll, job?, hshape]
  exact Job.foldl_visit ⟨(event.clippedTo scissor).state, shape,
    bounds.clip event.state.framebuffer scissor⟩ _ s t

/-- **A primitive drawn in two parts is drawn once.** -/
theorem draw_parts {first second : Scissor}
    (h : event.state.scissor.Splits first second ∨ event.state.scissor.Splits second first)
    (ha : event.state.framebuffer.Apart m event.pixels) (t t' : Trace) (ht : t.memory = m)
    (ht' : t'.memory = ((event.clippedTo first).render t).memory) :
    ((event.clippedTo second).render t').memory = (event.render t).memory
      ∧ (event.clippedTo first).tally t + (event.clippedTo second).tally t' = event.tally t := by
  cases hs : event.shape? with
  | none =>
    obtain ⟨hwhole, hrender⟩ := event.visits_of_shape?_eq_none hs t
    obtain ⟨hfirst, hrender₁⟩ := (event.clippedTo first).visits_of_shape?_eq_none hs t
    obtain ⟨hsecond, hrender₂⟩ := (event.clippedTo second).visits_of_shape?_eq_none hs t'
    rw [hwhole, hfirst, hsecond, hrender, hrender₂, ht', hrender₁]
    exact ⟨rfl, rfl⟩
  | some drawn =>
    obtain ⟨shape, bounds⟩ := drawn
    have hpixels : event.pixels
        = (bounds.clip event.state.framebuffer event.state.scissor).pixels := by
      rw [pixels, job?, hs]
      rfl
    have hperm : event.pixels.Perm
        ((bounds.clip event.state.framebuffer first).pixels
          ++ (bounds.clip event.state.framebuffer second).pixels) := by
      rw [hpixels]
      rcases h with h | h
      · exact h.pixels_perm bounds _
      · exact (h.pixels_perm bounds _).trans List.perm_append_comm
    have horder : event.pixels.foldl (Job.visit ⟨event.state, shape, bounds⟩) (0, t.memory) = _ :=
      Job.foldl_visit_perm hperm (ht ▸ ha)
    rw [List.foldl_append, visits_of_shape?_eq_some hs first, ← ht',
      visits_of_shape?_eq_some hs second, hpixels,
      visits_of_shape?_eq_some hs event.state.scissor, zero_add, zero_add] at horder
    obtain ⟨htally, hmemory⟩ := Prod.mk.inj horder
    exact ⟨hmemory.symm, htally.symm⟩

end DrawEvent

namespace Bench

variable {b : Bench}

/-- Between two times at rest a primitive is drawn and counted. -/
theorem Invariant.drawn (h : b.Invariant) {event : DrawEvent} {b' : Bench}
    (hidle : b.rasterizer.isBusy = false) (hd : b.Draws event b') :
    b'.Invariant ∧ b'.memory = (event.render ⟨[], b.memory⟩).memory
      ∧ b'.rasterizer.current.ofPixels = event.tally ⟨[], b.memory⟩ := by
  obtain ⟨during, rfl, hdone⟩ := hd
  obtain ⟨hkept, hsame⟩ := (h.draw event).moves during
  refine ⟨hkept, ?_, h.current_draw hidle hdone⟩
  rw [outcome_of_idle hdone, outcome_draw hidle event] at hsame
  exact congrArg Trace.memory hsame

/-- **A primitive drawn in two parts is drawn once.** A rasterizer at rest, after whatever has
happened before, draws a primitive of which no two pixels have a word in common; or else it draws it
twice, with the two parts of its scissor rectangle in turn, in this order or the other. Anything may
happen while it draws. When it has drawn, and it can draw all this, the memory is the same in both
cases, and the counters of pixels of the two parts add up to those of the whole. -/
theorem draw_splits (policy : ArbiterPolicy) (memory : Sdram) (before : List Call)
    (event : DrawEvent) (part part' : Scissor) :
    let b := (start policy memory).run before
    event.state.scissor.Splits part part' ∨ event.state.scissor.Splits part' part →
      event.state.framebuffer.Apart b.memory event.pixels → b.rasterizer.isBusy = false →
      (∃ whole half both, b.Draws event whole ∧ b.Draws (event.clippedTo part) half
        ∧ half.Draws (event.clippedTo part') both)
      ∧ ∀ whole half both, b.Draws event whole → b.Draws (event.clippedTo part) half →
        half.Draws (event.clippedTo part') both →
        both.memory = whole.memory
          ∧ (half.rasterizer.current + both.rasterizer.current).ofPixels
            = whole.rasterizer.current.ofPixels := by
  intro b hsplit hapart hidle
  have hb : b.Invariant := (start_invariant policy memory).run before
  constructor
  · obtain ⟨whole, hwhole⟩ := hb.exists_draws event
    obtain ⟨half, hhalf⟩ := hb.exists_draws (event.clippedTo part)
    obtain ⟨both, hboth⟩ := (hb.drawn hidle hhalf).1.exists_draws (event.clippedTo part')
    exact ⟨whole, half, both, hwhole, hhalf, hboth⟩
  · intro whole half both hwhole hhalf hboth
    obtain ⟨-, hmemory, hcounted⟩ := hb.drawn hidle hwhole
    obtain ⟨hb', hmemory₁, hcounted₁⟩ := hb.drawn hidle hhalf
    obtain ⟨-, -, hrest⟩ := hhalf
    obtain ⟨-, hmemory₂, hcounted₂⟩ := hb'.drawn hrest hboth
    obtain ⟨hsame, htally⟩ := DrawEvent.draw_parts hsplit hapart ⟨[], b.memory⟩ ⟨[], half.memory⟩
      rfl hmemory₁
    refine ⟨hmemory₂.trans (hsame.trans hmemory.symm), ?_⟩
    rw [RasterStats.ofPixels_add, hcounted₁, hcounted₂, htally, hcounted]

/-- A blended triangle with a depth test that hides one of its pixels, whole and in two parts: first
its last column, then the two columns to the left of it. Scanout reads in between. -/
theorem draw_splits_columns :
    let corner (x y : Int16) (z : UInt16) (color : UInt32) : Vertex :=
      { word := { x, y, z }, attributes := { color0 := .ofPacked color } }
    let mode : RenderMode :=
      { gouraud := true, colorWrite := true, depthWrite := true, depthTest := true
        depthCompare := .greater, blend := .add }
    let state : DrawState :=
      { mode, framebuffer := { depthBase := 1, widthLog2 := 2, heightLog2 := 1 }
        scissor := ⟨0, 0, 3, 2⟩ }
    let event : DrawEvent :=
      ⟨.triangle ⟨corner 0 0 5 0xFF102030, corner 40 0 9 0xFF405060, corner 0 20 7 0xFF708090⟩
        .order012, state⟩
    let during : List Move :=
      .read .display 0 2 :: .rasterizer :: (List.replicate 99 [.arbiter, .rasterizer]).flatten
    let b := (start .roundRobin ((Sdram.zeroed 24 1).write 17 8)).run []
    let whole := (b.draw event).moves during
    let half := (b.draw (event.clippedTo ⟨2, 0, 1, 2⟩)).moves during
    let both := (half.draw (event.clippedTo ⟨0, 0, 2, 2⟩)).moves during
    both.memory = whole.memory
      ∧ (half.rasterizer.current + both.rasterizer.current).ofPixels
        = whole.rasterizer.current.ofPixels
      ∧ whole.rasterizer.current.ofPixels
        = { tested := 6, covered := 4, written := 3, discardedDepth := 1 } := by
  intro corner mode state event during b whole half both
  have hsplit : state.scissor.Splits ⟨0, 0, 2, 2⟩ ⟨2, 0, 1, 2⟩ := .columns 0 0 2 1 2
  have hapart : state.framebuffer.Apart b.memory event.pixels :=
    Framebuffer.apart_of_nodup (by decide +kernel)
  have hwhole : b.Draws event whole := ⟨during, rfl, by decide +kernel⟩
  have hhalf : b.Draws (event.clippedTo ⟨2, 0, 1, 2⟩) half := ⟨during, rfl, by decide +kernel⟩
  have hboth : half.Draws (event.clippedTo ⟨0, 0, 2, 2⟩) both := ⟨during, rfl, by decide +kernel⟩
  have hcounted : whole.rasterizer.current.ofPixels
      = { tested := 6, covered := 4, written := 3, discardedDepth := 1 } := by decide +kernel
  -- from here on nothing is to be evaluated any more
  clear_value during
  obtain ⟨-, hsplits⟩ := draw_splits .roundRobin ((Sdram.zeroed 24 1).write 17 8) [] event
    ⟨2, 0, 1, 2⟩ ⟨0, 0, 2, 2⟩ (.inr hsplit) hapart rfl
  obtain ⟨hmemory, hcounters⟩ := hsplits whole half both hwhole hhalf hboth
  exact ⟨hmemory, hcounters, hcounted⟩

end Bench

end RasterGpu
