import RasterGpu.Proofs.Device.Program

/-!
# Programs see the contents of memory only

Two memories with the same words may differ in their latency. No program notices: from the same
words `DrawEvent.apply` makes the same words (`DrawEvent.apply_congr`), and so does a stream of
transactions, which also gives the same answers (`Sequential.Same.run`).

Drawing is put together from reads, writes, tests and loops, and `Trace.Respects` holds of each of
these if it holds of the parts.
-/

namespace RasterGpu

/-! ## Reading and writing -/

namespace Sdram

variable {m m' : Sdram}

/-- The same words read the same. -/
theorem read_congr (h : m.words = m'.words) (address : Nat) : m.read address = m'.read address := by
  cases m
  cases m'
  subst h
  rfl

/-- The same word written to the same words. -/
theorem write_congr (h : m.words = m'.words) (address : Nat) (value : UInt16) :
    (m.write address value).words = (m'.write address value).words := by
  cases m
  cases m'
  subst h
  rfl

/-- The same burst written to the same words. -/
theorem store_congr (h : m.words = m'.words) (address : Nat) (data : List UInt16) :
    (m.store address data).words = (m'.store address data).words := by
  induction data generalizing m m' address with
  | nil => exact h
  | cons value rest ih =>
    rw [store_cons, store_cons]
    exact ih (write_congr h _ _) _

end Sdram

/-! ## Drawing -/

namespace Trace

/-- From the same words the program makes the same words. -/
def Respects (f : Trace → Trace) : Prop :=
  ∀ t t' : Trace, t.memory.words = t'.memory.words → (f t).memory.words = (f t').memory.words

variable {f g : Trace → Trace}

/-- A program that does nothing. -/
theorem Respects.id : Respects fun t => t :=
  fun _ _ h => h

/-- A program after another. -/
theorem Respects.comp (hf : Respects f) (hg : Respects g) : Respects fun t => f (g t) :=
  fun _ _ h => hf _ _ (hg _ _ h)

/-- One of two programs. -/
theorem Respects.ite {p : Prop} [Decidable p] (hf : Respects f) (hg : Respects g) :
    Respects fun t => if p then f t else g t := by
  intro t t' h
  dsimp only
  split
  · exact hf t t' h
  · exact hg t t' h

/-- A program that writes a word. -/
theorem Respects.write (c : Client) (address : Nat) (word : UInt16) :
    Respects fun t => t.write c address word :=
  fun _ _ h => Sdram.write_congr h address word

/-- A program that goes on with a word that it reads. -/
theorem Respects.read {k : UInt16 → Trace → Trace} (hk : ∀ word, Respects (k word)) (c : Client)
    (address : Nat) : Respects fun t => k (t.read c address).1 (t.read c address).2 := by
  intro t t' h
  have hword : (t.read c address).1 = (t'.read c address).1 := Sdram.read_congr h address
  dsimp only
  rw [hword]
  exact hk _ _ _ h

/-- A loop. -/
theorem Respects.foldl {α : Type} {body : Trace → α → Trace}
    (hbody : ∀ a, Respects fun t => body t a) (l : List α) : Respects fun t => l.foldl body t := by
  induction l with
  | nil => exact .id
  | cons a l ih => exact fun t t' h => ih _ _ (hbody a t t' h)

end Trace

namespace Job

open Trace

variable (job : Job) (px py : Int) (f : Fragment)

/-- Writing the depth. -/
theorem putDepth_respects : Respects (job.putDepth px py f) :=
  .ite (.write _ _ _) .id

/-- Writing the color. -/
theorem putColor_respects (destination : Rgba) : Respects (job.putColor px py f destination) :=
  .write _ _ _

/-- Writing a fragment. -/
theorem put_respects : Respects (job.put px py f) :=
  .ite (job.putDepth_respects px py f)
    (.ite ((job.putDepth_respects px py f).comp (job.putColor_respects px py f .zero))
      (.read (fun stored => (job.putDepth_respects px py f).comp
        (job.putColor_respects px py f (.ofRgb565 stored))) _ _))

/-- Writing a fragment if its depth compares as it should. -/
theorem putIfVisible_respects (stored : UInt16) : Respects (job.putIfVisible px py f stored) :=
  .ite (job.put_respects px py f) .id

/-- Testing and writing a fragment. -/
theorem plotFragment_respects : Respects (job.plotFragment px py f) :=
  .ite .id (.ite .id (.ite
    (.read (fun stored => job.putIfVisible_respects px py f stored) _ _)
    (job.put_respects px py f)))

/-- Drawing a pixel. -/
theorem plot_respects : Respects (job.plot px py) :=
  .ite .id (.ite .id (job.plotFragment_respects px py _))

/-- Drawing a box. -/
theorem render_respects : Respects job.render :=
  .foldl (fun py => .foldl (fun px => job.plot_respects px py) _) _

end Job

/-- **Drawing makes the same words from the same words.** -/
theorem DrawEvent.apply_congr (event : DrawEvent) {m m' : Sdram} (h : m.words = m'.words) :
    (event.apply m).words = (event.apply m').words := by
  unfold DrawEvent.apply DrawEvent.render
  cases event.setup with
  | culled => exact h
  | nothing => exact h
  | job job => exact job.render_respects ⟨[], m⟩ ⟨[], m'⟩ h

/-! ## Streams -/

/-- Memory commands make the same words from the same words. -/
theorem MemoryCommand.apply_congr (c : MemoryCommand) {m m' : Sdram} (h : m.words = m'.words) :
    (c.apply m).words = (c.apply m').words := by
  cases c with
  | store dword value => exact Sdram.store_congr h _ _
  | readAhead dword => exact h
  | timestamp address cycles => exact Sdram.store_congr h _ _
  | fill fill =>
    have hrange : ∀ {m : Sdram}, fill.apply m = m.store (surfaceStart fill.base)
        (.replicate fill.count fill.value) := (Sdram.store_replicate _ _ _ _).symm
    change (fill.apply m).words = (fill.apply m').words
    rw [hrange, hrange]
    exact Sdram.store_congr h _ _

namespace Sequential

/-- Two states of the program that differ in the latency of their memories at most. -/
structure Same (s s' : Sequential) : Prop where
  /-- The register files are the same. -/
  registers : s.registers = s'.registers
  /-- The memories have the same words. -/
  words : s.memory.words = s'.memory.words
  /-- The answers are the same. -/
  responses : s.responses = s'.responses

/-- A transaction. -/
theorem Same.step {s s' : Sequential} (h : s.Same s') (t : Transaction) :
    (s.step t).Same (s'.step t) := by
  have hcommands : ∀ (commands : List MemoryCommand) {m m' : Sdram}, m.words = m'.words →
      (commands.foldl MemoryCommand.apply m).words
        = (commands.foldl MemoryCommand.apply m').words := by
    intro commands
    induction commands with
    | nil => exact fun hm => hm
    | cons c commands ih => exact fun hm => ih (c.apply_congr hm)
  refine ⟨?_, ?_, ?_⟩
  · rw [Sequential.step, Sequential.step, h.registers]
  · rw [memory_step, memory_step, h.registers]
    cases (s'.registers.process t).2.draw with
    | none => exact hcommands _ h.words
    | some event => exact event.apply_congr (hcommands _ h.words)
  · rw [responses_step, responses_step, h.registers, h.responses]

/-- **A stream makes the same words and gives the same answers from the same words.** -/
theorem Same.run {s s' : Sequential} (h : s.Same s') (stream : List Transaction) :
    (s.run stream).Same (s'.run stream) := by
  induction stream generalizing s s' with
  | nil => exact h
  | cons t stream ih => exact ih (h.step t)

end Sequential

end RasterGpu
