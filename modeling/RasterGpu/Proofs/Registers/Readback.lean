import RasterGpu.Proofs.Registers.History

/-!
# What the registers read as

A register file keeps a register of drawing state twice: the word that was written, which a read
returns, and what it stands for, decoded at the write. Writes go to one register each, resets to all
of them, and the surface on display changes at a vertical sync only; that the two never drift apart
is to be shown of every history.

`RegisterFile.Holds` says that both are those of a given word per register. A write to a register
holds the new word afterwards (`Holds.write`), everything else but a reset the words from before
(`Holds.process_read`, `Holds.clock`, `Holds.completeReadAhead`), so a register file holds the
words last written (`holds_run`). The registers of the memory window are different: an access to its
data moves its pointer (`window_run`), and what it reads as comes from memory.
-/

namespace RasterGpu

namespace Register

/-- The register reads back as the word that was written to it. -/
def isKept : Register → Bool
  | color | texCoord | areaFactors | texture0 | texture1 | combiner | constantColor | renderMode
  | depthRange | stipple | framebuffer | display | scissor => true
  | _ => false

/-- The register belongs to the memory window. -/
def isWindow : Register → Bool
  | windowAddress | windowData => true
  | _ => false

/-- The register reads as something: not always as zero. -/
def isReadable (r : Register) : Bool :=
  r.isKept || r.isWindow || r == timestamp || r == identity

end Register

/-- The transaction moves the pointer of the memory window: it writes to it, or accesses the data
that it points to. -/
def Transaction.movesWindow : Transaction → Bool
  | .write address _ =>
    address == Register.windowAddress.address || address == Register.windowData.address
  | .read address => address == Register.windowData.address

/-- The drawing state that is stored in the words of the registers. -/
def DrawState.ofWords (word : Register → UInt64) : DrawState where
  mode := .ofWord (word .renderMode)
  depthRange := .ofWord (word .depthRange)
  framebuffer := .ofWord (word .framebuffer)
  scissor := .ofWord (word .scissor)
  stipple := ⟨word .stipple⟩
  area := .ofWord (word .areaFactors)

/-- The drawing state is stored in registers that are kept. -/
theorem DrawState.ofWords_congr {word word' : Register → UInt64}
    (h : ∀ r : Register, r.isKept = true → word r = word' r) : ofWords word = ofWords word' := by
  simp only [ofWords, h .renderMode rfl, h .depthRange rfl, h .framebuffer rfl, h .scissor rfl,
    h .stipple rfl, h .areaFactors rfl]

namespace RegisterFile

variable {regs : RegisterFile} {word : Register → UInt64}

/-! ## One write -/

/-- A register that is written and kept reads back as the word written. -/
theorem peek_writeRegister_self (regs : RegisterFile) {r : Register} (hr : r.isKept = true)
    (data : UInt64) : (regs.writeRegister r data).1.peek r.address = data := by
  cases r <;> first | rfl | cases hr

/-- A write to another register does not change what a register reads as, unless both belong to the
memory window. -/
theorem peek_writeRegister_of_ne (regs : RegisterFile) {r r' : Register} (hne : r' ≠ r)
    (hwindow : (r'.isWindow && r.isWindow) = false) (data : UInt64) :
    (regs.writeRegister r data).1.peek r'.address = regs.peek r'.address := by
  cases r' <;> cases r <;> first | rfl | exact absurd rfl hne | cases hwindow

/-- An address that selects no register, or one that cannot be read, reads as zero. -/
theorem peek_of_not_readable (regs : RegisterFile) {a : Address}
    (ha : ∀ r : Register, r.isReadable = true → a ≠ r.address) : regs.peek a = 0 := by
  unfold peek
  cases hr : Register.ofAddress? a with
  | none => rfl
  | some r =>
    have haddress := Register.address_of_ofAddress? hr
    cases r <;> first | rfl | exact absurd haddress.symm (ha _ rfl)

/-! ## Words held -/

/-- The registers hold these words: they read back as them, and what a vertex or a primitive takes
is what they stand for. -/
structure Holds (regs : RegisterFile) (word : Register → UInt64) : Prop where
  /-- The registers read back as the words. -/
  peek : ∀ r : Register, r.isKept = true → regs.peek r.address = word r
  /-- The next vertex takes the attributes stored in them. -/
  attributes : regs.attributes = .ofWords (word .color) (word .texCoord)
  /-- A primitive takes the drawing state stored in them. -/
  drawState : regs.drawState = .ofWords word
  /-- The surface staged, or else on display, is the one stored in them. -/
  display : regs.staged.getD regs.display = .ofWord (word .display)

/-- After a reset the registers hold their words at reset. -/
theorem holds_reset (policy : SwapPolicy) : Holds { policy } Register.resetWord where
  peek r hr := by cases r <;> first | rfl | cases hr
  attributes := rfl
  drawState := rfl
  display := rfl

/-- **A write to a register changes the word that it holds**, and no other. -/
theorem Holds.write (h : regs.Holds word) (r : Register) (data : UInt64) :
    (regs.writeRegister r data).1.Holds (Function.update word r data) where
  peek r' hr' := by
    by_cases hr : r' = r
    · subst hr
      rw [Function.update_self, regs.peek_writeRegister_self hr']
    · have hwindow : (r'.isWindow && r.isWindow) = false := by cases r' <;> first | rfl | cases hr'
      rw [Function.update_of_ne hr, regs.peek_writeRegister_of_ne hr hwindow]
      exact h.peek r' hr'
  attributes := by
    have hattributes := h.attributes
    cases r
    case color => exact congrArg (·.setColors data) hattributes
    case texCoord => exact congrArg (·.setTexCoords data) hattributes
    all_goals exact hattributes
  drawState := by
    have hstate := h.drawState
    cases r
    case renderMode => exact congrArg (fun s => { s with mode := .ofWord data }) hstate
    case depthRange => exact congrArg (fun s => { s with depthRange := .ofWord data }) hstate
    case framebuffer => exact congrArg (fun s => { s with framebuffer := .ofWord data }) hstate
    case scissor => exact congrArg (fun s => { s with scissor := .ofWord data }) hstate
    case stipple => exact congrArg (fun s => { s with stipple := ⟨data⟩ }) hstate
    case areaFactors => exact congrArg (fun s => { s with area := .ofWord data }) hstate
    all_goals exact hstate
  display := by
    have hdisplay := h.display
    cases r
    case display => rfl
    all_goals exact hdisplay

/-- A register file with the same words, attributes, drawing state and surface holds the same. -/
theorem Holds.congr {regs' : RegisterFile} (h : regs.Holds word) (hwords : regs'.words = regs.words)
    (hattributes : regs'.attributes = regs.attributes) (hstate : regs'.drawState = regs.drawState)
    (hdisplay : regs'.staged.getD regs'.display = regs.staged.getD regs.display) :
    regs'.Holds word where
  peek r hr := by
    rw [← h.peek r hr]
    simp only [RegisterFile.peek, Register.ofAddress?_address, hwords]
    cases r <;> first | rfl | cases hr
  attributes := hattributes.trans h.attributes
  drawState := hstate.trans h.drawState
  display := hdisplay.trans h.display

/-- A transaction that writes to a register changes the word that it holds. -/
theorem Holds.process_write (h : regs.Holds word) (r : Register) (data : UInt64) :
    (regs.process (.write r.address data)).1.Holds (Function.update word r data) := by
  have hcounted : Holds { regs with stats.writes := regs.stats.writes + 1 } word :=
    h.congr rfl rfl rfl rfl
  rw [RegisterFile.process_write]
  exact hcounted.write r data

/-- A read changes no word. -/
theorem Holds.process_read (h : regs.Holds word) (address : Address) :
    (regs.process (.read address)).1.Holds word := by
  rw [(regs.process_read address).1]
  split
  · exact h.congr rfl rfl rfl rfl
  · exact h.congr rfl rfl rfl rfl

/-- A cycle changes no word, and a staged surface that goes on display is still the one stored. -/
theorem Holds.clock (h : regs.Holds word) (vsyncEdge : Bool) : (regs.clock vsyncEdge).Holds word := by
  unfold RegisterFile.clock
  split
  · exact h.congr rfl rfl rfl rfl
  · exact h.congr rfl rfl rfl rfl

/-- A value that comes back changes no word. -/
theorem Holds.completeReadAhead (h : regs.Holds word) (value : UInt64) :
    (regs.completeReadAhead value).Holds word := by
  unfold RegisterFile.completeReadAhead
  split
  · exact h.congr rfl rfl rfl rfl
  · exact h.congr rfl rfl rfl rfl

/-- A register file that holds the words last written does so after a call. -/
theorem Holds.call {calls : List Call} (h : regs.Holds (lastWritten calls)) (c : Call) :
    (regs.call c).Holds (lastWritten (calls ++ [c])) := by
  cases c with
  | reset =>
    rw [lastWritten_concat_reset]
    exact holds_reset regs.policy
  | clock vsyncEdge =>
    rw [lastWritten_concat_of_silent calls (by simp) fun _ => rfl]
    exact h.clock vsyncEdge
  | completeReadAhead value =>
    rw [lastWritten_concat_of_silent calls (by simp) fun _ => rfl]
    exact h.completeReadAhead value
  | process t =>
    induction t using Transaction.byRegister with
    | read address =>
      rw [lastWritten_concat_of_silent calls (by simp) fun _ => rfl]
      exact h.process_read address
    | write r data =>
      rw [lastWritten_concat_write]
      exact h.process_write r data
    | unassigned address data hnone =>
      rw [lastWritten_concat_of_silent calls (by simp) (Call.written?_of_unassigned hnone data),
        RegisterFile.call, process_unassigned regs hnone]
      exact h.congr rfl rfl rfl rfl

/-- **A register file holds the words last written**, whatever happened to it. -/
theorem holds_run (policy : SwapPolicy) (calls : List Call) :
    (run { policy } calls).Holds (lastWritten calls) :=
  run_induction (fun calls regs => regs.Holds (lastWritten calls)) (holds_reset policy)
    (fun _ _ c h => h.call c) calls

/-! ## The memory window -/

/-- Where the pointer of the memory window is after a call. -/
def Call.movePointer (pointer : Nat) : Call → Nat
  | process (.write address data) =>
    if address = Register.windowAddress.address then data.toNat % windowDwords
    else if address = Register.windowData.address then (pointer + 1) % windowDwords
    else pointer
  | process (.read address) =>
    if address = Register.windowData.address then (pointer + 1) % windowDwords else pointer
  | reset => 0
  | clock _ | completeReadAhead _ => pointer

/-- The pointer of the memory window after a call. -/
theorem window_call (regs : RegisterFile) (c : Call) :
    (regs.call c).window = Call.movePointer regs.window c := by
  cases c with
  | reset => rfl
  | clock vsyncEdge =>
    simp only [RegisterFile.call, RegisterFile.clock]
    split <;> rfl
  | completeReadAhead value =>
    simp only [RegisterFile.call, RegisterFile.completeReadAhead]
    split <;> rfl
  | process t =>
    induction t using Transaction.byRegister with
    | read address =>
      rw [RegisterFile.call, (regs.process_read address).1, Call.movePointer]
      split <;> rfl
    | write r data =>
      rw [RegisterFile.call, process_write]
      cases r <;> rfl
    | unassigned address data hnone =>
      have hne (r : Register) : address ≠ r.address := Register.ne_of_unassigned hnone r
      simp [RegisterFile.call, process_unassigned regs hnone, Call.movePointer, hne]

/-- The pointer of the memory window after any calls. -/
theorem window_run (policy : SwapPolicy) (calls : List Call) :
    (run { policy } calls).window = calls.foldl Call.movePointer 0 := by
  refine run_induction (fun calls regs => regs.window = calls.foldl Call.movePointer 0) rfl
    (fun calls regs c h => ?_) calls
  rw [window_call, h, List.foldl_concat]

/-- The pointer is a dword of the window. -/
theorem window_lt (policy : SwapPolicy) (calls : List Call) :
    (run { policy } calls).window < windowDwords := by
  refine run_induction (fun _ regs => regs.window < windowDwords) ?_ (fun _ regs c h => ?_) calls
  · show 0 < windowDwords
    decide
  have hmod (n : Nat) : n % windowDwords < windowDwords := Nat.mod_lt _ (by decide)
  rw [window_call]
  unfold Call.movePointer
  split
  · split
    · exact hmod _
    · split
      · exact hmod _
      · exact h
  · split
    · exact hmod _
    · exact h
  · decide
  · exact h
  · exact h

/-! ## What transactions leave as it is -/

/-- The other registers do not show where the memory window is. -/
theorem peek_moveWindow (regs : RegisterFile) {r : Register} (hr : r.isWindow = false)
    (dword : Nat) : (regs.moveWindow dword).peek r.address = regs.peek r.address := by
  cases r <;> first | rfl | cases hr

/-- **A transaction changes what an address reads as only if it writes to it**, or moves the memory
window and the address belongs to the window. -/
theorem peek_process (regs : RegisterFile) {t : Transaction} {a : Address}
    (hown : ∀ data, t ≠ .write a data)
    (hwindow : t.movesWindow = true →
      a ≠ Register.windowAddress.address ∧ a ≠ Register.windowData.address) :
    (regs.process t).1.peek a = regs.peek a := by
  cases ha : Register.ofAddress? a with
  | none =>
    have hzero (regs : RegisterFile) : regs.peek a = 0 := by
      unfold peek
      rw [ha]
    rw [hzero, hzero]
  | some r =>
    obtain rfl := Register.address_of_ofAddress? ha
    have hr (hmoves : t.movesWindow = true) : r.isWindow = false := by
      obtain ⟨haddress, hdata⟩ := hwindow hmoves
      cases r <;> first | rfl | exact absurd rfl haddress | exact absurd rfl hdata
    induction t using Transaction.byRegister with
    | read address =>
      rw [(regs.process_read address).1]
      split
      · rename_i heq
        exact peek_moveWindow _ (hr (beq_iff_eq.2 heq)) _
      · rfl
    | write r' data =>
      have hne : r ≠ r' := by
        rintro rfl
        exact hown data rfl
      have hseparate : (r.isWindow && r'.isWindow) = false := by
        cases r' <;> first | exact Bool.and_false _ | rw [hr rfl, Bool.false_and]
      rw [process_write]
      exact peek_writeRegister_of_ne _ hne hseparate data
    | unassigned address data hnone =>
      rw [process_unassigned regs hnone]
      rfl

/-- A transaction that moves the memory window asks for the value of its dword, and until that has
come back the data of the window reads as zero. -/
theorem peek_windowData_of_moves (regs : RegisterFile) {t : Transaction}
    (ht : t.movesWindow = true) : (regs.process t).1.peek Register.windowData.address = 0 := by
  cases t with
  | read address =>
    obtain rfl := beq_iff_eq.1 ht
    rfl
  | write address data =>
    rcases (Bool.or_eq_true_iff.1 ht).imp beq_iff_eq.1 beq_iff_eq.1 with rfl | rfl <;> rfl

/-- A primitive takes the drawing state from before its kick. -/
theorem state_of_draw {t : Transaction} {event : DrawEvent}
    (h : (regs.process t).2.draw = some event) : event.state = regs.drawState := by
  induction t using Transaction.byRegister with
  | read address =>
    rw [(regs.process_read address).2.2] at h
    cases h
  | write r data =>
    rw [process_write] at h
    cases r <;> cases h <;> rfl
  | unassigned address data hnone =>
    rw [process_unassigned regs hnone] at h
    cases h

/-! ## Agreement -/

/-- **Readback, drawing state and primitives agree**, whatever happened to a register file. A read
returns what the address reads as. A register that is kept reads back as the whole word last written
to it since the reset, or as its word at reset. The drawing state, and that of any primitive kicked,
is the one stored in these words, the next vertex takes the attributes stored in them, and the
surface staged, or else on display, is the one stored in them. The pointer of the memory window
reads as the dword that the window is at, the identity is constant, and all other addresses read as
zero, the data of the memory window and the timestamp apart. A transaction that does not write to an
address leaves what it reads as, except that one that moves the memory window changes the pointer,
and leaves nothing to be read in the window until the dword has come from memory. -/
theorem readback_agrees (policy : SwapPolicy) (calls : List Call) :
    let regs := run { policy } calls
    let word (r : Register) := regs.peek r.address
    (∀ a, (regs.process (.read a)).2.response = some (regs.peek a))
      ∧ (∀ r : Register, r.isKept = true → word r = lastWritten calls r)
      ∧ regs.drawState = .ofWords word
      ∧ (∀ t event, (regs.process t).2.draw = some event → event.state = .ofWords word)
      ∧ regs.attributes = .ofWords (word .color) (word .texCoord)
      ∧ regs.staged.getD regs.display = .ofWord (word .display)
      ∧ (word .windowAddress).toNat = regs.window
      ∧ regs.window < windowDwords
      ∧ regs.window = calls.foldl Call.movePointer 0
      ∧ word .identity = deviceIdentity
      ∧ (∀ a, (∀ r : Register, r.isReadable = true → a ≠ r.address) → regs.peek a = 0)
      ∧ (∀ t a, (∀ data, t ≠ .write a data) →
        (t.movesWindow = true →
          a ≠ Register.windowAddress.address ∧ a ≠ Register.windowData.address) →
        (regs.process t).1.peek a = regs.peek a)
      ∧ ∀ t, t.movesWindow = true →
        (regs.process t).1.peek Register.windowData.address = 0 := by
  intro regs word
  have hholds : regs.Holds (lastWritten calls) := holds_run policy calls
  have hword (r : Register) (hr : r.isKept = true) : word r = lastWritten calls r := hholds.peek r hr
  have hstate : regs.drawState = .ofWords word :=
    hholds.drawState.trans (DrawState.ofWords_congr hword).symm
  have hlt : regs.window < windowDwords := window_lt policy calls
  have hpointer : (word .windowAddress).toNat = regs.window := by
    show (UInt64.ofNat regs.window).toNat = _
    rw [UInt64.toNat_ofNat']
    exact Nat.mod_eq_of_lt (Nat.lt_trans hlt (by decide))
  refine ⟨fun a => (regs.process_read a).2.1, hword, hstate, fun t event h => ?_, ?_, ?_, hpointer,
    hlt, window_run policy calls, rfl, fun a => regs.peek_of_not_readable,
    fun t a hown hwindow => regs.peek_process hown hwindow,
    fun t ht => regs.peek_windowData_of_moves ht⟩
  · exact (state_of_draw h).trans hstate
  · rw [hword .color rfl, hword .texCoord rfl]
    exact hholds.attributes
  · rw [hword .display rfl]
    exact hholds.display

/-- A write to the data of the memory window moves its pointer, which is in another register: it
reads as five, and after the write as six. -/
theorem data_write_moves_pointer :
    let regs := run {} [.process (.write Register.windowAddress.address 5)]
    let t : Transaction := .write Register.windowData.address 1
    (∀ data, t ≠ .write Register.windowAddress.address data)
      ∧ regs.peek Register.windowAddress.address = 5
      ∧ (regs.process t).1.peek Register.windowAddress.address = 6 := by
  refine ⟨fun data h => ?_, by decide, by decide⟩
  have haddress := (Transaction.write.inj h).1
  exact absurd haddress (by decide)

end RegisterFile

end RasterGpu
