import Mathlib.Data.List.DropRight
import RasterGpu.RegisterFile

/-!
# Histories of a register file

A register file executes transactions, and in between cycles pass, values that were read ahead come
back, and it is reset. `RegisterFile.run` is what becomes of it.

What a history says can be told from the list of calls alone, without a register file: the calls
since the last reset (`sinceReset`), and the words last written to the registers since then
(`lastWritten`). A property of all histories is shown by `run_induction`, one call at a time, the
latest call last.
-/

namespace RasterGpu

namespace Register

/-- The word that a register holds after a reset, if it can be written and read back. -/
def resetWord : Register → UInt64
  | depthRange => 0xFFFF0000
  | stipple => 0xFFFFFFFFFFFFFFFF
  | scissor => 0xFFFFF00000
  | _ => 0

/-- Two registers have two addresses. -/
theorem address_inj {r r' : Register} : r.address = r'.address ↔ r = r' := by
  refine ⟨fun h => ?_, fun h => h ▸ rfl⟩
  have hfound := ofAddress?_address r
  rw [h, ofAddress?_address] at hfound
  exact (Option.some.inj hfound).symm

end Register

/-- An address that selects no register is none of a register. -/
theorem Register.ne_of_unassigned {a : Address} (h : ofAddress? a = none) (r : Register) :
    a ≠ r.address := by
  rintro rfl
  rw [ofAddress?_address] at h
  cases h

/-- A transaction is a read, or a write to a register, or a write to an address that selects none. -/
@[elab_as_elim]
theorem Transaction.byRegister {motive : Transaction → Prop}
    (read : ∀ address, motive (.read address))
    (write : ∀ (r : Register) (data : UInt64), motive (.write r.address data))
    (unassigned : ∀ address data, Register.ofAddress? address = none → motive (.write address data))
    (t : Transaction) : motive t := by
  cases t with
  | read address => exact read address
  | write address data =>
    cases hr : Register.ofAddress? address with
    | none => exact unassigned address data hr
    | some r =>
      obtain rfl := Register.address_of_ofAddress? hr
      exact write r data

namespace RegisterFile

/-! ## Transactions -/

/-- A read counts and returns what the address reads as; one of the memory window's data moves the
window on. -/
theorem process_read (regs : RegisterFile) (address : Address) :
    let counted : RegisterFile := { regs with stats.reads := regs.stats.reads + 1 }
    (regs.process (.read address)).1
        = (if address = Register.windowData.address then counted.moveWindow (regs.window + 1)
          else counted)
      ∧ (regs.process (.read address)).2.response = some (regs.peek address)
      ∧ (regs.process (.read address)).2.draw = none := by
  intro counted
  unfold process
  dsimp only
  split <;> exact ⟨rfl, rfl, rfl⟩

/-- A write to a register is counted and executed. -/
theorem process_write (regs : RegisterFile) (r : Register) (data : UInt64) :
    regs.process (.write r.address data)
      = writeRegister { regs with stats.writes := regs.stats.writes + 1 } r data := by
  unfold process
  dsimp only
  rw [Register.ofAddress?_address]

/-- A write to no register is counted and ignored. -/
theorem process_unassigned (regs : RegisterFile) {address : Address}
    (h : Register.ofAddress? address = none) (data : UInt64) :
    regs.process (.write address data)
      = ({ regs with
          stats.writes := regs.stats.writes + 1
          stats.ignoredWrites := regs.stats.ignoredWrites + 1 }, {}) := by
  unfold process
  dsimp only
  rw [h]

/-! ## Calls -/

/-- What can happen to a register file. -/
inductive Call where
  /-- A transaction is executed. -/
  | process (t : Transaction)
  /-- A cycle passes. -/
  | clock (vsyncEdge : Bool)
  /-- A value that was read ahead comes back. -/
  | completeReadAhead (value : UInt64)
  /-- It is reset. -/
  | reset
  deriving DecidableEq, Repr

/-- The register file after a call. -/
def call (regs : RegisterFile) : Call → RegisterFile
  | .process t => (regs.process t).1
  | .clock vsyncEdge => regs.clock vsyncEdge
  | .completeReadAhead value => regs.completeReadAhead value
  | .reset => regs.reset

/-- The register file after calls. -/
def run (regs : RegisterFile) (calls : List Call) : RegisterFile := calls.foldl call regs

/-- The last call comes last. -/
theorem run_concat (regs : RegisterFile) (calls : List Call) (c : Call) :
    regs.run (calls ++ [c]) = (regs.run calls).call c :=
  List.foldl_concat _ _ _ _

/-- What holds of a new register file, and after a call if it held before, holds after any calls. -/
theorem run_induction {policy : SwapPolicy} (P : List Call → RegisterFile → Prop)
    (start : P [] { policy })
    (step : ∀ calls regs c, P calls regs → P (calls ++ [c]) (regs.call c)) (calls : List Call) :
    P calls (run { policy } calls) := by
  induction calls using List.reverseRecOn with
  | nil => exact start
  | append_singleton calls c ih =>
    rw [run_concat]
    exact step calls _ c ih

/-! ## The words last written -/

variable (calls : List Call) {c : Call}

/-- The calls since the last reset. -/
def sinceReset : List Call := calls.rtakeWhile (· != .reset)

/-- Nothing was called since a reset. -/
@[simp] theorem sinceReset_concat_reset : sinceReset (calls ++ [.reset]) = [] :=
  List.rtakeWhile_concat_neg _ _ _ (by simp)

/-- Every other call is one of those since the reset. -/
theorem sinceReset_concat (h : c ≠ .reset) :
    sinceReset (calls ++ [c]) = sinceReset calls ++ [c] :=
  List.rtakeWhile_concat_pos _ _ _ (bne_iff_ne.2 h)

/-- The word that a call writes to a register. -/
def Call.written? (r : Register) : Call → Option UInt64
  | process (.write address data) => if address = r.address then some data else none
  | _ => none

/-- A write to an address that selects no register writes to none. -/
theorem Call.written?_of_unassigned {a : Address} (h : Register.ofAddress? a = none) (data : UInt64)
    (r : Register) : (process (.write a data)).written? r = none :=
  if_neg (Register.ne_of_unassigned h r)

/-- The word last written to a register since the reset, or its word at reset. -/
def lastWritten (r : Register) : UInt64 :=
  ((sinceReset calls).filterMap (Call.written? r)).getLast?.getD r.resetWord

/-- After a reset registers hold their words at reset. -/
theorem lastWritten_concat_reset : lastWritten (calls ++ [.reset]) = Register.resetWord := by
  funext r
  rw [lastWritten, sinceReset_concat_reset]
  rfl

/-- Every other call writes a word to a register, or leaves the word that it holds. -/
theorem lastWritten_concat (h : c ≠ .reset) (r : Register) :
    lastWritten (calls ++ [c]) r = (c.written? r).getD (lastWritten calls r) := by
  rw [lastWritten, sinceReset_concat calls h, List.filterMap_append, List.getLast?_append]
  cases hw : c.written? r with
  | none => simp [hw, lastWritten]
  | some data => simp [hw]

/-- A write to a register changes that register. -/
theorem lastWritten_concat_write (r : Register) (data : UInt64) :
    lastWritten (calls ++ [.process (.write r.address data)])
      = Function.update (lastWritten calls) r data := by
  funext r'
  rw [lastWritten_concat calls (by simp)]
  by_cases h : r' = r
  · subst h
    simp [Call.written?]
  · have hne : r.address ≠ r'.address := fun heq => h (Register.address_inj.1 heq).symm
    simp [Call.written?, hne, Function.update_of_ne h]

/-- A call that is no write to a register changes none. -/
theorem lastWritten_concat_of_silent (h : c ≠ .reset) (hc : ∀ r, c.written? r = none) :
    lastWritten (calls ++ [c]) = lastWritten calls := by
  funext r
  rw [lastWritten_concat calls h, hc r]
  rfl

end RegisterFile

end RasterGpu
