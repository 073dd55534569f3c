import RasterGpu.Proofs.Device.Frames

/-!
# Budgets

A host that waits gives the device a budget of cycles. How many of them are spent is exact, and the
same for whatever it waits for: those up to the first cycle after which the condition holds
(`Gpu.firstWithin`), if there is one within the budget.

If there is none, a run that waits for the device to be idle has spent the budget. A transaction
that is submitted costs one cycle more: it is offered again after the last cycle of the budget, and
when it is refused even then, another cycle follows, after which it is not offered. Nobody looks at
what that cycle has brought (`Gpu.submit_one_cycle_over`).

* `Gpu.refuse` enters refusals in the counter of the command queue. The counter is all that an offer
  to a full queue leaves behind, and no cycle depends on it (`next_refuse`).
* `runUntil_eq_firstWithin` and `offerUntilTaken_eq_firstWithin` are the two loops in closed form.
* `Gpu.budgets_spent` is the theorem for the calls that a host makes.
-/

namespace RasterGpu

namespace Gpu

variable {g : Gpu} {done : Gpu → Bool} {n budget retries : Nat}

/-! ## The first cycle -/

/-- The number of cycles after which a condition holds for the first time, if it does within the
budget. -/
def firstWithin (done : Gpu → Bool) (budget : Nat) (g : Gpu) : Option Nat :=
  (List.range (budget + 1)).find? fun n => done (g.run n)

/-- It is the least number. -/
theorem firstWithin_eq_some_iff : firstWithin done budget g = some n ↔
    n ≤ budget ∧ done (g.run n) = true ∧ ∀ k < n, done (g.run k) = false := by
  simp only [firstWithin, List.find?_range_eq_some, List.mem_range, Nat.lt_succ_iff,
    Bool.not_eq_true']
  tauto

/-- There is none if the condition does not hold within the budget. -/
theorem firstWithin_eq_none_iff :
    firstWithin done budget g = none ↔ ∀ k ≤ budget, done (g.run k) = false := by
  simp only [firstWithin, List.find?_range_eq_none, Nat.lt_succ_iff, Bool.not_eq_true']

/-- A run with a budget spends all of it if the condition does not hold within it. -/
theorem runUntil_of_never (hnever : ∀ k ≤ budget, done (g.run k) = false) :
    runUntil done budget g = (g.run budget, false) := by
  have hnow : done g = false := hnever 0 (Nat.zero_le budget)
  induction budget generalizing g with
  | zero => rw [runUntil, hnow, run]
  | succ budget ih =>
    have hlater : ∀ k ≤ budget, done (g.next.run k) = false := fun k hk =>
      hnever (k + 1) (Nat.succ_le_succ hk)
    rw [runUntil, hnow, if_neg Bool.false_ne_true, run]
    exact ih hlater (hlater 0 (Nat.zero_le budget))

/-- **A run with a budget ends when the condition holds for the first time**, and if it does not,
when the budget is spent. -/
theorem runUntil_eq_firstWithin (done : Gpu → Bool) (budget : Nat) (g : Gpu) :
    runUntil done budget g
      = (firstWithin done budget g).elim (g.run budget, false) fun n => (g.run n, true) := by
  cases hfirst : firstWithin done budget g with
  | none =>
    rw [firstWithin_eq_none_iff] at hfirst
    exact runUntil_of_never hfirst
  | some n =>
    obtain ⟨hle, hdone, hbefore⟩ := firstWithin_eq_some_iff.1 hfirst
    exact runUntil_eq hdone hbefore hle

/-! ## Offers -/

/-- The command queue has room for a transaction. -/
def hasRoom (g : Gpu) : Bool :=
  !g.commands.isFull

/-- A device whose command queue has refused `n` transactions more. -/
def refuse (g : Gpu) (n : Nat) : Gpu :=
  { g with commands := { g.commands with rejected := g.commands.rejected + n } }

/-- A device whose command queue has taken a transaction. -/
def accept (g : Gpu) (t : Transaction) : Gpu :=
  { g with
    commands := { g.commands with
      entries := g.commands.entries.push t, accepted := g.commands.accepted + 1 } }

/-- Refusals are counted on. -/
theorem refuse_refuse (g : Gpu) (m n : Nat) : (g.refuse m).refuse n = g.refuse (n + m) := by
  simp only [refuse, Nat.add_assoc, Nat.add_comm m n]

/-- Without refusals the counter stays. -/
theorem refuse_zero (g : Gpu) : g.refuse 0 = g := rfl

/-- A full queue refuses what it is offered, and does nothing else. -/
theorem offer_of_full (h : g.hasRoom = false) (t : Transaction) :
    g.offer t = (g.refuse 1, false) := by
  rw [hasRoom, Bool.not_eq_false'] at h
  rw [offer, CommandQueue.offer, h, if_pos rfl]
  rfl

/-- A queue with room takes what it is offered. -/
theorem offer_of_hasRoom (h : g.hasRoom = true) (t : Transaction) :
    g.offer t = (g.accept t, true) := by
  rw [hasRoom, Bool.not_eq_true'] at h
  rw [offer, CommandQueue.offer, h, if_neg Bool.false_ne_true]
  rfl

/-- The rasterizer does not look at refusals. -/
theorem draw_refuse (g : Gpu) (n : Nat) (event : DrawEvent) :
    (g.refuse n).draw event = (g.draw event).refuse n := by
  rw [draw, draw, show (g.refuse n).rasterizer = g.rasterizer from rfl]
  cases g.rasterizer.accept? event with
  | none => rfl
  | some rasterizer => rfl

/-- No transaction depends on refusals. -/
theorem execute_refuse (g : Gpu) (n : Nat) (t : Transaction) :
    (g.refuse n).execute t = (g.execute t).refuse n := by
  let before : Gpu := { g with
    registers := (g.registers.process t).1
    engine := (g.registers.process t).2.commands.foldl (fun e c => (e.push? c).getD e) g.engine
    responses := (g.registers.process t).2.response.elim g.responses g.responses.push }
  have hplain : g.execute t = (g.registers.process t).2.draw.elim before before.draw := rfl
  have hrefused : (g.refuse n).execute t
      = (g.registers.process t).2.draw.elim (before.refuse n) (before.refuse n).draw := rfl
  rw [hplain, hrefused]
  cases (g.registers.process t).2.draw with
  | none => rfl
  | some event => exact draw_refuse before n event

/-- The command stage does not depend on refusals. -/
theorem dispatch_refuse (g : Gpu) (n : Nat) : (g.refuse n).dispatch = g.dispatch.refuse n := by
  cases hheld : g.held with
  | some event =>
    have hdraw := draw_refuse { g with held := none } n event
    unfold dispatch
    rw [show (g.refuse n).held = g.held from rfl, hheld]
    dsimp only
    rw [show { g.refuse n with held := none } = refuse { g with held := none } n from rfl, hdraw]
    generalize draw { g with held := none } event = drawn
    rw [show (drawn.refuse n).commands.isEmpty = drawn.commands.isEmpty from rfl]
    cases drawn.commands.isEmpty <;> rfl
  | none =>
    have hpop : (g.refuse n).commands.pop? = g.commands.pop?.map fun p =>
        (p.1, { p.2 with rejected := p.2.rejected + n }) := by
      unfold CommandQueue.pop?
      rw [show (g.refuse n).commands.entries = g.commands.entries from rfl, Option.map_map]
      cases g.commands.entries.pop? <;> rfl
    unfold dispatch
    rw [show (g.refuse n).held = g.held from rfl, hheld, hpop]
    cases g.commands.pop? with
    | none => rfl
    | some pair =>
      obtain ⟨t, commands⟩ := pair
      dsimp only [Option.map_some]
      rw [show (g.refuse n).isGated = g.isGated from rfl,
        show (g.refuse n).registers = g.registers from rfl]
      split
      · rfl
      · exact execute_refuse { g with commands, held := none } n t

/-- No cycle depends on refusals. -/
theorem next_refuse (g : Gpu) (n : Nat) : (g.refuse n).next = g.next.refuse n := by
  rw [next_eq, next_eq, ← dispatch_refuse]
  rfl

/-- No number of cycles does. -/
theorem run_refuse (k : Nat) (g : Gpu) (n : Nat) : (g.refuse n).run k = (g.run k).refuse n := by
  induction k generalizing g with
  | zero => rfl
  | succ k ih => rw [run, run, next_refuse, ih]

/-! ## Submitting -/

/-- A transaction that is refused is offered again a cycle later. -/
theorem offerUntilTaken_succ_of_full (h : g.hasRoom = false) (t : Transaction) (retries : Nat) :
    offerUntilTaken t (retries + 1) g = offerUntilTaken t retries (g.next.refuse 1) := by
  rw [offerUntilTaken, offer_of_full h, ← next_refuse]
  rfl

/-- When it is refused for the last time a cycle follows all the same. -/
theorem offerUntilTaken_zero_of_full (h : g.hasRoom = false) (t : Transaction) :
    offerUntilTaken t 0 g = (g.next.refuse 1, false) := by
  rw [offerUntilTaken, offer_of_full h, ← next_refuse]
  rfl

/-- A transaction is taken as soon as the queue has room. It was refused before each cycle until
then. -/
theorem offerUntilTaken_of_first (t : Transaction) (hroom : (g.run n).hasRoom = true)
    (hbefore : ∀ k < n, (g.run k).hasRoom = false) (hle : n ≤ retries) :
    offerUntilTaken t retries g = (((g.run n).refuse n).accept t, true) := by
  induction n generalizing g retries with
  | zero =>
    have htaken : g.offer t = (g.accept t, true) := offer_of_hasRoom hroom t
    rw [run, refuse_zero]
    cases retries <;> simp only [offerUntilTaken, htaken, if_true]
  | succ n ih =>
    obtain ⟨rest, rfl⟩ := Nat.exists_eq_add_of_le' hle
    have hfull : g.hasRoom = false := hbefore 0 (Nat.succ_pos n)
    have hlater (k : Nat) : ((g.next.refuse 1).run k).hasRoom = (g.run (k + 1)).hasRoom := by
      rw [run_refuse]
      rfl
    rw [← Nat.add_assoc, offerUntilTaken_succ_of_full hfull]
    rw [ih ((hlater n).trans hroom) (fun k hk => (hlater k).trans (hbefore _ (by omega)))
      (Nat.le_add_left n rest)]
    rw [run_refuse, refuse_refuse, run]

/-- A transaction that is never taken was offered before each cycle of the budget, and once more
after the last; and each time a cycle has followed. -/
theorem offerUntilTaken_of_never (t : Transaction)
    (hnever : ∀ k ≤ retries, (g.run k).hasRoom = false) :
    offerUntilTaken t retries g = ((g.run (retries + 1)).refuse (retries + 1), false) := by
  have hfull : g.hasRoom = false := hnever 0 (Nat.zero_le retries)
  induction retries generalizing g with
  | zero => exact offerUntilTaken_zero_of_full hfull t
  | succ retries ih =>
    have hlater : ∀ k ≤ retries, ((g.next.refuse 1).run k).hasRoom = false := fun k hk => by
      rw [run_refuse]
      exact hnever (k + 1) (Nat.succ_le_succ hk)
    rw [offerUntilTaken_succ_of_full hfull, ih hlater (hlater 0 (Nat.zero_le retries)), run_refuse,
      refuse_refuse]
    rfl

/-- **A transaction is taken as soon as the queue has room**, and if it has none within the budget,
a cycle later it is not. -/
theorem offerUntilTaken_eq_firstWithin (t : Transaction) (retries : Nat) (g : Gpu) :
    offerUntilTaken t retries g
      = (firstWithin hasRoom retries g).elim
          ((g.run (retries + 1)).refuse (retries + 1), false)
          fun n => (((g.run n).refuse n).accept t, true) := by
  cases hfirst : firstWithin hasRoom retries g with
  | none =>
    rw [firstWithin_eq_none_iff] at hfirst
    exact offerUntilTaken_of_never t hfirst
  | some n =>
    obtain ⟨hle, hroom, hbefore⟩ := firstWithin_eq_some_iff.1 hfirst
    exact offerUntilTaken_of_first t hroom hbefore hle

/-! ## What a wait costs -/

/-- A run that waits for the device to be idle has spent the cycles until then, or its budget. -/
theorem runUntilIdle_eq (budget : Nat) (g : Gpu) :
    g.runUntilIdle budget
      = (firstWithin isIdle budget g).elim (g.run budget, .error (.timeout budget))
          fun n => (g.run n, .ok n) := by
  rw [runUntilIdle, runUntil_eq_firstWithin]
  cases firstWithin isIdle budget g with
  | none => rfl
  | some n =>
    have hspent : (g.run n).cycles - g.cycles = n := by
      rw [run_cycles, Nat.add_sub_cancel_left]
    simp only [Option.elim_some, hspent, if_true]

/-- A transaction that is submitted has cost the cycles until the queue had room, or one more than
its budget. -/
theorem submit_eq (t : Transaction) (budget : Nat) (g : Gpu) :
    g.submit t budget
      = (firstWithin hasRoom budget g).elim
          ((g.run (budget + 1)).refuse (budget + 1), .error (.timeout budget))
          fun n => (((g.run n).refuse n).accept t, .ok ()) := by
  rw [submit, offerUntilTaken_eq_firstWithin]
  cases firstWithin hasRoom budget g with
  | none => rfl
  | some n => rfl

/-- **What waiting costs.** A run that waits for the device to be idle ends after the least number
of cycles after which it is, if that is within the budget, and tells this number. If not, it gives
up when the budget is spent. A transaction that is submitted is taken after the least number of
cycles after which the queue has room, if that is within the budget. If not, it is given up one
cycle after the budget is spent, and the device is as if the transaction had never been offered but
for the refusals that were counted. So the one never takes more cycles than its budget, and the
other one more at most. -/
theorem budgets_spent (g : Gpu) (t : Transaction) (budget : Nat) :
    g.runUntilIdle budget
        = (firstWithin isIdle budget g).elim (g.run budget, .error (.timeout budget))
            (fun n => (g.run n, .ok n))
      ∧ g.submit t budget
        = (firstWithin hasRoom budget g).elim
            ((g.run (budget + 1)).refuse (budget + 1), .error (.timeout budget))
            (fun n => (((g.run n).refuse n).accept t, .ok ()))
      ∧ (g.runUntilIdle budget).1.cycles ≤ g.cycles + budget
      ∧ (g.submit t budget).1.cycles ≤ g.cycles + (budget + 1) := by
  have hidle := g.runUntilIdle_eq budget
  have hsubmit := g.submit_eq t budget
  refine ⟨hidle, hsubmit, ?_, ?_⟩
  · rw [hidle]
    cases hfirst : firstWithin isIdle budget g with
    | none => exact (run_cycles budget g).le
    | some n =>
      obtain ⟨hle, -⟩ := firstWithin_eq_some_iff.1 hfirst
      exact (run_cycles n g).trans_le (Nat.add_le_add_left hle _)
  · rw [hsubmit]
    cases hfirst : firstWithin hasRoom budget g with
    | none => exact (run_cycles (budget + 1) g).le
    | some n =>
      obtain ⟨hle, -⟩ := firstWithin_eq_some_iff.1 hfirst
      exact (run_cycles n g).trans_le (Nat.add_le_add_left (Nat.le_succ_of_le hle) _)

/-- The queue is full, and a staged surface keeps the device from taking anything out of it. A
transaction that is submitted with ten cycles is given up after eleven, and with none after one. -/
theorem submit_one_cycle_over :
    let config : Config :=
      { bootSequence := false, commandCapacity := 1, memoryWords := 8, scanoutCapacity := 2
        scanoutBurst := 2, swapPolicy := .blockUntilVsync }
    let read : Transaction := .read Register.identity.address
    let calls : List Audit.Call :=
      .offer (.write Register.display.address 0) :: .replicate 4 .tick ++ [.offer read]
    let g := ((Audit.start config (.zeroed 8 1)).run calls).device
    config.IsValid ∧ g.cycles = 4 ∧ firstWithin hasRoom 10 g = none
      ∧ (g.submit read 10).2 = .error (.timeout 10)
      ∧ (g.submit read 10).1.cycles = 4 + 10 + 1
      ∧ ¬ (g.submit read 10).1.cycles ≤ g.cycles + 10
      ∧ (g.submit read 0).1.cycles = 4 + 1 := by
  decide +kernel

end Gpu

end RasterGpu
