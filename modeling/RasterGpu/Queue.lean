/-!
# First-in first-out queues

`Queue α` is the queue behind the command buffer, the host link, the memory engine, the scanout
buffer and the list of uncollected answers. It keeps the oldest entries in a front list and the
newest, reversed, in a back list, so that both ends are reached in constant amortised time, and
carries its length.

Nothing outside this file looks at the two lists: `toList`, oldest entry first, is the view in which
every operation has one equation (`toList_push`, `pop?_eq_some`, `toList_popMany`).
-/

namespace RasterGpu

/-- A queue of entries, oldest first. -/
structure Queue (α : Type) where
  /-- The oldest entries, oldest first. -/
  front : List α
  /-- The remaining entries, newest first. -/
  back : List α
  /-- Number of entries. -/
  size : Nat
  /-- The stored length is right. -/
  size_eq : size = front.length + back.length := by simp

namespace Queue

variable {α : Type}

/-- The queue with no entries. -/
def empty : Queue α where
  front := []
  back := []
  size := 0
  size_eq := rfl

instance : Inhabited (Queue α) := ⟨empty⟩

/-- The entries, oldest first. -/
def toList (q : Queue α) : List α :=
  q.front ++ q.back.reverse

/-- The queue that holds the given entries, the first of them oldest. -/
def ofList (entries : List α) : Queue α where
  front := entries
  back := []
  size := entries.length

/-- Whether the queue has no entries. -/
def isEmpty (q : Queue α) : Bool :=
  q.size == 0

/-- Adds a newest entry. -/
def push (q : Queue α) (entry : α) : Queue α :=
  { q with
    back := entry :: q.back, size := q.size + 1, size_eq := by simp [q.size_eq]; omega }

/-- Adds entries, the last of them newest. -/
def pushMany (q : Queue α) (entries : List α) : Queue α :=
  entries.foldl push q

/-- The oldest entry and the queue without it. -/
def pop? (q : Queue α) : Option (α × Queue α) :=
  match hf : q.front with
  | entry :: rest =>
    some (entry, { q with
      front := rest, size := q.size - 1, size_eq := by simp [q.size_eq, hf] })
  | [] =>
    match hb : q.back.reverse with
    | [] => none
    | entry :: rest =>
      some (entry, { front := rest, back := [], size := rest.length })

/-- The oldest entry. -/
def peek? (q : Queue α) : Option α :=
  match q.front with
  | entry :: _ => some entry
  | [] => q.back.getLast?

/-- Takes up to `count` of the oldest entries, oldest first. -/
def popMany (q : Queue α) : (count : Nat) → List α × Queue α
  | 0 => ([], q)
  | count + 1 =>
    match q.pop? with
    | none => ([], q)
    | some (entry, q) =>
      let (rest, q) := popMany q count
      (entry :: rest, q)

/-- Whether some entry satisfies `p`. -/
def any (q : Queue α) (p : α → Bool) : Bool :=
  q.front.any p || q.back.any p

/-! ## The view -/

@[simp] theorem toList_empty : (empty : Queue α).toList = [] := rfl

@[simp] theorem toList_ofList (entries : List α) : (ofList entries).toList = entries := by
  simp [ofList, toList]

@[simp] theorem length_toList (q : Queue α) : q.toList.length = q.size := by
  simp [toList, q.size_eq]

@[simp] theorem toList_push (q : Queue α) (entry : α) :
    (q.push entry).toList = q.toList ++ [entry] := by
  simp [push, toList]

@[simp] theorem toList_pushMany (q : Queue α) (entries : List α) :
    (q.pushMany entries).toList = q.toList ++ entries := by
  unfold pushMany
  induction entries generalizing q with
  | nil => simp
  | cons entry rest ih => simp [ih]

theorem isEmpty_iff (q : Queue α) : q.isEmpty = true ↔ q.toList = [] := by
  simp [isEmpty, ← List.length_eq_zero_iff]

/-- Taking the oldest entry splits the view at its head. -/
theorem pop?_eq_some {q rest : Queue α} {entry : α} (h : q.pop? = some (entry, rest)) :
    q.toList = entry :: rest.toList := by
  unfold pop? at h
  split at h
  · rename_i hf
    simp only [Option.some.injEq, Prod.mk.injEq] at h
    obtain ⟨rfl, rfl⟩ := h
    simp [toList, hf]
  · rename_i hf
    split at h
    · exact absurd h (by simp)
    · rename_i hb
      simp only [Option.some.injEq, Prod.mk.injEq] at h
      obtain ⟨rfl, rfl⟩ := h
      simp [toList, hf, hb]

/-- A queue gives no entry exactly when it has none. -/
theorem pop?_eq_none_iff (q : Queue α) : q.pop? = none ↔ q.toList = [] := by
  constructor
  · intro h
    unfold pop? at h
    split at h
    · exact absurd h (by simp)
    · rename_i hf
      split at h
      · rename_i hb
        simp [toList, hf, hb]
      · exact absurd h (by simp)
  · intro h
    cases hp : q.pop? with
    | none => rfl
    | some pair =>
      obtain ⟨entry, rest⟩ := pair
      exact absurd (pop?_eq_some hp) (by simp [h])

/-- Taking many entries splits the view. -/
theorem toList_popMany (q : Queue α) (count : Nat) :
    q.toList = (q.popMany count).1 ++ (q.popMany count).2.toList := by
  induction count generalizing q with
  | zero => simp [popMany]
  | succ count ih =>
    unfold popMany
    split
    · simp
    · rename_i entry rest h
      rw [pop?_eq_some h, ih rest]
      simp

end Queue

end RasterGpu
