import RasterGpu.Proofs.Device.Ledger

/-!
# The memory window

Through the memory window a host reads and writes memory dword by dword. It has a pointer and data,
and an access to the data moves the pointer on.

* `Sdram.dword` and `Sdram.setDword` say where the four words of a dword lie in memory. The engine
  fetches and stores the same (`Sdram.dwordOfWords_fetch`, `Sdram.store_dwordWords`).
* `Window` is a window that reads and writes at once, with no queue between it and the memory.
* `Transaction.viaWindow` says which transactions do nothing to memory but through the window.
-/

namespace RasterGpu

/-! ## Dwords in memory -/

namespace Sdram

/-- The 64-bit value in the four words of a dword, low half first. -/
def dword (m : Sdram) (dword : Nat) : UInt64 :=
  .ofNat ((m.read (4 * dword)).toNat
    + 0x10000 * (m.read (4 * dword + 1)).toNat
    + 0x100000000 * (m.read (4 * dword + 2)).toNat
    + 0x1000000000000 * (m.read (4 * dword + 3)).toNat)

/-- Sets the four words of a dword, one after the other, low half first. -/
def setDword (m : Sdram) (dword : Nat) (value : UInt64) : Sdram :=
  (((m.write (4 * dword) (.ofNat value.toNat)).write
    (4 * dword + 1) (.ofNat (value.toNat / 0x10000))).write
    (4 * dword + 2) (.ofNat (value.toNat / 0x100000000))).write
    (4 * dword + 3) (.ofNat (value.toNat / 0x1000000000000))

end Sdram

/-- The first word of a dword is its lowest. -/
theorem toNat_dwordOfWords_cons (w : UInt16) (rest : List UInt16) :
    (dwordOfWords (w :: rest)).toNat
      = (w.toNat + 0x10000 * (dwordOfWords rest).toNat) % 0x10000000000000000 := by
  have hw : w.toNat < 2 ^ 16 := w.toNat_lt
  have hshift : (dwordOfWords rest).toNat <<< 16 % 2 ^ 64
      = ((dwordOfWords rest).toNat % 2 ^ 48) <<< 16 := by
    rw [Nat.shiftLeft_eq, Nat.shiftLeft_eq]
    omega
  have hor : w.toNat ||| ((dwordOfWords rest).toNat % 2 ^ 48) <<< 16
      = ((dwordOfWords rest).toNat % 2 ^ 48) <<< 16 + w.toNat := by
    rw [Nat.or_comm, ← Nat.shiftLeft_add_eq_or_of_lt hw]
  have hsteps : (dwordOfWords (w :: rest)).toNat
      = w.toNat ||| (dwordOfWords rest).toNat <<< 16 % 2 ^ 64 := by
    rw [dwordOfWords, UInt64.toNat_or, UInt64.toNat_shiftLeft, UInt16.toNat_toUInt64]
    rfl
  rw [hsteps, hshift, hor, Nat.shiftLeft_eq]
  omega

/-- Four words, low half first. -/
theorem dwordOfWords_four (a b c d : UInt16) :
    dwordOfWords [a, b, c, d] = .ofNat (a.toNat + 0x10000 * b.toNat + 0x100000000 * c.toNat
      + 0x1000000000000 * d.toNat) := by
  have ha := a.toNat_lt
  have hb := b.toNat_lt
  have hc := c.toNat_lt
  have hd := d.toNat_lt
  have hnil : (dwordOfWords []).toNat = 0 := rfl
  rw [← UInt64.toNat_inj, UInt64.toNat_ofNat', toNat_dwordOfWords_cons, toNat_dwordOfWords_cons,
    toNat_dwordOfWords_cons, toNat_dwordOfWords_cons, hnil]
  omega

namespace Sdram

/-- What the engine fetches for a read-ahead is the dword. -/
theorem dwordOfWords_fetch (m : Sdram) (dword : Nat) :
    dwordOfWords (m.fetch (4 * dword) 4) = m.dword dword := by
  have hfetch : m.fetch (4 * dword) 4 = [m.read (4 * dword), m.read (4 * dword + 1),
      m.read (4 * dword + 2), m.read (4 * dword + 3)] := by
    rw [← m.read_mod (4 * dword), ← m.read_mod (4 * dword + 1), ← m.read_mod (4 * dword + 2),
      ← m.read_mod (4 * dword + 3)]
    rfl
  rw [hfetch, dwordOfWords_four]
  rfl

/-- What the engine writes for a store sets the dword. -/
theorem store_dwordWords (m : Sdram) (dword : Nat) (value : UInt64) :
    m.store (4 * dword) (dwordWords value) = m.setDword dword value := by
  have hword (n : UInt64) (k : Nat) (hn : n.toNat = value.toNat / k) :
      n.toUInt16 = .ofNat (value.toNat / k) := by
    rw [← UInt16.toNat_inj, UInt64.toNat_toUInt16, hn, UInt16.toNat_ofNat']
  have h0 := hword value 1 (Nat.div_one _).symm
  have h1 := hword (value >>> 16) 0x10000 (Nat.shiftRight_eq_div_pow _ _)
  have h2 := hword (value >>> 32) 0x100000000 (Nat.shiftRight_eq_div_pow _ _)
  have h3 := hword (value >>> 48) 0x1000000000000 (Nat.shiftRight_eq_div_pow _ _)
  rw [Nat.div_one] at h0
  rw [dwordWords, h0, h1, h2, h3, store_cons, store_cons, store_cons, store_cons, store_nil]
  rfl

end Sdram

/-! ## The window -/

/-- A memory window that reads and writes at once. -/
structure Window where
  /-- The dword that it points to. -/
  pointer : Nat := 0
  /-- The pointer has been written, or the data accessed. -/
  used : Bool := false
  /-- The memory. -/
  memory : Sdram

namespace Window

/-- Moves the window to a dword. -/
def moveTo (w : Window) (dword : Nat) : Window :=
  { w with pointer := dword % windowDwords, used := true }

/-- What a transaction does. A write of the pointer moves the window. A write of the data sets the
dword that the window points to and moves the window to the next, and so does a read, without
setting anything. Nothing else matters. -/
def step (w : Window) : Transaction → Window
  | .write address data =>
    if address = Register.windowAddress.address then
      w.moveTo data.toNat
    else if address = Register.windowData.address then
      { w with memory := w.memory.setDword w.pointer data }.moveTo (w.pointer + 1)
    else
      w
  | .read address =>
    if address = Register.windowData.address then w.moveTo (w.pointer + 1) else w

/-- What a read of the data returns: the dword that the window points to, and zero as long as it was
not used. -/
def answer (w : Window) : UInt64 :=
  if w.used then w.memory.dword w.pointer else 0

/-- What transactions do, one after the other. -/
def run (w : Window) (stream : List Transaction) : Window :=
  stream.foldl step w

/-- The last transaction is executed last. -/
theorem run_concat (w : Window) (stream : List Transaction) (t : Transaction) :
    w.run (stream ++ [t]) = (w.run stream).step t := by
  rw [run, List.foldl_append]
  rfl

end Window

/-! ## Transactions that reach memory through the window -/

namespace Transaction

/-- Whether a transaction does nothing to memory past the window: it kicks no primitive, fills
nothing and stores no timestamp. -/
def viaWindow (t : Transaction) : Bool :=
  match t with
  | write address _ =>
    !t.isKick && address != Register.fill.address && address != Register.timestamp.address
  | read _ => true

/-- A transaction leaves the window as it is and makes no memory command. -/
structure Untouched (t : Transaction) (regs : RegisterFile) : Prop where
  /-- The pointer stays. -/
  window : (regs.process t).1.window = regs.window
  /-- The value read ahead stays. -/
  readAhead : (regs.process t).1.readAhead = regs.readAhead
  /-- Nothing is read ahead. -/
  readAheads : (regs.process t).1.readAheads = regs.readAheads
  /-- Nothing is asked of the engine. -/
  commands : (regs.process t).2.commands = []
  /-- Nothing is drawn. -/
  draw : (regs.process t).2.draw = none

/-- The transactions that draw nothing and store no timestamp, by what they do to the window. -/
inductive WindowCase : Transaction → Prop where
  /-- The pointer is written. -/
  | point (data : UInt64) : WindowCase (.write Register.windowAddress.address data)
  /-- The data is written. -/
  | put (data : UInt64) : WindowCase (.write Register.windowData.address data)
  /-- The data is read. -/
  | get : WindowCase (.read Register.windowData.address)
  /-- Memory is filled. -/
  | fill (data : UInt64) : WindowCase (.write Register.fill.address data)
  /-- Something that does not touch the window. -/
  | other {t : Transaction} (hstep : ∀ w : Window, w.step t = w)
    (hregs : ∀ regs, t.Untouched regs) : WindowCase t

/-- A transaction that draws nothing and stores no timestamp is of one of the five kinds. -/
theorem windowCase {t : Transaction} (hkick : t.isKick = false)
    (htime : ∀ data, t ≠ .write Register.timestamp.address data) : t.WindowCase := by
  cases t with
  | read address =>
    by_cases hdata : address = Register.windowData.address
    · subst hdata
      exact .get
    · refine .other (fun w => if_neg hdata) fun regs => ?_
      have hprocess : regs.process (.read address)
          = ({ regs with stats.reads := regs.stats.reads + 1 },
            { response := some (RegisterFile.peek
              { regs with stats.reads := regs.stats.reads + 1 } address) }) := if_neg hdata
      constructor <;> rw [hprocess]
  | write address data =>
    cases hr : Register.ofAddress? address with
    | none =>
      refine .other (fun w => ?_) fun regs => ?_
      · have hpoint : address ≠ Register.windowAddress.address := by
          rintro rfl
          cases hr
        have hput : address ≠ Register.windowData.address := by
          rintro rfl
          cases hr
        rw [Window.step, if_neg hpoint, if_neg hput]
      · constructor <;>
        · unfold RegisterFile.process
          dsimp only
          rw [hr]
    | some r =>
      obtain rfl := Register.address_of_ofAddress? hr
      cases r
      case windowAddress => exact .point data
      case windowData => exact .put data
      case fill => exact .fill data
      case timestamp => exact absurd rfl (htime data)
      case kick012 => cases hkick
      case kick021 => cases hkick
      case kickRectangle => cases hkick
      all_goals exact .other (fun _ => rfl) fun _ => ⟨rfl, rfl, rfl, rfl, rfl⟩

/-- A transaction that reaches memory through the window is of one of the five kinds, and is not a
fill. -/
theorem windowCase_of_viaWindow {t : Transaction} (h : t.viaWindow = true) :
    t.WindowCase ∧ ∀ data, t ≠ .write Register.fill.address data := by
  have hkick : t.isKick = false := by
    cases t with
    | read address => rfl
    | write address data =>
      simp only [viaWindow, Bool.and_eq_true, Bool.not_eq_true'] at h
      exact h.1.1
  refine ⟨windowCase hkick ?_, ?_⟩
  · rintro data rfl
    cases h
  · rintro data rfl
    cases h

end Transaction

end RasterGpu
