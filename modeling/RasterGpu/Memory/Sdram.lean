import RasterGpu.Memory.Device

/-!
# The memory

All surfaces, fills and window accesses share one memory of 16-bit words. Word addresses have 32
bits, and an address past the end of the device wraps around, as on a bus whose upper lines are not
connected. Apart from its contents the memory has one property, the number of cycles between a grant
and its data.
-/

namespace RasterGpu

/-- A memory of at least one 16-bit word. -/
structure Sdram where
  /-- The contents. -/
  words : Array UInt16
  /-- Cycles between a grant and its data. -/
  latency : Nat
  /-- There is at least one word. -/
  size_pos : 0 < words.size

namespace Sdram

/-- Words of the default device. -/
def defaultSize : Nat := 16777216

/-- Latency of the default device. -/
def defaultLatency : Nat := 3

/-- A device of `size` words (at least one), all zero. -/
def zeroed (size latency : Nat) : Sdram where
  words := .replicate (max size 1) 0
  latency := latency
  size_pos := by rw [Array.size_replicate]; omega

/-- Number of words. -/
def size (m : Sdram) : Nat := m.words.size

/-- The place of an address in the device. -/
def index (m : Sdram) (address : Nat) : Nat :=
  address % addressSpace % m.words.size

theorem index_lt (m : Sdram) (address : Nat) : m.index address < m.words.size :=
  Nat.mod_lt _ m.size_pos

/-- The word at an address. -/
def read (m : Sdram) (address : Nat) : UInt16 :=
  have := m.index_lt address
  m.words[m.index address]

/-- Sets the word at an address. -/
def write (m : Sdram) (address : Nat) (value : UInt16) : Sdram where
  words := m.words.set (m.index address) value (m.index_lt address)
  latency := m.latency
  size_pos := by simp [m.size_pos]

instance : MemoryDevice Sdram where
  read := read
  write := write
  latency := latency
  latency_write _ _ _ := rfl

/-- Sets the words from an address on, one after the other. -/
def store (m : Sdram) (address : Nat) (data : List UInt16) : Sdram :=
  MemoryDevice.store m address data

/-- The `count` words from an address on. -/
def fetch (m : Sdram) (address count : Nat) : List UInt16 :=
  MemoryDevice.fetch m address count

/-- Addresses that are the same on the bus have one place. -/
@[simp] theorem index_mod (m : Sdram) (address : Nat) :
    m.index (address % addressSpace) = m.index address := by
  unfold index
  rw [Nat.mod_mod]

/-- Addresses that are the same on the bus name one word. -/
@[simp] theorem read_mod (m : Sdram) (address : Nat) :
    m.read (address % addressSpace) = m.read address := by
  simp only [read, index_mod]

/-- Addresses that are the same on the bus name one word. -/
@[simp] theorem write_mod (m : Sdram) (address : Nat) (value : UInt16) :
    m.write (address % addressSpace) value = m.write address value := by
  simp only [write, index_mod]

/-- A burst writes its first word, and goes on after it. -/
theorem store_cons (m : Sdram) (address : Nat) (value : UInt16) (rest : List UInt16) :
    m.store address (value :: rest) = (m.write address value).store (address + 1) rest := by
  rw [← m.write_mod]
  rfl

/-- A burst of no words writes nothing. -/
@[simp] theorem store_nil (m : Sdram) (address : Nat) : m.store address [] = m := rfl

/-- Bursts from addresses that are the same on the bus are the same. -/
@[simp] theorem store_mod (m : Sdram) (address : Nat) (data : List UInt16) :
    m.store (address % addressSpace) data = m.store address data := by
  induction data generalizing m address with
  | nil => rfl
  | cons value rest ih =>
    rw [store_cons, store_cons, write_mod, ← ih _ (address % addressSpace + 1), Nat.mod_add_mod, ih]

/-- A burst in two parts, the second of which goes on where the first ends. -/
theorem store_append (m : Sdram) (address : Nat) (data rest : List UInt16) :
    m.store address (data ++ rest) = (m.store address data).store (address + data.length) rest := by
  induction data generalizing m address with
  | nil => rfl
  | cons value data ih =>
    rw [List.cons_append, store_cons, store_cons, ih, List.length_cons, Nat.add_right_comm,
      Nat.add_assoc]

/-- A burst of one value writes it to one word after the other. -/
theorem store_replicate (m : Sdram) (address count : Nat) (value : UInt16) :
    m.store address (.replicate count value)
      = (List.range count).foldl (fun m i => m.write (address + i) value) m := by
  induction count with
  | zero => rfl
  | succ count ih =>
    rw [List.replicate_succ', store_append, ih, List.length_replicate, List.range_succ,
      List.foldl_append, store_cons, store_nil]
    rfl

/-- Sets every word. -/
def clear (m : Sdram) (value : UInt16) : Sdram where
  words := .replicate m.words.size value
  latency := m.latency
  size_pos := by simp [m.size_pos]

end Sdram

end RasterGpu
