/-!
# Memory devices

A memory device holds 16-bit words, which are read and written one at a time, and has a fixed
latency. The bus to it has 32 address lines, so a burst that runs past the last address goes on at
the first. `MemoryDevice` is all that the arbiter knows of the memory behind it.
-/

namespace RasterGpu

/-- Number of word addresses on the bus. -/
def addressSpace : Nat := UInt32.size

/-- A device that holds 16-bit words. -/
class MemoryDevice (M : Type) where
  /-- The word at an address. -/
  read : M → Nat → UInt16
  /-- Sets the word at an address. -/
  write : M → Nat → UInt16 → M
  /-- Cycles between a grant and its data. -/
  latency : M → Nat
  /-- The latency is fixed. -/
  latency_write (m : M) (address : Nat) (value : UInt16) :
    latency (write m address value) = latency m

namespace MemoryDevice

variable {M : Type} [MemoryDevice M]

/-- Sets the words from an address on, one after the other. -/
@[specialize] def store (m : M) (address : Nat) : List UInt16 → M
  | [] => m
  | value :: rest => store (write m (address % addressSpace) value) (address + 1) rest

/-- The `count` words from an address on. -/
@[specialize] def fetch (m : M) (address count : Nat) : List UInt16 :=
  (List.range count).map fun i => read m ((address + i) % addressSpace)

end MemoryDevice

end RasterGpu
