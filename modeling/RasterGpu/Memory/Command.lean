import RasterGpu.Register.Surface

/-!
# Commands to the memory engine

Register accesses that touch memory become commands, which the memory engine executes one after the
other. A 64-bit dword at dword address `d` occupies the four words from `4 * d` on, and a 32-bit
timestamp at address `a` the two words from `2 * a` on; low half first in both.
-/

namespace RasterGpu

/-- What a register access asks of the memory engine. -/
inductive MemoryCommand where
  /-- Stores a value at a dword address. -/
  | store (dword : Nat) (value : UInt64)
  /-- Fetches the value at a dword address for the memory window. -/
  | readAhead (dword : Nat)
  /-- Stores a cycle count at a 32-bit word address. -/
  | timestamp (address : Nat) (cycles : Nat)
  /-- Fills a run of memory. -/
  | fill (fill : Fill)
  deriving DecidableEq, Repr, Inhabited

/-- Whether a command is a fill. -/
def MemoryCommand.isFill : MemoryCommand → Bool
  | fill _ => true
  | _ => false

/-- The four words of a 64-bit value, low half first. -/
def dwordWords (value : UInt64) : List UInt16 :=
  [value.toUInt16, (value >>> 16).toUInt16, (value >>> 32).toUInt16, (value >>> 48).toUInt16]

/-- The 64-bit value of up to four words, low half first. -/
def dwordOfWords : List UInt16 → UInt64
  | [] => 0
  | w :: rest => w.toUInt64 ||| dwordOfWords rest <<< 16

/-- The two words of a cycle count, low half first. -/
def timestampWords (cycles : Nat) : List UInt16 :=
  [.ofNat cycles, .ofNat (cycles >>> 16)]

end RasterGpu
