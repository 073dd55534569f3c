/-!
# Register transactions

The host drives the device with a stream of register reads and writes. Addresses have seven bits;
wider numbers are reduced to them.
-/

namespace RasterGpu

/-- A register address. -/
abbrev Address := Fin 128

/-- There are addresses, so that numbers stand for them. -/
instance Address.neZero : @NeZero Nat Zero.ofOfNat0 128 := ⟨by decide⟩

/-- The address in the low seven bits of a number. -/
def Address.ofNat (n : Nat) : Address := Fin.ofNat 128 n

/-- One access of the host to a register. -/
inductive Transaction where
  /-- Writes a word to the addressed register. -/
  | write (address : Address) (data : UInt64)
  /-- Asks for the word in the addressed register. -/
  | read (address : Address)
  deriving DecidableEq, Repr, Inhabited

end RasterGpu
