/-!
# Checksums

The two checksums of PNG files: the cyclic redundancy check of a chunk, over the reflected
polynomial `0xEDB88320`, and the Adler-32 sum of a compressed stream.
-/

namespace RasterGpu

/-- Divides eight bits out of a remainder of the cyclic redundancy check. -/
def crcShift (remainder : UInt32) : UInt32 :=
  Nat.fold 8 (fun _ _ r => if r &&& 1 = 1 then (r >>> 1) ^^^ 0xEDB88320 else r >>> 1) remainder

/-- The remainders of all bytes. -/
def crcTable : Array UInt32 :=
  Array.ofFn fun byte : Fin 256 => crcShift (.ofNat byte.val)

/-- The cyclic redundancy check of some bytes. -/
def crc32 (bytes : List UInt8) : UInt32 :=
  ~~~ bytes.foldl (fun r byte =>
    crcTable.getD ((r ^^^ byte.toUInt32) &&& 0xFF).toNat 0 ^^^ (r >>> 8)) 0xFFFFFFFF

/-- The modulus of the Adler-32 sum, the largest prime below `2 ^ 16`. -/
def adlerModulus : Nat := 65521

/-- The Adler-32 sum of some bytes: one plus their sum in the low half, and the sum of all sums on
the way in the high half. -/
def adler32 (bytes : List UInt8) : UInt32 :=
  let (low, high) := bytes.foldl (fun (low, high) byte =>
    let low := (low + byte.toNat) % adlerModulus
    (low, (high + low) % adlerModulus)) (1, 0)
  .ofNat (high <<< 16 + low)

end RasterGpu
