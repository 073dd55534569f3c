/-!
# Tests a fragment has to pass

A fragment is drawn only if it passes the stipple mask, the depth range, the alpha test and, when it
is on, the depth test. This file holds those four tests: each is a small piece of drawing state with
a `passes` function. Where each is stored in the registers is told beside the register formats.
-/

namespace RasterGpu

/-! ## Comparisons -/

/-- How the depth test compares an incoming depth with the stored one. -/
inductive DepthCompare where
  | less | lessEqual | equal | greaterEqual | greater | notEqual | always | never
  deriving DecidableEq, Repr, Inhabited

namespace DepthCompare

/-- The comparison with a given three-bit code. -/
def ofCode : Nat → DepthCompare
  | 0 => less
  | 1 => lessEqual
  | 2 => equal
  | 3 => greaterEqual
  | 4 => greater
  | 5 => notEqual
  | 6 => always
  | _ => never

/-- The three-bit code of a comparison. -/
def code : DepthCompare → Nat
  | less => 0
  | lessEqual => 1
  | equal => 2
  | greaterEqual => 3
  | greater => 4
  | notEqual => 5
  | always => 6
  | never => 7

/-- Whether the incoming depth compares as asked with the stored depth. -/
def passes (compare : DepthCompare) (incoming stored : UInt16) : Bool :=
  match compare with
  | less => incoming < stored
  | lessEqual => incoming ≤ stored
  | equal => incoming == stored
  | greaterEqual => incoming ≥ stored
  | greater => incoming > stored
  | notEqual => incoming != stored
  | always => true
  | never => false

end DepthCompare

/-- How the alpha test compares a fragment's alpha with the reference. -/
inductive AlphaTest where
  | always | less | greaterEqual | notEqual
  deriving DecidableEq, Repr, Inhabited

namespace AlphaTest

/-- The test with a given two-bit code. -/
def ofCode : Nat → AlphaTest
  | 1 => less
  | 2 => greaterEqual
  | 3 => notEqual
  | _ => always

/-- The two-bit code of a test. -/
def code : AlphaTest → Nat
  | always => 0
  | less => 1
  | greaterEqual => 2
  | notEqual => 3

/-- Whether an alpha value compares as asked with the reference. -/
def passes (test : AlphaTest) (alpha reference : UInt8) : Bool :=
  match test with
  | always => true
  | less => alpha < reference
  | greaterEqual => alpha ≥ reference
  | notEqual => alpha != reference

end AlphaTest

/-! ## Ranges and masks -/

/-- The depths that are drawn, both ends included. -/
structure DepthRange where
  /-- The least depth drawn. -/
  min : UInt16
  /-- The greatest depth drawn. -/
  max : UInt16
  deriving DecidableEq, Repr, Inhabited

/-- Whether a depth lies in the range. -/
def DepthRange.passes (range : DepthRange) (depth : UInt16) : Bool :=
  range.min ≤ depth && depth ≤ range.max

/-- A mask of eight by eight pixels, repeated over the surface. Bit `8 * (y % 8) + x % 8` lets the
pixel `(x, y)` through. -/
structure Stipple where
  /-- The mask, row by row from the lowest byte. -/
  mask : UInt64
  deriving DecidableEq, Repr, Inhabited

/-- Whether the mask lets the pixel `(x, y)` through. -/
def Stipple.passes (stipple : Stipple) (x y : Int) : Bool :=
  stipple.mask >>> UInt64.ofNat ((y % 8) * 8 + x % 8).toNat &&& 1 != 0

end RasterGpu
