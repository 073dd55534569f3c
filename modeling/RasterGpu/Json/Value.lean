import RasterGpu.Text.Digits

/-!
# JSON values

A JSON text is kept as it was written as far as its meaning can still fail: a string keeps its
16-bit escapes, which make up characters only in pairs, and a number keeps its digits, which may lie
beyond every float. So a value can be passed over without a meaning (`Value`), or be read
(`Value.isReadable`).
-/

namespace RasterGpu.Json

/-! ## Numbers -/

/-- A number as written. -/
structure Number where
  /-- There is a minus sign. -/
  negative : Bool := false
  /-- The digits before the point, at least one. -/
  integer : List Nat
  /-- The digits after the point; none if there is no point. -/
  fraction : List Nat := []
  /-- The exponent, if one is written. -/
  exponent? : Option Int := none
  deriving DecidableEq, Repr, Inhabited

/-- The nearest number with 53 significant bits, of two equally near the even one. -/
def roundTo53Bits (n : Nat) : Nat :=
  let unit := 1 <<< (n.log2 + 1 - 53)
  let down := n / unit
  let rest := n % unit
  (if unit < 2 * rest ∨ (unit = 2 * rest ∧ down % 2 = 1) then down + 1 else down) * unit

/-- Numbers from here on are rounded to infinity in double precision. -/
def doubleOverflow : Nat := 1 <<< 1024 - 1 <<< 970

namespace Number

/-- The number, if it is written as a natural number: without sign, point and exponent. -/
def natural? (x : Number) : Option Nat :=
  if x.negative ∨ x.fraction ≠ [] ∨ x.exponent?.isSome then none else some (ofDigits 10 x.integer)

/-- Appends digits to a significand as long as it fits 64 bits. Returns it with the digits that are
left. -/
def extend (significand : Nat) : (digits : List Nat) → Nat × List Nat
  | [] => (significand, [])
  | digit :: rest =>
    let longer := significand * 10 + digit
    if longer < UInt64.size then extend longer rest else (significand, digit :: rest)

/-- Whether the number is read as a finite number in double precision. Its leading digits, as many
as fit 64 bits, are multiplied by a power of ten; both factors are rounded before and the product is
rounded after. -/
def isFinite (x : Number) : Bool :=
  let (significand, dropped) := extend 0 x.integer
  let (significand, unused) := extend significand x.fraction
  let exponent : Int :=
    x.exponent?.getD 0 + dropped.length - (x.fraction.length - unused.length : Nat)
  significand == 0 || exponent < 0 ||
    (exponent ≤ 308 &&
      roundTo53Bits significand * roundTo53Bits (Nat.pow 10 exponent.toNat) < doubleOverflow)

end Number

/-! ## Strings -/

/-- A part of a string. -/
inductive Piece where
  /-- A character, written plainly or by a short escape. -/
  | char (c : Char)
  /-- A 16-bit escape. -/
  | escape (code : Nat)
  deriving DecidableEq, Repr, Inhabited

/-- The characters of a string. A 16-bit escape stands for a character, or it is the first half of
one and the second follows at once. -/
def decode? : List Piece → Option (List Char)
  | [] => some []
  | .char c :: rest => (decode? rest).map (c :: ·)
  | .escape high :: .escape low :: rest =>
    if 0xD800 ≤ high ∧ high < 0xDC00 ∧ 0xDC00 ≤ low ∧ low < 0xE000 then
      let code := 0x10000 + (high - 0xD800) * 0x400 + (low - 0xDC00)
      (decode? rest).map (.ofNat code :: ·)
    else if 0xD800 ≤ high ∧ high < 0xE000 then none
    else (decode? (.escape low :: rest)).map (.ofNat high :: ·)
  | .escape code :: rest =>
    if 0xD800 ≤ code ∧ code < 0xE000 then none else (decode? rest).map (.ofNat code :: ·)

/-! ## Values -/

/-- A JSON value as written. -/
inductive Value where
  /-- The word `null`. -/
  | null
  /-- A truth value. -/
  | bool (b : Bool)
  /-- A number. -/
  | number (x : Number)
  /-- A string. -/
  | string (pieces : List Piece)
  /-- An array. -/
  | array (items : List Value)
  /-- An object. Keys may repeat. -/
  | object (fields : List (List Piece × Value))
  deriving Inhabited

namespace Value

/-- The number, if the value is a natural one below a bound. -/
def natural? (bound : Nat) : Value → Option Nat
  | number x => x.natural?.filter (· < bound)
  | _ => none

/-- The characters, if the value is a string. -/
def text? : Value → Option String
  | string pieces => (decode? pieces).map String.ofList
  | _ => none

/-- Whether everything in the value has a meaning and no more than `depth` containers are nested in
it. -/
def isReadable : (depth : Nat) → Value → Bool
  | _, null => true
  | _, bool _ => true
  | _, number x => x.isFinite
  | _, string pieces => (decode? pieces).isSome
  | 0, array _ => false
  | 0, object _ => false
  | depth + 1, array items => items.all (isReadable depth)
  | depth + 1, object fields =>
    fields.all fun (key, value) => (decode? key).isSome && isReadable depth value

end Value

end RasterGpu.Json
