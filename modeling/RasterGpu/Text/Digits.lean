/-!
# Digits

Numbers as digits to a base: the value of a row of digits, and the digits to the base sixteen of a
value.
-/

namespace RasterGpu

/-- The value of a digit to a base up to sixteen, in either case. -/
def digit? (base : Nat) (c : Char) : Option Nat :=
  let value? :=
    if '0' ≤ c ∧ c ≤ '9' then some (c.toNat - '0'.toNat)
    else if 'a' ≤ c ∧ c ≤ 'f' then some (c.toNat - 'a'.toNat + 10)
    else if 'A' ≤ c ∧ c ≤ 'F' then some (c.toNat - 'A'.toNat + 10)
    else none
  value?.filter (· < base)

/-- Whether a character is a digit to a base up to sixteen. -/
def isDigit (base : Nat) (c : Char) : Bool :=
  (digit? base c).isSome

/-- The number that digits stand for, the most significant first. -/
def ofDigits (base : Nat) (digits : List Nat) : Nat :=
  digits.foldl (fun value digit => value * base + digit) 0

/-- The number that characters stand for; characters that are no digits count for nothing. -/
def valueOf (base : Nat) (text : List Char) : Nat :=
  ofDigits base (text.filterMap (digit? base))

/-- The digits of a number to the base sixteen, lower case, without leading zeros. -/
def hexDigits (n : Nat) : String :=
  String.ofList (Nat.toDigits 16 n)

/-- A number to the base sixteen with at least `width` digits. -/
def hexDigitsPadded (width n : Nat) : String :=
  let digits := hexDigits n
  "".pushn '0' (width - digits.length) ++ digits

end RasterGpu
