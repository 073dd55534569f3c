import RasterGpu.Text.Digits
import RasterGpu.Text.Reader
import RasterGpu.Toml.Value

/-!
# Strings, numbers and dates of TOML

A string stands between quotes: double quotes allow escapes, single quotes do not, and three of
either kind allow line ends. Every other scalar is taken whole, up to a blank or a mark between
values (`readWord`), and then told apart by its form (`ofWord?`). The form of a number is less than
its meaning: a number may have a form and still no value.
-/

namespace RasterGpu.Toml

/-! ## Characters -/

/-- Blanks within a line. -/
def isBlank (c : Char) : Bool :=
  c == ' ' || c == '\t'

/-- Characters that may stand in strings and comments. -/
def isPrintable (c : Char) : Bool :=
  c == '\t' || (' ' ≤ c && c ≠ '\x7f')

/-- Drops blanks within a line. -/
def skipBlanks : Reader Unit := Reader.skipWhile isBlank

/-- Takes a line end if there is one. -/
def acceptLineEnd : Reader Bool := do
  if ← Reader.accept "\n" then return true
  Reader.accept "\r\n"

/-! ## Strings -/

/-- The character with the code that a number of hexadecimal digits give. -/
def readCode (count : Nat) : Reader Char := do
  let digits ← (List.replicate count Reader.next).mapM id
  guard (digits.all (isDigit 16))
  let code := valueOf 16 digits
  guard (Nat.isValidChar code)
  return .ofNat code

/-- The rest of an escape after the backslash. -/
def readEscape : Reader Char := do
  match ← Reader.next with
  | 'b' => return '\x08'
  | 't' => return '\t'
  | 'n' => return '\n'
  | 'f' => return '\x0c'
  | 'r' => return '\r'
  | 'e' => return '\x1b'
  | '"' => return '"'
  | '\\' => return '\\'
  | 'x' => readCode 2
  | 'u' => readCode 4
  | 'U' => readCode 8
  | _ => failure

/-- A string on one line with escapes. -/
def readQuoted : Reader String := do
  Reader.expect "\""
  Reader.repeatUntil (fun (done : List Char) => do
    match ← Reader.next with
    | '"' => return .inr (String.ofList done.reverse)
    | '\\' => return .inl ((← readEscape) :: done)
    | c =>
      guard (isPrintable c)
      return .inl (c :: done)) []

/-- A string on one line without escapes. -/
def readLiteral : Reader String := do
  Reader.expect "'"
  let text ← Reader.takeWhile fun c => isPrintable c && c ≠ '\''
  Reader.expect "'"
  return .ofList text

/-- Drops blanks and line ends. -/
def dropSpace : List Char → List Char
  | ' ' :: rest => dropSpace rest
  | '\t' :: rest => dropSpace rest
  | '\n' :: rest => dropSpace rest
  | '\r' :: '\n' :: rest => dropSpace rest
  | rest => rest

/-- Takes the rest of a line that a backslash ends, and the space that the next ones start with. -/
def acceptJoint : Reader Bool :=
  (do
    skipBlanks
    guard (← acceptLineEnd)
    modify dropSpace
    return true) <|> return false

/-- A string over several lines between three quotes of a kind. A line end right after the opening
is dropped, and up to two quotes right before the closing belong to the string. -/
def readLines (quote : Char) (escapes : Bool) : Reader String := do
  let fence := String.ofList [quote, quote, quote]
  Reader.expect fence
  let _ ← acceptLineEnd
  Reader.repeatUntil (fun (done : List Char) => do
    if ← Reader.accept fence then
      let one ← Reader.accept quote.toString
      let two ← Reader.accept quote.toString
      return .inr (String.ofList (done.reverse ++ List.replicate (one.toNat + two.toNat) quote))
    if ← acceptLineEnd then return .inl ('\n' :: done)
    let c ← Reader.next
    if escapes && c == '\\' then
      if ← acceptJoint then return .inl done
      return .inl ((← readEscape) :: done)
    guard (isPrintable c)
    return .inl (c :: done)) []

/-! ## Numbers -/

/-- Whether every underscore of a text has a digit on both sides. `follows` tells whether one stands
right before the text; a sign may stand for it. -/
def underscoresFit (isDigit : Char → Bool) (follows : Bool) : List Char → Bool
  | [] => true
  | '_' :: rest => follows && rest.head?.any isDigit && underscoresFit isDigit false rest
  | c :: rest => underscoresFit isDigit (isDigit c) rest

/-- The sign of a text, if it has one, and what follows it. -/
def unsign : List Char → Option Char × List Char
  | '-' :: rest => (some '-', rest)
  | '+' :: rest => (some '+', rest)
  | text => (none, text)

/-- The integer with the given digits, between which underscores may stand. -/
def integerOf (base : Nat) (negative : Bool) (text : List Char) : Value :=
  let digits := text.filter (· ≠ '_')
  let n : Int := valueOf base digits
  let n := if negative then -n else n
  if !digits.isEmpty && digits.all (isDigit base) && (-n).toNat ≤ 1 <<< 127
    && n.toNat < 1 <<< 128 then .integer n
  else .unreadable (.ofList text)

/-- An integer in a base of its own, after the two characters that name the base. There may be no
digits. -/
def ofRadix? (base : Nat) (text : List Char) : Option Value := do
  guard (text.all fun c => isDigit base c || c == '_')
  guard (underscoresFit (isDigit base) false text)
  return integerOf base false text

/-- A decimal integer, from its sign and the rest. It starts with zero only if it is zero. After an
underscore it may go on with anything that looks like a digit of base sixteen. -/
def ofDecimal? (sign? : Option Char) (text : List Char) : Option Value := do
  guard (text ≠ [] ∧ (text.head? ≠ some '0' ∨ text.length = 1))
  guard (underscoresFit (isDigit 16) sign?.isSome text)
  return integerOf 10 (sign? == some '-') text

/-- Whether `digits` times a power of ten is finite when rounded to double precision. Exponents that
decide this by themselves are not computed with. -/
def isDouble (digits : List Nat) (exponent : Int) : Bool :=
  let digits := digits.dropWhile (· == 0)
  let size := digits.length + exponent
  digits.isEmpty || size ≤ 308 || (size ≤ 309 &&
    let (up, down) :=
      if 0 ≤ exponent then (Nat.pow 10 exponent.toNat, 1) else (1, Nat.pow 10 (-exponent).toNat)
    ofDigits 10 digits * up < (1 <<< 1024 - 1 <<< 970) * down)

/-- Some digits, with underscores. -/
def readDigits : Reader (List Char) := do
  let text ← Reader.takeSome fun c => isDigit 10 c || c == '_'
  guard (text.any (isDigit 10))
  return text

/-- A float without sign. Returns whether it is in range. -/
def readFloat : Reader Bool := do
  let digitsOf (text : List Char) := text.filterMap (digit? 10)
  let whole ← readDigits
  guard (whole.head? ≠ some '0' ∨ (digitsOf whole).length = 1)
  let fraction ← if ← Reader.accept "." then readDigits else pure []
  let exponent : Int ← if ← Reader.acceptIf fun c => c == 'e' || c == 'E' then do
      let below ← Reader.accept "-"
      unless below do
        let _ ← Reader.accept "+"
      let size : Int := ofDigits 10 (digitsOf (← readDigits))
      pure (if below then -size else size)
    else pure 0
  return isDouble (digitsOf whole ++ digitsOf fraction) (exponent - (digitsOf fraction).length)

/-- A float, from its sign and the rest. -/
def ofFloat? (sign? : Option Char) (text : List Char) : Option Value := do
  guard (underscoresFit (isDigit 10) sign?.isSome text)
  let inRange ← Reader.readAll readFloat text
  return if inRange then .float (.ofList text) else .unreadable (.ofList text)

/-! ## Dates and times -/

/-- A number of a fixed count of digits. -/
def readNumeral (count : Nat) : Reader Nat := do
  let digits ← (List.replicate count Reader.next).mapM id
  guard (digits.all (isDigit 10))
  return valueOf 10 digits

/-- The days of a month. -/
def daysOf (year month : Nat) : Nat :=
  if month = 2 then
    if year % 4 = 0 ∧ (year % 100 ≠ 0 ∨ year % 400 = 0) then 29 else 28
  else if month ∈ [4, 6, 9, 11] then 30
  else 31

/-- A date. -/
def readDate : Reader Unit := do
  let year ← readNumeral 4
  Reader.expect "-"
  let month ← readNumeral 2
  Reader.expect "-"
  let day ← readNumeral 2
  guard (1 ≤ month ∧ month ≤ 12 ∧ 1 ≤ day ∧ day ≤ daysOf year month)

/-- A time of day. The seconds may be left out. -/
def readTime : Reader Unit := do
  let hour ← readNumeral 2
  Reader.expect ":"
  let minute ← readNumeral 2
  guard (hour < 24 ∧ minute < 60)
  if ← Reader.accept ":" then
    guard ((← readNumeral 2) ≤ 60)
    if ← Reader.accept "." then
      let _ ← Reader.takeSome (isDigit 10)

/-- An offset from universal time, if there is one. -/
def readOffset : Reader Unit := do
  if ← Reader.atEnd then return
  if ← Reader.acceptIf fun c => c == 'Z' || c == 'z' then return
  unless ← Reader.accept "+" do Reader.expect "-"
  let hour ← readNumeral 2
  Reader.expect ":"
  let minute ← readNumeral 2
  guard (hour < 24 ∧ minute < 60)

/-- A date, a time, or both. -/
def readMoment : Reader Unit :=
  readTime <|> do
    readDate
    unless ← Reader.atEnd do
      guard (["T", "t", " "].contains (← Reader.next).toString)
      readTime
      readOffset

/-! ## Words -/

/-- Characters of a scalar that is not a string: all but blanks, line ends and the marks between
values. -/
def isWordChar (c : Char) : Bool :=
  !" \t\r\n#=,[]\x7b\x7d".contains c

/-- A scalar that is not a string. A date and a time may be apart by one blank. -/
def readWord : Reader (List Char) := do
  let word ← Reader.takeSome isWordChar
  unless (Reader.readAll readDate word).isSome do return word
  (do
    Reader.expect " "
    guard (((← Reader.peek?).map (isDigit 10)).getD false)
    return word ++ ' ' :: (← Reader.takeSome isWordChar)) <|> return word

/-- The value that a number or a date stands for. What follows its first digits tells which of them
it is. -/
def ofNumeral? (word : List Char) : Option Value :=
  let (sign?, text) := unsign word
  let rest := text.dropWhile (isDigit 10)
  if rest.head? = some '-' ∨ rest.head? = some ':' then
    (Reader.readAll readMoment word).map fun _ => .datetime (.ofList word)
  else if rest.any (['.', 'e', 'E'].contains ·) then ofFloat? sign? text
  else if rest = [] ∨ rest.head? = some '_' then ofDecimal? sign? text
  else none

/-- The value that a word stands for. -/
def ofWord? (word : List Char) : Option Value :=
  match word with
  | '0' :: 'x' :: text => ofRadix? 16 text
  | '0' :: 'o' :: text => ofRadix? 8 text
  | '0' :: 'b' :: text => ofRadix? 2 text
  | _ =>
    if word = "true".toList then some (.boolean true)
    else if word = "false".toList then some (.boolean false)
    else if ["inf".toList, "nan".toList].contains (unsign word).2 then some (.float (.ofList word))
    else ofNumeral? word

end RasterGpu.Toml
