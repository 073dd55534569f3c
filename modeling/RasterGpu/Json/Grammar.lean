import RasterGpu.Json.Value
import RasterGpu.Text.Reader

/-!
# Reading JSON

Reads the JSON grammar without extensions: no comments, no trailing commas, no leading zeros, no
byte order mark. Containers may be nested without bound, so what is open around the value at hand is
kept in a list of frames.
-/

namespace RasterGpu.Json

/-- Characters that may stand between the parts of a value. -/
def isBlank (c : Char) : Bool :=
  c == ' ' || c == '\t' || c == '\n' || c == '\r'

/-- Drops blanks. -/
def skipBlanks : Reader Unit := Reader.skipWhile isBlank

/-! ## Numbers -/

/-- Some decimal digits. -/
def readDigits : Reader (List Nat) := do
  return (← Reader.takeSome (isDigit 10)).filterMap (digit? 10)

/-- A number. Only a lone zero starts with zero. -/
def readNumber : Reader Number := do
  let negative ← Reader.accept "-"
  let integer ← readDigits
  guard (integer.head? ≠ some 0 ∨ integer.length = 1)
  let fraction ← if ← Reader.accept "." then readDigits else pure []
  unless ← Reader.acceptIf fun c => c == 'e' || c == 'E' do
    return { negative, integer, fraction }
  let below ← Reader.accept "-"
  unless below do
    let _ ← Reader.accept "+"
  let size : Int := ofDigits 10 (← readDigits)
  return { negative, integer, fraction, exponent? := some (if below then -size else size) }

/-! ## Strings -/

/-- The character of a short escape. -/
def shortEscape? : Char → Option Char
  | '"' => some '"'
  | '\\' => some '\\'
  | '/' => some '/'
  | 'b' => some '\x08'
  | 'f' => some '\x0c'
  | 'n' => some '\n'
  | 'r' => some '\r'
  | 't' => some '\t'
  | _ => none

/-- The rest of a string after its first quote, before which `done` was read, newest first. Control
characters must be escaped. -/
def readPieces (done : List Piece) : List Char → Option (List Piece × List Char)
  | '"' :: rest => some (done.reverse, rest)
  | '\\' :: 'u' :: a :: b :: c :: d :: rest =>
    match [a, b, c, d].mapM (digit? 16) with
    | some digits => readPieces (.escape (ofDigits 16 digits) :: done) rest
    | none => none
  | '\\' :: e :: rest =>
    match shortEscape? e with
    | some c => readPieces (.char c :: done) rest
    | none => none
  | c :: rest => if c < ' ' then none else readPieces (.char c :: done) rest
  | [] => none

/-- A string. -/
def readString : Reader (List Piece) := do
  Reader.expect "\""
  readPieces []

/-! ## Values -/

/-- A container that is still open, with what it holds so far, newest first. -/
inductive Frame where
  /-- An array. -/
  | array (items : List Value)
  /-- An object and the key whose value is being read. -/
  | object (fields : List (List Piece × Value)) (key : List Piece)

/-- Where reading a value has come to: the containers open around it, innermost first, and the value
itself if it is complete. -/
structure Progress where
  /-- The open containers. -/
  frames : List Frame := []
  /-- The value that was just completed. -/
  value? : Option Value := none

/-- A key and the colon after it. -/
def readKey : Reader (List Piece) := do
  skipBlanks
  let key ← readString
  skipBlanks
  Reader.expect ":"
  return key

/-- A value, or the opening of one that holds others. -/
def openValue (frames : List Frame) : Reader Progress := do
  skipBlanks
  match ← Reader.peek? with
  | some '[' =>
    let _ ← Reader.next
    skipBlanks
    if ← Reader.accept "]" then return ⟨frames, some (.array [])⟩
    return ⟨.array [] :: frames, none⟩
  | some '\x7b' =>
    let _ ← Reader.next
    skipBlanks
    if ← Reader.accept "\x7d" then return ⟨frames, some (.object [])⟩
    return ⟨.object [] (← readKey) :: frames, none⟩
  | some '"' => return ⟨frames, some (.string (← readString))⟩
  | some 'n' => do Reader.expect "null"; return ⟨frames, some .null⟩
  | some 't' => do Reader.expect "true"; return ⟨frames, some (.bool true)⟩
  | some 'f' => do Reader.expect "false"; return ⟨frames, some (.bool false)⟩
  | _ => return ⟨frames, some (.number (← readNumber))⟩

/-- Puts a complete value into the innermost container, which is closed or goes on. -/
def place (value : Value) : List Frame → Reader (Progress ⊕ Value)
  | [] => return .inr value
  | .array items :: frames => do
    skipBlanks
    if ← Reader.accept "," then return .inl ⟨.array (value :: items) :: frames, none⟩
    Reader.expect "]"
    return .inl ⟨frames, some (.array (value :: items).reverse)⟩
  | .object fields key :: frames => do
    skipBlanks
    if ← Reader.accept "," then
      return .inl ⟨.object ((key, value) :: fields) (← readKey) :: frames, none⟩
    Reader.expect "\x7d"
    return .inl ⟨frames, some (.object ((key, value) :: fields).reverse)⟩

/-- A value. -/
def readValue : Reader Value :=
  Reader.repeatUntil (fun progress => do
    match progress.value? with
    | some value => place value progress.frames
    | none => return .inl (← openValue progress.frames)) ({} : Progress)

/-- The value of a JSON text. -/
def parse? (text : String) : Option Value :=
  Reader.readAll (do
    let value ← readValue
    skipBlanks
    return value) text.toList

end RasterGpu.Json
