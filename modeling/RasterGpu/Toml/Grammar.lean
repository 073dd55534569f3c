import RasterGpu.Toml.Scalar
import RasterGpu.Toml.Table

/-!
# Reading TOML

A document is a list of lines, each a header or a key with its value (`Toml.Statement`); `parse?`
reads the lines and puts the tables together. Arrays and tables between braces may go over several
lines, hold comments and end in a comma; only a key with its points stays on one line. They may be
nested to a fixed depth, and keys have a greatest number of parts.
-/

namespace RasterGpu.Toml

/-- Arrays and tables between braces that may be nested. -/
def maxNesting : Nat := 80

/-- Parts that a dotted key may have. -/
def maxKeyParts : Nat := 80

/-! ## Space -/

/-- Drops a comment, if there is one. -/
def skipComment : Reader Unit := do
  if ← Reader.accept "#" then Reader.skipWhile isPrintable

/-- Drops blanks, comments and line ends. -/
def skipSpace : Reader Unit :=
  Reader.repeatUntil (fun () => do
    skipBlanks
    skipComment
    if ← acceptLineEnd then return .inl ()
    return .inr ()) ()

/-! ## Keys -/

/-- Characters of a key without quotes. -/
def isBare (c : Char) : Bool :=
  c.isAlphanum || c == '_' || c == '-'

/-- A part of a key. -/
def readKeyPart : Reader String := do
  match ← Reader.peek? with
  | some '"' => readQuoted
  | some '\'' => readLiteral
  | _ => return .ofList (← Reader.takeSome isBare)

/-- A key, the parts apart by points. -/
def readKey : Reader Key := do
  let key ← Reader.repeatUntil (fun (path : List String) => do
    let name ← readKeyPart
    skipBlanks
    if ← Reader.accept "." then
      skipBlanks
      return .inl (name :: path)
    return .inr (⟨path.reverse, name⟩ : Key)) []
  guard (key.path.length < maxKeyParts)
  return key

/-! ## Values -/

/-- The items of an array after its opening, the value of each read by `item`. -/
def readItems (item : Reader Value) : Reader Value :=
  Reader.repeatUntil (fun (items : List Value) => do
    skipSpace
    if ← Reader.accept "]" then return .inr (.array items.reverse)
    let value ← item
    skipSpace
    if ← Reader.accept "," then return .inl (value :: items)
    Reader.expect "]"
    return .inr (.array (value :: items).reverse)) []

/-- A key, and its value read by `item`. The sign of equality between them stands in the space that
`space` drops. -/
def readAssignment (space : Reader Unit) (item : Reader Value) : Reader (Key × Value) := do
  let key ← readKey
  space
  Reader.expect "="
  space
  return (key, ← item)

/-- The entries of a table between braces after its opening, the value of each read by `item`. -/
def readEntries (item : Reader Value) : Reader Value :=
  Reader.repeatUntil (fun (entries : Entries) => do
    skipSpace
    if ← Reader.accept "\x7d" then return .inr (.table .inline entries)
    let (key, value) ← readAssignment skipSpace item
    let some entries := entries.assign key value .inline | failure
    skipSpace
    if ← Reader.accept "," then return .inl entries
    Reader.expect "\x7d"
    return .inr (.table .inline entries)) []

/-- A value that holds no others. -/
def readScalar : Reader Value := do
  match ← Reader.peek? with
  | some '"' => return .string (← readLines '"' true <|> readQuoted)
  | some '\'' => return .string (← readLines '\'' false <|> readLiteral)
  | _ =>
    let some value := ofWord? (← readWord) | failure
    return value

/-- A value with no more than `depth` arrays and tables nested in it. -/
def readValue : (depth : Nat) → Reader Value
  | 0 => readScalar
  | depth + 1 => do
    if ← Reader.accept "[" then readItems (readValue depth)
    else if ← Reader.accept "\x7b" then readEntries (readValue depth)
    else readScalar

/-! ## Documents -/

/-- A header or a key with its value. -/
def readStatement : Reader Statement := do
  if ← Reader.accept "[[" then
    skipBlanks
    let key ← readKey
    Reader.expect "]]"
    return .openItem key
  if ← Reader.accept "[" then
    skipBlanks
    let key ← readKey
    Reader.expect "]"
    return .openTable key
  let (key, value) ← readAssignment skipBlanks (readValue maxNesting)
  return .assign key value

/-- The lines of a document, each with its own line end; the last needs none. -/
def readStatements : Reader (List Statement) := do
  let _ ← Reader.accept "\ufeff"
  Reader.repeatUntil (fun (lines : List Statement) => do
    skipSpace
    if ← Reader.atEnd then return .inr lines.reverse
    let line ← readStatement
    skipBlanks
    skipComment
    unless ← Reader.atEnd do guard (← acceptLineEnd)
    return .inl (line :: lines)) []

/-- The entries of a TOML document. -/
def parse? (text : String) : Option Entries := do
  ofStatements? (← Reader.readAll readStatements text.toList)

end RasterGpu.Toml
