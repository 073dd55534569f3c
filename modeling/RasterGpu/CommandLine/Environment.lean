import RasterGpu.Text.Alphanumeric
import RasterGpu.Text.Reader

/-!
# Files of environment variables

A file of environment variables has lines `KEY=value`, with the word `export` before the key if one
likes. A value may be quoted, in single quotes plainly, otherwise with escapes and with the values
of variables in the place of `$NAME`; a quoted value may go over several lines. A comment starts at
a `#` after a blank. The first line that does not fit ends the file.
-/

namespace RasterGpu.Environment

/-- Characters of width without ink. -/
def isBlank (c : Char) : Bool :=
  let n := c.toNat
  (0x09 ≤ n && n ≤ 0x0D) || (0x2000 ≤ n && n ≤ 0x200A)
    || [0x20, 0x85, 0xA0, 0x1680, 0x2028, 0x2029, 0x202F, 0x205F, 0x3000].contains n

/-! ## Lines -/

/-- Where in a line the text stands, as far as it matters to where the line ends. -/
inductive Place where
  /-- In plain text. -/
  | plain
  /-- After a blank, where a comment may start. -/
  | blank
  /-- Between quotes of a kind. -/
  | quoted (quote : Char)
  deriving DecidableEq, Repr, Inhabited

/-- Text up to where a line of the file really ends, and what follows. `done` is the text before,
newest first. A line goes on while a quote is open or its end is escaped. There is no line if the
text ends before it does. -/
def takeLine (done : List Char) : Place → List Char → Option (List Char × List Char)
  | .plain, [] => some (done.reverse, [])
  | .blank, [] => none
  | .quoted _, [] => none
  | .quoted _, ['\\'] => none
  | .quoted quote, '\\' :: c :: rest => takeLine (c :: '\\' :: done) (.quoted quote) rest
  | .quoted quote, c :: rest =>
    takeLine (c :: done) (if c = quote then .plain else .quoted quote) rest
  | _, ['\\'] => none
  | _, ['\\', '\n'] => some (done.reverse ++ ['\\'], [])
  | _, '\\' :: '\n' :: rest => some (done.reverse ++ ['\\'], rest)
  | _, '\\' :: c :: rest => takeLine (c :: '\\' :: done) .plain rest
  | place, c :: rest =>
    if c = '\n' then some (done.reverse, rest)
    else if c = '#' ∧ place = .blank then
      some (done.reverse, (rest.dropWhile (· ≠ '\n')).drop 1)
    else if c = '"' ∨ c = '\'' then takeLine (c :: done) (.quoted c) rest
    else
      let opensBlank := place = .plain ∧ isBlank c ∧ c ≠ '\r'
      takeLine (c :: done) (if opensBlank then .blank else .plain) rest

/-- The lines of a file up to one that does not end. Lines that start as comments are left out. -/
def lines : (limit : Nat) → List Char → List (List Char)
  | 0, _ => []
  | _, [] => []
  | limit + 1, text =>
    let first := (text.takeWhile (· ≠ '\n')).dropWhile isBlank
    if first.head? = some '#' then lines limit ((text.dropWhile (· ≠ '\n')).drop 1)
    else
      match takeLine [] .plain text with
      | none => []
      | some (line, rest) => line :: lines limit rest

/-! ## Values -/

/-- A part of a value. -/
inductive Part where
  /-- A character. -/
  | char (c : Char)
  /-- The value of a variable. -/
  | reference (name : String)
  deriving DecidableEq, Repr, Inhabited

/-- What is being read of a value. `quoted` tells whether it is between double quotes. -/
inductive Reading where
  /-- Text. -/
  | text (quoted : Bool)
  /-- Text between single quotes. -/
  | literal
  /-- The name of a variable, of letters and digits; `name` is what was read of it, newest first. -/
  | name (quoted : Bool) (name : List Char)
  /-- The name of a variable between braces. -/
  | braced (quoted : Bool) (name : List Char)
  /-- Only a comment may follow. -/
  | ending
  deriving DecidableEq, Repr, Inhabited

/-- The variable with a name that was read backwards. -/
def variableOf (name : List Char) : Part :=
  .reference (.ofList name.reverse)

/-- The parts of a value. -/
def parts? : Reading → List Char → Option (List Part)
  | .text quoted, [] => if quoted then none else some []
  | .literal, [] => none
  | .name quoted name, [] => if quoted then none else some [variableOf name]
  | .braced .., [] => none
  | .ending, [] => some []
  | .ending, c :: rest =>
    if c = ' ' ∨ c = '\t' then parts? .ending rest else if c = '#' then some [] else none
  | .literal, c :: rest =>
    if c = '\'' then parts? (.text false) rest else (parts? .literal rest).map (.char c :: ·)
  | .name quoted name, c :: rest =>
    if isAlphanumeric c then parts? (.name quoted (c :: name)) rest
    else if c = '\x7b' ∧ name = [] then parts? (.braced quoted []) rest
    else if c = '$' then (parts? (.name quoted []) rest).map (variableOf name :: ·)
    else (parts? (.text quoted) rest).map (variableOf name :: .char c :: ·)
  | .braced quoted name, c :: rest =>
    if c = '\x7d' then (parts? (.text quoted) rest).map (variableOf name :: ·)
    else parts? (.braced quoted (c :: name)) rest
  | .text quoted, ['\\'] => if quoted then none else some []
  | .text quoted, '\\' :: c :: rest =>
    if c = 'n' then (parts? (.text quoted) rest).map (.char '\n' :: ·)
    else if ['\\', '\'', '"', '$', ' '].contains c then
      (parts? (.text quoted) rest).map (.char c :: ·)
    else none
  | .text quoted, c :: rest =>
    if c = '$' then parts? (.name quoted []) rest
    else if c = '"' then parts? (.text !quoted) rest
    else if quoted then (parts? (.text true) rest).map (.char c :: ·)
    else if c = '\'' then parts? .literal rest
    else if c = ' ' ∨ c = '\t' then parts? .ending rest
    else (parts? (.text false) rest).map (.char c :: ·)

/-! ## Settings of variables -/

/-- A variable and the value it is to have. -/
structure Setting where
  /-- The name of the variable. -/
  key : String
  /-- The parts of the value. -/
  value : List Part
  deriving DecidableEq, Repr, Inhabited

/-- The name of a variable. -/
def readKey : Reader String := do
  let c ← Reader.next
  guard (c.isAlpha || c == '_')
  let rest ← Reader.takeWhile fun c => c.isAlphanum || c == '_' || c == '.'
  Reader.skipWhile isBlank
  return .ofList (c :: rest)

/-- A setting. -/
def readSetting : Reader Setting := do
  let first ← readKey
  let assigned ← Reader.accept "="
  guard (assigned || first == "export")
  let key ← if assigned then pure first else readKey
  unless assigned do Reader.expect "="
  Reader.skipWhile isBlank
  let text ← Reader.takeWhile fun _ => true
  if text.head? = some '#' then return ⟨key, []⟩
  let some value := parts? (.text false) text | failure
  return ⟨key, value⟩

/-- The settings of some lines up to the first line that does not fit. -/
def settings : List (List Char) → List Setting
  | [] => []
  | line :: rest =>
    let line := ((line.dropWhile isBlank).reverse.dropWhile isBlank).reverse
    if line.isEmpty || line.head? == some '#' then settings rest
    else
      match Reader.readAll readSetting line with
      | none => []
      | some setting => setting :: settings rest

/-- The settings of a file. -/
def parse (text : String) : List Setting :=
  let text := text.toList
  settings (lines (text.length + 1) (if text.head? = some '\ufeff' then text.drop 1 else text))

/-- Values of variables. -/
abbrev Values : Type := List (String × String)

/-- The value of a variable: the one it had from outside, or the first it was set to. -/
def value? {m : Type → Type} [Monad m] (outside : String → m (Option String)) (values : Values)
    (name : String) : m (Option String) := do
  return (← outside name) <|> values.lookup name

/-- Gives the variables of a file their values, one after the other. -/
def resolve {m : Type → Type} [Monad m] (outside : String → m (Option String))
    (settings : List Setting) : m Values :=
  settings.foldlM (fun values setting => do
    let texts ← setting.value.mapM fun
      | .char c => pure c.toString
      | .reference name => do return (← value? outside values name).getD ""
    return values ++ [(setting.key, String.join texts)]) []

end RasterGpu.Environment
