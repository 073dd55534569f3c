/-!
# TOML values

The values of a TOML document. A table remembers how it came about, for that decides what may still
be added to it (see the tables of a document); a float and a date keep the text they are written as.
A number may stand in a document without having a value (`Value.unreadable`), as long as nobody asks
for it (`Value.isReadable`).
-/

namespace RasterGpu.Toml

/-- How a table came about. -/
inductive Origin where
  /-- It is on the way of a header to another table. -/
  | implied
  /-- It is on the way of a dotted key to a value. -/
  | dotted
  /-- A header names it, or it is the document. -/
  | header
  /-- It is written between braces. -/
  | inline
  deriving DecidableEq, Repr, Inhabited

/-- A TOML value. -/
inductive Value where
  /-- A string. -/
  | string (text : String)
  /-- An integer of 128 bits, signed or not. -/
  | integer (n : Int)
  /-- A float in the range of double precision. -/
  | float (text : String)
  /-- A number without a value: it lacks digits, has some that are none, or is out of range. -/
  | unreadable (text : String)
  /-- A truth value. -/
  | boolean (b : Bool)
  /-- A date, a time of day, or both. -/
  | datetime (text : String)
  /-- An array. -/
  | array (items : List Value)
  /-- An array of tables written under headers; the one written last can still grow. -/
  | tables (earlier : List (List (String × Value))) (last : List (String × Value))
  /-- A table. No key is given twice. -/
  | table (origin : Origin) (entries : List (String × Value))
  deriving Inhabited

/-- The entries of a table. -/
abbrev Entries : Type := List (String × Value)

mutual

/-- Whether all numbers in the value have a value themselves. -/
def Value.isReadable : Value → Bool
  | .unreadable _ => false
  | .array items => areReadable items
  | .tables earlier last => listsAreReadable earlier && entriesAreReadable last
  | .table _ entries => entriesAreReadable entries
  | .string _ | .integer _ | .float _ | .boolean _ | .datetime _ => true

/-- Whether all numbers in the values have a value. -/
def areReadable : List Value → Bool
  | [] => true
  | value :: rest => value.isReadable && areReadable rest

/-- Whether all numbers in the entries of a table have a value. -/
def entriesAreReadable : List (String × Value) → Bool
  | [] => true
  | (_, value) :: rest => value.isReadable && entriesAreReadable rest

/-- Whether all numbers in the entries of several tables have a value. -/
def listsAreReadable : List (List (String × Value)) → Bool
  | [] => true
  | entries :: rest => entriesAreReadable entries && listsAreReadable rest

end

end RasterGpu.Toml
