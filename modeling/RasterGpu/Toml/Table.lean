import RasterGpu.Toml.Value

/-!
# Tables of a TOML document

A document gives its tables piece by piece: a header opens a table, a key and value adds to the one
that was opened last, and both may go through further tables on their way. What may be added where
depends on how a table came about:

* a header opens a table that is new or was so far only on the way of other headers;
* a header of an array of tables adds one to such an array;
* a dotted key goes through tables that came about by dotted keys, and its value is added to such a
  table; a key without dots adds to a table of any other kind;
* nothing is added to a table between braces or to an array between brackets, and no key is given
  twice.
-/

namespace RasterGpu.Toml

/-- A key with the tables on its way. -/
structure Key where
  /-- The tables on the way. -/
  path : List String
  /-- The name in the last of them. -/
  name : String
  deriving DecidableEq, Repr, Inhabited

/-- A line of a document. -/
inductive Statement where
  /-- A key and its value. -/
  | assign (key : Key) (value : Value)
  /-- The header of a table. -/
  | openTable (key : Key)
  /-- The header of the next table of an array of tables. -/
  | openItem (key : Key)
  deriving Inhabited

namespace Entries

/-- Gives a name the value that `f` makes of the one it has. The order of the names stays. -/
def alter (name : String) (f : Option Value → Option Value) : Entries → Option Entries
  | [] => do return [(name, ← f none)]
  | (other, value) :: rest =>
    if other = name then do return (name, ← f (some value)) :: rest
    else do return (other, value) :: (← alter name f rest)

/-- Follows a path and changes the table at its end with `f`. A table that is missing on the way is
made with the origin `made`; only tables are entered whose origin is in `entered`, and of an array
of tables the last. -/
def within (made : Origin) (entered : List Origin) (f : Origin → Entries → Option Entries) :
    (path : List String) → Origin → Entries → Option Entries
  | [], origin, entries => f origin entries
  | name :: path, _, entries =>
    entries.alter name fun
      | none => do return .table made (← within made entered f path made [])
      | some (.table origin inner) => do
        guard (origin ∈ entered)
        return .table origin (← within made entered f path origin inner)
      | some (.tables earlier last) => do
        return .tables earlier (← within made entered f path .header last)
      | some _ => none

/-- Follows the path of a header. -/
def withinHeader : (Origin → Entries → Option Entries) → List String → Origin → Entries →
    Option Entries :=
  within .implied [.implied, .dotted, .header]

/-- Adds a key and its value to a table. -/
def assign (key : Key) (value : Value) : Origin → Entries → Option Entries :=
  within .dotted [.implied, .dotted] (fun origin entries => do
    guard (origin = .dotted ↔ key.path ≠ [])
    entries.alter key.name fun
      | none => some value
      | some _ => none) key.path

/-- Opens a table that is new, or that was so far only on the way of headers. -/
def openTable (key : Key) : Origin → Entries → Option Entries :=
  withinHeader (fun _ entries =>
    entries.alter key.name fun
      | none => some (.table .header [])
      | some (.table .implied inner) => some (.table .header inner)
      | some _ => none) key.path

/-- Opens a further table of an array of tables. -/
def openItem (key : Key) : Origin → Entries → Option Entries :=
  withinHeader (fun _ entries =>
    entries.alter key.name fun
      | none => some (.tables [] [])
      | some (.tables earlier last) => some (.tables (last :: earlier) [])
      | some _ => none) key.path

end Entries

/-- A document that is being put together. -/
structure Draft where
  /-- The entries of the document so far. -/
  root : Entries := []
  /-- The way to the table that was opened last. -/
  current : List String := []
  deriving Inhabited

/-- Puts in a line of the document. -/
def Draft.add (d : Draft) : Statement → Option Draft
  | .assign key value => do
    let root ← Entries.withinHeader (Entries.assign key value) d.current .header d.root
    return { d with root }
  | .openTable key => do
    return ⟨← Entries.openTable key .header d.root, key.path ++ [key.name]⟩
  | .openItem key => do
    return ⟨← Entries.openItem key .header d.root, key.path ++ [key.name]⟩

/-- The entries of a document from its lines. -/
def ofStatements? (statements : List Statement) : Option Entries := do
  return (← statements.foldlM Draft.add {}).root

end RasterGpu.Toml
