import Folio.Toml.Reader

/-!
# TOML documents

The statements of a document build one table. A header opens a table for the entries that
follow. No table is declared twice, no value is replaced, and what an entry has given a
value, arrays and inline tables included, takes no further entries.
-/

namespace Folio.Toml

/-- A table under construction: its entries, the key of the open table, the keys that may not
be declared by a header, those that dotted keys of the open table will close, and those whose
values are complete. -/
structure Draft where
  entries : Settings := []
  header : Key := []
  declared : List Key := []
  pending : List Key := []
  complete : List Key := []
  deriving Inhabited

namespace Draft

/-- The key is within a value that is complete. -/
def isComplete (draft : Draft) (key : Key) : Bool := draft.complete.any (·.isPrefixOf key)

/-- The end of the open table: keys that dotted keys went through count as declared. -/
def closeTable (draft : Draft) : Draft :=
  { draft with declared := draft.pending ++ draft.declared, pending := [] }

/-- Open the table with a key. -/
def openTable (key : Key) (draft : Draft) : Option Draft :=
  let draft := draft.closeTable
  if draft.declared.contains key || draft.isComplete key then none
  else do
    let entries ← changeTable true some key draft.entries
    some { draft with entries, header := key, declared := key :: draft.declared }

/-- Add an empty table to an array of tables. -/
def addTable (name : String) (entries : Settings) : Option Settings :=
  match entries.named? name with
  | none => some (entries ++ [(.text name, .list [.table []])])
  | some (.list items) => some (entries.put (.text name) (.list (items ++ [.table []])))
  | some _ => none

/-- Open a new table at the end of the array with a key. What was declared below the key
belonged to the table before. -/
def openArrayTable (key : Key) (draft : Draft) : Option Draft :=
  let draft := draft.closeTable
  if draft.isComplete key then none
  else
    match key.getLast? with
    | none => none
    | some name => do
      let outside (other : Key) : Bool := !key.isPrefixOf other
      let entries ← changeTable true (addTable name) key.dropLast draft.entries
      some
        { draft with
          entries
          header := key
          declared := key :: draft.declared.filter outside
          complete := draft.complete.filter outside }

/-- The keys of the tables that a dotted key leads through. -/
def through (header key : Key) : List Key :=
  (List.range (key.length - 1)).map fun count => header ++ key.take (count + 1)

/-- Add an entry to the open table. -/
def addEntry (key : Key) (value : Setting) (draft : Draft) : Option Draft :=
  let whole := draft.header ++ key
  let passed := through draft.header key
  if passed.any draft.declared.contains || draft.isComplete whole.dropLast then none
  else
    match key.getLast? with
    | none => none
    | some name => do
      let entries ← changeTable true (addNew name value) whole.dropLast draft.entries
      some
        { draft with
          entries
          pending := passed ++ draft.pending
          complete := if isContainer value then whole :: draft.complete else draft.complete }

/-- Apply a statement. -/
def apply (draft : Draft) : Statement → Option Draft
  | .table key => draft.openTable key
  | .arrayTable key => draft.openArrayTable key
  | .entry key value => draft.addEntry key value

end Draft

/-- Line ends of two characters count as one. -/
def joinLineEnds : List Char → List Char
  | '\r' :: '\n' :: rest => '\n' :: joinLineEnds rest
  | character :: rest => character :: joinLineEnds rest
  | [] => []

/-- The table that a TOML text writes; `none` if the text is malformed. -/
def parse? (text : String) : Option Settings := do
  let characters := joinLineEnds text.toList
  let statements ← readStatements (characters.length + 1) characters
  let draft ← statements.foldlM Draft.apply {}
  some draft.entries

end Folio.Toml
