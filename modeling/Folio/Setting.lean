import Folio.Foreign
import Folio.Json

/-!
# Settings

The value of an option or of an entry in a configuration file. Unlike in JSON, there are values of
foreign kinds, and the keys of a table need not be texts.
-/

namespace Folio

/-- The key of an entry. -/
inductive Key where
  | scalar (value : Scalar)
  | foreign (value : Foreign)
  deriving Inhabited, Repr

namespace Key

@[match_pattern] abbrev text (value : String) : Key := .scalar (.text value)

/-- Two keys are the same key: scalars of one value, or the same foreign value. -/
def same : Key → Key → Bool
  | scalar left, scalar right => left.same right
  | foreign left, foreign right => left.same right
  | _, _ => false

/-- The key that is no number and not even the same as itself. -/
def isNaN : Key → Bool
  | scalar value => value.isNaN
  | foreign _ => false

/-- The word for the kind of a key in faults. -/
def faultName : Key → String
  | scalar value => value.typeName
  | foreign value => value.faultName

/-- The key as messages show it. -/
def display : Key → String
  | scalar value => value.display
  | foreign value => value.shown

@[simp] theorem same_text (left right : String) :
    (text left).same (text right) = (left == right) := rfl

/-- The key as the name of a JSON member. -/
def name : Key → String
  | .text value => value
  | .scalar .null => "null"
  | .scalar (.bool value) => if value then "true" else "false"
  | .scalar other => other.display
  | .foreign value => value.plain

end Key

/-- A configured value. -/
inductive Setting where
  | scalar (value : Scalar)
  | foreign (value : Foreign)
  | list (items : List Setting)
  | table (entries : List (Key × Setting))
  deriving Inhabited, Repr

/-- The entries of a table, in order. -/
abbrev Settings := List (Key × Setting)

namespace Setting

@[match_pattern] abbrev null : Setting := .scalar .null
@[match_pattern] abbrev bool (value : Bool) : Setting := .scalar (.bool value)
@[match_pattern] abbrev int (value : Int) : Setting := .scalar (.int value)
@[match_pattern] abbrev text (value : String) : Setting := .scalar (.text value)

/-- The word for the kind of a setting in messages. -/
def typeName : Setting → String
  | scalar value => value.typeName
  | foreign value => value.kind
  | list _ => "list"
  | table _ => "dict"

/-- The word for the kind of a setting in faults. -/
def faultName : Setting → String
  | foreign value => value.faultName
  | other => other.typeName

/-- Empty lists and tables count as not set, and so do unset scalars. -/
def isSet : Setting → Bool
  | scalar value => value.isSet
  | foreign value => value.isSet
  | list items => !items.isEmpty
  | table entries => !entries.isEmpty

/-- The setting, if it has no parts. -/
def scalar? : Setting → Option Scalar
  | scalar value => some value
  | _ => none

/-- The setting as the key of an entry, if it can be one. -/
def key? : Setting → Option Key
  | scalar value => some (.scalar value)
  | foreign value => if value.isHashable then some (.foreign value) else none
  | _ => none

/-- The number is below `bound`; `none` for a setting that is not a number. -/
def below? (bound : Nat) (setting : Setting) : Option Bool :=
  setting.scalar?.bind (·.below? bound)

mutual

/-- The setting as messages show it. -/
def display : Setting → String
  | scalar value => value.display
  | foreign value => value.shown
  | list items => "[" ++ ", ".intercalate (displayItems items) ++ "]"
  | table entries => "\x7b" ++ ", ".intercalate (displayEntries entries) ++ "\x7d"

/-- The items of a list as messages show them. -/
def displayItems : List Setting → List String
  | [] => []
  | item :: rest => display item :: displayItems rest

/-- The entries of a table as messages show them. -/
def displayEntries : List (Key × Setting) → List String
  | [] => []
  | (key, value) :: rest => (key.display ++ ": " ++ display value) :: displayEntries rest

end

/-- The setting as running text. -/
def plain : Setting → String
  | scalar value => value.plain
  | foreign value => value.plain
  | other => other.display

mutual

/-- A JSON value as a setting. -/
def ofJson : Json → Setting
  | .scalar value => .scalar value
  | .arr items => .list (ofJsonItems items)
  | .obj members => .table (ofJsonMembers members)

/-- The items of a JSON list as settings. -/
def ofJsonItems : List Json → List Setting
  | [] => []
  | item :: rest => ofJson item :: ofJsonItems rest

/-- The members of a JSON object as entries. -/
def ofJsonMembers : List (String × Json) → List (Key × Setting)
  | [] => []
  | (name, value) :: rest => (.text name, ofJson value) :: ofJsonMembers rest

end

mutual

/-- A setting as a JSON value, in which a foreign value is a text. -/
def toJson : Setting → Json
  | .scalar value => .scalar value
  | .foreign value => .str value.plain
  | .list items => .arr (toJsonItems items)
  | .table entries => .obj (toJsonMembers entries)

/-- The items of a list as JSON values. -/
def toJsonItems : List Setting → List Json
  | [] => []
  | item :: rest => toJson item :: toJsonItems rest

/-- The entries of a table as members. -/
def toJsonMembers : List (Key × Setting) → List (String × Json)
  | [] => []
  | (key, value) :: rest => (key.name, toJson value) :: toJsonMembers rest

end

end Setting

namespace Settings

/-- The value under a key. -/
def get? (entries : Settings) (key : Key) : Option Setting :=
  (entries.find? fun entry => entry.1.same key).map (·.2)

/-- Set the value under a key; a key that is already there keeps its place. -/
def put (key : Key) (value : Setting) : Settings → Settings
  | [] => [(key, value)]
  | (other, old) :: rest =>
    if other.same key then (other, value) :: rest else (other, old) :: put key value rest

/-- The value under a name. -/
def named? (entries : Settings) (name : String) : Option Setting := get? entries (.text name)

mutual

/-- Both settings together: tables entry by entry, all else as the second has it. -/
def mergeSetting : Setting → Setting → Setting
  | .table base, .table override => .table (merge base override)
  | _, override => override

/-- Two tables together. Entries of the second replace those of the first, except that two
tables under one key are merged in turn; new keys come last. -/
def merge (base : Settings) : Settings → Settings
  | [] => base
  | (key, value) :: rest =>
    let merged := match get? base key with
      | some old => mergeSetting old value
      | none => value
    merge (put key merged base) rest

end

end Settings

end Folio
