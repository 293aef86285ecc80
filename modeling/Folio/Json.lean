import Folio.Scalar

/-!
# JSON values

Objects keep their members in the order in which the names first appeared. Numbers
written without fraction and exponent are whole numbers of any size, all others doubles.
-/

namespace Folio

/-- A JSON value. -/
inductive Json where
  | scalar (value : Scalar)
  | arr (items : List Json)
  | obj (members : List (String × Json))
  deriving Inhabited, Repr

namespace Json

/-- The members of an object, in order. -/
abbrev Members := List (String × Json)

@[match_pattern] abbrev null : Json := .scalar .null
@[match_pattern] abbrev bool (value : Bool) : Json := .scalar (.bool value)
@[match_pattern] abbrev int (value : Int) : Json := .scalar (.int value)
@[match_pattern] abbrev float (value : Float) : Json := .scalar (.float value)
@[match_pattern] abbrev str (value : String) : Json := .scalar (.text value)

/-- The word for the kind of a value in messages. -/
def typeName : Json → String
  | .scalar value => value.typeName
  | .arr _ => "list"
  | .obj _ => "dict"

/-- The value under a name. -/
def Members.get? (members : Members) (name : String) : Option Json :=
  (members.find? fun member => member.1 == name).map (·.2)

/-- Set the value under a name; a name that is already there keeps its place. -/
def Members.put (name : String) (value : Json) : Members → Members
  | [] => [(name, value)]
  | (other, old) :: rest =>
    if other == name then (name, value) :: rest else (other, old) :: Members.put name value rest

/-- The members with every name once: the last value at the place of the first. -/
def Members.ofPairs (pairs : List (String × Json)) : Members :=
  pairs.foldl (fun members pair => Members.put pair.1 pair.2 members) []

mutual

/-- A value as messages show it. -/
def display : Json → String
  | .scalar value => value.display
  | .arr items => "[" ++ ", ".intercalate (displayItems items) ++ "]"
  | .obj members => "\x7b" ++ ", ".intercalate (displayMembers members) ++ "\x7d"

/-- The items of a list as messages show them. -/
def displayItems : List Json → List String
  | [] => []
  | item :: rest => display item :: displayItems rest

/-- The members of an object as messages show them. -/
def displayMembers : List (String × Json) → List String
  | [] => []
  | (name, value) :: rest => (Text.quote name ++ ": " ++ display value) :: displayMembers rest

end

end Json

end Folio
