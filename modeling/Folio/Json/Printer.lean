import Folio.Json

/-!
# Writing JSON text

Only the quote, the backslash and the control characters below the space are escaped.
Without indentation everything stands on one line; with indentation every item of a
container that is not empty has a line of its own, and a negative width counts as zero.
-/

namespace Folio.Json

/-- One character inside a string. -/
def escapeChar (character : Char) : String :=
  if character == '"' then "\\\""
  else if character == '\\' then "\\\\"
  else if character == '\n' then "\\n"
  else if character == '\r' then "\\r"
  else if character == '\t' then "\\t"
  else if character == '\x08' then "\\b"
  else if character == '\x0c' then "\\f"
  else if character.toNat < 0x20 then "\\u" ++ Text.hexText 4 character.toNat
  else character.toString

/-- A string with its quotes. -/
def quoteText (text : String) : String :=
  "\"" ++ String.join (text.toList.map escapeChar) ++ "\""

/-- A value without parts. -/
def scalarText : Scalar → String
  | .null => "null"
  | .bool value => if value then "true" else "false"
  | .int value => toString value
  | .float value => Decimal.text value "Infinity" "NaN"
  | .text value => quoteText value

/-- How containers are laid out: on one line, or indented by a number of spaces. -/
abbrev Indent := Option Int

/-- What separates the items at `level` from what stands before them. -/
def lineBreak (indent : Indent) (level : Nat) : String :=
  match indent with
  | none => ""
  | some width => "\n" ++ String.ofList (List.replicate (width.toNat * level) ' ')

/-- What stands between two items. -/
def separator (indent : Indent) (level : Nat) : String :=
  match indent with
  | none => ", "
  | some _ => "," ++ lineBreak indent level

/-- A container: its brackets around items that are already written. -/
def enclose (opening closing : String) (indent : Indent) (level : Nat) : List String → String
  | [] => opening ++ closing
  | items =>
    opening ++ lineBreak indent (level + 1) ++
      (separator indent (level + 1)).intercalate items ++ lineBreak indent level ++ closing

mutual

/-- A value inside containers `level` deep. -/
def writeValue (indent : Indent) (level : Nat) : Json → String
  | .scalar value => scalarText value
  | .arr items => enclose "[" "]" indent level (writeItems indent (level + 1) items)
  | .obj members => enclose "\x7b" "\x7d" indent level (writeMembers indent (level + 1) members)

/-- The items of an array. -/
def writeItems (indent : Indent) (level : Nat) : List Json → List String
  | [] => []
  | item :: rest => writeValue indent level item :: writeItems indent level rest

/-- The members of an object. -/
def writeMembers (indent : Indent) (level : Nat) : List (String × Json) → List String
  | [] => []
  | (name, value) :: rest =>
    (quoteText name ++ ": " ++ writeValue indent level value) :: writeMembers indent level rest

end

/-- The JSON text of a value. -/
def render (value : Json) (indent : Indent) : String := writeValue indent 0 value

end Folio.Json
