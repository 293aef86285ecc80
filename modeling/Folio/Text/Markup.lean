/-!
# Markup

Styles of text in a terminal are written as tags in square brackets. A tag begins with a
small letter or one of `#`, `/` and `@` and ends at the next closing bracket, before which no
opening one may stand. A backslash before a tag makes it count as text. The library sets
styles around text that may hold anything, so this text is escaped first.
-/

namespace Folio.Markup

/-- A character that may follow the opening bracket of a tag. -/
def opensTag (character : Char) : Bool :=
  ('a' ≤ character && character ≤ 'z') || ['#', '/', '@'].contains character

/-- The tag that begins behind an opening bracket, and what follows its closing bracket. -/
def tag? : List Char → Option (List Char × List Char)
  | [] => none
  | first :: rest =>
    let inside := rest.takeWhile fun character => character != ']' && character != '['
    match opensTag first, rest.drop inside.length with
    | true, ']' :: after => some (first :: inside, after)
    | _, _ => none

/-- A part of a marked text: a tag or an opening bracket that begins none, with the number of
backslashes before it, or any other character. -/
inductive Part where
  | tag (backslashes : Nat) (inside : List Char)
  | bracket (backslashes : Nat)
  | character (character : Char)
  deriving DecidableEq, Repr, Inhabited

/-- Some backslashes. -/
def backslashes (count : Nat) : List Char := List.replicate count '\\'

/-- The parts of a text. `count` backslashes stand before it. The attempts bound the walk;
one for every character is enough. -/
def partsWithin : (attempts count : Nat) → List Char → List Part
  | 0, _, _ => []
  | _ + 1, count, [] => (backslashes count).map .character
  | attempts + 1, count, '\\' :: rest => partsWithin attempts (count + 1) rest
  | attempts + 1, count, '[' :: rest =>
    match tag? rest with
    | some (inside, after) => .tag count inside :: partsWithin attempts 0 after
    | none => .bracket count :: partsWithin attempts 0 rest
  | attempts + 1, count, character :: rest =>
    (backslashes count).map .character ++ .character character :: partsWithin attempts 0 rest

/-- The parts of a text. -/
def parts (text : List Char) : List Part := partsWithin (text.length + 1) 0 text

/-- A part, escaped: before a tag, backslashes are doubled and one is added. -/
def Part.escape : Part → List Char
  | tag count inside => backslashes (2 * count + 1) ++ '[' :: inside ++ [']']
  | bracket count => backslashes count ++ ['[']
  | character found => [found]

/-- A text ends in a single backslash. -/
def endsInBackslash (text : List Char) : Bool :=
  match text.reverse with
  | '\\' :: '\\' :: _ => false
  | '\\' :: _ => true
  | _ => false

/-- A text, escaped. A single backslash at the end is doubled, lest it escape a tag behind. -/
def escape (text : List Char) : List Char :=
  let escaped := (parts text).flatMap Part.escape
  if endsInBackslash escaped then escaped ++ ['\\'] else escaped

/-- A part as it is shown: of the backslashes before a tag every second one, and the tag
itself if one is left over; before another bracket one less. -/
def Part.shown : Part → List Char
  | tag count inside =>
    backslashes (count / 2) ++ if count % 2 == 1 then '[' :: inside ++ [']'] else []
  | bracket count => backslashes (count - 1) ++ ['[']
  | character found => [found]

/-- Control characters that are never shown: the bell and those that move the cursor back or
down. -/
def isDropped (character : Char) : Bool := [7, 8, 11, 12, 13].contains character.toNat

/-- A marked text as it is shown without styles. -/
def shown (text : List Char) : List Char :=
  ((parts text).flatMap Part.shown).filter fun character => !isDropped character

/-- A text that is set in a style, as it is shown. -/
def styled (style : String) (text : List Char) : List Char :=
  shown (s!"[{style}]".toList ++ escape text ++ s!"[/{style}]".toList)

/-- A text by itself, as it is shown. -/
def unstyled (text : List Char) : List Char := shown (escape text)

end Folio.Markup
