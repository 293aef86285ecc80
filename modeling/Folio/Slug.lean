import Folio.Text.Decomposition

/-!
# Slugs

A slug is made of the words of a text: the runs of ASCII letters and digits that are left
once accents are dropped, in lower case and joined by hyphens. Letters without an ASCII
base separate words as punctuation does. Every non-ASCII character that would turn into an
ASCII letter in lower case is already decomposed by then, so lowering ASCII is enough.
-/

namespace Folio.Slug

/-- A lower-case ASCII letter or a digit. -/
def isWordChar (character : Char) : Bool :=
  ('a' ≤ character && character ≤ 'z') || ('0' ≤ character && character ≤ '9')

/-- The characters of a text without accents and in lower case. -/
def fold (text : List Char) : List Char :=
  ((Text.normalize text).filter fun character => !Text.isMark character).map Char.toLower

/-- A text cut at every character that stands in no word; pieces can be empty. -/
def pieces : List Char → List (List Char)
  | [] => [[]]
  | character :: rest =>
    if isWordChar character then
      match pieces rest with
      | piece :: others => (character :: piece) :: others
      | [] => [[character]]
    else [] :: pieces rest

/-- The words of a text. -/
def words (text : List Char) : List (List Char) :=
  (pieces (fold text)).filter fun piece => !piece.isEmpty

/-- Words joined by hyphens. -/
def join : List (List Char) → List Char
  | [] => []
  | [word] => word
  | word :: rest => word ++ '-' :: join rest

/-- The slug of a text, empty if the text has no words. -/
def core (text : List Char) : List Char := join (words text)

/-- The slug of a text, if it has one. -/
def ofText? (text : String) : Option String :=
  match core text.toList with
  | [] => none
  | slug => some (String.ofList slug)

/-- The slug of a text, or the fallback for a text without words. -/
def ofText (text : String) (fallback : String := "section") : String :=
  (ofText? text).getD fallback

end Folio.Slug
