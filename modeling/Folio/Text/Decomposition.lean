import Folio.Text.CombiningClass
import Folio.Text.Decomposition.Table

/-!
# Compatibility normal form

A text is normalised by replacing every character with its full compatibility
decomposition and then putting each run of marks into the order of their combining
classes. Marks of one class keep their order, so the second step is a stable sort.
-/

namespace Folio.Text

/-- The parts of a Hangul syllable: leading consonant, vowel and, if there is one, the
trailing consonant. `index` counts from the first syllable. -/
def hangulParts (index : Nat) : List Nat :=
  let trailing := index % 28
  [0x1100 + index / 588, 0x1161 + index % 588 / 28] ++
    if trailing == 0 then [] else [0x11A7 + trailing]

/-- The full compatibility decomposition of a code point. -/
def decomposeCode (code : Nat) : List Nat :=
  if code < 0xA0 then [code]
  else if 0xAC00 ≤ code && code ≤ 0xD7A3 then hangulParts (code - 0xAC00)
  else
    match decompositions.find? fun (first, last, _) => first ≤ code && code ≤ last with
    | some (first, _, [single]) => [single + (code - first)]
    | some (_, _, parts) => parts
    | none => [code]

/-- The full compatibility decomposition of a character. -/
def decompose (character : Char) : List Char :=
  (decomposeCode character.toNat).map Char.ofNat

/-- Put a character in front of an ordered text; a mark moves behind the marks of smaller
class that follow it, and nothing moves across a character of class 0. -/
def placeMark (character : Char) : List Char → List Char
  | [] => [character]
  | next :: rest =>
    if combiningClass next != 0 && combiningClass next < combiningClass character then
      next :: placeMark character rest
    else character :: next :: rest

/-- Sort every run of marks by combining class, stably. -/
def orderMarks : List Char → List Char
  | [] => []
  | character :: rest => placeMark character (orderMarks rest)

/-- The compatibility normal form of a text. -/
def normalize (text : List Char) : List Char := orderMarks (text.flatMap decompose)

end Folio.Text
