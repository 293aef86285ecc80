/-!
# Halves of surrogate pairs

An escape in a JSON string can write half of a surrogate pair on its own. That is no character,
and no text holds it, but it is kept until somebody wants to encode it. Here, a character of a
range that Unicode leaves unassigned stands for each half.
-/

namespace Folio.Text

/-- The character that stands for half of a surrogate pair. -/
def ofHalf (unit : Nat) : Char := Char.ofNat (unit - 0xD800 + 0xE0800)

/-- The half of a surrogate pair that a character stands for, if it stands for one. -/
def half? (character : Char) : Option Nat :=
  let code := character.toNat
  if 0xE0800 ≤ code && code ≤ 0xE0FFF then some (code - 0xE0800 + 0xD800) else none

/-- A character that is none is the only one that cannot be encoded. -/
def isEncodable (character : Char) : Bool := (half? character).isNone

/-- No two halves are told by one character. -/
theorem half?_ofHalf {unit : Nat} (low : 0xD800 ≤ unit) (high : unit ≤ 0xDFFF) :
    half? (ofHalf unit) = some unit := by
  have valid : (unit - 0xD800 + 0xE0800).isValidChar := by
    simp only [Nat.isValidChar]
    omega
  have code : (ofHalf unit).toNat = unit - 0xD800 + 0xE0800 := by
    rw [ofHalf, Char.ofNat, dif_pos valid]
    rfl
  simp only [half?, code]
  rw [if_pos (by simp; omega)]
  exact congrArg some (by omega)

/-- Halves are what cannot be encoded. -/
theorem isEncodable_ofHalf {unit : Nat} (low : 0xD800 ≤ unit) (high : unit ≤ 0xDFFF) :
    isEncodable (ofHalf unit) = false := by
  rw [isEncodable, half?_ofHalf low high]
  rfl

end Folio.Text
