import Folio.Json.Parser
import Folio.Json.Printer
import Mathlib.Tactic.SplitIfs

/-!
# Strings written and read

What is written for a character is read as its code unit again, whatever the character. No
character is half a surrogate pair, so the units of a text join to the same characters.
-/

namespace Folio.Json

/-- A control character is escaped with four digits. -/
theorem hexText_control (code : Nat) (control : code < 0x20) :
    (Text.hexText 4 code).toList =
      ['0', '0', Nat.digitChar (code / 16), Nat.digitChar (code % 16)] := by
  rw [Text.hexText, String.toList_ofList]
  revert code
  decide

/-- The four digits of a control character are read as its code. -/
theorem hexUnit?_control (code : Nat) (control : code < 0x20) :
    hexUnit? '0' '0' (Nat.digitChar (code / 16)) (Nat.digitChar (code % 16)) = some code := by
  revert code
  decide

/-- A character that needs no escape is read as it stands. -/
theorem readUnits_plain (opening : List Char) (character : Char) (after : List Char)
    (noQuote : character ≠ '"') (noEscape : character ≠ '\\') (shown : 0x20 ≤ character.toNat) :
    readUnits opening (character :: after) = (readUnits opening after).cons character.toNat := by
  rw [readUnits.eq_def]
  split
  · simp_all
  · simp_all
  · simp_all
  · simp_all
  · simp_all
  · simp_all
  · rename_i equal
    obtain ⟨rfl, rfl⟩ := List.cons.inj equal
    rw [if_neg (by omega)]

/-- Any character is read back, if something stands behind it. -/
theorem readUnits_escapeChar (opening : List Char) (character next : Char) (after : List Char) :
    readUnits opening ((escapeChar character).toList ++ next :: after) =
      (readUnits opening (next :: after)).cons character.toNat := by
  unfold escapeChar
  simp only [beq_iff_eq]
  split_ifs with quote escape feed carriage tab backspace formFeed control
  · rw [quote]; rfl
  · rw [escape]; rfl
  · rw [feed]; rfl
  · rw [carriage]; rfl
  · rw [tab]; rfl
  · rw [backspace]; rfl
  · rw [formFeed]; rfl
  · rw [String.toList_append, hexText_control _ control]
    have digits := hexUnit?_control _ control
    simp [readUnits, digits]
  · have shown := readUnits_plain opening character (next :: after) quote escape (by omega)
    simpa using shown

/-- The characters of a text between its quotes are read back up to the closing quote. -/
theorem readUnits_escaped (opening text rest : List Char) :
    readUnits opening ((String.join (text.map escapeChar)).toList ++ '"' :: rest) =
      .ok (text.map Char.toNat, rest) := by
  induction text with
  | nil => simp [readUnits]
  | cons character others hypothesis =>
    rw [List.map_cons, String.join_cons, String.toList_append, List.append_assoc]
    obtain ⟨next, after, behind⟩ : ∃ next after,
        (String.join (others.map escapeChar)).toList ++ '"' :: rest = next :: after :=
      List.exists_cons_of_ne_nil (by simp)
    rw [behind, readUnits_escapeChar, ← behind, hypothesis]
    rfl

/-- No character is half a surrogate pair. -/
theorem not_surrogate (character : Char) :
    ¬ (0xD800 ≤ character.toNat ∧ character.toNat ≤ 0xDFFF) := by
  have valid := character.valid
  simp only [UInt32.isValidChar, Nat.isValidChar] at valid
  have code : character.toNat = character.val.toNat := rfl
  omega

/-- The code of a character stands for that character. -/
theorem unitChar_toNat (character : Char) : joinUnits.unitChar character.toNat = character := by
  have plain := not_surrogate character
  rw [joinUnits.unitChar, if_neg (by simpa using plain), Char.ofNat_toNat]

/-- The codes of characters join to those characters. -/
theorem joinUnits_toNat (text : List Char) : joinUnits (text.map Char.toNat) = text := by
  induction text with
  | nil => rfl
  | cons high rest hypothesis =>
    have alone := unitChar_toNat high
    cases rest with
    | nil => rw [List.map_cons, List.map_nil, joinUnits, alone]
    | cons low others =>
      have plain := not_surrogate high
      rw [List.map_cons, List.map_cons, joinUnits, if_neg, alone, ← List.map_cons, hypothesis]
      simp only [Bool.and_eq_true, decide_eq_true_eq]
      omega

/-- A written text is read back. -/
theorem readString_escaped (opening : List Char) (text : String) (rest : List Char) :
    readString opening ((String.join (text.toList.map escapeChar)).toList ++ '"' :: rest) =
      .ok (text, rest) := by
  rw [readString, readUnits_escaped]
  simp only [joinUnits_toNat, String.ofList_toList]

end Folio.Json
