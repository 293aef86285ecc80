import Folio.Json.Parser
import Folio.Json.Printer
import Mathlib.Tactic.ByContra

/-!
# Whole numbers written and read

A whole number of any size is read back from its decimal digits, provided that what stands
behind it cannot be taken for a part of it. Printed texts only ever put a comma, a closing
bracket or a line feed there.
-/

namespace Folio.Json

/-- The text begins with nothing that could be a part of a number. -/
def EndsNumber (text : List Char) : Prop :=
  ∀ next ∈ text.head?, next = ',' ∨ next = ']' ∨ next = '\x7d' ∨ next = '\n'

/-- A number ends with the text. -/
theorem EndsNumber.nil : EndsNumber [] := by
  simp [EndsNumber]

/-- A number ends before what can follow it in a value. -/
theorem EndsNumber.cons {next : Char} (rest : List Char)
    (closing : next = ',' ∨ next = ']' ∨ next = '\x7d' ∨ next = '\n') :
    EndsNumber (next :: rest) := by
  simpa [EndsNumber] using closing

/-- The digits of a positive number do not begin with a zero. -/
theorem toDigits_head (number : Nat) (positive : 0 < number) :
    ∃ digit digits, Nat.toDigits 10 number = digit :: digits ∧ digit ≠ '0' := by
  induction number using Nat.strongRecOn with
  | ind number hypothesis =>
    by_cases single : number < 10
    · have notZero : ∀ digit < 10, 0 < digit → digit.digitChar ≠ '0' := by decide
      exact ⟨_, [], Nat.toDigits_of_lt_base single, notZero number single positive⟩
    · have smaller : number / 10 < number := by omega
      have left : 0 < number / 10 := by omega
      obtain ⟨digit, digits, higher, notZero⟩ := hypothesis (number / 10) smaller left
      rw [Nat.toDigits_of_base_le (by omega) (by omega), higher]
      exact ⟨digit, _, rfl, notZero⟩

/-- The digits of a number have the value of the number. -/
theorem digitsValue_toDigits (number : Nat) : digitsValue (Nat.toDigits 10 number) = number := by
  have value : Nat.ofDigitChars 10 (Nat.toDigits 10 number) 0 = number :=
    Nat.ofDigitChars_ten_toDigits
  rw [Nat.ofDigitChars_eq_foldl] at value
  simpa only [digitsValue, Nat.mul_comm] using value

/-- Whole numbers are written in digits. -/
theorem isDigit_toDigits {number : Nat} {digit : Char} (member : digit ∈ Nat.toDigits 10 number) :
    isDigit digit = true := by
  have shown := Nat.isDigit_of_mem_toDigits (by omega) (by omega) member
  simpa [isDigit, Char.isDigit, Char.le_def] using shown

/-- Nothing but digits. -/
def AllDigits (text : List Char) : Prop := ∀ character ∈ text, isDigit character = true

theorem AllDigits.single {digit : Char} (shown : isDigit digit = true) : AllDigits [digit] :=
  fun _ member => List.mem_singleton.1 member ▸ shown

/-- The text does not begin with a digit. -/
def Stops (text : List Char) : Prop := ∀ next ∈ text.head?, isDigit next = false

variable {rest : List Char}

/-- Digits stop before another character. -/
theorem Stops.cons {next : Char} (noDigit : isDigit next = false) (rest : List Char) :
    Stops (next :: rest) := by
  simpa [Stops] using noDigit

/-- No digit follows a number. -/
theorem EndsNumber.stops (ends : EndsNumber rest) : Stops rest := by
  intro next first
  rcases ends next first with rfl | rfl | rfl | rfl <;> rfl

/-- A text without a digit in front has no digits to take. -/
theorem Stops.span (stops : Stops rest) :
    rest.takeWhile isDigit = [] ∧ rest.dropWhile isDigit = rest := by
  cases rest with
  | nil => exact ⟨rfl, rfl⟩
  | cons next after => simp [stops next rfl]

/-- Digits are taken up to where they stop. -/
theorem Stops.takeWhile (stops : Stops rest) {digits : List Char} (all : AllDigits digits) :
    (digits ++ rest).takeWhile isDigit = digits := by
  rw [List.takeWhile_append_of_pos all, stops.span.1, List.append_nil]

/-- Where digits stop, the rest is left. -/
theorem Stops.dropWhile (stops : Stops rest) {digits : List Char} (all : AllDigits digits) :
    (digits ++ rest).dropWhile isDigit = rest := by
  rw [List.dropWhile_append_of_pos all, stops.span.2]

/-- The characters of an integer part: one zero, or digits that do not begin with one. -/
inductive IsWhole : List Char → Prop where
  | zero : IsWhole ['0']
  | digits {first : Char} {others : List Char} (notZero : first ≠ '0')
      (all : AllDigits (first :: others)) : IsWhole (first :: others)

/-- The digits of a number are an integer part. -/
theorem isWhole_toDigits (number : Nat) : IsWhole (Nat.toDigits 10 number) := by
  by_cases zero : number = 0
  · rw [zero, Nat.toDigits_zero]
    exact .zero
  · obtain ⟨digit, digits, shown, notZero⟩ := toDigits_head number (by omega)
    have all : AllDigits (Nat.toDigits 10 number) := fun character member => isDigit_toDigits member
    rw [shown] at all ⊢
    exact .digits notZero all

/-- An integer part begins with a digit. -/
theorem IsWhole.begins {whole : List Char} (isWhole : IsWhole whole) :
    ∃ first others, whole = first :: others ∧ isDigit first = true := by
  cases isWhole with
  | zero => exact ⟨'0', [], rfl, rfl⟩
  | digits _ all => exact ⟨_, _, rfl, all _ List.mem_cons_self⟩

/-- An integer part is read where it stops. -/
theorem IsWhole.read {whole : List Char} (isWhole : IsWhole whole) (stops : Stops rest) :
    readWhole (whole ++ rest) = some (whole, rest) := by
  cases isWhole with
  | zero => rfl
  | digits notZero all =>
    obtain ⟨isFirst, others⟩ := List.forall_mem_cons.1 all
    rw [List.cons_append, readWhole, if_pos isFirst, stops.takeWhile others, stops.dropWhile others]
    exact fun equal => absurd equal notZero

/-- Where a number ends there is no fraction. -/
theorem EndsNumber.readFraction (ends : EndsNumber rest) : readFraction rest = ([], rest) := by
  cases rest with
  | nil => rfl
  | cons next after =>
    rcases ends next rfl with rfl | rfl | rfl | rfl <;> rfl

/-- Where a number ends there is no exponent. -/
theorem EndsNumber.readExponent (ends : EndsNumber rest) : readExponent rest = none := by
  cases rest with
  | nil => rfl
  | cons next after =>
    rcases ends next rfl with rfl | rfl | rfl | rfl <;> rfl

/-- The digits of a number are read as that number with the sign that was met. -/
theorem readUnsigned_toDigits (ends : EndsNumber rest) (negative : Bool) (number : Nat) :
    readUnsigned negative (Nat.toDigits 10 number ++ rest) =
      some (.int (if negative then -number else number), rest) := by
  simp [readUnsigned, (isWhole_toDigits number).read ends.stops, ends.readFraction,
    ends.readExponent, digitsValue_toDigits]

/-- No word begins with a digit, and no signed one continues with it. -/
theorem isDigit_noWord {digit : Char} (shown : isDigit digit = true) :
    digit ≠ 'n' ∧ digit ≠ 't' ∧ digit ≠ 'f' ∧ digit ≠ 'N' ∧ digit ≠ 'I' ∧ digit ≠ '-' := by
  refine ⟨?_, ?_, ?_, ?_, ?_, ?_⟩ <;> (rintro rfl; revert shown; decide)

/-- A digit is neither a blank, a closing bracket nor a byte order mark. -/
theorem isDigit_visible {digit : Char} (shown : isDigit digit = true) :
    isBlank digit = false ∧ digit ≠ ']' ∧ digit ≠ '\uFEFF' := by
  refine ⟨?_, ?_, ?_⟩
  · by_contra blank
    simp only [isBlank, Bool.not_eq_false, Bool.or_eq_true, beq_iff_eq] at blank
    rcases blank with ((rfl | rfl) | rfl) | rfl <;> exact absurd shown (by decide)
  · rintro rfl
    exact absurd shown (by decide)
  · rintro rfl
    exact absurd shown (by decide)

/-- Digits at the start of a text are read as a number. -/
theorem readPlain_unsigned {digit : Char} (shown : isDigit digit = true) {text : List Char}
    {reading : Json × List Char} (found : readUnsigned false (digit :: text) = some reading) :
    readPlain (digit :: text) = .ok reading := by
  obtain ⟨noNull, noTrue, noFalse, noNaN, noInfinity, noSign⟩ := isDigit_noWord shown
  simp [readPlain, *]

/-- Digits behind a minus sign are read as a negative number. -/
theorem readPlain_negative {digit : Char} (shown : isDigit digit = true) {text : List Char}
    {reading : Json × List Char} (found : readUnsigned true (digit :: text) = some reading) :
    readPlain ('-' :: digit :: text) = .ok reading := by
  obtain ⟨-, -, -, -, noInfinity, -⟩ := isDigit_noWord shown
  simp [readPlain, *]

/-- A whole number from 0 on is written in digits. -/
theorem toString_ofNat (count : Nat) :
    (toString (Int.ofNat count)).toList = Nat.toDigits 10 count :=
  Nat.toList_repr

/-- A whole number below 0 is written in digits behind a sign. -/
theorem toString_negSucc (count : Nat) :
    (toString (Int.negSucc count)).toList = '-' :: Nat.toDigits 10 (count + 1) := by
  rw [← Nat.toList_repr]
  exact String.toList_append

/-- A whole number is written with a digit or a sign in front. -/
theorem toString_begins (number : Int) :
    ∃ first others, (toString number).toList = first :: others ∧
      (isDigit first = true ∨ first = '-') := by
  cases number with
  | ofNat count =>
    obtain ⟨digit, digits, shown, isFirst⟩ := (isWhole_toDigits count).begins
    exact ⟨digit, digits, (toString_ofNat count).trans shown, .inl isFirst⟩
  | negSucc count => exact ⟨'-', _, toString_negSucc count, .inr rfl⟩

/-- A whole number is read back. -/
theorem readPlain_int (ends : EndsNumber rest) (number : Int) :
    readPlain ((toString number).toList ++ rest) = .ok (.int number, rest) := by
  cases number with
  | ofNat count =>
    obtain ⟨digit, digits, shown, isFirst⟩ := (isWhole_toDigits count).begins
    have found := readUnsigned_toDigits ends false count
    rw [shown] at found
    rw [toString_ofNat, shown]
    exact readPlain_unsigned isFirst found
  | negSucc count =>
    obtain ⟨digit, digits, shown, isFirst⟩ := (isWhole_toDigits (count + 1)).begins
    have found := readUnsigned_toDigits ends true (count + 1)
    rw [shown] at found
    rw [toString_negSucc, shown]
    exact readPlain_negative isFirst found

end Folio.Json
