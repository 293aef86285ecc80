import Folio.Proofs.Json.Exact
import Folio.Proofs.Json.Numbers

/-!
# Doubles written and read

The text of a finite double is an integer part with a fraction, an exponent or both behind it;
such a text is read as a double in front of everything that ends a number. `rereadDouble` is the
double that the reader computes from the digits. Nothing here depends on its value: what matters
is that a value with doubles in it is read as one of the same form, `reread`.
-/

namespace Folio.Json

open Decimal

variable {rest : List Char}

/-- The characters behind the integer part of a double: a fraction, an exponent, or both. -/
inductive IsTail : List Char → Prop where
  | fraction {digits : List Char} (notEmpty : digits ≠ []) (all : AllDigits digits) :
      IsTail ('.' :: digits)
  | exponent {sign : Char} {digits : List Char} (signed : sign = '-' ∨ sign = '+')
      (notEmpty : digits ≠ []) (all : AllDigits digits) : IsTail ('e' :: sign :: digits)
  | both {digits power : List Char} (notEmpty : digits ≠ []) (all : AllDigits digits)
      (scaled : IsTail ('e' :: power)) : IsTail ('.' :: (digits ++ 'e' :: power))

/-- A fraction is read where it stops. -/
theorem readFraction_append {digits : List Char} (notEmpty : digits ≠ []) (all : AllDigits digits)
    (stops : Stops rest) : readFraction ('.' :: (digits ++ rest)) = (digits, rest) := by
  obtain ⟨first, others, rfl⟩ := List.exists_cons_of_ne_nil notEmpty
  rw [List.cons_append, readFraction, if_pos (all first List.mem_cons_self), ← List.cons_append,
    stops.takeWhile all, stops.dropWhile all]

/-- What does not begin with a point has no fraction. -/
theorem readFraction_exponent (text : List Char) : readFraction ('e' :: text) = ([], 'e' :: text) :=
  rfl

/-- An exponent is read where it stops. -/
theorem readExponent_append {power : List Char} (scaled : IsTail ('e' :: power)) :
    ∃ exponent, ∀ rest, Stops rest →
      readExponent ('e' :: (power ++ rest)) = some (exponent, rest) := by
  cases scaled with
  | @exponent sign digits signed notEmpty all =>
    rcases signed with rfl | rfl
    · refine ⟨-digitsValue digits, fun rest stops => ?_⟩
      simp [readExponent, stops.takeWhile all, stops.dropWhile all, notEmpty]
    · refine ⟨digitsValue digits, fun rest stops => ?_⟩
      simp [readExponent, stops.takeWhile all, stops.dropWhile all, notEmpty]

/-- The double with the given digits in front of and behind the point. -/
def signedDouble (negative : Bool) (whole fraction : List Char) (exponent : Int) : Float :=
  let size := scientific (digitsValue (whole ++ fraction)) (exponent - fraction.length)
  if negative then -size else size

/-- What has a fraction or an exponent is read as a double, up to the end of both. -/
theorem readUnsigned_float {text whole afterWhole fraction afterFraction : List Char}
    (isWhole : readWhole text = some (whole, afterWhole))
    (isFraction : readFraction afterWhole = (fraction, afterFraction))
    {found : Option (Int × List Char)} (isExponent : readExponent afterFraction = found)
    (isDouble : fraction ≠ [] ∨ found.isSome = true) (negative : Bool) :
    let (exponent, rest) := found.getD (0, afterFraction)
    readUnsigned negative text =
      some (.float (signedDouble negative whole fraction exponent), rest) := by
  simp only [readUnsigned, isWhole, isFraction, isExponent, Option.bind_eq_bind, Option.bind_some]
  split
  · simp at isDouble
  · rfl

/-- An integer part with a fraction or an exponent behind it is read as a double. -/
theorem readUnsigned_decimal {whole tail : List Char} (isWhole : IsWhole whole)
    (isTail : IsTail tail) (negative : Bool) :
    ∃ value : Float, ∀ rest, EndsNumber rest →
      readUnsigned negative (whole ++ tail ++ rest) = some (.float value, rest) := by
  cases isTail with
  | @fraction digits notEmpty all =>
    refine ⟨signedDouble negative whole digits 0, fun rest ends => ?_⟩
    rw [List.append_assoc, List.cons_append]
    exact readUnsigned_float (isWhole.read (.cons rfl _))
      (readFraction_append notEmpty all ends.stops) ends.readExponent (.inl notEmpty) negative
  | exponent signed notEmpty all =>
    obtain ⟨exponent, found⟩ := readExponent_append (.exponent signed notEmpty all)
    refine ⟨signedDouble negative whole [] exponent, fun rest ends => ?_⟩
    rw [List.append_assoc, List.cons_append]
    exact readUnsigned_float (isWhole.read (.cons rfl _)) (readFraction_exponent _)
      (found rest ends.stops) (.inr rfl) negative
  | @both digits power notEmpty all scaled =>
    obtain ⟨exponent, found⟩ := readExponent_append scaled
    refine ⟨signedDouble negative whole digits exponent, fun rest ends => ?_⟩
    rw [List.append_assoc, List.cons_append, List.append_assoc, List.cons_append]
    exact readUnsigned_float (isWhole.read (.cons rfl _))
      (readFraction_append notEmpty all (.cons rfl _)) (found rest ends.stops) (.inl notEmpty)
      negative

/-- Copies of a zero are digits. -/
theorem allDigits_zeros (count : Nat) : AllDigits (zeros count).toList := by
  intro character member
  rw [zeros, String.toList_ofList] at member
  rw [List.eq_of_mem_replicate member]
  rfl

/-- Digits behind digits are digits. -/
theorem AllDigits.append {first second : List Char} (one : AllDigits first)
    (other : AllDigits second) : AllDigits (first ++ second) :=
  fun character member => (List.mem_append.1 member).elim (one character) (other character)

/-- A whole number is written with digits. -/
theorem allDigits_toDigits (number : Nat) : AllDigits (Nat.toDigits 10 number) :=
  fun _ member => isDigit_toDigits member

/-- What is left of digits are digits. -/
theorem AllDigits.drop {digits : List Char} (all : AllDigits digits) (count : Nat) :
    AllDigits (digits.drop count) :=
  fun character member => all character (List.mem_of_mem_drop member)

/-- An exponent is written with a sign and digits. -/
theorem exponentText_eq (exponent : Int) :
    ∃ power, (exponentText exponent).toList = 'e' :: power ∧ IsTail ('e' :: power) := by
  have size : (toString exponent.natAbs).toList = Nat.toDigits 10 exponent.natAbs := Nat.toList_repr
  obtain ⟨digits, isDigits, notEmpty, all⟩ : ∃ digits,
      (if (toString exponent.natAbs).length < 2 then "0" ++ toString exponent.natAbs
        else toString exponent.natAbs).toList = digits ∧ digits ≠ [] ∧ AllDigits digits := by
    refine ⟨_, rfl, ?_⟩
    split
    · rw [String.toList_append, size]
      exact ⟨by simp, .append (.single rfl) (allDigits_toDigits _)⟩
    · rw [size]
      exact ⟨Nat.toDigits_ne_nil, allDigits_toDigits _⟩
  rw [exponentText, String.toList_append, isDigits]
  split
  · exact ⟨_, rfl, .exponent (.inl rfl) notEmpty all⟩
  · exact ⟨_, rfl, .exponent (.inr rfl) notEmpty all⟩

/-- A decimal is written as an integer part with a fraction, an exponent or both behind it. -/
theorem text_eq (decimal : Digits) :
    ∃ whole tail, decimal.text.toList = whole ++ tail ∧ IsWhole whole ∧ IsTail tail := by
  by_cases zero : decimal.digits = 0
  · rw [Digits.text, if_pos (by simpa using zero)]
    exact ⟨['0'], ['.', '0'], rfl, .zero, .fraction (by decide) (.single rfl)⟩
  obtain ⟨first, others, isShown, notZero⟩ := toDigits_head decimal.digits (by omega)
  have all : AllDigits (first :: others) := isShown ▸ allDigits_toDigits decimal.digits
  have onlyFirst : AllDigits [first] := .single (all first List.mem_cons_self)
  have allOthers : AllDigits others := all.drop 1
  have shown : (toString decimal.digits).toList = first :: others := Nat.toList_repr.trans isShown
  have length : (toString decimal.digits).length = others.length + 1 := by
    rw [← String.length_toList, shown, List.length_cons]
  rw [Digits.text, if_neg (by simpa using zero), shown, length]
  generalize toString decimal.digits = digits at shown
  generalize leadingEq : decimal.exponent + (others.length + 1 : Nat) - 1 = leading
  obtain ⟨power, isPower, scaled⟩ := exponentText_eq leading
  dsimp only
  split_ifs with scientific noFraction positional whole
  -- One digit with an exponent behind it, or with a fraction in between.
  · exact ⟨[first], _, by simp [isPower], .digits notZero onlyFirst, scaled⟩
  · have notEmpty : others ≠ [] := by
      rintro rfl
      exact noFraction rfl
    exact ⟨[first], _, by simp [isPower], .digits notZero onlyFirst,
      .both notEmpty allOthers scaled⟩
  -- All digits in front of the point, some of them, or none.
  · have withZeros := all.append (allDigits_zeros decimal.exponent.toNat)
    exact ⟨_, ['.', '0'], by simp [shown], .digits notZero withZeros,
      .fraction (by decide) (.single rfl)⟩
  · obtain ⟨count, isCount⟩ : ∃ count : Nat, leading + 1 = (count + 1 : Nat) :=
      ⟨leading.toNat, by omega⟩
    have notEmpty : others.drop count ≠ [] := by
      rw [Ne, List.drop_eq_nil_iff]
      omega
    have front : AllDigits (first :: others.take count) := fun character member =>
      all character (List.mem_of_mem_take (i := count + 1) member)
    rw [isCount, Int.toNat_natCast]
    exact ⟨_, _, by simp, .digits notZero front, .fraction notEmpty (allOthers.drop count)⟩
  · have behindZeros := (allDigits_zeros (-leading - 1).toNat).append all
    exact ⟨['0'], _, by simp [shown], .zero, .fraction (by simp) behindZeros⟩

/-- The text of a double begins with a digit, a sign or the letter of a word. -/
def BeginsDouble (first : Char) : Prop :=
  isDigit first = true ∨ first = '-' ∨ first = 'I' ∨ first = 'N'

/-- The text of a double is read as the same double in front of everything that ends a number. -/
theorem readPlain_float (value : Float) :
    ∃ first others, (scalarText (.float value)).toList = first :: others ∧ BeginsDouble first ∧
      ∃ again : Float, ∀ rest, EndsNumber rest →
        readPlain (first :: others ++ rest) = .ok (.float again, rest) := by
  obtain ⟨whole, tail, shown, isWhole, isTail⟩ := text_eq (Binary.ofBits value.toBits).shortest
  obtain ⟨first, others, isFirst, digit⟩ := isWhole.begins
  rw [scalarText, Decimal.text]
  dsimp only
  split_ifs with notANumber negative infinite infinite
  · exact ⟨'N', _, rfl, by simp [BeginsDouble], _, fun rest ends => rfl⟩
  · exact ⟨'-', _, rfl, by simp [BeginsDouble], _, fun rest ends => rfl⟩
  · obtain ⟨again, found⟩ := readUnsigned_decimal isWhole isTail true
    refine ⟨'-', whole ++ tail, ?_, by simp [BeginsDouble], again, fun rest ends => ?_⟩
    · rw [String.toList_append, shown]
      rfl
    · have here := found rest ends
      rw [isFirst] at here ⊢
      exact readPlain_negative digit here
  · exact ⟨'I', _, rfl, by simp [BeginsDouble], _, fun rest ends => rfl⟩
  · obtain ⟨again, found⟩ := readUnsigned_decimal isWhole isTail false
    refine ⟨first, others ++ tail, ?_, .inl digit, again, fun rest ends => ?_⟩
    · rw [String.toList_append, shown, isFirst]
      rfl
    · have here := found rest ends
      rw [isFirst] at here
      exact readPlain_unsigned digit here

/-- The double that the text of a double is read as. -/
def rereadDouble (value : Float) : Float :=
  match readPlain (scalarText (.float value)).toList with
  | .ok (.float again, _) => again
  | _ => value

/-- A double is read from its text, if not the same then the one it is always read as. -/
theorem readPlain_reread (value : Float) (ends : EndsNumber rest) :
    readPlain ((scalarText (.float value)).toList ++ rest) =
      .ok (.float (rereadDouble value), rest) := by
  obtain ⟨first, others, shown, -, again, found⟩ := readPlain_float value
  have alone := found [] .nil
  rw [List.append_nil] at alone
  rw [rereadDouble, shown, alone]
  exact found rest ends

mutual

/-- What the text of a value is read as: doubles are read again, everything else is kept. -/
def reread : Json → Json
  | .scalar (.float value) => .float (rereadDouble value)
  | .scalar value => .scalar value
  | .arr items => .arr (rereadItems items)
  | .obj members => .obj (rereadMembers members)

/-- What the texts of items are read as. -/
def rereadItems : List Json → List Json
  | [] => []
  | item :: rest => reread item :: rereadItems rest

/-- What the texts of members are read as. -/
def rereadMembers : List (String × Json) → List (String × Json)
  | [] => []
  | (name, value) :: rest => (name, reread value) :: rereadMembers rest

end

/-- Items are read again one by one. -/
@[simp]
theorem rereadItems_eq (items : List Json) : rereadItems items = items.map reread := by
  induction items with
  | nil => rfl
  | cons item rest hypothesis => rw [rereadItems, hypothesis, List.map_cons]

/-- Members are read again one by one, under the same names. -/
@[simp]
theorem rereadMembers_eq (members : List (String × Json)) :
    rereadMembers members = members.map fun member => (member.1, member.2.reread) := by
  induction members with
  | nil => rfl
  | cons member rest hypothesis => rw [rereadMembers, hypothesis, List.map_cons]

/-- A value without doubles is read as itself. -/
theorem reread_of_exact {value : Json} (exact : value.Exact) : value.reread = value := by
  induction value using Json.induction with
  | scalar value =>
    cases value with
    | float value => cases exact
    | _ => rfl
  | arr items hypothesis =>
    rw [exact_arr] at exact
    have same : ∀ item ∈ items, item.reread = id item := fun item member =>
      hypothesis item member (exact item member)
    rw [reread, rereadItems_eq, List.map_congr_left same, List.map_id]
  | obj members hypothesis =>
    rw [exact_obj] at exact
    have same : ∀ member ∈ members, (member.1, member.2.reread) = id member := fun member inside =>
      Prod.ext rfl (hypothesis member inside (exact member inside))
    rw [reread, rereadMembers_eq, List.map_congr_left same, List.map_id]

/-- Names stay. -/
theorem names_rereadMembers (members : List (String × Json)) :
    (rereadMembers members).map (·.1) = members.map (·.1) := by
  simp

/-- Where names differ, they still do. -/
theorem distinct_reread {value : Json} (distinct : value.Distinct) : value.reread.Distinct := by
  induction value using Json.induction with
  | scalar value => cases value <;> rfl
  | arr items hypothesis =>
    rw [distinct_arr] at distinct
    rw [reread, rereadItems_eq, distinct_arr, List.forall_mem_map]
    exact fun item member => hypothesis item member (distinct item member)
  | obj members hypothesis =>
    rw [distinct_obj] at distinct
    rw [reread, distinct_obj, names_rereadMembers, rereadMembers_eq, List.forall_mem_map]
    exact ⟨distinct.1, fun member inside => hypothesis member inside (distinct.2 member inside)⟩

end Folio.Json
