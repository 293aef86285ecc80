import Folio.Scalar
import Mathlib

/-!
# Scalars of one value

Whether two scalars have the same value is what tells the keys of a table apart. It is decided
case by case, by doubles among themselves and by integers across kinds, and yet it is symmetric
and transitive: either the scalars are the same, or both are equal to one integer
(`Scalar.same_iff`). The work is with doubles. Two of them that are equal to one integer are equal,
because their significands and exponents write a size in one way only.
-/

namespace Folio

namespace Decimal

/-- Doubles are told apart by their bits. -/
theorem eq_of_toBits_eq {left right : Float} (same : left.toBits = right.toBits) :
    left = right := by
  obtain ⟨⟨leftBits, _⟩⟩ := left
  obtain ⟨⟨rightBits, _⟩⟩ := right
  obtain rfl : leftBits = rightBits := same
  rfl

/-- The bits of zero are all 0. -/
theorem toBits_zero : (0.0 : Float).toBits.toNat = 0 := by decide +kernel

/-- Negative zero differs from zero in the sign. -/
theorem toBits_negZero : (-0.0 : Float).toBits.toNat = 2 ^ 63 := by decide +kernel

open Float.Model in
/-- Doubles are equal if they are the same, or the two zeros; what is no number equals nothing. -/
theorem beq_iff {left right : Float} :
    (left == right) = true ↔ left.isNaN = false ∧ right.isNaN = false ∧
      (left = right ∨ left = 0.0 ∧ right = -0.0 ∨ left = -0.0 ∧ right = 0.0) := by
  have bits (value other : Float) :
      value.toModel.toBits.toBitVec = other.toModel.toBits.toBitVec ↔ value = other := by
    rw [UInt64.toBitVec_inj]
    exact ⟨eq_of_toBits_eq, congrArg Float.toBits⟩
  have isNumber (value : Float) : value.isNaN = false ↔
      value.toModel.toBits.toBitVec ≠ UnpackedFloat.packedNaN Format.binary64 := by
    rw [← Bool.not_eq_true, not_iff_not]
    exact UnpackedFloat.isNaN_unpack_iff_of_valid value.toModel.valid
  have positive : UnpackedFloat.packedZero Format.binary64 .positive =
      (0.0 : Float).toModel.toBits.toBitVec := by
    decide +kernel
  have negative : UnpackedFloat.packedZero Format.binary64 .negative =
      (-0.0 : Float).toModel.toBits.toBitVec := by
    decide +kernel
  have compared := UnpackedFloat.unpack_beq_unpack_iff left.toModel.valid right.toModel.valid
  rw [← isNumber, ← isNumber, positive, negative, bits, bits, bits, bits, bits] at compared
  exact compared

/-- The exponent field of the bits of a double. -/
def biased (bits : UInt64) : Nat := bits.toNat / 2 ^ 52 % 2 ^ 11

/-- The fraction field of the bits of a double. -/
def fraction (bits : UInt64) : Nat := bits.toNat % 2 ^ 52

/-- The significand and the exponent by the fields of the bits. -/
theorem ofBits_eq (bits : UInt64) :
    (Binary.ofBits bits).significand =
        (if biased bits = 0 then fraction bits else 2 ^ 52 + fraction bits) ∧
      (Binary.ofBits bits).exponent = ((biased bits - 1 : Nat) : Int) - 1074 := by
  have isBiased : ((bits >>> 52) &&& 0x7FF).toNat = biased bits := by
    rw [UInt64.toNat_and, UInt64.toNat_shiftRight, Nat.shiftRight_eq_div_pow]
    exact Nat.and_two_pow_sub_one_eq_mod _ 11
  have isFraction : (bits &&& 0xFFFFFFFFFFFFF).toNat = fraction bits := by
    rw [UInt64.toNat_and]
    exact Nat.and_two_pow_sub_one_eq_mod _ 52
  rw [Binary.ofBits]
  simp only [isBiased, isFraction, beq_iff_eq]
  by_cases least : biased bits = 0
  · simp [least]
  · simp only [if_neg least]
    refine ⟨rfl, ?_⟩
    omega

/-- The size of a double, in units of the least one above zero. -/
def units (bits : UInt64) : Nat := (Binary.ofBits bits).significand * 2 ^ (biased bits - 1)

/-- Significands below `2 ^ 53`, which are not below `2 ^ 52` unless they are least, write a size
in one way. -/
theorem scaled_inj {first second left right : Nat} (small : first < 2 ^ 53)
    (small' : second < 2 ^ 53) (normal : left ≠ 0 → 2 ^ 52 ≤ first)
    (normal' : right ≠ 0 → 2 ^ 52 ≤ second)
    (same : first * 2 ^ left = second * 2 ^ right) : first = second ∧ left = right := by
  wlog ordered : left ≤ right generalizing first second left right
  · obtain ⟨rfl, rfl⟩ := this small' small normal' normal same.symm (by omega)
    exact ⟨rfl, rfl⟩
  obtain ⟨more, rfl⟩ := Nat.exists_eq_add_of_le ordered
  have scaled : first = second * 2 ^ more := by
    rw [pow_add, mul_left_comm, mul_comm] at same
    exact Nat.eq_of_mul_eq_mul_left (Nat.two_pow_pos left) same
  cases more with
  | zero => simpa using scaled
  | succ more =>
    have least := normal' (by omega)
    have grown : 2 ^ 52 * 2 ≤ second * 2 ^ (more + 1) :=
      Nat.mul_le_mul least (by rw [pow_succ]; have := Nat.two_pow_pos more; omega)
    omega

/-- Doubles of one size have the same bits but for the sign. -/
theorem units_inj {left right : UInt64} (same : units left = units right) :
    left.toNat % 2 ^ 63 = right.toNat % 2 ^ 63 := by
  have bounded (bits : UInt64) : (Binary.ofBits bits).significand < 2 ^ 53 := by
    rw [(ofBits_eq bits).1, fraction]
    split <;> omega
  have normal (bits : UInt64) (above : biased bits - 1 ≠ 0) :
      2 ^ 52 ≤ (Binary.ofBits bits).significand := by
    rw [(ofBits_eq bits).1, if_neg (by omega)]
    exact Nat.le_add_right _ _
  obtain ⟨significands, exponents⟩ := scaled_inj (bounded left) (bounded right) (normal left)
    (normal right) same
  rw [(ofBits_eq left).1, (ofBits_eq right).1] at significands
  unfold biased fraction at *
  split at significands <;> split at significands <;> omega

/-- Only the zeros have no size. -/
theorem toNat_of_units_eq_zero {bits : UInt64} (none : units bits = 0) :
    bits.toNat % 2 ^ 63 = 0 := by
  have significand : (Binary.ofBits bits).significand = 0 :=
    (Nat.mul_eq_zero.1 none).resolve_right (Nat.two_pow_pos _).ne'
  rw [(ofBits_eq bits).1] at significand
  unfold biased fraction at significand
  split at significand <;> omega

/-- A double that is equal to an integer is a number, of the size of the integer and of no other
sign. -/
theorem units_of_integer? {value : Float} {number : Int}
    (isNumber : integer? value = some number) :
    value.isNaN = false ∧ number.natAbs * 2 ^ 1074 = units value.toBits ∧
      (number < 0 → 2 ^ 63 ≤ value.toBits.toNat) ∧ (0 < number → value.toBits.toNat < 2 ^ 63) := by
  rw [integer?] at isNumber
  split at isNumber
  · cases isNumber
  rename_i finite
  have notNaN : value.isNaN = false := by
    rw [Bool.or_eq_true, not_or] at finite
    exact Bool.eq_false_iff.2 finite.1
  have negative : (value.toBits >>> 63 == 1) = decide (2 ^ 63 ≤ value.toBits.toNat) := by
    have bound := value.toBits.toNat_lt
    rw [Bool.eq_iff_iff, beq_iff_eq, ← UInt64.toNat_inj, UInt64.toNat_shiftRight,
      Nat.shiftRight_eq_div_pow, decide_eq_true_iff]
    change value.toBits.toNat / 2 ^ 63 = 1 ↔ _
    omega
  simp only [negative] at isNumber
  split at isNumber
  · rename_i divides
    set size := Binary.ofBits value.toBits
    have exponent : size.exponent = ((biased value.toBits - 1 : Nat) : Int) - 1074 :=
      (ofBits_eq value.toBits).2
    set whole := size.significand * Nat.pow 2 size.exponent.toNat / Nat.pow 2 (-size.exponent).toNat
    have isWhole : whole * 2 ^ (-size.exponent).toNat =
        size.significand * 2 ^ size.exponent.toNat :=
      Nat.div_mul_cancel (Nat.dvd_of_mod_eq_zero (by simpa using divides))
    have powers :
        (-size.exponent).toNat + (biased value.toBits - 1) = size.exponent.toNat + 1074 := by
      omega
    have sized : whole * 2 ^ 1074 = units value.toBits := by
      refine Nat.eq_of_mul_eq_mul_right (Nat.two_pow_pos size.exponent.toNat) ?_
      calc whole * 2 ^ 1074 * 2 ^ size.exponent.toNat
          = whole * 2 ^ (-size.exponent).toNat * 2 ^ (biased value.toBits - 1) := by
            rw [mul_assoc, mul_assoc, ← pow_add, ← pow_add, powers, Nat.add_comm]
        _ = units value.toBits * 2 ^ size.exponent.toNat := by
            rw [isWhole, units, mul_right_comm]
    have signed : number = if 2 ^ 63 ≤ value.toBits.toNat then -(whole : Int) else whole := by
      rw [← Option.some.inj isNumber, Int.natCast_div]
      simp only [decide_eq_true_iff]
    rw [signed]
    split <;> simp only [Int.natAbs_neg, Int.natAbs_natCast] <;>
      exact ⟨notNaN, sized, by omega, by omega⟩
  · cases isNumber

/-- Doubles that are equal to one integer are equal. Only zero has two of them. -/
theorem beq_of_integer? {left right : Float} {number : Int} (first : integer? left = some number)
    (second : integer? right = some number) : (left == right) = true := by
  obtain ⟨leftNumber, leftSize, leftBelow, leftAbove⟩ := units_of_integer? first
  obtain ⟨rightNumber, rightSize, rightBelow, rightAbove⟩ := units_of_integer? second
  have sizes := units_inj (leftSize.symm.trans rightSize)
  have same (value other : Float) (bits : value.toBits.toNat = other.toBits.toNat) :
      value = other := eq_of_toBits_eq (UInt64.toNat_inj.1 bits)
  have leftBound := left.toBits.toNat_lt
  have rightBound := right.toBits.toNat_lt
  refine beq_iff.2 ⟨leftNumber, rightNumber, ?_⟩
  by_cases equal : left.toBits.toNat = right.toBits.toNat
  · exact .inl (same _ _ equal)
  · have isZero : number = 0 := by omega
    have none : left.toBits.toNat % 2 ^ 63 = 0 := by
      refine toNat_of_units_eq_zero ?_
      rw [← leftSize, isZero, Int.natAbs_zero, Nat.zero_mul]
    rcases Nat.lt_or_gt_of_ne equal with less | greater
    · refine .inr (.inl ⟨same _ _ ?_, same _ _ ?_⟩)
      · rw [toBits_zero]
        omega
      · rw [toBits_negZero]
        omega
    · refine .inr (.inr ⟨same _ _ ?_, same _ _ ?_⟩)
      · rw [toBits_negZero]
        omega
      · rw [toBits_zero]
        omega

/-- Equal doubles are the same, or both are equal to zero. -/
theorem integer?_of_beq {left right : Float} (equal : (left == right) = true) :
    left = right ∨ integer? left = some 0 ∧ integer? right = some 0 := by
  have positive : integer? 0.0 = some 0 := by decide +kernel
  have negative : integer? (-0.0) = some 0 := by decide +kernel
  obtain ⟨-, -, same | ⟨rfl, rfl⟩ | ⟨rfl, rfl⟩⟩ := beq_iff.1 equal
  · exact .inl same
  · exact .inr ⟨positive, negative⟩
  · exact .inr ⟨negative, positive⟩

end Decimal

namespace Scalar

/-- The integer that a scalar is equal to, when there is one. -/
def integer? : Scalar → Option Int
  | float value => Decimal.integer? value
  | value => value.whole?

/-- Scalars have the same value if they are the same, and not what is no number, or if both are
equal to one integer. -/
theorem same_iff {left right : Scalar} :
    left.same right = true ↔ (left = right ∧ left.isNaN = false) ∨
      ∃ number, left.integer? = some number ∧ right.integer? = some number := by
  cases left with
  | float first =>
    cases right with
    | float second =>
      simp only [same, integer?, isNaN, float.injEq]
      constructor
      · intro equal
        rcases Decimal.integer?_of_beq equal with rfl | zeros
        · exact .inl ⟨rfl, (Decimal.beq_iff.1 equal).1⟩
        · exact .inr ⟨0, zeros⟩
      · rintro (⟨rfl, isNumber⟩ | ⟨number, isFirst, isSecond⟩)
        · exact Decimal.beq_iff.2 ⟨isNumber, isNumber, .inl rfl⟩
        · exact Decimal.beq_of_integer? isFirst isSecond
    | _ => simp [same, integer?, whole?, isNaN]
  | bool flag => cases right <;> simp [same, integer?, whole?, isNaN] <;> grind
  | int number => cases right <;> simp [same, integer?, whole?, isNaN] <;> grind
  | _ => cases right <;> simp [same, integer?, whole?, isNaN]

/-- Having the same value holds in both directions. -/
theorem same_symm {left right : Scalar} (same : left.same right = true) :
    right.same left = true := by
  rw [same_iff] at same ⊢
  rcases same with ⟨rfl, isValue⟩ | ⟨number, isLeft, isRight⟩
  · exact .inl ⟨rfl, isValue⟩
  · exact .inr ⟨number, isRight, isLeft⟩

/-- What has the value of a third by way of a second has it. -/
theorem same_trans {first second third : Scalar} (left : first.same second = true)
    (right : second.same third = true) : first.same third = true := by
  rw [same_iff] at left right ⊢
  rcases left with ⟨rfl, -⟩ | ⟨number, isFirst, isSecond⟩
  · exact right
  · rcases right with ⟨rfl, -⟩ | ⟨other, isOther, isThird⟩
    · exact .inr ⟨number, isFirst, isSecond⟩
    · rw [isSecond, Option.some.injEq] at isOther
      exact .inr ⟨number, isFirst, isOther ▸ isThird⟩

/-- Only what is no number has not its own value. -/
theorem same_self_iff {value : Scalar} : value.same value = true ↔ value.isNaN = false := by
  rw [same_iff]
  constructor
  · rintro (⟨-, isValue⟩ | ⟨number, isNumber, -⟩)
    · exact isValue
    · cases value with
      | float double => exact (Decimal.units_of_integer? isNumber).1
      | _ => rfl
  · exact fun isValue => .inl ⟨rfl, isValue⟩

end Scalar

end Folio
