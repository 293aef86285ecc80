import Folio.Options

/-!
# Accepted and well-typed options

Options keep any value that passes their test; those for references that do are `Accepted`. They
are well typed when the values are also of the declared types; the laws of references and tables
of contents are about such options.
-/

namespace Folio

/-- The fallback is a text that is not empty, and suffixes start at a whole number from 2 on. -/
structure ReferenceOptions.WellTyped (options : ReferenceOptions) : Prop where
  fallback : ∃ fallback : String, options.fallbackSlug = .text fallback ∧ fallback ≠ ""
  start : ∃ start : Int, options.suffixStart = .int start ∧ 2 ≤ start

/-- References are required or not, and the depth is a whole number from 1 on or not limited. -/
structure ContentsOptions.WellTyped (options : ContentsOptions) : Prop where
  required : ∃ required : Bool, options.requireReferences = .bool required
  depth : options.maxDepth = .null ∨ ∃ depth : Int, options.maxDepth = .int depth ∧ 1 ≤ depth

/-- The fallback is set, whatever it is, and suffixes start at a number that is not below 2: a whole
one or a double. -/
structure ReferenceOptions.Accepted (options : ReferenceOptions) : Prop where
  fallback : options.fallbackSlug.isSet = true
  start : (∃ whole : Int, options.suffixStart = .int whole ∧ 2 ≤ whole) ∨
    ∃ double : Float, options.suffixStart = .scalar (.float double) ∧ ¬double < Float.ofNat 2

namespace ReferenceOptions

/-- Not below 2 are only numbers: truth values count as 0 and 1. -/
theorem start_iff {start : Setting} :
    start.below? 2 = some false ↔ (∃ whole : Int, start = .int whole ∧ 2 ≤ whole) ∨
      ∃ double : Float, start = .scalar (.float double) ∧ ¬double < Float.ofNat 2 := by
  cases start with
  | scalar number =>
    cases number with
    | bool value =>
      cases value <;> simp [Setting.below?, Setting.scalar?, Scalar.below?, Scalar.whole?]
    | int whole =>
      have below : (Setting.int whole).below? 2 = some (decide (whole < 2)) := rfl
      rw [below, Option.some.injEq, decide_eq_false_iff_not, Int.not_lt]
      constructor
      · exact fun least => .inl ⟨whole, rfl, least⟩
      · rintro (⟨other, ⟨⟩, least⟩ | ⟨double, ⟨⟩, -⟩)
        exact least
    | _ => simp [Setting.below?, Setting.scalar?, Scalar.below?, Scalar.whole?]
  | _ => simp [Setting.below?, Setting.scalar?]

/-- What passes the test are the options that are accepted, as they are. -/
theorem check_eq_ok_iff {options other : ReferenceOptions} :
    options.check = .ok other ↔ options = other ∧ options.Accepted := by
  have parts : options.Accepted ↔
      options.fallbackSlug.isSet = true ∧ options.suffixStart.below? 2 = some false := by
    rw [start_iff]
    exact ⟨fun accepted => ⟨accepted.fallback, accepted.start⟩, fun both => ⟨both.1, both.2⟩⟩
  rw [parts, check]
  cases options.fallbackSlug.isSet with
  | false => simp
  | true =>
    cases below : options.suffixStart.below? 2 with
    | none => simp [checkBound, below, bind, Except.bind]
    | some isBelow =>
      cases isBelow <;> simp [checkBound, below, bind, Except.bind, pure, Except.pure]

/-- Options that are updated have passed the test. -/
theorem accepted_of_update {options updated : ReferenceOptions} {named : List (String × Setting)}
    (found : options.update named = .ok updated) : updated.Accepted := by
  rw [update] at found
  split at found
  · cases found
  · obtain ⟨rfl, accepted⟩ := check_eq_ok_iff.1 found
    exact accepted

/-- Well-typed options are accepted. -/
theorem WellTyped.accepted {options : ReferenceOptions} (typed : options.WellTyped) :
    options.Accepted := by
  obtain ⟨fallback, fallbackEq, notEmpty⟩ := typed.fallback
  refine ⟨?_, .inl typed.start⟩
  simp [fallbackEq, Setting.isSet, notEmpty]

/-- Well-typed options pass the test. -/
theorem WellTyped.check_eq {options : ReferenceOptions} (typed : options.WellTyped) :
    options.check = .ok options :=
  check_eq_ok_iff.2 ⟨rfl, typed.accepted⟩

/-- The defaults are well typed. -/
theorem wellTyped_default : WellTyped {} :=
  ⟨⟨"section", rfl, by decide⟩, ⟨2, rfl, by decide⟩⟩

end ReferenceOptions

namespace ContentsOptions

/-- Well-typed options pass the test. -/
theorem WellTyped.check_eq {options : ContentsOptions} (typed : options.WellTyped) :
    options.check = .ok options := by
  rcases typed.depth with unlimited | ⟨depth, limited, least⟩
  · simp [check, unlimited]
  · have above : (Setting.int depth).below? 1 = some false := by
      simp [Setting.below?, Setting.scalar?, Scalar.below?, Scalar.whole?, least]
    simp [check, limited, checkBound, above, bind, Except.bind, pure, Except.pure]

/-- The defaults are well typed. -/
theorem wellTyped_default : WellTyped {} := ⟨⟨false, rfl⟩, .inl rfl⟩

end ContentsOptions

end Folio
