import Folio.Proofs.Scalar
import Folio.References
import Mathlib

/-!
# The search for a free reference

`Finds` is the search without a bound: numbered forms in use are passed over, one by one.
Distinct whole numbers write distinct references, so no more forms can be passed over than there
are among those in use (`firstFree_int`); `finds_firstFree` concludes that the search from a whole
number ends and that the bound of `firstFree` never cuts it short. Doubles come back in the end, so
a search from one of them may go on for ever; `isTaken_firstFree_iff` says that it does exactly if
the bounded search stops at a form in use.
-/

namespace Folio.References

/-- A text is in use if and only if it is a member; no scalar of another kind equals it. -/
theorem isTaken_text {taken : List Scalar} {reference : String} :
    isTaken taken (.text reference) = true ↔ Scalar.text reference ∈ taken := by
  rw [isTaken, List.any_eq_true]
  simp only [Scalar.isNaN, Bool.false_and, Bool.or_false]
  constructor
  · rintro ⟨other, member, same⟩
    exact Scalar.text_same_iff.1 same ▸ member
  · intro member
    exact ⟨_, member, by simp⟩

/-- A text is not in use if and only if it is no member. -/
theorem isTaken_text_eq_false {taken : List Scalar} {reference : String} :
    isTaken taken (.text reference) = false ↔ Scalar.text reference ∉ taken := by
  rw [← isTaken_text, Bool.not_eq_true]

/-- A slug with a whole number behind it, as text. -/
theorem numbered_int (slug : Scalar) (number : Int) :
    numbered slug (.int number) = .text (slug.plain ++ "-" ++ number.repr) := rfl

theorem next_int (number : Int) : next (.int number) = .int (number + 1) := rfl

/-- Distinct whole numbers give distinct numbered forms. -/
theorem numbered_injective {slug : Scalar} {first second : Int}
    (equal : numbered slug (.int first) = numbered slug (.int second)) : first = second := by
  rw [numbered_int, numbered_int] at equal
  have texts : (slug.plain ++ "-") ++ first.repr = (slug.plain ++ "-") ++ second.repr := by
    simpa only [Scalar.text.injEq] using equal
  exact Int.repr_injective ((String.append_right_inj _).1 texts)

/-- The references in use that are numbered forms of a slug, with whole numbers from a start on. -/
def formsInUse (taken : List Scalar) (slug : Scalar) (start : Int) : Set Scalar :=
  {reference | reference ∈ taken ∧
    ∃ number, start ≤ number ∧ reference = numbered slug (.int number)}

/-- No more forms are in use than references. -/
theorem finite_formsInUse (taken : List Scalar) (slug : Scalar) (start : Int) :
    (formsInUse taken slug start).Finite :=
  taken.finite_toSet.subset fun _ member => member.1

/-- There are no more numbered forms in use than references. -/
theorem ncard_formsInUse_le (taken : List Scalar) (slug : Scalar) (start : Int) :
    (formsInUse taken slug start).ncard ≤ taken.length := by
  classical
  have among : formsInUse taken slug start ⊆ taken.toFinset := fun reference member =>
    List.mem_toFinset.2 member.1
  calc (formsInUse taken slug start).ncard
    _ ≤ (taken.toFinset : Set Scalar).ncard := Set.ncard_le_ncard among
    _ = taken.toFinset.card := Set.ncard_coe_finset _
    _ ≤ taken.length := List.toFinset_card_le taken

/-- If the first `count` numbered forms are in use, they are so many members of those in use. -/
theorem count_le_ncard {taken : List Scalar} {slug : Scalar} {start : Int} {count : Nat}
    (used : ∀ index < count, isTaken taken (numbered slug (.int (start + index))) = true) :
    count ≤ (formsInUse taken slug start).ncard := by
  refine Set.le_ncard_of_inj_on_range (fun index => numbered slug (.int (start + index)))
    (fun index below => ⟨isTaken_text.1 (used index below), start + index, by omega, rfl⟩)
    (fun first _ second _ equal => ?_) (finite_formsInUse taken slug start)
  have := numbered_injective equal
  omega

/-- The search without a bound, from a number on: numbered forms in use are passed over, and
the first one that is not is found. -/
inductive Finds (taken : List Scalar) (slug : Scalar) : Scalar → Scalar → Prop where
  | here {number} (free : isTaken taken (numbered slug number) = false) :
      Finds taken slug number (numbered slug number)
  | later {number found} (used : isTaken taken (numbered slug number) = true)
      (rest : Finds taken slug (next number) found) : Finds taken slug number found

variable {taken : List Scalar} {slug number found : Scalar}

/-- What the search finds is not in use. -/
theorem Finds.free (finds : Finds taken slug number found) : isTaken taken found = false := by
  induction finds with
  | here free => exact free
  | later _ _ hypothesis => exact hypothesis

/-- The numbered form of a slug after some others. -/
def form (slug number : Scalar) (index : Nat) : Scalar := numbered slug (next^[index] number)

/-- A later form is an earlier one after the next number. -/
theorem form_succ (slug number : Scalar) (index : Nat) :
    form slug number (index + 1) = form slug (next number) index := rfl

/-- The search finds the first form that is not in use, if there is one. -/
theorem finds_iff :
    Finds taken slug number found ↔
      ∃ count, found = form slug number count ∧ isTaken taken (form slug number count) = false ∧
        ∀ index < count, isTaken taken (form slug number index) = true := by
  constructor
  · intro finds
    induction finds with
    | here free => exact ⟨0, rfl, free, by simp⟩
    | @later number found used _ hypothesis =>
      obtain ⟨count, isForm, free, passed⟩ := hypothesis
      refine ⟨count + 1, isForm, free, fun index below => ?_⟩
      cases index with
      | zero => exact used
      | succ index => exact passed index (Nat.lt_of_succ_lt_succ below)
  · rintro ⟨count, rfl, free, passed⟩
    induction count generalizing number with
    | zero => exact .here free
    | succ count hypothesis =>
      exact .later (passed 0 (Nat.succ_pos count))
        (hypothesis free fun index below => passed (index + 1) (Nat.succ_lt_succ below))

/-- The bounded search stops at a form behind used ones only; short of its bound it stops because
the form is free. -/
theorem firstFree_eq (taken : List Scalar) (slug : Scalar) (attempts : Nat) (number : Scalar) :
    ∃ count ≤ attempts, firstFree taken slug attempts number = form slug number count ∧
      (∀ index < count, isTaken taken (form slug number index) = true) ∧
      (count < attempts → isTaken taken (form slug number count) = false) := by
  induction attempts generalizing number with
  | zero => exact ⟨0, le_refl 0, rfl, by simp, by simp⟩
  | succ attempts hypothesis =>
    rw [firstFree]
    by_cases used : isTaken taken (numbered slug number) = true
    · obtain ⟨count, bounded, found, passed, stopped⟩ := hypothesis (next number)
      rw [if_pos used]
      refine ⟨count + 1, Nat.succ_le_succ bounded, found, fun index below => ?_,
        fun below => stopped (Nat.lt_of_succ_lt_succ below)⟩
      cases index with
      | zero => exact used
      | succ index => exact passed index (Nat.lt_of_succ_lt_succ below)
    · rw [if_neg used]
      exact ⟨0, Nat.zero_le _, rfl, by simp, fun _ => Bool.eq_false_of_not_eq_true used⟩

/-- Where the bounded search stops at a free form, it is the one that is found. -/
theorem finds_of_free {attempts : Nat}
    (free : isTaken taken (firstFree taken slug attempts number) = false) :
    Finds taken slug number (firstFree taken slug attempts number) := by
  obtain ⟨count, _, found, passed, _⟩ := firstFree_eq taken slug attempts number
  rw [found] at free ⊢
  exact finds_iff.2 ⟨count, rfl, free, passed⟩

@[simp] theorem attempts_int (whole : Int) : attempts taken (.int whole) = taken.length + 1 := rfl

/-- The forms with the whole numbers from a start on. -/
theorem form_int (slug : Scalar) (start : Int) (index : Nat) :
    form slug (.int start) index = numbered slug (.int (start + index)) := by
  induction index generalizing start with
  | zero => rw [form, Function.iterate_zero_apply, Nat.cast_zero, add_zero]
  | succ index hypothesis =>
    have shift : start + ((index + 1 : Nat) : Int) = start + 1 + index := by
      push_cast
      omega
    rw [form_succ, next_int, hypothesis, shift]

/-- The search from a whole number passes over forms in use, no more than there are, and stops at a
free one before its bound. -/
theorem firstFree_int (taken : List Scalar) (slug : Scalar) (start : Int) :
    ∃ increments ≤ (formsInUse taken slug start).ncard,
      firstFree taken slug (taken.length + 1) (.int start) =
        numbered slug (.int (start + increments)) ∧
      (∀ index < increments, isTaken taken (numbered slug (.int (start + index))) = true) ∧
      isTaken taken (numbered slug (.int (start + increments))) = false := by
  obtain ⟨count, _, found, passed, stopped⟩ :=
    firstFree_eq taken slug (taken.length + 1) (.int start)
  simp only [form_int] at found passed stopped
  have bounded := count_le_ncard passed
  have few := ncard_formsInUse_le taken slug start
  exact ⟨count, bounded, found, passed, stopped (by omega)⟩

/-- The search from a whole number ends, whatever is in use, and the bound never cuts it
short. -/
theorem finds_firstFree (taken : List Scalar) (slug : Scalar) (start : Int) :
    Finds taken slug (.int start)
      (firstFree taken slug (taken.length + 1) (.int start)) := by
  obtain ⟨_, _, found, _, free⟩ := firstFree_int taken slug start
  rw [← found] at free
  exact finds_of_free free

/-- A search from a double has an attempt for each pattern of bits. -/
theorem attempts_float (double : Float) : attempts taken (.float double) = 2 ^ 64 := rfl

/-- Among all doubles that follow one another from a start on, one comes back. -/
theorem exists_repeated (start : Float) :
    ∃ first second, first < second ∧ second ≤ 2 ^ 64 ∧
      next^[first] (.float start) = next^[second] (.float start) := by
  let double (index : Nat) : Float := (· + 1.0)^[index] start
  have isDouble (index : Nat) : next^[index] (.float start) = .float (double index) := by
    induction index with
    | zero => rfl
    | succ index hypothesis =>
      rw [Function.iterate_succ_apply', hypothesis]
      simp only [double, Function.iterate_succ_apply']
      rfl
  have bits : ∀ index ∈ Finset.range (2 ^ 64 + 1),
      (double index).toBits.toNat ∈ Finset.range (2 ^ 64) := fun index _ =>
    Finset.mem_range.2 (double index).toBits.toNat_lt
  obtain ⟨first, inFirst, second, inSecond, differ, same⟩ :=
    Finset.exists_ne_map_eq_of_card_lt_of_maps_to (by simp) bits
  have sameDouble : double first = double second :=
    Decimal.eq_of_toBits_eq (UInt64.toNat_inj.1 same)
  rcases Nat.lt_or_gt_of_ne differ with less | greater
  · exact ⟨first, second, less, Nat.le_of_lt_succ (Finset.mem_range.1 inSecond),
      by rw [isDouble, isDouble, sameDouble]⟩
  · exact ⟨second, first, greater, Nat.le_of_lt_succ (Finset.mem_range.1 inFirst),
      by rw [isDouble, isDouble, sameDouble]⟩

/-- If the forms are in use until a number comes back, all are. -/
theorem taken_of_repeated {first second : Nat} (less : first < second)
    (same : next^[first] number = next^[second] number)
    (used : ∀ index < second, isTaken taken (form slug number index) = true) (index : Nat) :
    isTaken taken (form slug number index) = true := by
  induction index using Nat.strongRecOn with
  | ind index hypothesis =>
    by_cases before : index < second
    · exact used index before
    · obtain ⟨behind, rfl⟩ := Nat.exists_eq_add_of_le (Nat.le_of_not_lt before)
      have earlier : form slug number (second + behind) = form slug number (first + behind) := by
        rw [form, form, Nat.add_comm second, Nat.add_comm first, Function.iterate_add_apply,
          Function.iterate_add_apply, same]
      rw [earlier]
      exact hypothesis (first + behind) (by omega)

/-- The number that a search starts from is a whole one or a double. -/
def IsStart (number : Scalar) : Prop :=
  (∃ whole, number = .int whole) ∨ ∃ double, number = .float double

/-- The bounded search stops at a form in use exactly if the search does not end. -/
theorem isTaken_firstFree_iff (isStart : IsStart number) :
    isTaken taken (firstFree taken slug (attempts taken number) number) = true ↔
      ¬∃ found, Finds taken slug number found := by
  constructor
  · rintro used ⟨found, finds⟩
    rcases isStart with ⟨whole, rfl⟩ | ⟨double, rfl⟩
    · have free := (finds_firstFree taken slug whole).free
      rw [← attempts_int whole, used] at free
      cases free
    · obtain ⟨count, bounded, isForm, passed, stopped⟩ :=
        firstFree_eq taken slug (attempts taken (.float double)) (.float double)
      rw [isForm] at used
      rw [attempts_float] at bounded stopped
      have exhausted : count = 2 ^ 64 := by
        by_contra short
        rw [stopped (by omega)] at used
        cases used
      obtain ⟨first, second, less, inside, same⟩ := exists_repeated double
      obtain ⟨free, _, isFree, _⟩ := finds_iff.1 finds
      rw [taken_of_repeated less same (fun index below => passed index (by omega)) free] at isFree
      cases isFree
  · intro endless
    by_contra notUsed
    exact endless ⟨_, finds_of_free (Bool.eq_false_of_not_eq_true notUsed)⟩

/-- What is chosen for a slug is in use exactly if the slug is and the search for a number does
not end. -/
theorem isTaken_unique_iff (isStart : IsStart number) :
    isTaken taken (unique taken number slug) = true ↔
      isTaken taken slug = true ∧ ¬∃ found, Finds taken slug number found := by
  rw [unique]
  by_cases used : isTaken taken slug = true
  · rw [if_pos used, isTaken_firstFree_iff isStart, and_iff_right used]
  · rw [if_neg used]
    exact ⟨fun isUsed => absurd isUsed used, fun both => absurd both.1 used⟩

/-- The reference is a text that is not empty. -/
def IsName (reference : Scalar) : Prop := ∃ name : String, reference = .text name ∧ name ≠ ""

/-- A form with a number behind it is a name. -/
theorem isName_firstFree (taken : List Scalar) (slug : Scalar) (attempts : Nat) (number : Scalar) :
    IsName (firstFree taken slug attempts number) := by
  obtain ⟨count, _, isForm, _, _⟩ := firstFree_eq taken slug attempts number
  rw [isForm]
  refine ⟨_, rfl, fun empty => ?_⟩
  simpa using congrArg String.length empty

/-- What is chosen for a name is one. -/
theorem isName_unique (taken : List Scalar) (start : Scalar) {slug : Scalar}
    (isName : IsName slug) : IsName (unique taken start slug) := by
  rw [unique]
  split
  · exact isName_firstFree _ _ _ _
  · exact isName

/-- From a whole number on, the reference chosen for a name is one that is not in use. -/
theorem unique_text (taken : List Scalar) (start : Int) {slug : String} (notEmpty : slug ≠ "") :
    ∃ reference : String, unique taken (.int start) (.text slug) = .text reference ∧
      reference ≠ "" ∧ Scalar.text reference ∉ taken := by
  obtain ⟨reference, isText, isName⟩ := isName_unique taken (.int start) ⟨slug, rfl, notEmpty⟩
  have free : ¬isTaken taken (.text reference) = true := by
    rw [← isText, isTaken_unique_iff (.inl ⟨start, rfl⟩)]
    exact fun endless => endless.2 ⟨_, finds_firstFree taken (.text slug) start⟩
  exact ⟨reference, isText, isName, fun member => free (isTaken_text.2 member)⟩

end Folio.References
