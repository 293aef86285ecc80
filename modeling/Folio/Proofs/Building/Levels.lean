import Folio.Proofs.Building.Headings
import Folio.Proofs.Contents.Nesting
import Folio.Proofs.Tree.Places
import Mathlib.Data.Set.Insert
import Mathlib.Data.Nat.SuccPred

/-!
# Nesting by levels

A heading lies inside the last heading before it that has a lower level. `Nested` says so of the
positions of anything that is listed in the order of the headings. The positions that come from
the recursion over headings have this property whatever stands between a heading and what it owns
(`nested_places`): a heading encloses exactly the headings that it owns and that are not enclosed
by one of these.
-/

namespace Folio.Building

/-- The numbers before `i` whose level is lower. -/
def shallower (levels : List Int) (i : Nat) : Set Nat :=
  {j | j < i ∧ ∃ outer own, levels[j]? = some outer ∧ levels[i]? = some own ∧ outer < own}

/-- Positions are nested by their levels: each lies below the last position before it that has a
lower level, at the end of the path `inner` from there, or directly below the root if there is no
such position. -/
structure Nested (inner : Position) (levels : List Int) (places : List Position) : Prop where
  count : places.length = levels.length
  proper : ∀ place ∈ places, place ≠ []
  inside : ∀ {i j : Nat} {place outer : Position}, places[i]? = some place →
    places[j]? = some outer → IsGreatest (shallower levels i) j → place.dropLast = outer ++ inner
  outside : ∀ {i : Nat} {place : Position}, places[i]? = some place →
    shallower levels i = ∅ → place.dropLast = []

section Joined

/-- The entries of a section follow its heading. -/
theorem getElem?_own {α : Type} {head : α} {own others : List α} {k : Nat}
    (bounded : k < own.length) : (head :: (own ++ others))[k + 1]? = own[k]? := by
  rw [List.getElem?_cons_succ, List.getElem?_append_left bounded]

/-- The entries behind a section come after all of its own. -/
theorem getElem?_others {α : Type} {head : α} {own others : List α} (k : Nat) :
    (head :: (own ++ others))[own.length + k + 1]? = others[k]? := by
  rw [List.getElem?_cons_succ, List.getElem?_append_right (Nat.le_add_right _ _),
    Nat.add_sub_cancel_left]

variable {level : Int} {own others : List Int}

/-- Before a number that a heading owns, that heading and the owned ones come into question. -/
theorem shallower_own (deeper : ∀ inner ∈ own, level < inner) {k : Nat}
    (bounded : k < own.length) :
    shallower (level :: (own ++ others)) (k + 1) = insert 0 (Nat.succ '' shallower own k) := by
  ext j
  cases j with
  | zero =>
    have there : own[k]? = some own[k] := List.getElem?_eq_getElem bounded
    refine iff_of_true ⟨Nat.zero_lt_succ k, level, own[k], rfl, ?_, ?_⟩ (.inl rfl)
    · rw [getElem?_own bounded, there]
    · exact deeper _ (List.getElem_mem bounded)
  | succ j =>
    have member : j + 1 ∈ shallower (level :: (own ++ others)) (k + 1) ↔ j ∈ shallower own k := by
      constructor
      · rintro ⟨before, outer, inner, first, second, lower⟩
        rw [getElem?_own (by omega)] at first
        rw [getElem?_own bounded] at second
        exact ⟨by omega, outer, inner, first, second, lower⟩
      · rintro ⟨before, outer, inner, first, second, lower⟩
        refine ⟨by omega, outer, inner, ?_, ?_, lower⟩
        · rw [getElem?_own (by omega), first]
        · rw [getElem?_own bounded, second]
    rw [member]
    simp

/-- Behind a section, no entry of it and not its heading is compared with. -/
theorem mem_shallower_others {j k : Nat} :
    own.length + j + 1 ∈ shallower (level :: (own ++ others)) (own.length + k + 1) ↔
      j ∈ shallower others k := by
  constructor
  · rintro ⟨before, outer, inner, first, second, lower⟩
    rw [getElem?_others] at first second
    exact ⟨by omega, outer, inner, first, second, lower⟩
  · rintro ⟨before, outer, inner, first, second, lower⟩
    refine ⟨by omega, outer, inner, ?_, ?_, lower⟩
    · rw [getElem?_others, first]
    · rw [getElem?_others, second]

/-- What stands behind all that a heading owns has no lower level among these without having one
behind them too. -/
theorem exists_mem_others (deeper : ∀ inner ∈ own, level < inner)
    (ends : ∀ next ∈ others.head?, next ≤ level) {j k : Nat}
    (member : j ∈ shallower (level :: (own ++ others)) (own.length + k + 1)) :
    ∃ m ∈ shallower others k, j ≤ own.length + m + 1 := by
  by_cases behind : own.length < j
  · obtain ⟨m, rfl⟩ := Nat.exists_eq_add_of_lt behind
    exact ⟨m, mem_shallower_others.1 member, Nat.le_refl _⟩
  · obtain ⟨before, outer, inner, first, second, lower⟩ := member
    rw [getElem?_others] at second
    have notBelow : level ≤ outer := by
      cases j with
      | zero => exact Int.le_of_eq (Option.some.inj first)
      | succ j =>
        rw [getElem?_own (by omega)] at first
        exact Int.le_of_lt (deeper outer (List.mem_of_getElem? first))
    cases others with
    | nil => cases second
    | cons next rest =>
      have ended : next ≤ level := ends next rfl
      have later : k ≠ 0 := by
        rintro rfl
        obtain rfl : next = inner := Option.some.inj second
        omega
      exact ⟨0, ⟨by omega, next, inner, rfl, second, by omega⟩, by omega⟩

/-- A path to something below the root without its last step. -/
theorem dropLast_below (index : Nat) (inner : Position) {place : Position} (proper : place ≠ []) :
    (index :: (inner ++ place)).dropLast = index :: (inner ++ place.dropLast) := by
  rw [List.dropLast_cons_of_ne_nil (by simp [proper]), List.dropLast_append_of_ne_nil proper]

/-- A heading, what it owns and what follows are nested by their levels if what it owns and what
follows are. -/
theorem Nested.join {inner : Position} {first second : List Position} (index : Nat)
    (deeper : ∀ inner ∈ own, level < inner) (ends : ∀ next ∈ others.head?, next ≤ level)
    (nestedOwn : Nested inner own first) (nestedOthers : Nested inner others second) :
    Nested inner (level :: (own ++ others))
      ([index] :: (first.map (fun place => index :: (inner ++ place)) ++ second)) := by
  let moved := first.map fun place => index :: (inner ++ place)
  have sameCount : moved.length = own.length := by simp [moved, nestedOwn.count]
  have lookup (k : Nat) (bounded : k < own.length) :
      ([index] :: (moved ++ second))[k + 1]? =
        first[k]?.map fun place => index :: (inner ++ place) := by
    rw [getElem?_own (sameCount ▸ bounded), List.getElem?_map]
  have lookupBehind (k : Nat) :
      ([index] :: (moved ++ second))[own.length + k + 1]? = second[k]? := by
    rw [← sameCount, getElem?_others]
  refine ⟨?count, ?proper, @fun i j place outer stands above greatest => ?inside,
    @fun i place stands none => ?outside⟩
  case count => simp [nestedOwn.count, nestedOthers.count]
  case proper =>
    intro place member
    rcases List.mem_cons.1 member with rfl | member
    · simp
    rcases List.mem_append.1 member with member | member
    · obtain ⟨below, -, rfl⟩ := List.mem_map.1 member
      simp
    · exact nestedOthers.proper place member
  case inside =>
    rcases i with _ | i
    · exact absurd greatest.1.1 (Nat.not_lt_zero j)
    rcases Nat.lt_or_ge i own.length with bounded | behind
    · rw [lookup i bounded, Option.map_eq_some_iff] at stands
      obtain ⟨below, stands, rfl⟩ := stands
      have proper := nestedOwn.proper below (List.mem_of_getElem? stands)
      rw [shallower_own deeper bounded] at greatest
      rw [dropLast_below index inner proper]
      rcases j with _ | j
      · -- Nothing that the heading owns encloses this, so the heading itself does.
        have none : shallower own i = ∅ := by
          refine Set.eq_empty_iff_forall_notMem.2 fun m member => ?_
          exact absurd (greatest.2 (.inr ⟨m, member, rfl⟩)) (Nat.not_succ_le_zero m)
        obtain rfl : [index] = outer := Option.some.inj above
        rw [nestedOwn.outside stands none, List.append_nil]
        rfl
      · have member : j ∈ shallower own i := by simpa using greatest.1
        have isGreatest : IsGreatest (shallower own i) j := by
          refine ⟨member, fun m other => ?_⟩
          exact Nat.le_of_succ_le_succ (greatest.2 (.inr ⟨m, other, rfl⟩))
        rw [lookup j (member.1.trans bounded), Option.map_eq_some_iff] at above
        obtain ⟨around, above, rfl⟩ := above
        rw [nestedOwn.inside stands above isGreatest, List.cons_append, List.append_assoc]
    · obtain ⟨k, rfl⟩ := Nat.exists_eq_add_of_le behind
      rw [lookupBehind] at stands
      obtain ⟨m, member, le⟩ := exists_mem_others deeper ends greatest.1
      obtain rfl : j = own.length + m + 1 :=
        Nat.le_antisymm le (greatest.2 (mem_shallower_others.2 member))
      rw [lookupBehind] at above
      refine nestedOthers.inside stands above ⟨member, fun other isMember => ?_⟩
      have := greatest.2 (mem_shallower_others.2 isMember)
      omega
  case outside =>
    rcases i with _ | i
    · obtain rfl : [index] = place := Option.some.inj stands
      rfl
    rcases Nat.lt_or_ge i own.length with bounded | behind
    · rw [shallower_own deeper bounded] at none
      exact absurd (.inl rfl) (Set.eq_empty_iff_forall_notMem.1 none 0)
    · obtain ⟨k, rfl⟩ := Nat.exists_eq_add_of_le behind
      rw [lookupBehind] at stands
      refine nestedOthers.outside stands (Set.eq_empty_iff_forall_notMem.2 fun m member => ?_)
      exact Set.eq_empty_iff_forall_notMem.1 none _ (mem_shallower_others.2 member)

end Joined

/-- Positions that begin at levels of 1 or above, and that lie directly in one another, are never
longer than their levels. -/
theorem Nested.length_le {levels : List Int} {places : List Position}
    (nested : Nested [] levels places) (positive : ∀ level ∈ levels, 1 ≤ level) (i : Nat)
    {place : Position} {level : Int} (stands : places[i]? = some place)
    (own : levels[i]? = some level) : (place.length : Int) ≤ level := by
  induction i using Nat.strong_induction_on generalizing place level with
  | _ i hypothesis =>
    have proper := nested.proper place (List.mem_of_getElem? stands)
    have longer : place.length = place.dropLast.length + 1 := by
      have := List.length_pos_iff.2 proper
      rw [List.length_dropLast]
      omega
    rcases (shallower levels i).eq_empty_or_nonempty with none | some
    · have first := positive level (List.mem_of_getElem? own)
      rw [longer, nested.outside stands none]
      exact first
    · have bounded : BddAbove (shallower levels i) := ⟨i, fun j member => member.1.le⟩
      obtain ⟨j, greatest⟩ := bounded.exists_isGreatest_of_nonempty some
      obtain ⟨before, outer, same, there, here, lower⟩ := greatest.1
      obtain rfl : level = same := Option.some.inj (own.symm.trans here)
      have inRange : j < places.length := by
        rw [nested.count]
        exact (List.getElem?_eq_some_iff.1 there).1
      have around := List.getElem?_eq_getElem inRange
      have shorter := hypothesis j before around there
      rw [longer, nested.inside stands around greatest, List.append_nil]
      omega

namespace Entry

/-- The levels of the headings among some entries. -/
def levels (entries : List Entry) : List Int := (headings entries).map (·.level)

/-- The headings behind one are those inside of its section and those behind it. -/
theorem headings_eq (first : Heading) (rest : List Entry) :
    headings (heading first :: rest) =
      first :: (headings (rest.takeWhile (isWithin first.level)) ++
        headings (rest.dropWhile (isWithin first.level))) := by
  rw [headings, ← headings_append, List.takeWhile_append_dropWhile]

/-- Positions that are found by the recursion over headings are nested by the levels of these. -/
theorem nested_places {inner : Position} (places : Nat → List Entry → List Position)
    (nil : ∀ index, places index [] = [])
    (content : ∀ index tree plain rest, ∃ next,
      places index (.content tree plain :: rest) = places next rest)
    (heading : ∀ index first rest, ∃ start next, places index (.heading first :: rest) =
      [index] :: ((places start (rest.takeWhile (isWithin first.level))).map
        (fun place => index :: (inner ++ place)) ++
          places next (rest.dropWhile (isWithin first.level))))
    (index : Nat) (entries : List Entry) :
    Nested inner (levels entries) (places index entries) := by
  fun_induction arrange entries generalizing index with
  | case1 =>
    rw [nil]
    exact ⟨rfl, by simp, by simp, by simp⟩
  | case2 tree plain rest hypothesis =>
    obtain ⟨next, same⟩ := content index tree plain rest
    rw [same]
    exact hypothesis next
  | case3 first rest own others =>
    obtain ⟨start, next, split⟩ := heading index first rest
    have deeper : ∀ level ∈ levels (rest.takeWhile (isWithin first.level)),
        first.level < level := by
      intro level member
      obtain ⟨inside, isInside, rfl⟩ := List.mem_map.1 member
      exact lt_of_mem_takeWhile isInside
    have ends : ∀ level ∈ (levels (rest.dropWhile (isWithin first.level))).head?,
        level ≤ first.level := by
      intro level isFirst
      cases behind : rest.dropWhile (isWithin first.level) with
      | nil =>
        rw [behind] at isFirst
        cases isFirst
      | cons entry more =>
        obtain ⟨shallow, rfl, le⟩ := exists_of_dropWhile_eq_cons behind
        rw [behind] at isFirst
        obtain rfl : shallow.level = level := Option.some.inj isFirst
        exact le
    rw [split, levels, headings_eq, List.map_cons, List.map_append]
    exact .join index deeper ends (own start) (others next)

end Entry

end Folio.Building
