import Folio.Text.Decomposition
import Mathlib.Data.List.Chain
import Mathlib.Data.List.TakeWhile

/-!
# What the tables of characters say

Four facts about decompositions and marks: ASCII characters decompose into themselves, marks
into marks only, no decomposition holds a non-ASCII capital whose small letter is ASCII, and
putting marks in order moves nothing else. The first three are read off the tables. Marks and
decompositions are looked up in runs of code points that ascend, so one pass over both tables
finds all the marks that decompose.
-/

namespace Folio.Text

section Runs

variable {α β : Type}

/-- A code point lies in a run. -/
def InRun (code : Nat) (run : Nat × Nat × α) : Prop := run.1 ≤ code ∧ code ≤ run.2.1

/-- Runs begin in ascending order. -/
def Ascend (runs : List (Nat × Nat × α)) : Prop := (runs.map (·.1)).IsChain (· ≤ ·)

instance (runs : List (Nat × Nat × α)) : Decidable (Ascend runs) :=
  inferInstanceAs (Decidable (List.IsChain _ _))

/-- Runs that ascend do so pairwise. -/
theorem Ascend.pairwise {runs : List (Nat × Nat × α)} (ascend : Ascend runs) :
    runs.Pairwise fun left right => left.1 ≤ right.1 :=
  List.pairwise_map.1 (List.isChain_iff_pairwise.1 ascend)

/-- Ascending runs have no code point in common with other ascending runs, except for some. Of
the other runs only those are kept that do not end before the next run begins. -/
def apartExcept (exempt : Nat × Nat × α → Bool) :
    List (Nat × Nat × α) → List (Nat × Nat × β) → Bool
  | [], _ => true
  | run :: runs, others =>
    match others.dropWhile fun other => other.2.1 < run.1 with
    | [] => true
    | other :: ahead =>
      (run.2.1 < other.1 || exempt run) && apartExcept exempt runs (other :: ahead)

/-- A run that has a code point in common with another one is exempt. -/
theorem exempt_of_common {exempt : Nat × Nat × α → Bool} {runs : List (Nat × Nat × α)}
    {others : List (Nat × Nat × β)} (runsAscend : Ascend runs) (othersAscend : Ascend others)
    (apart : apartExcept exempt runs others = true) {run : Nat × Nat × α}
    {other : Nat × Nat × β} (isRun : run ∈ runs) (isOther : other ∈ others) {code : Nat}
    (inRun : InRun code run) (inOther : InRun code other) : exempt run = true := by
  replace runsAscend := runsAscend.pairwise
  replace othersAscend := othersAscend.pairwise
  induction runs generalizing others with
  | nil => cases isRun
  | cons first rest hypothesis =>
    obtain ⟨before, restAscend⟩ := List.pairwise_cons.1 runsAscend
    have begins : first.1 ≤ run.1 := by
      rcases List.mem_cons.1 isRun with rfl | later
      · exact le_rfl
      · exact before run later
    -- What ends before the first run begins does not reach the code point.
    have isAhead : other ∈ others.dropWhile fun other => other.2.1 < first.1 := by
      rw [← List.takeWhile_append_dropWhile (p := fun other => other.2.1 < first.1) (l := others),
        List.mem_append] at isOther
      refine isOther.resolve_left fun ended => ?_
      have ends := List.mem_takeWhile_imp ended
      simp only [decide_eq_true_eq] at ends
      have := inRun.1
      have := inOther.2
      omega
    have aheadAscend := othersAscend.sublist
      (List.dropWhile_sublist fun other => decide (other.2.1 < first.1))
    rw [apartExcept] at apart
    split at apart
    · rename_i nothing
      rw [nothing] at isAhead
      cases isAhead
    · rename_i next ahead isNext
      rw [isNext] at isAhead aheadAscend
      rw [Bool.and_eq_true, Bool.or_eq_true, decide_eq_true_eq] at apart
      obtain ⟨here, later⟩ := apart
      rcases List.mem_cons.1 isRun with rfl | inRest
      · refine here.resolve_left fun ends => ?_
        have follows : next.1 ≤ other.1 := by
          rcases List.mem_cons.1 isAhead with rfl | behind
          · exact le_rfl
          · exact (List.pairwise_cons.1 aheadAscend).1 other behind
        have := inRun.2
        have := inOther.1
        omega
      · exact hypothesis later inRest isAhead restAscend aheadAscend

end Runs

/-- The parts that the table of decompositions is written in. -/
def decompositionParts : List (List (Nat × Nat × List Nat)) :=
  [decompositions1, decompositions2, decompositions3, decompositions4, decompositions5,
    decompositions6, decompositions7, decompositions8, decompositions9, decompositions10,
    decompositions11, decompositions12, decompositions13, decompositions14, decompositions15,
    decompositions16, decompositions17, decompositions18, decompositions19, decompositions20,
    decompositions21]

/-- The decompositions are those of the parts of the table. -/
theorem decompositions_eq : decompositions = decompositionParts.flatten := by
  unfold decompositions decompositionParts
  simp only [List.flatten_cons, List.flatten_nil, List.append_nil, List.append_assoc]

/-- A run that is found stands in one of the parts. -/
theorem exists_table_of_find? {test : Nat × Nat × List Nat → Bool} {run : Nat × Nat × List Nat}
    (found : decompositions.find? test = some run) :
    ∃ table ∈ decompositionParts, run ∈ table := by
  have listed := List.mem_of_find?_eq_some found
  rwa [decompositions_eq, List.mem_flatten] at listed

/-- ASCII characters decompose into themselves. -/
theorem decompose_ascii {character : Char} (isAscii : character.toNat < 0x80) :
    decompose character = [character] := by
  have below : character.toNat < 0xA0 := by omega
  rw [decompose, decomposeCode, if_pos below, List.map_singleton, Char.ofNat_toNat]

/-- A code point decomposes in one of three ways: into itself, by arithmetic as a Hangul syllable,
or by a run of the table, where each part is as far from the one in the table as the code point is
from the first of the run, or is the one in the table. -/
theorem decomposeCode_cases (code : Nat) :
    decomposeCode code = [code] ∨
    ((0xAC00 ≤ code ∧ code ≤ 0xD7A3) ∧ decomposeCode code = hangulParts (code - 0xAC00)) ∨
    ∃ table ∈ decompositionParts, ∃ run ∈ table, InRun code run ∧
      ∀ value ∈ decomposeCode code, ∃ part ∈ run.2.2,
        part ≤ value ∧ value ≤ part + (run.2.1 - run.1) := by
  by_cases below : code < 0xA0
  · exact .inl (by rw [decomposeCode, if_pos below])
  by_cases hangul : 0xAC00 ≤ code ∧ code ≤ 0xD7A3
  · refine .inr (.inl ⟨hangul, ?_⟩)
    rw [decomposeCode, if_neg below, if_pos (by simpa using hangul)]
  rw [decomposeCode, if_neg below, if_neg (by simpa using hangul)]
  split
  · rename_i first last single found
    obtain ⟨table, isPart, inTable⟩ := exists_table_of_find? found
    have inRun : InRun code (first, last, [single]) := by
      simpa [InRun] using List.find?_some found
    refine .inr (.inr ⟨table, isPart, _, inTable, inRun, fun value member => ?_⟩)
    obtain rfl := List.mem_singleton.1 member
    have reaches : code ≤ last := inRun.2
    exact ⟨single, List.mem_singleton_self _, by omega, by dsimp only; omega⟩
  · rename_i first last parts _ found
    obtain ⟨table, isPart, inTable⟩ := exists_table_of_find? found
    have inRun : InRun code (first, last, parts) := by
      simpa [InRun] using List.find?_some found
    exact .inr (.inr ⟨table, isPart, _, inTable, inRun,
      fun value member => ⟨value, member, le_rfl, Nat.le_add_right _ _⟩⟩)
  · exact .inl rfl

/-- The code points of a run decompose into marks. -/
def marksOnly (run : Nat × Nat × List Nat) : Bool :=
  (List.range' run.1 (run.2.1 + 1 - run.1)).all fun code =>
    (decompose (Char.ofNat code)).all isMark

/-- Runs ascend in each part of the table. -/
theorem ascend_decompositions : ∀ table ∈ decompositionParts, Ascend table := by decide +kernel

/-- The ranges of marks ascend. -/
theorem ascend_markRanges : Ascend markRanges := by decide +kernel

/-- One pass over both tables: the marks among what decomposes are in runs of marks only. -/
theorem apart_markRanges :
    ∀ table ∈ decompositionParts, apartExcept marksOnly table markRanges = true := by
  decide +kernel

/-- No mark is a Hangul syllable. -/
theorem markRanges_noHangul :
    (markRanges.all fun range => range.2.1 < 0xAC00 || 0xD7A3 < range.1) = true := by
  decide +kernel

/-- A mark has its code point in a run of marks. -/
theorem exists_range {mark : Char} (marks : isMark mark = true) :
    ∃ range ∈ markRanges, InRun mark.toNat range := by
  rw [isMark, combiningClass, classOf, bne_iff_ne] at marks
  split at marks
  · exact absurd rfl marks
  · split at marks
    · rename_i found
      exact ⟨_, List.mem_of_find?_eq_some found, by simpa [InRun] using List.find?_some found⟩
    · exact absurd rfl marks

/-- Marks decompose into marks. -/
theorem isMark_of_mem_decompose {mark part : Char} (marks : isMark mark = true)
    (member : part ∈ decompose mark) : isMark part = true := by
  obtain ⟨range, isRange, inRange⟩ := exists_range marks
  rcases decomposeCode_cases mark.toNat with itself | ⟨hangul, -⟩ |
    ⟨table, isPart, run, inTable, inRun, -⟩
  · rw [decompose, itself, List.map_singleton, Char.ofNat_toNat, List.mem_singleton] at member
    exact member ▸ marks
  · have outside := List.all_eq_true.1 markRanges_noHangul range isRange
    simp only [Bool.or_eq_true, decide_eq_true_eq] at outside
    have := inRange.1
    have := inRange.2
    omega
  · have exempt := exempt_of_common (ascend_decompositions table isPart) ascend_markRanges
      (apart_markRanges table isPart) inTable isRange inRun inRange
    have inside : mark.toNat ∈ List.range' run.1 (run.2.1 + 1 - run.1) := by
      have := inRun.1
      have := inRun.2
      rw [List.mem_range'_1]
      omega
    have here := List.all_eq_true.1 exempt mark.toNat inside
    rw [Char.ofNat_toNat] at here
    exact List.all_eq_true.1 here part member

/-- Characters that stay once marks are dropped. -/
def unmarked (text : List Char) : List Char := text.filter fun character => !isMark character

/-- Placing a mark changes nothing but marks. -/
theorem unmarked_placeMark (character : Char) (text : List Char) :
    unmarked (placeMark character text) = unmarked (character :: text) := by
  induction text with
  | nil => rfl
  | cons next rest hypothesis =>
    rw [placeMark]
    split
    · -- What moves behind a mark of smaller class is a mark itself.
      rename_i moves
      simp only [Bool.and_eq_true, bne_iff_ne, decide_eq_true_eq] at moves
      have nextMarks : isMark next = true := bne_iff_ne.2 moves.1
      have marks : isMark character = true := bne_iff_ne.2 (by omega)
      simp only [unmarked] at hypothesis ⊢
      simp [nextMarks, marks, hypothesis]
    · rfl

/-- Putting marks in order moves nothing else. -/
theorem unmarked_orderMarks (text : List Char) : unmarked (orderMarks text) = unmarked text := by
  induction text with
  | nil => rfl
  | cons character rest hypothesis =>
    rw [orderMarks, unmarked_placeMark]
    simp only [unmarked] at hypothesis ⊢
    rw [List.filter_cons, List.filter_cons, hypothesis]

/-- The dotted capital I and the Kelvin sign: their small letters are ASCII letters, with a mark in
the first case, and they are not ASCII themselves. -/
def nearCapitals : List Nat := [0x130, 0x212A]

/-- No part in the run comes to the code point. -/
def avoids (run : Nat × Nat × List Nat) (code : Nat) : Bool :=
  run.2.2.all fun part => code < part || part + (run.2.1 - run.1) < code

/-- No decomposition leads to a capital that has an ASCII small letter. -/
theorem avoids_nearCapitals :
    (decompositionParts.all fun table => table.all fun run => nearCapitals.all (avoids run)) =
      true := by
  decide +kernel

/-- Each of these capitals is decomposed. -/
theorem decomposeCode_nearCapitals :
    ∀ code ∈ nearCapitals, decomposeCode code ≠ [code] := by
  decide +kernel

/-- A valid code point is the one of its character. -/
theorem toNat_ofNat {code : Nat} (valid : code.isValidChar) : (Char.ofNat code).toNat = code := by
  rw [Char.ofNat, dif_pos valid]
  rfl

/-- Decompositions do not hold these two capitals. -/
theorem not_nearCapital_of_mem_decompose {character part : Char}
    (member : part ∈ decompose character) : part.toNat ∉ nearCapitals := by
  intro near
  rw [decompose, List.mem_map] at member
  obtain ⟨value, isValue, rfl⟩ := member
  by_cases valid : value.isValidChar
  case neg =>
    rw [Char.ofNat, dif_neg valid] at near
    exact absurd near (by decide)
  rw [toNat_ofNat valid] at near
  rcases decomposeCode_cases character.toNat with itself | ⟨hangul, parts⟩ |
    ⟨table, isPart, run, inTable, -, values⟩
  · rw [itself, List.mem_singleton] at isValue
    exact decomposeCode_nearCapitals value near (isValue ▸ itself)
  · have jamo : 0x1100 ≤ value ∧ value < 0x1200 := by
      simp only [parts, hangulParts, List.cons_append, List.nil_append, List.mem_cons] at isValue
      rcases isValue with rfl | rfl | trailing
      · omega
      · omega
      · split at trailing
        · cases trailing
        · rw [List.mem_singleton] at trailing
          omega
    have : value = 0x130 ∨ value = 0x212A := by simpa [nearCapitals] using near
    omega
  · obtain ⟨part, inRun, least, most⟩ := values value isValue
    have all := List.all_eq_true.1 (List.all_eq_true.1 avoids_nearCapitals table isPart) run inTable
    have avoided := List.all_eq_true.1 (List.all_eq_true.1 all value near) part inRun
    simp only [Bool.or_eq_true, decide_eq_true_eq] at avoided
    omega

end Folio.Text
