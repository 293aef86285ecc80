import Folio.Proofs.Slug.Words
import Folio.Text.LowerCase
import Mathlib.Data.List.DropRight

/-!
# Slugs in passes

A slug can be made without words: the marks are dropped from the decomposed text, all of it is put
into lower case, every run of other characters becomes a hyphen, and the hyphens at the ends go.
Joining words comes to the same (`trim_collapse`), as nothing between two words is more than one
hyphen. Lower case depends on the letters around only for a sigma, and of the capitals that have
an ASCII letter for a small one only the ASCII capitals are left by then.
-/

namespace Folio.Slug

open Folio.Text (isMark unmarked nearCapitals capitalRun? capitalRuns lowerChar lowerFrom)

/-- Runs of characters that stand in no word become a hyphen each; the first one has its hyphen
already if the text begins inside it. -/
def collapseFrom : Bool → List Char → List Char
  | _, [] => []
  | inside, character :: rest =>
    if isWordChar character then character :: collapseFrom false rest
    else if inside then collapseFrom true rest
    else '-' :: collapseFrom true rest

/-- Every run of characters that stand in no word becomes a hyphen. -/
def collapse (text : List Char) : List Char := collapseFrom false text

/-- The text without hyphens at its end. -/
def trimEnd (text : List Char) : List Char := text.rdropWhile (· == '-')

/-- The text without hyphens at its ends. -/
def trim (text : List Char) : List Char := trimEnd (text.dropWhile (· == '-'))

/-- A character of a word is kept, and ends a run of others. -/
theorem collapseFrom_cons {character : Char} (inWord : isWordChar character = true) (inside : Bool)
    (rest : List Char) :
    collapseFrom inside (character :: rest) = character :: collapseFrom false rest := by
  rw [collapseFrom, if_pos inWord]

/-- Inside a run other characters are dropped. -/
theorem collapseFrom_inside {character : Char} (other : isWordChar character = false)
    (rest : List Char) : collapseFrom true (character :: rest) = collapseFrom true rest := by
  rw [collapseFrom, if_neg (by simp [other]), if_pos rfl]

/-- A run begins with a hyphen. -/
theorem collapseFrom_outside {character : Char} (other : isWordChar character = false)
    (rest : List Char) :
    collapseFrom false (character :: rest) = '-' :: collapseFrom true rest := by
  rw [collapseFrom, if_neg (by simp [other]), if_neg Bool.false_ne_true]

/-- A hyphen stands in no word. -/
theorem ne_hyphen {character : Char} (inWord : isWordChar character = true) :
    (character == '-') = false := by
  rw [beq_eq_false_iff_ne]
  rintro rfl
  exact absurd inWord (by decide)

/-- Inside a run the next hyphen comes behind a word. -/
theorem dropWhile_collapseFrom_true (text : List Char) :
    (collapseFrom true text).dropWhile (· == '-') = collapseFrom true text := by
  induction text with
  | nil => rfl
  | cons character rest hypothesis =>
    by_cases inWord : isWordChar character = true
    · rw [collapseFrom_cons inWord, List.dropWhile_cons_of_neg (by simp [ne_hyphen inWord])]
    · rw [collapseFrom_inside (by simpa using inWord), hypothesis]

/-- Without hyphens at its beginning, a text begins as if inside a run. -/
theorem dropWhile_collapse (text : List Char) :
    (collapse text).dropWhile (· == '-') = collapseFrom true text := by
  cases text with
  | nil => rfl
  | cons character rest =>
    rw [collapse]
    by_cases inWord : isWordChar character = true
    · rw [collapseFrom_cons inWord, collapseFrom_cons inWord,
        List.dropWhile_cons_of_neg (by simp [ne_hyphen inWord])]
    · have other : isWordChar character = false := by simpa using inWord
      rw [collapseFrom_outside other, collapseFrom_inside other, List.dropWhile_cons_of_pos rfl,
        dropWhile_collapseFrom_true]

/-- Hyphens go at the end of the second text, and of the first if nothing is left of that. -/
theorem trimEnd_append (first second : List Char) :
    trimEnd (first ++ second) =
      if trimEnd second = [] then trimEnd first else first ++ trimEnd second := by
  simp only [trimEnd, List.rdropWhile, List.reverse_append, List.dropWhile_append,
    List.isEmpty_iff, List.reverse_eq_nil_iff]
  split
  · rfl
  · rw [List.reverse_append, List.reverse_reverse]

/-- A word has no hyphens at its end. -/
theorem trimEnd_word {word : List Char} (inWord : ∀ character ∈ word, isWordChar character = true) :
    trimEnd word = word :=
  List.rdropWhile_eq_self_iff.2 fun notEmpty hyphen =>
    absurd hyphen (by simp [ne_hyphen (inWord _ (List.getLast_mem notEmpty))])

/-- What stands behind a word, up to the hyphens at the end. The induction is along the text, and
the word in front of it grows until a separator ends it. -/
theorem trimEnd_collapseFrom {word : List Char}
    (inWord : ∀ character ∈ word, isWordChar character = true) (text : List Char) :
    trimEnd (word ++ collapseFrom word.isEmpty text) = join (wordsOf (word ++ text)) := by
  induction text generalizing word with
  | nil =>
    rw [collapseFrom, List.append_nil, trimEnd_word inWord]
    by_cases none : word = []
    · subst none
      rfl
    · rw [wordsOf_word inWord none]
      rfl
  | cons character rest hypothesis =>
    by_cases belongs : isWordChar character = true
    · have grown : ∀ member ∈ word ++ [character], isWordChar member = true := by
        simpa [or_imp, forall_and] using And.intro inWord belongs
      have later := hypothesis grown
      rw [List.isEmpty_eq_false_iff.2 (by simp)] at later
      rw [collapseFrom_cons belongs]
      simpa using later
    · have other : isWordChar character = false := by simpa using belongs
      have later := hypothesis (List.forall_mem_nil _)
      rw [List.isEmpty_nil, List.nil_append, List.nil_append] at later
      rw [wordsOf_separator other, join_wordsOf_append]
      by_cases none : word = []
      · subst none
        rw [List.isEmpty_nil, collapseFrom_inside other]
        exact later
      · rw [List.isEmpty_eq_false_iff.2 none, collapseFrom_outside other,
          wordsOf_word inWord none, ← later, List.append_cons, trimEnd_append, trimEnd_append]
        have joined : join [word] = word := rfl
        have hyphens : trimEnd ['-'] = [] := rfl
        rw [joined, hyphens, if_pos rfl, trimEnd_word inWord, hyphenate, if_neg none,
          ← List.append_cons]

/-- Words joined by hyphens are the text with its runs of other characters collapsed. -/
theorem trim_collapse (text : List Char) : trim (collapse text) = join (wordsOf text) := by
  rw [trim, dropWhile_collapse]
  exact trimEnd_collapseFrom (List.forall_mem_nil _) text

/-- Characters beyond ASCII are not changed by ASCII lower case. -/
theorem toLower_of_le {character : Char} (outside : 0x80 ≤ character.toNat) :
    character.toLower = character := by
  have noCapital : ¬character ≤ 'Z' := by
    intro least
    have : character.toNat ≤ 'Z'.toNat := least
    have : 'Z'.toNat = 0x5A := rfl
    omega
  exact dif_neg fun both : character.val ≥ 'A'.val ∧ character.val ≤ 'Z'.val => noCapital both.2

/-- Of the runs of capitals only the first one is inside ASCII. -/
theorem capitalRun?_ascii {code : Nat} (isAscii : code < 0x80) :
    capitalRun? code =
      if 0x41 ≤ code ∧ code ≤ 0x5A then some (0x41, 0x5A, 1, 0x61) else none := by
  have others : (capitalRuns.tail.all fun run => 0x80 ≤ run.1) = true := by decide +kernel
  have whole : capitalRuns = (0x41, 0x5A, 1, 0x61) :: capitalRuns.tail := rfl
  rw [capitalRun?, whole]
  by_cases capital : 0x41 ≤ code ∧ code ≤ 0x5A
  · rw [List.find?_cons_of_pos (by simpa [Nat.mod_one] using capital), if_pos capital]
  · rw [List.find?_cons_of_neg (by simpa [Nat.mod_one] using capital), if_neg capital]
    refine List.find?_eq_none.2 fun run member => ?_
    have above := of_decide_eq_true (List.all_eq_true.1 others run member)
    simp only [Bool.and_eq_true, decide_eq_true_eq]
    omega

/-- On ASCII the two lower cases are the same. -/
theorem lowerChar_ascii {character : Char} (isAscii : character.toNat < 0x80) :
    lowerChar character = character.toLower := by
  have lower : character.toLower =
      if 0x41 ≤ character.toNat ∧ character.toNat ≤ 0x5A then
        Char.ofNat (0x61 + (character.toNat - 0x41))
      else character := by
    refine forall_ascii isAscii ?_
    decide
  rw [lower, lowerChar, capitalRun?_ascii isAscii]
  by_cases capital : 0x41 ≤ character.toNat ∧ character.toNat ≤ 0x5A
  · rw [if_pos capital, if_pos capital]
  · rw [if_neg capital, if_neg capital]

/-- Small letters that belong to capitals outside ASCII are outside ASCII, but for one. -/
theorem capitalRuns_outside :
    (capitalRuns.all fun (first, last, _, small) =>
      last < 0x80 || 0x80 ≤ small || (first == 0x212A && last == 0x212A)) = true := by
  decide +kernel

/-- Characters beyond ASCII stand in no word. -/
theorem noWordChar_ofNat {code : Nat} (outside : 0x80 ≤ code) :
    isWordChar (Char.ofNat code) = false := by
  by_cases valid : code.isValidChar
  · exact noWordChar_of_le (by rwa [Text.toNat_ofNat valid])
  · rw [Char.ofNat, dif_neg valid]
    rfl

/-- A small letter that is not the one `Char.toLower` gives stands in no word, and nor does that
one. -/
theorem lowerChar_toLower {character : Char} (apart : character.toNat ∉ nearCapitals) :
    lowerChar character = character.toLower ∨
      (isWordChar (lowerChar character) = false ∧ isWordChar character.toLower = false) := by
  by_cases isAscii : character.toNat < 0x80
  · exact .inl (lowerChar_ascii isAscii)
  have outside : 0x80 ≤ character.toNat := by omega
  rw [toLower_of_le outside, lowerChar]
  split
  case h_2 => exact .inl rfl
  case h_1 first last step small isRun =>
    refine .inr ⟨noWordChar_ofNat ?_, noWordChar_of_le outside⟩
    have within := List.find?_some isRun
    have all := List.all_eq_true.1 capitalRuns_outside _ (List.mem_of_find?_eq_some isRun)
    simp only [Bool.and_eq_true, decide_eq_true_eq] at within
    simp only [Bool.or_eq_true, Bool.and_eq_true, decide_eq_true_eq, beq_iff_eq] at all
    rcases all with (ascii | above) | kelvin
    · omega
    · omega
    · have isKelvin : character.toNat = 0x212A := by omega
      exact absurd (isKelvin ▸ (by decide : 0x212A ∈ nearCapitals)) apart

/-- A run of other characters hides which ones they are. -/
theorem collapseFrom_congr {first second : Char} {left right : List Char}
    (agree : first = second ∨ (isWordChar first = false ∧ isWordChar second = false))
    (later : ∀ inside, collapseFrom inside left = collapseFrom inside right) (inside : Bool) :
    collapseFrom inside (first :: left) = collapseFrom inside (second :: right) := by
  rcases agree with rfl | ⟨firstOther, secondOther⟩
  · simp only [collapseFrom, later]
  · simp only [collapseFrom, firstOther, secondOther, later, Bool.false_eq_true, if_false]

/-- What is before a letter has no influence on the slug. -/
theorem collapseFrom_lowerFrom {text : List Char}
    (apart : ∀ character ∈ text, character.toNat ∉ nearCapitals) (before : Option Char)
    (inside : Bool) :
    collapseFrom inside (lowerFrom before text) = collapseFrom inside (text.map Char.toLower) := by
  induction text generalizing before inside with
  | nil => rfl
  | cons character rest hypothesis =>
    obtain ⟨here, later⟩ := List.forall_mem_cons.1 apart
    have noDot : (character == '\u0130') = false := by
      rw [beq_eq_false_iff_ne]
      rintro rfl
      exact here (by decide)
    rw [lowerFrom, noDot, if_neg Bool.false_ne_true, List.map_cons]
    have following := fun inside => hypothesis later (some character) inside
    split
    · rename_i final
      have sigma : character = '\u03A3' := by
        simp only [Bool.and_eq_true, beq_iff_eq] at final
        exact final.1.1
      subst sigma
      exact collapseFrom_congr (.inr (by decide)) following inside
    · exact collapseFrom_congr (lowerChar_toLower here) following inside

/-- None of the capitals with an ASCII small letter, apart from ASCII, is left in a decomposed text.
-/
theorem not_nearCapital_of_mem_unmarked {text : List Char} :
    ∀ character ∈ unmarked (Text.normalize text), character.toNat ∉ nearCapitals := by
  intro character member
  rw [Text.normalize, Text.unmarked_orderMarks] at member
  obtain ⟨source, -, part⟩ := List.mem_flatMap.1 (List.mem_of_mem_filter member)
  exact Text.not_nearCapital_of_mem_decompose part

/-- The four passes: decomposing, dropping marks, lower case, and collapsing with trimming. -/
theorem core_passes (text : List Char) :
    core text = trim (collapse (lowerFrom none (unmarked (Text.normalize text)))) := by
  have lowered :
      collapse (lowerFrom none (unmarked (Text.normalize text))) = collapse (fold text) :=
    collapseFrom_lowerFrom not_nearCapital_of_mem_unmarked none false
  rw [lowered, trim_collapse, core_eq]

end Folio.Slug
