import Folio.Proofs.Text.Decomposition
import Folio.Slug

/-!
# Slugs word by word

A text is folded character by character: a mark leaves nothing, and an ASCII separator itself. So
the words around a separator are those before it and those behind it (`wordsOf_separator`), and the
slug joins what it joins on both sides. Everything that has no influence on a slug follows from
these two facts: marks, wherever they stand and in whatever order, and separators next to other
separators or around the text.
-/

namespace Folio.Slug

open Folio.Text (isMark unmarked)

/-- What a character leaves in the folded text. -/
def foldChar (character : Char) : List Char :=
  (unmarked (Text.decompose character)).map Char.toLower

/-- The order that marks are put in is dropped with the marks. -/
theorem fold_eq (text : List Char) : fold text = text.flatMap foldChar := by
  have unordered : fold text = (unmarked (text.flatMap Text.decompose)).map Char.toLower :=
    congrArg (List.map Char.toLower) (Text.unmarked_orderMarks _)
  rw [unordered, unmarked, List.filter_flatMap, List.map_flatMap]
  rfl

/-- A mark is dropped. -/
theorem foldChar_of_isMark {mark : Char} (marks : isMark mark = true) : foldChar mark = [] := by
  have nothing : unmarked (Text.decompose mark) = [] := by
    refine List.filter_eq_nil_iff.2 fun part member => ?_
    simp [Text.isMark_of_mem_decompose marks member]
  rw [foldChar, nothing, List.map_nil]

/-- ASCII characters are only put into lower case. -/
theorem foldChar_ascii {character : Char} (isAscii : character.toNat < 0x80) :
    foldChar character = [character.toLower] := by
  have noMark : isMark character = false := by
    have below : character.toNat < 0x300 := by omega
    rw [isMark, Text.combiningClass, Text.classOf, if_pos below]
    rfl
  rw [foldChar, Text.decompose_ascii isAscii]
  simp [unmarked, noMark]

/-- No word holds a character outside ASCII. -/
theorem noWordChar_of_le {character : Char} (outside : 0x80 ≤ character.toNat) :
    isWordChar character = false := by
  have above : ∀ last : Char, last.toNat < 0x80 → ¬character ≤ last := by
    intro last below least
    have : character.toNat ≤ last.toNat := least
    omega
  simp [isWordChar, above 'z' (by decide), above '9' (by decide)]

/-- What holds of the characters of all codes below 0x80 holds of every ASCII character. -/
@[elab_as_elim]
theorem forall_ascii {motive : Char → Prop} {character : Char} (isAscii : character.toNat < 0x80)
    (codes : ∀ code : Fin 0x80, motive (Char.ofNat code)) : motive character := by
  have here := codes ⟨character.toNat, isAscii⟩
  rwa [Char.ofNat_toNat] at here

/-- Among the ASCII characters only capitals are put into lower case, and words hold no capitals;
what is neither a letter nor a digit stands in no word. -/
theorem ascii_cases {character : Char} (isAscii : character.toNat < 0x80) :
    (isWordChar character = true → character.toLower = character) ∧
      (character.isAlphanum = false →
        character.toLower = character ∧ isWordChar character = false) := by
  refine forall_ascii isAscii ?_
  decide

/-- A character of a word is kept. -/
theorem foldChar_of_isWordChar {character : Char} (inWord : isWordChar character = true) :
    foldChar character = [character] := by
  have isAscii : character.toNat < 0x80 := by
    by_contra outside
    rw [noWordChar_of_le (by omega)] at inWord
    exact Bool.false_ne_true inWord
  rw [foldChar_ascii isAscii, (ascii_cases isAscii).1 inWord]

/-- An ASCII character that is neither a letter nor a digit. -/
structure IsSeparator (character : Char) : Prop where
  ascii : character.toNat < 0x80
  other : character.isAlphanum = false

/-- A separator stays one in lower case. -/
theorem IsSeparator.stays {separator : Char} (separates : IsSeparator separator) :
    separator.toLower = separator ∧ isWordChar separator = false :=
  (ascii_cases separates.ascii).2 separates.other

/-- A separator is not changed. -/
theorem IsSeparator.foldChar_eq {separator : Char} (separates : IsSeparator separator) :
    foldChar separator = [separator] := by
  rw [foldChar_ascii separates.ascii, separates.stays.1]

/-- Every text has a piece. -/
theorem pieces_ne_nil (text : List Char) : pieces text ≠ [] := by
  cases text with
  | nil => exact List.cons_ne_nil _ _
  | cons character rest =>
    rw [pieces]
    split
    · split <;> exact List.cons_ne_nil _ _
    · exact List.cons_ne_nil _ _

/-- A character of a word belongs to the first piece. -/
theorem pieces_cons {character : Char} (inWord : isWordChar character = true)
    (rest : List Char) :
    pieces (character :: rest) = (pieces rest).modifyHead (character :: ·) := by
  rw [pieces, if_pos inWord]
  cases isPieces : pieces rest with
  | nil => exact absurd isPieces (pieces_ne_nil rest)
  | cons piece others => rfl

/-- A separator begins a new piece. -/
theorem pieces_cons_separator {separator : Char} (between : isWordChar separator = false)
    (rest : List Char) : pieces (separator :: rest) = [] :: pieces rest := by
  rw [pieces, if_neg (by simp [between])]

/-- Any other character ends the piece before it. -/
theorem pieces_separator {separator : Char} (between : isWordChar separator = false)
    (first second : List Char) :
    pieces (first ++ separator :: second) = pieces first ++ pieces second := by
  induction first with
  | nil => exact pieces_cons_separator between second
  | cons character rest hypothesis =>
    rw [List.cons_append]
    by_cases inWord : isWordChar character = true
    · rw [pieces_cons inWord, pieces_cons inWord, hypothesis]
      cases isPieces : pieces rest with
      | nil => exact absurd isPieces (pieces_ne_nil rest)
      | cons piece others => rfl
    · have ends : isWordChar character = false := by simpa using inWord
      rw [pieces_cons_separator ends, pieces_cons_separator ends, hypothesis, List.cons_append]

/-- The pieces that are not empty. -/
def wordsOf (folded : List Char) : List (List Char) :=
  (pieces folded).filter fun piece => !piece.isEmpty

/-- The words around a separator are those before it and those behind it. -/
theorem wordsOf_separator {separator : Char} (between : isWordChar separator = false)
    (first second : List Char) :
    wordsOf (first ++ separator :: second) = wordsOf first ++ wordsOf second := by
  rw [wordsOf, pieces_separator between, List.filter_append]
  rfl

/-- A text of word characters is one piece. -/
theorem pieces_word {word : List Char}
    (inWord : ∀ character ∈ word, isWordChar character = true) : pieces word = [word] := by
  induction word with
  | nil => rfl
  | cons character rest hypothesis =>
    obtain ⟨here, later⟩ := List.forall_mem_cons.1 inWord
    rw [pieces_cons here, hypothesis later]
    rfl

/-- A word by itself is its only one. -/
theorem wordsOf_word {word : List Char} (inWord : ∀ character ∈ word, isWordChar character = true)
    (notEmpty : word ≠ []) : wordsOf word = [word] := by
  rw [wordsOf, pieces_word inWord, List.filter_cons_of_pos (by simp [notEmpty]), List.filter_nil]

/-- No word is empty. -/
theorem ne_nil_of_mem_wordsOf {folded word : List Char} (member : word ∈ wordsOf folded) :
    word ≠ [] := by
  simpa using (List.mem_filter.1 member).2

theorem core_eq (text : List Char) : core text = join (wordsOf (fold text)) := rfl

/-- A word is joined to others by a hyphen. -/
theorem join_cons (word : List Char) {rest : List (List Char)} (more : rest ≠ []) :
    join (word :: rest) = word ++ '-' :: join rest := by
  cases rest with
  | nil => exact absurd rfl more
  | cons next others => rfl

/-- Words that are not empty join to nothing only if there are none. -/
theorem join_eq_nil_iff {words : List (List Char)} (notEmpty : ∀ word ∈ words, word ≠ []) :
    join words = [] ↔ words = [] := by
  refine ⟨fun joined => ?_, fun none => none ▸ rfl⟩
  match words with
  | [] => rfl
  | [word] => exact absurd joined (notEmpty word List.mem_cons_self)
  | word :: next :: rest =>
    rw [join_cons word (List.cons_ne_nil _ _)] at joined
    exact absurd (List.append_eq_nil_iff.1 joined).2 (List.cons_ne_nil _ _)

/-- Joined words are joined to others by a hyphen. -/
theorem join_append {first second : List (List Char)} (someFirst : first ≠ [])
    (someSecond : second ≠ []) :
    join (first ++ second) = join first ++ '-' :: join second := by
  induction first with
  | nil => exact absurd rfl someFirst
  | cons word rest hypothesis =>
    by_cases last : rest = []
    · subst last
      exact join_cons word someSecond
    · rw [List.cons_append, join_cons word (by simp [last]), hypothesis last, join_cons word last,
        List.append_assoc]
      rfl

/-- Two texts with a hyphen between them, unless one of them is empty. -/
def hyphenate (left right : List Char) : List Char :=
  if left = [] then right else if right = [] then left else left ++ '-' :: right

/-- Words of two texts are joined as the words of each, with a hyphen unless one has none. -/
theorem join_wordsOf_append (first second : List Char) :
    join (wordsOf first ++ wordsOf second) =
      hyphenate (join (wordsOf first)) (join (wordsOf second)) := by
  have firstEmpty := join_eq_nil_iff fun word (member : word ∈ wordsOf first) =>
    ne_nil_of_mem_wordsOf member
  have secondEmpty := join_eq_nil_iff fun word (member : word ∈ wordsOf second) =>
    ne_nil_of_mem_wordsOf member
  rw [hyphenate]
  split
  · rename_i none
    rw [firstEmpty.1 none, List.nil_append]
  · rename_i someFirst
    split
    · rename_i none
      rw [secondEmpty.1 none, List.append_nil]
    · rename_i someSecond
      exact join_append (mt firstEmpty.2 someFirst) (mt secondEmpty.2 someSecond)

/-- The slug of two texts around a separator. -/
theorem core_separator {separator : Char} (separates : IsSeparator separator)
    (first second : List Char) :
    core (first ++ separator :: second) = hyphenate (core first) (core second) := by
  have folded : fold (first ++ separator :: second) = fold first ++ separator :: fold second := by
    rw [fold_eq, List.flatMap_append, List.flatMap_cons, separates.foldChar_eq, fold_eq, fold_eq]
    rfl
  rw [core_eq, folded, wordsOf_separator separates.stays.2, join_wordsOf_append]
  rfl

/-- Only characters that are no marks have an influence. -/
theorem core_unmarked (text : List Char) : core (unmarked text) = core text := by
  have folded : fold (unmarked text) = fold text := by
    rw [fold_eq, fold_eq]
    induction text with
    | nil => rfl
    | cons character rest hypothesis =>
      rw [unmarked] at hypothesis ⊢
      by_cases marks : isMark character = true
      · rw [List.filter_cons_of_neg (by simp [marks]), List.flatMap_cons,
          foldChar_of_isMark marks, hypothesis, List.nil_append]
      · rw [List.filter_cons_of_pos (by simp [marks]), List.flatMap_cons, List.flatMap_cons,
          hypothesis]
  rw [core_eq, folded]
  rfl

/-- A text with marks put in: some anywhere in it, and in whatever order. -/
inductive WithMarks : List Char → List Char → Prop where
  | nil : WithMarks [] []
  | keep {text marked : List Char} (character : Char) (later : WithMarks text marked) :
      WithMarks (character :: text) (character :: marked)
  | mark {text marked : List Char} {mark : Char} (marks : isMark mark = true)
      (later : WithMarks text marked) : WithMarks text (mark :: marked)

/-- Marks that are put behind characters are dropped again. -/
theorem WithMarks.unmarked_eq {text marked : List Char} (withMarks : WithMarks text marked) :
    unmarked marked = unmarked text := by
  induction withMarks with
  | nil => rfl
  | keep character _ hypothesis =>
    rw [unmarked] at hypothesis ⊢
    rw [List.filter_cons, hypothesis, unmarked, unmarked, List.filter_cons]
  | mark marks _ hypothesis =>
    rw [unmarked] at hypothesis ⊢
    rw [List.filter_cons_of_neg (by simp [marks]), hypothesis]

/-- Only marks can be changed without changing the slug. -/
theorem core_of_unmarked_eq {text other : List Char} (same : unmarked text = unmarked other) :
    core text = core other := by
  rw [← core_unmarked text, same, core_unmarked]

/-- Separators around a text. -/
theorem core_separators_append {separators : List Char}
    (separate : ∀ separator ∈ separators, IsSeparator separator) (text : List Char) :
    core (separators ++ text) = core text := by
  induction separators with
  | nil => rfl
  | cons separator rest hypothesis =>
    obtain ⟨here, later⟩ := List.forall_mem_cons.1 separate
    have first := core_separator here [] (rest ++ text)
    exact first.trans (hypothesis later)

/-- Separators at the end add nothing to a slug. -/
theorem core_append_separators {separators : List Char}
    (separate : ∀ separator ∈ separators, IsSeparator separator) (text : List Char) :
    core (text ++ separators) = core text := by
  cases separators with
  | nil => rw [List.append_nil]
  | cons separator rest =>
    obtain ⟨here, later⟩ := List.forall_mem_cons.1 separate
    have nothing : core rest = [] := by
      rw [← List.append_nil rest, core_separators_append later]
      rfl
    rw [core_separator here, nothing, hyphenate]
    split
    · rename_i none
      exact none.symm
    · rfl

/-- A text has the fallback for a slug if it has no words. -/
theorem ofText_eq (text fallback : String) :
    ofText text fallback =
      if core text.toList = [] then fallback else String.ofList (core text.toList) := by
  rw [ofText, ofText?]
  split
  · rename_i none
    rw [if_pos none]
    rfl
  · rename_i slug notEmpty
    rw [if_neg notEmpty]
    rfl

/-- Without a fallback, a text has its words for a slug. -/
theorem ofText_empty (text : String) : ofText text "" = String.ofList (core text.toList) := by
  rw [ofText_eq]
  split
  · rename_i none
    rw [none]
  · rfl

/-- Texts with the same words have the same slug. -/
theorem ofText_congr {text other : String} (same : core text.toList = core other.toList)
    (fallback : String) : ofText text fallback = ofText other fallback := by
  rw [ofText_eq, ofText_eq, same]

end Folio.Slug
