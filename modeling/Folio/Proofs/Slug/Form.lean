import Folio.Proofs.Slug.Words
import Mathlib.Data.Set.Operations

/-!
# The form of slugs

A slug is one or more words, joined by hyphens. The texts of this form are those that slugging
leaves as they are (`isSlug_iff`), so they are also what it can result in.
-/

namespace Folio.Slug

/-- One or more lower-case ASCII letters or digits. -/
structure IsWord (word : List Char) : Prop where
  notEmpty : word ≠ []
  inWord : ∀ character ∈ word, isWordChar character = true

/-- One or more words with hyphens between them. -/
inductive IsSlug : List Char → Prop where
  | word {word : List Char} (isWord : IsWord word) : IsSlug word
  | join {word rest : List Char} (isWord : IsWord word) (later : IsSlug rest) :
      IsSlug (word ++ '-' :: rest)

/-- A slug is not empty. -/
theorem IsSlug.notEmpty {slug : List Char} (isSlug : IsSlug slug) : slug ≠ [] := by
  cases isSlug with
  | word isWord => exact isWord.notEmpty
  | join isWord later => simp

/-- Pieces consist of the characters of words. -/
theorem isWordChar_of_mem_pieces {text piece : List Char} (member : piece ∈ pieces text) :
    ∀ character ∈ piece, isWordChar character = true := by
  induction text generalizing piece with
  | nil =>
    rw [pieces, List.mem_singleton] at member
    subst member
    exact List.forall_mem_nil _
  | cons character rest hypothesis =>
    by_cases inWord : isWordChar character = true
    · rw [pieces_cons inWord] at member
      cases isPieces : pieces rest with
      | nil => exact absurd isPieces (pieces_ne_nil rest)
      | cons first others =>
        rw [isPieces] at member hypothesis
        rcases List.mem_cons.1 member with rfl | other
        · exact List.forall_mem_cons.2 ⟨inWord, hypothesis List.mem_cons_self⟩
        · exact hypothesis (List.mem_cons_of_mem _ other)
    · rw [pieces_cons_separator (by simpa using inWord)] at member
      rcases List.mem_cons.1 member with rfl | other
      · exact List.forall_mem_nil _
      · exact hypothesis other

/-- What is cut out as a word is one. -/
theorem isWord_of_mem_wordsOf {folded word : List Char} (member : word ∈ wordsOf folded) :
    IsWord word :=
  ⟨ne_nil_of_mem_wordsOf member, isWordChar_of_mem_pieces (List.mem_of_mem_filter member)⟩

/-- Words are joined to a slug. -/
theorem isSlug_join {words : List (List Char)} (some : words ≠ [])
    (areWords : ∀ word ∈ words, IsWord word) : IsSlug (join words) := by
  induction words with
  | nil => exact absurd rfl some
  | cons word rest hypothesis =>
    obtain ⟨isWord, later⟩ := List.forall_mem_cons.1 areWords
    by_cases last : rest = []
    · subst last
      exact .word isWord
    · rw [join_cons word last]
      exact .join isWord (hypothesis last later)

/-- What a text is slugged to is a slug, unless it is empty. -/
theorem isSlug_core {text : List Char} (some : core text ≠ []) : IsSlug (core text) := by
  rw [core_eq] at some ⊢
  exact isSlug_join (fun none => some (by rw [none]; rfl)) fun word => isWord_of_mem_wordsOf

/-- Slugs are ASCII. -/
theorem IsSlug.ascii {slug : List Char} (isSlug : IsSlug slug) :
    ∀ character ∈ slug, character.toNat < 0x80 := by
  have ofWord {word : List Char} (isWord : IsWord word) :
      ∀ character ∈ word, character.toNat < 0x80 := by
    intro character member
    have inWord := isWord.inWord character member
    simp only [isWordChar, Bool.or_eq_true, Bool.and_eq_true, decide_eq_true_eq] at inWord
    rcases inWord with ⟨-, small⟩ | ⟨-, small⟩
    · exact lt_of_le_of_lt (show character.toNat ≤ 'z'.toNat from small) (by decide)
    · exact lt_of_le_of_lt (show character.toNat ≤ '9'.toNat from small) (by decide)
  induction isSlug with
  | word isWord => exact ofWord isWord
  | join isWord later hypothesis =>
    exact List.forall_mem_append.2
      ⟨ofWord isWord, List.forall_mem_cons.2 ⟨by decide, hypothesis⟩⟩

/-- A word is its own slug. -/
theorem core_of_isWord {word : List Char} (isWord : IsWord word) : core word = word := by
  have folded : fold word = word := by
    rw [fold_eq]
    have itself : ∀ character ∈ word, foldChar character = [character] := fun character member =>
      foldChar_of_isWordChar (isWord.inWord character member)
    rw [List.flatMap_congr itself, List.flatMap_singleton']
  rw [core_eq, folded, wordsOf_word isWord.inWord isWord.notEmpty]
  rfl

/-- A hyphen separates words. -/
theorem isSeparator_hyphen : IsSeparator '-' := ⟨by decide, by decide⟩

/-- A slug is its own slug. -/
theorem core_of_isSlug {slug : List Char} (isSlug : IsSlug slug) : core slug = slug := by
  induction isSlug with
  | word isWord => exact core_of_isWord isWord
  | join isWord later hypothesis =>
    rw [core_separator isSeparator_hyphen, core_of_isWord isWord, hypothesis, hyphenate,
      if_neg isWord.notEmpty, if_neg later.notEmpty]

/-- Slugs are the texts that are not empty and their own slugs. -/
theorem isSlug_iff {text : List Char} : IsSlug text ↔ text ≠ [] ∧ core text = text := by
  refine ⟨fun isSlug => ⟨isSlug.notEmpty, core_of_isSlug isSlug⟩, ?_⟩
  rintro ⟨notEmpty, itself⟩
  exact itself ▸ isSlug_core (itself.symm ▸ notEmpty)

instance (text : List Char) : Decidable (IsSlug text) := decidable_of_iff _ isSlug_iff.symm

/-- So it is whatever the fallback. -/
theorem ofText_isSlug {slug : String} (isSlug : IsSlug slug.toList) (fallback : String) :
    ofText slug fallback = slug := by
  rw [ofText_eq, core_of_isSlug isSlug, if_neg isSlug.notEmpty, String.ofList_toList]

/-- A text has the fallback for a slug or a slug of the form. It has the fallback only if it has
no slug of its own, or that one. Texts of the form are their own slugs; so with a fallback of the
form slugs do not change when they are slugged again, and the texts of the form are all there is. -/
theorem ofText_image :
    (∀ text fallback : String,
      (ofText text fallback = fallback ∨
        (ofText text fallback ≠ "" ∧ IsSlug (ofText text fallback).toList)) ∧
      (ofText text fallback = fallback → ofText text "" = "" ∨ ofText text "" = fallback)) ∧
    (∀ slug fallback : String, IsSlug slug.toList → ofText slug fallback = slug) ∧
    (∀ fallback : String, IsSlug fallback.toList →
      (∀ text, ofText (ofText text fallback) fallback = ofText text fallback) ∧
      Set.range (fun text => ofText text fallback) = {slug | IsSlug slug.toList}) := by
  have alternatives : ∀ text fallback : String, ofText text fallback = fallback ∨
      (ofText text fallback ≠ "" ∧ IsSlug (ofText text fallback).toList) := by
    intro text fallback
    rw [ofText_eq]
    split
    · exact .inl rfl
    · rename_i notEmpty
      rw [String.toList_ofList]
      exact .inr ⟨mt String.ofList_eq_empty_iff.1 notEmpty, isSlug_core notEmpty⟩
  refine ⟨fun text fallback => ⟨alternatives text fallback, fun isFallback => ?_⟩,
    fun slug fallback isSlug => ofText_isSlug isSlug fallback, fun fallback isSlug => ?_⟩
  · rw [ofText_eq] at isFallback
    rw [ofText_empty]
    split at isFallback
    · rename_i none
      exact .inl (by rw [none])
    · exact .inr isFallback
  · have hasForm : ∀ text, IsSlug (ofText text fallback).toList := by
      intro text
      rcases alternatives text fallback with isFallback | ⟨-, ownForm⟩
      · rwa [isFallback]
      · exact ownForm
    refine ⟨fun text => ofText_isSlug (hasForm text) fallback, Set.ext fun slug => ⟨?_, ?_⟩⟩
    · rintro ⟨text, rfl⟩
      exact hasForm text
    · exact fun ownForm => ⟨slug, ofText_isSlug ownForm fallback⟩

/-- With a slug for a fallback, slugs are all there is; accents, hyphens and marks are made one. -/
theorem ofText_image_section :
    IsSlug "section".toList ∧ IsSlug "part-2-b".toList ∧
    ofText "part-2-b" "section" = "part-2-b" ∧
    ofText "???" "section" = "section" ∧ ofText "???" "" = "" ∧
    ofText (ofText "Déjà -- vu?" "section") "section" = "deja-vu" ∧
    Set.range (fun text => ofText text "section") = {slug | IsSlug slug.toList} := by
  obtain ⟨image, fixed, again⟩ := ofText_image
  have fallback : IsSlug "section".toList := by decide +kernel
  have clean : IsSlug "part-2-b".toList := by decide +kernel
  have foreign : ofText "???" "section" = "section" := by decide +kernel
  refine ⟨fallback, clean, fixed _ _ clean, foreign, ?_, ?_, (again "section" fallback).2⟩
  · exact ((image "???" "section").2 foreign).resolve_right (by decide +kernel)
  · exact ((again "section" fallback).1 "Déjà -- vu?").trans (by decide +kernel)

end Folio.Slug
