import Folio.Proofs.Slug.Passes

/-!
# Slugs are made word by word

What the last two modules say of characters, for texts as they are given: the slug of two texts
around a separator is made of their slugs, and neither marks nor further separators make a
difference.
-/

namespace Folio.Slug

/-- Two texts with a hyphen between them, unless one of them is empty. -/
def hyphenated (left right : String) : String :=
  if left = "" then right else if right = "" then left else left ++ "-" ++ right

/-- Hyphens are put between texts as between their characters. -/
theorem ofList_hyphenate (left right : List Char) :
    String.ofList (hyphenate left right) =
      hyphenated (String.ofList left) (String.ofList right) := by
  simp only [hyphenate, hyphenated, String.ofList_eq_empty_iff]
  split
  · rfl
  · split
    · rfl
    · have joined : String.ofList (['-'] ++ right) = "-" ++ String.ofList right :=
        String.ofList_append
      rw [String.append_assoc, String.ofList_append, ← joined]
      rfl

/-- Separators between two texts become a hyphen between their slugs. -/
theorem core_separators {separators : List Char} (notEmpty : separators ≠ [])
    (separate : ∀ separator ∈ separators, IsSeparator separator) (first second : List Char) :
    core (first ++ separators ++ second) = hyphenate (core first) (core second) := by
  cases separators with
  | nil => exact absurd rfl notEmpty
  | cons separator rest =>
    obtain ⟨here, later⟩ := List.forall_mem_cons.1 separate
    rw [List.append_assoc, List.cons_append, core_separator here, core_separators_append later]

/-- The slug of any text is made by the four passes. A separator cuts it in two, and it is the same
after marks are put in anywhere, after the marks are put in order, for more separators in a row, and
with separators at either end. -/
theorem ofText_wordwise :
    (∀ text : String, ofText text "" =
      String.ofList (trim (collapse
        (Text.lowerFrom none (Text.unmarked (Text.normalize text.toList)))))) ∧
    (∀ (first second : String) (separator : Char), IsSeparator separator →
      ofText (first ++ String.singleton separator ++ second) "" =
        hyphenated (ofText first "") (ofText second "")) ∧
    (∀ text marked : String, WithMarks text.toList marked.toList →
      ∀ fallback, ofText marked fallback = ofText text fallback) ∧
    (∀ text fallback : String,
      ofText (String.ofList (Text.orderMarks text.toList)) fallback = ofText text fallback) ∧
    (∀ (first second : String) (separators : List Char), separators ≠ [] →
      (∀ separator ∈ separators, IsSeparator separator) →
      ∀ separator, IsSeparator separator → ∀ fallback,
        ofText (first ++ String.ofList separators ++ second) fallback =
          ofText (first ++ String.singleton separator ++ second) fallback) ∧
    (∀ (text : String) (leading trailing : List Char),
      (∀ separator ∈ leading, IsSeparator separator) →
      (∀ separator ∈ trailing, IsSeparator separator) → ∀ fallback,
        ofText (String.ofList leading ++ text ++ String.ofList trailing) fallback =
          ofText text fallback) := by
  refine ⟨fun text => ?passes, fun first second separator separates => ?cut,
    fun text marked withMarks fallback => ?marks, fun text fallback => ?order,
    fun first second separators notEmpty separate separator separates fallback => ?repeated,
    fun text leading trailing separateLeading separateTrailing fallback => ?ends⟩
  case passes => rw [ofText_empty, core_passes]
  case cut =>
    have cut := core_separator separates first.toList second.toList
    rw [ofText_empty, ofText_empty, ofText_empty, ← ofList_hyphenate, ← cut]
    simp
  case marks => exact ofText_congr (core_of_unmarked_eq withMarks.unmarked_eq) fallback
  case order =>
    refine ofText_congr (core_of_unmarked_eq ?_) fallback
    rw [String.toList_ofList, Text.unmarked_orderMarks]
  case repeated =>
    have single : ∀ member ∈ [separator], IsSeparator member := by simpa using separates
    refine ofText_congr ?_ fallback
    simp only [String.toList_append, String.toList_ofList, String.toList_singleton]
    rw [core_separators notEmpty separate, core_separators (List.cons_ne_nil _ _) single]
  case ends =>
    refine ofText_congr ?_ fallback
    simp only [String.toList_append, String.toList_ofList]
    rw [core_append_separators separateTrailing, core_separators_append separateLeading]

/-- Accents, marks in any order and separators make no difference to a slug but hyphens. -/
theorem ofText_wordwise_accents :
    (∀ separator ∈ [' ', '-', '&'], IsSeparator separator) ∧
    ofText ("Déjà" ++ String.singleton '&' ++ "vu!") "" = "deja-vu" ∧
    ofText ("Déjà" ++ String.singleton '&' ++ "???") "" = "deja" ∧
    WithMarks "vu".toList "v\u0301\u0323u\u0300".toList ∧
    ofText "v\u0301\u0323u\u0300" "section" = ofText "vu" "section" ∧
    Text.orderMarks "v\u0301\u0323u\u0300".toList = "v\u0323\u0301u\u0300".toList ∧
    ofText (String.ofList (Text.orderMarks "v\u0301\u0323u\u0300".toList)) "section" = "vu" ∧
    ofText ("Déjà" ++ String.ofList [' ', '-', '-', ' '] ++ "vu") "section" = "deja-vu" ∧
    ofText (String.ofList ['-', ' '] ++ "???" ++ String.ofList ['&']) "section" = "section" := by
  have separate : ∀ separator ∈ [' ', '-', '&'], IsSeparator separator := by
    simp only [List.forall_mem_cons, List.not_mem_nil, false_implies, implies_true, and_true]
    exact ⟨⟨by decide, by decide⟩, ⟨by decide, by decide⟩, ⟨by decide, by decide⟩⟩
  have ampersand : IsSeparator '&' := separate _ (by decide)
  have withMarks : WithMarks "vu".toList "v\u0301\u0323u\u0300".toList :=
    .keep 'v' (.mark (by decide +kernel) (.mark (by decide +kernel)
      (.keep 'u' (.mark (by decide +kernel) .nil))))
  obtain ⟨-, cut, marks, order, repeated, ends⟩ := ofText_wordwise
  refine ⟨separate, ?_, ?_, withMarks, marks _ _ withMarks _, by decide +kernel, ?_, ?_, ?_⟩
  · exact (cut "Déjà" "vu!" '&' ampersand).trans (by decide +kernel)
  · exact (cut "Déjà" "???" '&' ampersand).trans (by decide +kernel)
  · exact (order _ _).trans ((marks _ _ withMarks _).trans (by decide +kernel))
  · have run : [' ', '-', '-', ' '] ⊆ [' ', '-', '&'] := by decide
    exact (repeated "Déjà" "vu" _ (by decide) (fun _ member => separate _ (run member)) '&'
      ampersand "section").trans (by decide +kernel)
  · have leading : ['-', ' '] ⊆ [' ', '-', '&'] := by decide
    have trailing : ['&'] ⊆ [' ', '-', '&'] := by decide
    exact (ends "???" _ _ (fun _ member => separate _ (leading member))
      (fun _ member => separate _ (trailing member)) "section").trans (by decide +kernel)

end Folio.Slug
