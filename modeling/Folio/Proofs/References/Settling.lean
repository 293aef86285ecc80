import Folio.Proofs.References.Fixpoint

/-!
# What accepted options lead to

The test of options asks little of them: a fallback is any value that is set, and a start any
number that is not below 2. `visitSection_visits` lists what a visit does with such options, and
`Along.named_iff` follows the visits of a table whose references are texts: every section ends
with a name, unless a title without words asks for a fallback that is no text, or a search does
not end. Only a search from a double can fail to.
-/

namespace Folio.References

open Folio.Tree

variable {options : ReferenceOptions}

/-- Names are texts. -/
theorem IsName.isText {reference : Scalar} (isName : IsName reference) :
    reference.isText = true := by
  obtain ⟨name, rfl, _⟩ := isName
  rfl

/-- Texts that are set are names. -/
theorem isName_of_isSet {reference : Scalar} (isText : reference.isText = true)
    (isSet : reference.isSet = true) : IsName reference := by
  cases reference with
  | text name => exact ⟨name, rfl, by simpa using isSet⟩
  | _ => cases isText

/-- What is no text is not among texts. -/
theorem isTaken_of_texts {taken : List Scalar} (texts : ∀ used ∈ taken, used.isText = true)
    {reference : Scalar} (noText : reference.isText = false) : isTaken taken reference = false := by
  rw [isTaken, List.any_eq_false]
  intro used member
  have isText := texts used member
  cases used with
  | text name =>
    have differs : ¬reference.same (.text name) = true := by
      rw [Scalar.same_text_iff]
      rintro rfl
      cases noText
    simpa [Scalar.isNaN] using differs
  | _ => cases isText

/-- The fallback is a text. -/
def HasTextFallback (options : ReferenceOptions) : Prop :=
  ∃ fallback : String, options.fallbackSlug = .text fallback

/-- A section gets the fallback as its slug: it has no reference, and its title no words. -/
def NeedsFallback (entry : String × Scalar) : Prop :=
  entry.2.isSet = false ∧ Slug.ofText? entry.1 = none

/-- The slug that a title gets is a name, unless it has no words and the fallback is no text. -/
theorem slugOf_isName (accepted : options.Accepted) {title : String}
    (named : HasTextFallback options ∨ Slug.ofText? title ≠ none) :
    ∃ slug, slugOf options title = .ok slug ∧ IsName slug := by
  cases found : Slug.ofText? title with
  | some slug =>
    refine ⟨.text slug, by rw [slugOf, found], slug, rfl, ?_⟩
    have notEmpty := Slug.ofText_ne_empty title (show "-" ≠ "" by decide)
    rwa [Slug.ofText, found] at notEmpty
  | none =>
    obtain ⟨fallback, isFallback⟩ := named.resolve_right (absurd found)
    refine ⟨.text fallback, by rw [slugOf, found, isFallback], fallback, rfl, ?_⟩
    have isSet := accepted.fallback
    rw [isFallback] at isSet
    simpa [Setting.isSet] using isSet

/-- The number that a search starts from. -/
def startOf (options : ReferenceOptions) : Scalar := (options.suffixStart.scalar?).getD (.int 2)

/-- Searches start from a whole number or a double. -/
theorem isStart_startOf (accepted : options.Accepted) : IsStart (startOf options) := by
  rcases accepted.start with ⟨whole, isWhole, _⟩ | ⟨double, isDouble, _⟩
  · exact .inl ⟨whole, by rw [startOf, isWhole]; rfl⟩
  · exact .inr ⟨double, by rw [startOf, isDouble]; rfl⟩

/-- What a visit without a fault before it makes of an entry and a state: the reference and the
state afterwards. -/
inductive Visits (options : ReferenceOptions) (entry : String × Scalar) (state : State) :
    Scalar → State → Prop where
  /-- A reference that is set stays. -/
  | keeps (isSet : entry.2.isSet = true) : Visits options entry state entry.2 state
  /-- A section without one gets a name. -/
  | names {given after} (possible : HasTextFallback options ∨ ¬NeedsFallback entry)
      (isName : IsName given) (taken : after.taken = given :: state.taken)
      (noFault : after.fault = none) : Visits options entry state given after
  /-- The search for a number does not end. -/
  | hangs {given after slug} (used : isTaken state.taken slug = true)
      (endless : ¬∃ found, Finds state.taken slug (startOf options) found)
      (fault : after.fault = some .endlessSearch) : Visits options entry state given after
  /-- A fallback that is no text is asked for, and given, or cannot be. -/
  | fails {given after} (needs : NeedsFallback entry) (noText : ¬HasTextFallback options)
      (bad : given.isText = false ∨ ∃ fault, after.fault = some fault) :
      Visits options entry state given after

/-- A visit leaves a reference that is set, and after a fault every reference, as it is. -/
theorem visitSection_of_kept {state : State} {title : String} {reference : Scalar} {depth : Int}
    (kept : reference.isSet = true ∨ state.fault.isSome = true) :
    visitSection options depth title reference state = (reference, state) := by
  rw [visitSection, if_pos (Bool.or_eq_true_iff.2 kept)]

/-- A visit with a slug gives what is chosen for it, or comes upon a search that does not end. -/
theorem visitSection_of_slug {state : State} (noFault : state.fault = none) {title : String}
    {reference slug : Scalar} (notSet : reference.isSet = false)
    (isSlug : slugOf options title = .ok slug) (depth : Int) :
    let given := unique state.taken (startOf options) slug
    let visited := visitSection options depth title reference state
    (isTaken state.taken given = true ∧ visited.2.fault = some .endlessSearch) ∨
      visited.1 = given ∧ visited.2.taken = given :: state.taken ∧ visited.2.fault = none := by
  intro given visited
  have isNew : (reference.isSet || state.fault.isSome) = false := by
    rw [notSet, noFault]
    rfl
  by_cases used : isTaken state.taken given = true
  · refine .inl ⟨used, ?_⟩
    simp only [visited, visitSection, isNew, isSlug, startOf, given] at used ⊢
    rw [if_neg Bool.false_ne_true, if_pos used]
  · refine .inr ?_
    simp only [visited, visitSection, isNew, isSlug, startOf, given] at used ⊢
    rw [if_neg Bool.false_ne_true, if_neg used]
    exact ⟨rfl, rfl, noFault⟩

/-- A visit that asks for a fallback that is no text gives what is no text, or cannot do so. -/
theorem visitSection_of_needs {state : State} (noFault : state.fault = none)
    (texts : ∀ used ∈ state.taken, used.isText = true) {title : String} {reference : Scalar}
    (needs : NeedsFallback (title, reference)) (noText : ¬HasTextFallback options) (depth : Int) :
    let visited := visitSection options depth title reference state
    visited.1.isText = false ∨ ∃ fault, visited.2.fault = some fault := by
  intro visited
  obtain ⟨notSet, wordless⟩ := needs
  dsimp only at notSet wordless
  cases isFallback : options.fallbackSlug with
  | scalar fallback =>
    have isSlug : slugOf options title = .ok fallback := by
      rw [slugOf, wordless, isFallback]
    have notText : fallback.isText = false := by
      cases fallback with
      | text name => exact absurd ⟨name, isFallback⟩ noText
      | _ => rfl
    -- No text has its value, so it is given as it is.
    have free := isTaken_of_texts texts notText
    have given : unique state.taken (startOf options) fallback = fallback := by
      rw [unique, free, if_neg Bool.false_ne_true]
    rcases visitSection_of_slug noFault notSet isSlug depth with ⟨used, _⟩ | ⟨isGiven, _⟩
    · rw [given, free] at used
      cases used
    · exact .inl (by rw [isGiven, given, notText])
  | _ =>
    have noSlug : ∃ fault, slugOf options title = .error fault := by
      rw [slugOf, wordless, isFallback]
      exact ⟨_, rfl⟩
    obtain ⟨fault, isFault⟩ := noSlug
    refine .inr ⟨fault, ?_⟩
    simp only [visited]
    rw [visitSection, notSet, noFault, isFault]
    rfl

/-- A visit does one of four things. -/
theorem visitSection_visits (accepted : options.Accepted) {state : State}
    (noFault : state.fault = none) (texts : ∀ used ∈ state.taken, used.isText = true)
    (depth : Int) (title : String) (reference : Scalar) :
    Visits options (title, reference) state (visitSection options depth title reference state).1
      (visitSection options depth title reference state).2 := by
  by_cases isSet : reference.isSet = true
  · rw [visitSection_of_kept (.inl isSet)]
    exact .keeps isSet
  have notSet : reference.isSet = false := Bool.eq_false_of_not_eq_true isSet
  by_cases possible : HasTextFallback options ∨ Slug.ofText? title ≠ none
  · obtain ⟨slug, isSlug, isName⟩ := slugOf_isName accepted possible
    rcases visitSection_of_slug noFault notSet isSlug depth with
      ⟨used, fault⟩ | ⟨given, taken, stillNone⟩
    · obtain ⟨slugUsed, endless⟩ := (isTaken_unique_iff (isStart_startOf accepted)).1 used
      exact .hangs slugUsed endless fault
    · have isGiven := isName_unique state.taken (startOf options) isName
      rw [← given] at isGiven taken
      exact .names (possible.imp_right fun words needs => words needs.2) isGiven taken stillNone
  · obtain ⟨noText, wordless⟩ := not_or.1 possible
    have needs : NeedsFallback (title, reference) := ⟨notSet, not_not.1 wordless⟩
    exact .fails needs noText (visitSection_of_needs noFault texts needs noText depth)

/-- A fault ends a run: what is visited later stays as it is. -/
theorem Along.fault_eq {state last : State} {table : List (String × Scalar)} {after : List Scalar}
    (along : Along options state table after last) {fault : Fault}
    (ended : state.fault = some fault) : last.fault = some fault := by
  induction along with
  | nil => exact ended
  | @cons state title reference rest others last depth _ hypothesis =>
    rw [visitSection_of_kept (.inr (by rw [ended, Option.isSome_some]))] at hypothesis
    exact hypothesis ended

/-- Visits of a table whose references are texts end with a name for every section exactly if no
title without words asks for a fallback that is no text, and no search goes on for ever. -/
theorem Along.named_iff (accepted : options.Accepted) {state last : State}
    {table : List (String × Scalar)} {after : List Scalar}
    (along : Along options state table after last) (noFault : state.fault = none)
    (texts : ∀ entry ∈ table, entry.2.isText = true)
    (taken : ∀ used ∈ state.taken, used.isText = true) :
    (last.fault = none ∧ ∀ reference ∈ after, IsName reference) ↔
      (HasTextFallback options ∨ ∀ entry ∈ table, ¬NeedsFallback entry) ∧
        last.fault ≠ some .endlessSearch := by
  induction along with
  | nil => simp [noFault]
  | @cons state title reference rest others last depth later hypothesis =>
    obtain ⟨isText, textsLater⟩ := List.forall_mem_cons.1 texts
    have visits := visitSection_visits accepted noFault taken depth title reference
    generalize visitSection options depth title reference state = visited at *
    obtain ⟨given, between⟩ := visited
    rw [List.forall_mem_cons, List.forall_mem_cons]
    dsimp only at visits later hypothesis ⊢
    cases visits with
    | keeps isSet =>
      have isName := isName_of_isSet isText isSet
      have noNeed : ¬NeedsFallback (title, reference) := fun needs => by
        rw [needs.1] at isSet
        cases isSet
      rw [and_iff_right isName, and_iff_right noNeed]
      exact hypothesis noFault textsLater taken
    | names possible isName takenLater stillNone =>
      have textsTaken : ∀ used ∈ between.taken, used.isText = true := by
        rw [takenLater]
        exact List.forall_mem_cons.2 ⟨isName.isText, taken⟩
      rw [and_iff_right isName, hypothesis stillNone textsLater textsTaken]
      tauto
    | hangs _ _ fault =>
      have ended := later.fault_eq fault
      simp [ended]
    | fails needs noText bad =>
      have notNamed :
          ¬(last.fault = none ∧ IsName given ∧ ∀ reference ∈ others, IsName reference) := by
        rintro ⟨ends, isName, _⟩
        rcases bad with isOther | ⟨cause, fault⟩
        · rw [isName.isText] at isOther
          cases isOther
        · rw [later.fault_eq fault] at ends
          cases ends
      have impossible : ¬(HasTextFallback options ∨ ¬NeedsFallback (title, reference) ∧
          ∀ entry ∈ rest, ¬NeedsFallback entry) := by
        tauto
      tauto

/-- It is not the slug that makes a search endless. -/
theorem ne_endlessSearch_of_slugOf {title : String} {fault : Fault}
    (isFault : slugOf options title = .error fault) : fault ≠ .endlessSearch := by
  rintro rfl
  rw [slugOf] at isFault
  split at isFault
  · cases isFault
  · split at isFault
    · cases isFault
    · rename_i fallback _
      cases hashable : fallback.isHashable <;> simp [hashable] at isFault
    · cases isFault

/-- A visit comes upon an endless search only if a slug is in use and no number leads to a free
form of it. -/
theorem visitSection_endless (accepted : options.Accepted) {state : State}
    (noFault : state.fault = none) {depth : Int} {title : String} {reference : Scalar}
    (endless : (visitSection options depth title reference state).2.fault = some .endlessSearch) :
    ∃ slug, ¬∃ found, Finds state.taken slug (startOf options) found := by
  by_cases isSet : reference.isSet = true
  · rw [visitSection_of_kept (.inl isSet), noFault] at endless
    cases endless
  have notSet : reference.isSet = false := Bool.eq_false_of_not_eq_true isSet
  cases isSlug : slugOf options title with
  | ok slug =>
    rcases visitSection_of_slug noFault notSet isSlug depth with ⟨used, _⟩ | ⟨_, _, stillNone⟩
    · exact ⟨slug, ((isTaken_unique_iff (isStart_startOf accepted)).1 used).2⟩
    · rw [stillNone] at endless
      cases endless
  | error fault =>
    rw [visitSection, notSet, noFault, isSlug] at endless
    exact absurd (Option.some.inj endless) (ne_endlessSearch_of_slugOf isSlug)

/-- Visits come upon an endless search only if, with some references in use, no number leads to a
free form of some slug. -/
theorem Along.endless (accepted : options.Accepted) {state last : State}
    {table : List (String × Scalar)} {after : List Scalar}
    (along : Along options state table after last) (noFault : state.fault = none)
    (endless : last.fault = some .endlessSearch) :
    ∃ taken slug, ¬∃ found, Finds taken slug (startOf options) found := by
  induction along with
  | nil =>
    rw [noFault] at endless
    cases endless
  | @cons state title reference rest others last depth later hypothesis =>
    cases here : (visitSection options depth title reference state).2.fault with
    | none => exact hypothesis here endless
    | some fault =>
      rw [later.fault_eq here] at endless
      exact ⟨state.taken, visitSection_endless accepted noFault (here.trans endless)⟩

/-- A search that does not end started from a double. -/
theorem exists_double (accepted : options.Accepted) {taken : List Scalar} {slug : Scalar}
    (endless : ¬∃ found, Finds taken slug (startOf options) found) :
    ∃ double, options.suffixStart = .scalar (.float double) := by
  rcases accepted.start with ⟨whole, isWhole, _⟩ | ⟨double, isDouble, _⟩
  · rw [startOf, isWhole] at endless
    exact absurd ⟨_, finds_firstFree taken slug whole⟩ endless
  · exact ⟨double, isDouble⟩

/-- Among the distinct ones are no other scalars. -/
theorem mem_of_mem_distinct {reference : Scalar} {scalars : List Scalar}
    (member : reference ∈ distinct scalars) : reference ∈ scalars := by
  induction scalars with
  | nil => exact member
  | cons value rest hypothesis =>
    rw [distinct] at member
    split at member
    · exact List.mem_cons_of_mem _ (hypothesis member)
    · rcases List.mem_cons.1 member with rfl | later
      · exact List.mem_cons_self
      · exact List.mem_cons_of_mem _ (hypothesis later)

/-- A run on a typed tree ends with a name for every section exactly if no title without words
asks for a fallback that is no text, and no search goes on for ever. -/
theorem assign_named_iff (accepted : options.Accepted) {tree : Tree} (typed : tree.Typed) :
    ((assign options tree).fault = none ∧
        ∀ reference ∈ (assign options tree).tree.references, IsName reference) ↔
      (HasTextFallback options ∨ ∀ entry ∈ tree.referenceTable, ¬NeedsFallback entry) ∧
        (assign options tree).fault ≠ some .endlessSearch := by
  have texts := ((typed_iff tree).1 typed).2
  refine (assignTree_along 0 { taken := pinned tree } tree).named_iff accepted rfl
    (fun entry member => texts entry.2 ?_) fun used member => texts used ?_
  · rw [references_eq_table]
    exact List.mem_map_of_mem member
  · exact (List.mem_filter.1 (mem_of_mem_distinct member)).1

/-- A run comes upon an endless search only from a double. -/
theorem assign_endless (accepted : options.Accepted) {tree : Tree}
    (endless : (assign options tree).fault = some .endlessSearch) :
    ∃ double, options.suffixStart = .scalar (.float double) ∧
      ∃ taken slug, ¬∃ found, Finds taken slug (.float double) found := by
  obtain ⟨taken, slug, noEnd⟩ :=
    (assignTree_along 0 { taken := pinned tree } tree).endless accepted rfl endless
  obtain ⟨double, isDouble⟩ := exists_double accepted noEnd
  refine ⟨double, isDouble, taken, slug, ?_⟩
  rw [startOf, isDouble] at noEnd
  exact noEnd

end Folio.References
