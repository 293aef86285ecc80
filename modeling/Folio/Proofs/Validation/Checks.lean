import Folio.Proofs.Validation.Places
import Folio.Tree.Validation

/-!
# Checks report misfits

A check reports the misfits of a tree, one after another, and does nothing else: `check_eq` says
so of both checks at once. The lenient one keeps every report; the strict one ends with the first.
-/

namespace Folio.Tree

/-- What is reported about a misfit of a tree whose path is given. -/
def Misfit.violation (path : String) (misfit : Misfit) : Violation :=
  ⟨placeText path misfit.place, misfit.expected, misfit.found⟩

/-- Report misfits one after another. -/
def reportAll (strict : Bool) (path : String) (misfits : List Misfit) (found : List Violation) :
    Checked :=
  misfits.foldlM (fun found misfit => report strict (misfit.violation path) found) found

section Reports

variable (strict : Bool) (path : String)

/-- Misfits are reported one list after the other. -/
theorem reportAll_append (first second : List Misfit) (found : List Violation) :
    reportAll strict path (first ++ second) found =
      reportAll strict path first found >>= reportAll strict path second :=
  List.foldlM_append

/-- A single misfit is reported by its violation. -/
theorem reportAll_singleton (misfit : Misfit) (found : List Violation) :
    reportAll strict path [misfit] found = report strict (misfit.violation path) found := by
  simp [reportAll]

/-- The text of a place grows with each descent. -/
theorem placeText_cons (descent : Descent) (rest : Place) :
    placeText path (descent :: rest) = placeText (placeText path [descent]) rest := by
  simp [placeText, String.append_assoc]

/-- Misfits a step below are reported with the path of the step. -/
theorem reportAll_below (descent : Descent) (misfits : List Misfit) (found : List Violation) :
    reportAll strict path (misfits.map (.below descent)) found =
      reportAll strict (placeText path [descent]) misfits found := by
  have sameReport (misfit : Misfit) : (misfit.below descent).violation path =
      misfit.violation (placeText path [descent]) := by
    rw [Misfit.violation, Misfit.violation, Misfit.below, placeText_cons]
  simp only [reportAll, List.foldlM_map, sameReport]

/-- The lenient check keeps what was found before, and adds a report for each misfit. -/
theorem reportAll_lenient (misfits : List Misfit) (found : List Violation) :
    reportAll false path misfits found = .ok (found ++ misfits.map (Misfit.violation path)) := by
  induction misfits generalizing found with
  | nil => simp [reportAll, pure, Except.pure]
  | cons misfit rest hypothesis =>
    have later := hypothesis (found ++ [misfit.violation path])
    rw [List.append_assoc] at later
    exact later

/-- The strict check ends with the first misfit, if there is one. -/
theorem reportAll_strict (misfits : List Misfit) (found : List Violation) :
    reportAll true path misfits found =
      match misfits with
      | [] => .ok found
      | first :: _ => .error (first.violation path) := by
  cases misfits <;> rfl

/-- At a place a check reports what stands there, then what is wrong in it, and goes on. -/
theorem checkAt_eq (descent : Descent) {content : Tree}
    (inside : ∀ found, check strict (placeText path [descent]) found content =
      reportAll strict (placeText path [descent]) content.misfits found)
    (category : Category) (found : List Violation) (next : List Violation → Checked) :
    (do let found ← checkPlace strict (placeText path [descent]) category found content
        let found ←
          if content.isA .node then check strict (placeText path [descent]) found content
          else .ok found
        next found) =
      reportAll strict path (misfitsAt descent category content content.misfits) found >>=
        next := by
  have here : checkPlace strict (placeText path [descent]) category found content =
      reportAll strict path
        (if content.isA category then [] else [⟨[descent], category.name, content.typeName⟩])
        found := by
    rw [checkPlace]
    split
    · rfl
    · rw [reportAll_singleton]
      rfl
  rw [misfitsAt, reportAll_append, here, bind_assoc]
  refine bind_congr fun found => ?_
  cases content.isA .node with
  | false => rfl
  | true =>
    simp only [if_true, inside, reportAll_below]

/-- A field is told by its name behind a dot. -/
theorem placeText_field (name : String) :
    placeText path [⟨name, none⟩] = path ++ "." ++ name := by
  simp [placeText, Descent.segment, String.append_assoc]

/-- An item of a list is told by the field and its number in brackets. -/
theorem placeText_item (name : String) (index : Nat) :
    let field := path ++ "." ++ name
    placeText path [⟨name, some index⟩] = s!"{field}[{index}]" := by
  apply String.toList_injective
  simp [placeText, Descent.segment, toString, toList_repr_natCast]

end Reports

mutual

/-- A check of a tree reports its misfits. -/
theorem check_eq (strict : Bool) (path : String) (found : List Violation) : ∀ tree : Tree,
    check strict path found tree = reportAll strict path tree.misfits found
  | .stray value => rfl
  | .node head metadata slots => by
    rw [check, misfits]
    exact checkSlots_eq strict path found _ slots head.kind.slots_holdNodes

/-- A check of some slots reports the misfits in them. -/
theorem checkSlots_eq (strict : Bool) (path : String) (found : List Violation) :
    ∀ (fields : List Field) (slots : List (Slot Tree)), fields.all Field.holdsNodes = true →
      checkSlots strict path found fields slots =
        reportAll strict path (misfitsSlots fields slots) found
  | [], slots, _ => by cases slots <;> rfl
  | field :: fields, [], _ => rfl
  | field :: fields, .one content :: rest, nodes => by
    rw [List.all_cons, Bool.and_eq_true] at nodes
    have later (found : List Violation) := checkSlots_eq strict path found fields rest nodes.2
    rw [misfitsSlots, reportAll_append]
    cases type : field.type with
    | one category =>
      have here := checkAt_eq strict path ⟨field.name, none⟩
        (fun found => check_eq strict _ found content) category found
        (reportAll strict path (misfitsSlots fields rest))
      rw [← here]
      simp only [checkSlots, type, placeText_field, later]
    | many category =>
      simp only [checkSlots, type, later, reportAll_singleton, Misfit.violation, placeText_field]
    | _ => simp [Field.holdsNodes, type, FieldType.element?] at nodes
  | field :: fields, .many contents :: rest, nodes => by
    rw [List.all_cons, Bool.and_eq_true] at nodes
    have later (found : List Violation) := checkSlots_eq strict path found fields rest nodes.2
    rw [misfitsSlots, reportAll_append]
    cases type : field.type with
    | one category =>
      simp only [checkSlots, type, later, reportAll_singleton, Misfit.violation, placeText_field]
    | many category =>
      have here := checkItems_eq strict path field.name category 0 found contents
      simp only [checkSlots, type, here, later]
    | _ => simp [Field.holdsNodes, type, FieldType.element?] at nodes

/-- A check of items reports the misfits in them. -/
theorem checkItems_eq (strict : Bool) (path name : String) (category : Category) (index : Nat)
    (found : List Violation) : ∀ contents : List Tree,
      checkItems strict (path ++ "." ++ name) category index found contents =
        reportAll strict path (misfitsItems name category index contents) found
  | [] => rfl
  | content :: rest => by
    have later (found : List Violation) :=
      checkItems_eq strict path name category (index + 1) found rest
    have here := checkAt_eq strict path ⟨name, some index⟩
      (fun found => check_eq strict _ found content) category found
      (reportAll strict path (misfitsItems name category (index + 1) rest))
    rw [misfitsItems, reportAll_append, ← here]
    simp only [checkItems, placeText_item, later]

end

/-- The lenient check finds the misfits of the tree. -/
theorem check_lenient (root : Tree) :
    root.check false root.rootPath [] =
      .ok (root.misfits.map (Misfit.violation root.rootPath)) := by
  rw [check_eq, reportAll_lenient, List.nil_append]

/-- Violations are the misfits as they are told from the root. -/
theorem violations_eq (root : Tree) :
    root.violations = root.misfits.map (Misfit.violation root.rootPath) := by
  rw [violations, check_lenient]

/-- The strict check ends with the first of what the lenient check finds. -/
theorem check_strict (root : Tree) :
    root.check true root.rootPath [] =
      match root.violations with
      | [] => .ok []
      | first :: _ => .error first := by
  rw [check_eq, reportAll_strict, violations_eq]
  cases root.misfits <;> rfl

/-- The strict check stops at the first of the violations. -/
theorem firstViolation?_eq (root : Tree) : root.firstViolation? = root.violations.head? := by
  rw [firstViolation?, check_strict]
  cases root.violations <;> rfl

end Folio.Tree
