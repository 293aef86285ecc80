import Folio.Tree.Position
import Mathlib.Data.List.Basic

/-!
# What a change at a position does

Looking up behind a change: the changed tree stands at the position, what lies at positions
that are neither above nor below it stays, and further changes there act on the changed tree.
Everything rests on `children_withChildren`: a node given as many children as it has holds
exactly these.
-/

namespace Folio

namespace Tree

/-- A slot filled from enough trees holds the first of them and leaves the others. -/
theorem refillSlot_eq (slot : Slot Tree) (trees : List Tree)
    (enough : slot.toList.length ≤ trees.length) :
    (refillSlot slot trees).1.toList = trees.take slot.toList.length ∧
      (refillSlot slot trees).2 = trees.drop slot.toList.length := by
  cases slot with
  | one content =>
    cases trees with
    | nil => simp [Slot.toList] at enough
    | cons tree rest => simp [refillSlot, Slot.toList]
  | many contents => simp [refillSlot, Slot.toList]

/-- Slots filled with as many trees as they hold contain exactly these. -/
theorem contents_refill (slots : List (Slot Tree)) (trees : List Tree)
    (sameLength : trees.length = (slots.flatMap Slot.toList).length) :
    (refill slots trees).flatMap Slot.toList = trees := by
  induction slots generalizing trees with
  | nil => simpa [refill, eq_comm] using sameLength
  | cons slot rest hypothesis =>
    rw [List.flatMap_cons, List.length_append] at sameLength
    obtain ⟨filled, left⟩ := refillSlot_eq slot trees (by omega)
    have behind := hypothesis (trees.drop slot.toList.length) (by rw [List.length_drop]; omega)
    rw [refill, List.flatMap_cons, filled, left, behind, List.take_append_drop]

/-- Filling slots anew forgets what they were filled with. -/
theorem refill_refill (slots : List (Slot Tree)) (first second : List Tree)
    (firstLength : first.length = (slots.flatMap Slot.toList).length)
    (secondLength : second.length = (slots.flatMap Slot.toList).length) :
    refill (refill slots first) second = refill slots second := by
  induction slots generalizing first second with
  | nil => rfl
  | cons slot rest hypothesis =>
    rw [List.flatMap_cons, List.length_append] at firstLength secondLength
    cases slot with
    | one content =>
      simp only [Slot.toList, List.length_singleton] at firstLength secondLength
      cases first with
      | nil => simp at firstLength; omega
      | cons firstTree firstRest =>
        cases second with
        | nil => simp at secondLength; omega
        | cons secondTree secondRest =>
          rw [List.length_cons] at firstLength secondLength
          simp only [refill, refillSlot]
          rw [hypothesis firstRest secondRest (by omega) (by omega)]
    | many contents =>
      simp only [Slot.toList] at firstLength secondLength
      have behind := hypothesis (first.drop contents.length) (second.drop contents.length)
        (by rw [List.length_drop]; omega) (by rw [List.length_drop]; omega)
      have sameCount : (first.take contents.length).length = contents.length := by
        rw [List.length_take]
        omega
      simp only [refill, refillSlot, sameCount, behind]

/-- A node given as many children as it has holds exactly these. -/
theorem children_withChildren {tree : Tree} {trees : List Tree}
    (sameLength : trees.length = tree.children.length) :
    (tree.withChildren trees).children = trees := by
  cases tree with
  | node head metadata slots => exact contents_refill slots trees sameLength
  | stray value => simpa [children, withChildren, eq_comm] using sameLength

/-- A node given children twice keeps the later ones. -/
theorem withChildren_withChildren {tree : Tree} {first second : List Tree}
    (firstLength : first.length = tree.children.length)
    (secondLength : second.length = tree.children.length) :
    (tree.withChildren first).withChildren second = tree.withChildren second := by
  cases tree with
  | node head metadata slots =>
    exact congrArg (node head metadata) (refill_refill slots first second firstLength secondLength)
  | stray value => rfl

/-- The children of a node with a list are that list. -/
theorem children_ofList (head : Head) (contents : List Tree) :
    (ofList head contents).children = contents := List.append_nil contents

/-- The child behind some others stands at their number. -/
theorem at?_child {parent child : Tree} {done todo : List Tree}
    (split : parent.children = done ++ child :: todo) : parent.at? [done.length] = some child := by
  rw [at?, split, List.getElem?_append_right (Nat.le_refl _), Nat.sub_self]
  rfl

/-- A position below another is looked up from there. -/
theorem at?_append (tree : Tree) (first second : Position) :
    tree.at? (first ++ second) = (tree.at? first).bind fun found => found.at? second := by
  induction first generalizing tree with
  | nil => rfl
  | cons index rest hypothesis =>
    rw [List.cons_append, at?, at?]
    cases tree.children[index]? with
    | none => rfl
    | some child => exact hypothesis child

/-- The children of a node changed below its root are its children with one of them changed. -/
theorem children_modifyAt_cons (change : Tree → Tree) (index : Nat) (rest : Position)
    (tree : Tree) :
    (modifyAt change (index :: rest) tree).children =
      tree.children.modify index (modifyAt change rest) :=
  children_withChildren (List.length_modify ..)

/-- At the position of a change stands the changed tree. -/
theorem at?_modifyAt (change : Tree → Tree) (position : Position) (tree : Tree) :
    (modifyAt change position tree).at? position = (tree.at? position).map change := by
  induction position generalizing tree with
  | nil => rfl
  | cons index rest hypothesis =>
    rw [at?, children_modifyAt_cons, List.getElem?_modify_eq, at?]
    cases tree.children[index]? with
    | none => rfl
    | some child => exact hypothesis child

/-- Neither position lies above the other or is the other. -/
def Apart (first second : Position) : Prop := ¬ first <+: second ∧ ¬ second <+: first

/-- Positions are apart from one another. -/
theorem Apart.symm {first second : Position} (apart : Apart first second) :
    Apart second first := ⟨apart.2, apart.1⟩

/-- What stands apart from a change stays. -/
theorem at?_modifyAt_of_apart {position other : Position} (apart : Apart position other)
    (change : Tree → Tree) (tree : Tree) :
    (modifyAt change position tree).at? other = tree.at? other := by
  induction position generalizing other tree with
  | nil => exact absurd List.nil_prefix apart.1
  | cons index rest hypothesis =>
    cases other with
    | nil => exact absurd List.nil_prefix apart.2
    | cons otherIndex otherRest =>
      rw [at?, children_modifyAt_cons, at?]
      by_cases same : index = otherIndex
      · subst same
        have behind : Apart rest otherRest :=
          ⟨fun above => apart.1 (List.cons_prefix_cons.2 ⟨rfl, above⟩),
            fun above => apart.2 (List.cons_prefix_cons.2 ⟨rfl, above⟩)⟩
        rw [List.getElem?_modify_eq]
        cases tree.children[index]? with
        | none => rfl
        | some child => exact hypothesis behind child
      · simp [same]

/-- A change at a position below another is a change of the tree at that other. -/
theorem modifyAt_append (change : Tree → Tree) (first second : Position) (tree : Tree) :
    modifyAt change (first ++ second) tree = modifyAt (modifyAt change second) first tree := by
  induction first generalizing tree with
  | nil => rfl
  | cons index rest hypothesis =>
    have inside : modifyAt change (rest ++ second) = modifyAt (modifyAt change second) rest :=
      funext hypothesis
    rw [List.cons_append, modifyAt, modifyAt, inside]

/-- Two changes at one position are one change. -/
theorem modifyAt_modifyAt (first second : Tree → Tree) (position : Position) (tree : Tree) :
    modifyAt second position (modifyAt first position tree) =
      modifyAt (second ∘ first) position tree := by
  induction position generalizing tree with
  | nil => rfl
  | cons index rest hypothesis =>
    have inside : modifyAt second rest ∘ modifyAt first rest = modifyAt (second ∘ first) rest :=
      funext hypothesis
    rw [modifyAt, children_modifyAt_cons, modifyAt, List.modify_modify_eq, inside,
      withChildren_withChildren (List.length_modify ..) (List.length_modify ..), modifyAt]

/-- A change that leaves the tree at its position alone has no effect. -/
theorem modifyAt_eq_self {change : Tree → Tree} {position : Position} {tree found : Tree}
    (there : tree.at? position = some found) (unchanged : change found = found) :
    modifyAt change position tree = tree := by
  induction position generalizing tree with
  | nil =>
    obtain rfl : tree = found := Option.some.inj there
    exact unchanged
  | cons index rest hypothesis =>
    rw [at?, Option.bind_eq_some_iff] at there
    obtain ⟨child, inside, below⟩ := there
    obtain ⟨bounded, rfl⟩ := List.getElem?_eq_some_iff.1 inside
    have same : tree.children.modify index (modifyAt change rest) = tree.children := by
      rw [List.modify_eq_set_get _ bounded, List.get_eq_getElem, hypothesis below,
        List.set_getElem_self]
    rw [modifyAt, same, withChildren_children]

/-- Replacing a tree with itself changes nothing. -/
theorem replaceAt_self {position : Position} {tree found : Tree}
    (there : tree.at? position = some found) : replaceAt position found tree = tree :=
  modifyAt_eq_self there rfl

/-- Below a replaced position stands what is below the replacement. -/
theorem at?_replaceAt {position : Position} {tree found : Tree}
    (there : tree.at? position = some found) (replacement : Tree) (below : Position) :
    (replaceAt position replacement tree).at? (position ++ below) = replacement.at? below := by
  rw [at?_append, replaceAt, at?_modifyAt, there]
  rfl

/-- Apart from a replaced position nothing changes. -/
theorem at?_replaceAt_of_apart {position other : Position} (apart : Apart position other)
    (replacement tree : Tree) :
    (replaceAt position replacement tree).at? other = tree.at? other :=
  at?_modifyAt_of_apart apart _ tree

/-- Replacing a child of a tree that has been put somewhere puts the tree with the child
replaced there. -/
theorem replaceAt_child (position : Position) (index : Nat) (child parent tree : Tree) :
    replaceAt (position ++ [index]) child (replaceAt position parent tree) =
      replaceAt position (parent.withChildren (parent.children.set index child)) tree := by
  have inside : modifyAt (fun _ => child) [index] parent =
      parent.withChildren (parent.children.set index child) := by
    rw [modifyAt, List.set_eq_modify]
    rfl
  rw [replaceAt, modifyAt_append, replaceAt, modifyAt_modifyAt, replaceAt, ← inside]
  rfl

end Tree

end Folio
