import Folio.Proofs.References.Assignment

/-!
# Replaced references

Two trees that agree without their references differ in nothing else: their children agree
without references again, one by one, and they have as many references. If they also have the
same references in the same order, they are the same tree; so a tree with replaced references
is told by these alone.
-/

namespace Folio.Tree

/-- Trees that agree without references are sections together. -/
theorem isA_section_eq {tree other : Tree}
    (agree : tree.withoutReferences = other.withoutReferences) :
    tree.isA (.of .section) = other.isA (.of .section) := by
  rw [isA_section, isA_section, ← kind?_withoutReferences tree, agree, kind?_withoutReferences]

/-- The references begin with the own one of a section and go on with those of the children. -/
theorem references_eq (tree : Tree) :
    tree.references = (if tree.isA (.of .section) then [tree.reference] else []) ++
      tree.children.flatMap references := by
  have own : (if tree.isA (.of .section) then [tree] else []).map reference =
      if tree.isA (.of .section) then [tree.reference] else [] := by
    split <;> rfl
  rw [references, sections_eq, List.map_append, own, List.map_flatMap]
  rfl

/-- A tree has a reference for each visited section. -/
theorem length_references (tree : Tree) :
    tree.references.length = (tree.preorder.map kind?).count (some .section) := by
  rw [references, List.length_map, List.count_eq_countP, List.countP_map,
    List.countP_eq_length_filter, sections, collect, collectWhere]
  congr 1
  refine List.filter_congr fun visited _ => ?_
  simp [isA_section]

/-- Trees that agree without references have as many references. -/
theorem length_references_eq {tree other : Tree}
    (agree : tree.withoutReferences = other.withoutReferences) :
    tree.references.length = other.references.length := by
  have kinds (tree : Tree) :
      tree.withoutReferences.preorder.map kind? = tree.preorder.map kind? := by
    rw [withoutReferences, preorder_mapHeads, List.map_map]
    exact List.map_congr_left fun visited _ => kind?_withoutReferences visited
  rw [length_references, length_references, ← kinds tree, agree, kinds other]

/-- The children of trees that agree without references agree without references. -/
theorem children_agree {tree other : Tree}
    (agree : tree.withoutReferences = other.withoutReferences) :
    tree.children.map withoutReferences = other.children.map withoutReferences := by
  have children (tree : Tree) :
      tree.withoutReferences.children = tree.children.map withoutReferences :=
    children_mapHeads Head.withoutReference tree
  rw [← children tree, agree, children other]

/-- Slots of one shape with the same contents are the same. -/
theorem slots_eq_of_contents {change : Tree → Tree} {slots others : List (Slot Tree)}
    (shape : slots.map (Slot.map change) = others.map (Slot.map change))
    (contents : slots.flatMap Slot.toList = others.flatMap Slot.toList) : slots = others := by
  induction slots generalizing others with
  | nil => exact (List.map_eq_nil_iff.1 shape.symm).symm
  | cons slot rest hypothesis =>
    obtain _ | ⟨other, others⟩ := others
    · simp at shape
    rw [List.map_cons, List.map_cons, List.cons.injEq] at shape
    rw [List.flatMap_cons, List.flatMap_cons] at contents
    have sameLength : slot.toList.length = other.toList.length := by
      simpa using congrArg (List.length ∘ Slot.toList) shape.1
    obtain ⟨here, later⟩ := List.append_inj contents sameLength
    rw [hypothesis shape.2 later]
    congr 1
    cases slot <;> cases other <;> simp_all [Slot.map, Slot.toList]

/-- Several trees that agree without references are told by their references if each one is. -/
theorem trees_eq_of_references {trees others : List Tree}
    (told : ∀ tree ∈ trees, ∀ other : Tree, tree.withoutReferences = other.withoutReferences →
      tree.references = other.references → tree = other)
    (agree : trees.map withoutReferences = others.map withoutReferences)
    (same : trees.flatMap references = others.flatMap references) : trees = others := by
  induction trees generalizing others with
  | nil => exact (List.map_eq_nil_iff.1 agree.symm).symm
  | cons tree rest hypothesis =>
    obtain _ | ⟨other, others⟩ := others
    · simp at agree
    rw [List.map_cons, List.map_cons, List.cons.injEq] at agree
    rw [List.flatMap_cons, List.flatMap_cons] at same
    obtain ⟨here, later⟩ := List.append_inj same (length_references_eq agree.1)
    rw [told tree List.mem_cons_self other agree.1 here]
    rw [hypothesis (fun tree member => told tree (List.mem_cons_of_mem _ member)) agree.2 later]

/-- The own references of nodes whose heads agree without references are as many. -/
theorem length_ownEntry_eq {head other : Head} (slots others : List (Slot Tree))
    (agree : head.withoutReference = other.withoutReference) :
    (ownEntry slots head).length = (ownEntry others other).length := by
  cases head <;> cases other <;> simp_all [Head.withoutReference, ownEntry]

/-- A head is told by the head without reference and by the own reference. -/
theorem head_eq_of_ownEntry {head other : Head} {slots others : List (Slot Tree)}
    (agree : head.withoutReference = other.withoutReference)
    (same : (ownEntry slots head).map (·.2) = (ownEntry others other).map (·.2)) :
    head = other := by
  cases head <;> cases other <;> simp_all [Head.withoutReference, ownEntry]

/-- Trees that agree without references and have the same references are the same. -/
theorem eq_of_references {tree other : Tree}
    (agree : tree.withoutReferences = other.withoutReferences)
    (same : tree.references = other.references) : tree = other := by
  induction tree using Tree.induction generalizing other with
  | stray value =>
    cases other with
    | stray other => exact agree
    | node => simp [withoutReferences, mapHeads] at agree
  | node head metadata slots below =>
    cases other with
    | stray => simp [withoutReferences, mapHeads] at agree
    | node otherHead otherMetadata others =>
      have children := children_agree agree
      simp only [withoutReferences, mapHeads, mapHeadsSlots_eq, Tree.node.injEq] at agree
      obtain ⟨heads, rfl, shape⟩ := agree
      rw [references_node, references_node] at same
      have sameLength : ((ownEntry slots head).map (·.2)).length =
          ((ownEntry others otherHead).map (·.2)).length := by
        simpa using length_ownEntry_eq slots others heads
      obtain ⟨own, later⟩ := List.append_inj same sameLength
      have contents : slots.flatMap Slot.toList = others.flatMap Slot.toList := by
        refine trees_eq_of_references (fun tree member other => ?_) children later
        obtain ⟨slot, inSlots, inSlot⟩ := List.mem_flatMap.1 member
        exact below slot inSlots tree inSlot
      rw [head_eq_of_ownEntry heads own, slots_eq_of_contents shape contents]

end Folio.Tree
