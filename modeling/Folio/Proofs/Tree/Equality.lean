import Folio.Proofs.Tree.Alike
import Folio.Tree.Equality

/-!
# Comparison decides likeness

Trees are compared along two walks in step, and a pair of nodes is looked at without the nodes
below it. That is enough because nodes that agree have equally many children in each field:
what the two walks put on their stacks for them has the same length, so the nodes that wait
there stay in front of their counterparts. `sameWalks_cons` is one step of the comparison and
`sameWalks_spec` the induction along the walks.
-/

namespace Folio

/-- Only the text itself has the value of a text. -/
theorem Scalar.same_iff_of_isText {left right : Scalar} (isText : left.isText = true) :
    left.same right = true ↔ left = right := by
  cases left with
  | text value => rw [text_same_iff, eq_comm]
  | _ => simp [Scalar.isText] at isText

/-- Moments are the same if the timestamps agree. -/
theorem Attribute.same_moment (left right : Option Timestamp) :
    (moment left).same (moment right) = true ↔ Timestamp.Agree left right := by
  constructor
  · intro same
    cases left with
    | none =>
      cases right with
      | none => exact .missing
      | some second => simp [Attribute.same] at same
    | some first =>
      cases right with
      | none => simp [Attribute.same] at same
      | some second => exact .given same
  · intro agree
    cases agree with
    | missing => rfl
    | given same => exact same

/-- Details agree if the timestamps do and all else is equal. -/
theorem Details.agree_iff {left right : Details} :
    left.Agree right ↔
      { left with createdOn := none } = { right with createdOn := none } ∧
        Timestamp.Agree left.createdOn right.createdOn :=
  ⟨fun agree => ⟨agree.words, agree.times⟩, fun ⟨words, times⟩ => ⟨words, times⟩⟩

/-- Apart from documents, nodes have the same values only if these are equal. -/
theorem Head.agree_iff_eq {left right : Head} (other : left.kind ≠ .document) :
    left.Agree right ↔ left = right := by
  constructor
  · intro agree
    cases agree with
    | same => rfl
    | documents => exact absurd rfl other
  · rintro rfl
    exact .same left

namespace Tree

/-- The heads of documents have the same attributes if their details agree. -/
theorem sameAttributes_document (left right : Details) :
    sameAttributes (.document left) (.document right) = true ↔ left.Agree right := by
  simp only [sameAttributes, Head.attributes, Details.agree_iff, ← Attribute.same_moment]
  simp [Attribute.same, Attribute.text, and_assoc]

/-- Nodes of one kind agree attribute by attribute if and only if they have the same values. -/
theorem sameAttributes_iff {left right : Head} (typed : left.isTyped = true)
    (kinds : left.kind = right.kind) :
    sameAttributes left right = true ↔ left.Agree right := by
  -- Both heads are of one constructor, which the case split on the left one then shows.
  obtain ⟨value?, rfl⟩ : ∃ value?, right = Head.build left.kind value? :=
    ⟨right.attribute?, by rw [kinds, Head.build_attribute?]⟩
  cases left with
  | document left =>
    rw [Head.kind, Head.build, sameAttributes_document]
    constructor
    · exact .documents
    · intro agree
      cases agree with
      | same => exact ⟨rfl, Timestamp.Agree.refl _⟩
      | documents details => exact details
  | «section» reference | internalLink reference =>
    rw [Head.agree_iff_eq (by simp [Head.kind])]
    simp [sameAttributes, Head.attributes, Attribute.same, Head.build, Head.kind,
      Scalar.same_iff_of_isText typed]
  | _ =>
    rw [Head.agree_iff_eq (by simp [Head.kind])]
    simp [sameAttributes, Head.attributes, Attribute.same, Attribute.text, Head.build, Head.kind]

/-- Joined lists are related part by part if the first parts are equally long. -/
theorem forall₂_append_iff {α : Type} {related : α → α → Prop} {first second left right : List α}
    (sameLength : first.length = second.length) :
    List.Forall₂ related (first ++ left) (second ++ right) ↔
      List.Forall₂ related first second ∧ List.Forall₂ related left right := by
  constructor
  · intro joined
    have before := List.forall₂_take_append _ _ _ joined
    have behind := List.forall₂_drop_append _ _ _ joined
    rw [← sameLength, List.take_left] at before
    rw [← sameLength, List.drop_left] at behind
    exact ⟨before, behind⟩
  · rintro ⟨before, behind⟩
    exact List.rel_append before behind

/-- Slots are related if they are laid out alike and their contents are related in order. -/
theorem forall₂_related_iff {related : Tree → Tree → Prop} {left right : List (Slot Tree)} :
    List.Forall₂ (Slot.Related related) left right ↔
      sameLayout left right = true ∧
        List.Forall₂ related (left.flatMap Slot.toList) (right.flatMap Slot.toList) := by
  constructor
  · intro slots
    refine ⟨?_, Slot.forall₂_contents slots⟩
    induction slots with
    | nil => rfl
    | cons here _ hypothesis =>
      cases here with
      | one => exact hypothesis
      | many contents => simp [sameLayout, contents.length_eq, hypothesis]
  · rintro ⟨layout, contents⟩
    fun_induction sameLayout left right with
    | case1 => exact .nil
    | case2 first left second right hypothesis =>
      cases contents with
      | cons here later => exact .cons (.one here) (hypothesis layout later)
    | case3 first left second right hypothesis =>
      obtain ⟨sameLength, layoutBehind⟩ : first.length = second.length ∧ _ := by
        simpa only [Bool.and_eq_true, beq_iff_eq] using layout
      obtain ⟨here, later⟩ := (forall₂_append_iff sameLength).1 contents
      exact .cons (.many here) (hypothesis layoutBehind later)
    | case4 => simp at layout

/-- Nodes are alike if they have the same values and the same layout, and their children are
alike in order. -/
theorem alike_iff {left right : Head} {leftMetadata rightMetadata : Json.Members}
    {leftSlots rightSlots : List (Slot Tree)} :
    Alike (.node left leftMetadata leftSlots) (.node right rightMetadata rightSlots) ↔
      left.Agree right ∧ sameLayout leftSlots rightSlots = true ∧
        List.Forall₂ Alike (leftSlots.flatMap Slot.toList) (rightSlots.flatMap Slot.toList) := by
  rw [← forall₂_related_iff]
  constructor
  · intro alike
    cases alike with
    | node head slots => exact ⟨head, slots⟩
  · rintro ⟨head, slots⟩
    exact .node head slots

/-- Slots laid out alike have equally many contents. -/
theorem length_eq_of_sameLayout {left right : List (Slot Tree)}
    (layout : sameLayout left right = true) :
    (left.flatMap Slot.toList).length = (right.flatMap Slot.toList).length := by
  fun_induction sameLayout left right with
  | case1 => rfl
  | case2 first left second right hypothesis =>
    simpa [Slot.toList] using hypothesis layout
  | case3 first left second right hypothesis =>
    obtain ⟨sameLength, layoutBehind⟩ : first.length = second.length ∧ _ := by
      simpa only [Bool.and_eq_true, beq_iff_eq] using layout
    have behind := hypothesis layoutBehind
    simp only [List.flatMap_cons, List.length_append, Slot.toList, sameLength, behind]
  | case4 => simp at layout

/-- Two well-shaped nodes are looked at without a fault. They are alike if they pass and their
children are alike in order; if they pass, they have equally many children. -/
theorem sameNode_spec {left right : Tree} (leftShaped : left.IsShaped)
    (rightShaped : right.IsShaped) :
    ∃ passes, sameNode left right = .ok passes ∧
      (Alike left right ↔ passes = true ∧ List.Forall₂ Alike left.children right.children) ∧
      (passes = true → left.children.length = right.children.length) := by
  cases left with
  | stray => exact leftShaped.elim
  | node left leftMetadata leftSlots =>
    cases right with
    | stray => exact rightShaped.elim
    | node right rightMetadata rightSlots =>
      refine ⟨_, rfl, ?_, fun passes => ?_⟩
      · rw [alike_iff, children, children, Bool.and_eq_true, Bool.and_eq_true, beq_iff_eq]
        constructor
        · rintro ⟨agree, layout, below⟩
          have kinds := agree.kind_eq
          have same := (sameAttributes_iff leftShaped.references kinds).2 agree
          exact ⟨⟨⟨kinds, same⟩, layout⟩, below⟩
        · rintro ⟨⟨⟨kinds, same⟩, layout⟩, below⟩
          have agree := (sameAttributes_iff leftShaped.references kinds).1 same
          exact ⟨agree, layout, below⟩
      · rw [Bool.and_eq_true] at passes
        exact length_eq_of_sameLayout passes.2

/-- A kind that is laid out as a sequence has one field for nodes, and that is a list. -/
theorem slots_of_sequence (kind : Kind) :
    kind.shape = .sequence → kind.slots.map (·.type.isSequence) = [true] := by
  cases kind <;> decide

/-- The children of a well-shaped node are read without a fault. -/
theorem childrenChecked_of_shaped {tree : Tree} (shaped : tree.IsShaped) :
    tree.childrenChecked = .ok tree.children := by
  cases tree with
  | stray => exact shaped.elim
  | node head metadata slots =>
    simp only [childrenChecked]
    split
    · rename_i content isSequence
      have layout : [Slot.one content].map Slot.isList = [true] :=
        shaped.layout.trans (slots_of_sequence head.kind isSequence)
      simp [Slot.isList] at layout
    · rfl

/-- One step: two well-shaped nodes on top are looked at, and if they pass, their children take
their places. -/
theorem sameWalks_cons {left right : Tree} (leftShaped : left.IsShaped)
    (rightShaped : right.IsShaped) (lefts rights : List Tree) :
    sameWalks (left :: lefts) (right :: rights) =
      (sameNode left right).bind fun passes =>
        if passes then sameWalks (left.children ++ lefts) (right.children ++ rights)
        else .ok false := by
  cases left with
  | stray => exact leftShaped.elim
  | node head metadata slots =>
    have leftChildren := childrenChecked_of_shaped leftShaped
    have rightChildren := childrenChecked_of_shaped rightShaped
    rw [sameWalks]
    cases sameNode (.node head metadata slots) right with
    | error fault => rfl
    | ok passes =>
      cases passes with
      | false => rfl
      | true =>
        simp only [rightChildren, Except.bind, if_true]
        split
        · rename_i fault failed
          rw [leftChildren] at failed
          cases failed
        · rename_i found succeeded
          rw [leftChildren] at succeeded
          cases succeeded
          rfl

/-- Two walks over well-shaped trees are compared without a fault, and found equal if and only
if the trees that wait on the two stacks are alike in order. -/
theorem sameWalks_spec (lefts rights : List Tree) (leftShaped : ∀ tree ∈ lefts, tree.Shaped)
    (rightShaped : ∀ tree ∈ rights, tree.Shaped) :
    ∃ answer, sameWalks lefts rights = .ok answer ∧
      (answer = true ↔ List.Forall₂ Alike lefts rights) := by
  induction size : sizeAll lefts using Nat.strongRecOn generalizing lefts rights with
  | ind bound hypothesis =>
    cases lefts with
    | nil =>
      cases rights with
      | nil => exact ⟨true, by rw [sameWalks], by simp⟩
      | cons right rights => exact ⟨false, by rw [sameWalks]; all_goals simp, by simp⟩
    | cons left lefts =>
      cases rights with
      | nil => exact ⟨false, by rw [sameWalks]; all_goals simp, by simp⟩
      | cons right rights =>
        obtain ⟨leftHere, leftRest⟩ := List.forall_mem_cons.1 leftShaped
        obtain ⟨rightHere, rightRest⟩ := List.forall_mem_cons.1 rightShaped
        obtain ⟨leftNode, leftBelow⟩ := everywhere_iff.1 leftHere
        obtain ⟨rightNode, rightBelow⟩ := everywhere_iff.1 rightHere
        obtain ⟨passes, looked, alike, sameLength⟩ := sameNode_spec leftNode rightNode
        rw [sameWalks_cons leftNode rightNode, looked, Except.bind, List.forall₂_cons, alike]
        cases passes with
        | false => exact ⟨false, rfl, by simp⟩
        | true =>
          have smaller : sizeAll (left.children ++ lefts) < bound := by
            rw [← size, sizeAll_append, sizeAll, size_eq left]
            omega
          obtain ⟨answer, compared, equal⟩ := hypothesis _ smaller
            (left.children ++ lefts) (right.children ++ rights)
            (List.forall_mem_append.2 ⟨leftBelow, leftRest⟩)
            (List.forall_mem_append.2 ⟨rightBelow, rightRest⟩) rfl
          refine ⟨answer, compared, ?_⟩
          rw [equal, forall₂_append_iff (sameLength rfl)]
          simp

/-- Well-shaped trees are compared without a fault, and are equal if and only if they are
alike. -/
theorem equal_spec {left right : Tree} (leftShaped : left.Shaped) (rightShaped : right.Shaped) :
    ∃ answer, left.equal right = .ok answer ∧ (answer = true ↔ Alike left right) := by
  obtain ⟨answer, compared, equal⟩ := sameWalks_spec [left] [right]
    (List.forall_mem_singleton.2 leftShaped) (List.forall_mem_singleton.2 rightShaped)
  refine ⟨answer, compared, ?_⟩
  simpa using equal

/-- The trees of which comparison is an equivalence: all is laid out as declared. -/
abbrev ShapedTree := { tree : Tree // tree.Shaped }

/-- Well-shaped trees are equal exactly if they are alike. -/
theorem equal_iff (left right : ShapedTree) :
    left.1.equal right.1 = .ok true ↔ Alike left.1 right.1 := by
  obtain ⟨answer, compared, equal⟩ := equal_spec left.2 right.2
  rw [compared, ← equal]
  simp

/-- Well-shaped trees are compared without a fault, and found equal exactly if they are alike.
So the comparison is an equivalence, and two trees are told apart if anywhere in them the same
position holds different numbers of children, counted field by field. -/
theorem equal_decides_alike :
    (∀ left right : ShapedTree, ∃ answer, left.1.equal right.1 = .ok answer ∧
      (answer = true ↔ Alike left.1 right.1)) ∧
    Equivalence (fun left right : ShapedTree => left.1.equal right.1 = .ok true) ∧
    ∀ (left right : ShapedTree) (position : Position),
      (left.1.at? position).map childCounts ≠ (right.1.at? position).map childCounts →
        left.1.equal right.1 = .ok false := by
  refine ⟨fun left right => equal_spec left.2 right.2, ⟨?refl, ?symm, ?trans⟩, ?apart⟩
  case refl =>
    intro tree
    exact (equal_iff tree tree).2 (.refl tree.2)
  case symm =>
    intro left right same
    have alike := (equal_iff left right).1 same
    exact (equal_iff right left).2 (alike.of_common (.refl left.2))
  case trans =>
    intro first second third same next
    have toFirst := ((equal_iff first second).1 same).of_common (.refl first.2)
    have toThird := (equal_iff second third).1 next
    exact (equal_iff first third).2 (toFirst.of_common toThird)
  case apart =>
    intro left right position different
    obtain ⟨answer, compared, equal⟩ := equal_spec left.2 right.2
    cases answer with
    | false => exact compared
    | true => exact absurd ((equal.1 rfl).childCounts_at? position) different

/-- A table of one row, which holds these cells as its header and as its body. -/
def tableOf (header body : List Tree) : Tree :=
  .node (.document {}) [] [.many
    [ofList .table [.node .row [] [.many header, .many body, .many []]]]]

/-- A cell moved from the header of a row to its body is noticed, though both visits meet the
same cell behind the row. -/
theorem equal_movedCell :
    let cell := ofList .cell [ofText "x"]
    (tableOf [cell] []).Shaped ∧ (tableOf [] [cell]).Shaped ∧
    (tableOf [cell] []).preorder.drop 3 = (tableOf [] [cell]).preorder.drop 3 ∧
    (tableOf [cell] []).equal (tableOf [] [cell]) = .ok false := by
  intro cell
  have leftShaped : (tableOf [cell] []).Shaped := by decide
  have rightShaped : (tableOf [] [cell]).Shaped := by decide
  have different : ((tableOf [cell] []).at? [0, 0]).map childCounts ≠
      ((tableOf [] [cell]).at? [0, 0]).map childCounts := by decide
  exact ⟨leftShaped, rightShaped, rfl,
    equal_decides_alike.2.2 ⟨_, leftShaped⟩ ⟨_, rightShaped⟩ [0, 0] different⟩

end Tree

end Folio
