import Folio.Proofs.Tree.Congruence
import Mathlib.Logic.Relation

/-!
# Runs of children put into a container

`Wraps` is one change of a tree: somewhere, but not inside the title of a section, a run of
entries in a list of children is replaced by a content node that holds it. A function that reads
a container as it reads what the container holds passes it over; `Wraps.childInduct` is the
induction from which it follows that such functions read the same from both trees.
-/

namespace Folio.Tree

/-- The content node that a run is put into. -/
def wrapper (metadata : Json.Members) (run : List Tree) : Tree :=
  .node .content metadata [.many run]

/-- A wrapper has the wrapped run for its children. -/
theorem children_wrapper (metadata : Json.Members) (run : List Tree) :
    (wrapper metadata run).children = run := by
  simp [wrapper, children, Slot.toList]

/-- The field of a name holds two things that differ in one place: a run in a list of children
has been put into a container, or two trees in the same place are related. -/
inductive DifferOnce (related : Tree → Tree → Prop) :
    Option String → Slot Tree → Slot Tree → Prop where
  | run (before run after : List Tree) (own : Json.Members) :
      DifferOnce related (some "children") (.many (before ++ run ++ after))
        (.many (before ++ wrapper own run :: after))
  | one {name : Option String} {left right : Tree} (inside : related left right) :
      DifferOnce related name (.one left) (.one right)
  | many {name : Option String} (before after : List Tree) {left right : Tree}
      (inside : related left right) :
      DifferOnce related name (.many (before ++ left :: after))
        (.many (before ++ right :: after))

/-- A run of children in the left tree is held by a container in the right one, outside of all
titles: these come first among the fields of a section. -/
inductive Wraps : Tree → Tree → Prop where
  | node {head : Head} (metadata : Json.Members) {first : List (Slot Tree)}
      (last : List (Slot Tree)) {left right : Slot Tree}
      (untitled : head.kind = .section → first ≠ [])
      (differ : DifferOnce Wraps (head.kind.slots.map (·.name))[first.length]? left right) :
      Wraps (.node head metadata (first ++ left :: last))
        (.node head metadata (first ++ right :: last))

/-- A node that is no section and has one list of trees has a difference in it. -/
theorem Wraps.of_list {head : Head} (metadata : Json.Members) {left right : List Tree}
    (other : head.kind ≠ .section)
    (differ : DifferOnce Wraps (head.kind.slots.map (·.name))[0]? (.many left) (.many right)) :
    Wraps (.node head metadata [.many left]) (.node head metadata [.many right]) := by
  have untitled (isSection : head.kind = .section) : ([] : List (Slot Tree)) ≠ [] :=
    absurd isSection other
  exact .node metadata [] untitled differ

/-- Only the kind of the node and the number of the fields in front of the difference tell
whether it is one outside of titles. -/
theorem Wraps.of_kept {before after : Head} (metadata : Json.Members)
    {first kept : List (Slot Tree)} (last : List (Slot Tree)) {left right : Slot Tree}
    (untitled : before.kind = .section → first ≠ []) (kinds : after.kind = before.kind)
    (lengths : first.length = kept.length)
    (differ : DifferOnce Wraps (before.kind.slots.map (·.name))[first.length]? left right) :
    Wraps (.node after metadata (kept ++ left :: last))
      (.node after metadata (kept ++ right :: last)) := by
  refine .node metadata last (fun isSection empty => ?_) ?_
  · rw [empty] at lengths
    exact untitled (kinds ▸ isSection) (List.length_eq_zero_iff.1 lengths)
  · rw [kinds, ← lengths]
    exact differ

/-- A relation holds of such trees if it passes from the place of the difference in a slot to
the node. -/
theorem Wraps.induct {motive : Tree → Tree → Prop}
    (node : ∀ {head : Head} (metadata : Json.Members) {first : List (Slot Tree)}
      (last : List (Slot Tree)) {left right : Slot Tree},
      (head.kind = .section → first ≠ []) →
      DifferOnce Wraps (head.kind.slots.map (·.name))[first.length]? left right →
      DifferOnce motive (head.kind.slots.map (·.name))[first.length]? left right →
        motive (.node head metadata (first ++ left :: last))
          (.node head metadata (first ++ right :: last)))
    {left right : Tree} (wraps : Wraps left right) : motive left right := by
  refine Wraps.rec (motive_1 := fun left right _ => motive left right)
    (motive_2 := fun name left right _ => DifferOnce motive name left right)
    ?_ ?_ ?_ ?_ wraps
  · exact fun metadata _ last _ _ untitled differ below => node metadata last untitled differ below
  · exact fun before run after own => .run before run after own
  · exact fun _ inside => .one inside
  · exact fun before after _ _ _ inside => .many before after inside

/-- The same node, apart from what it holds; a section also has the same title. -/
inductive SameNode : Tree → Tree → Prop where
  | of {head : Head} {metadata : Json.Members} {left right : List (Slot Tree)}
      (titles : head.kind = .section → titleIn left = titleIn right) :
      SameNode (.node head metadata left) (.node head metadata right)

section SameNode

variable {left right : Tree} (same : SameNode left right)

include same

/-- Nodes that differ below only are of the same categories. -/
theorem SameNode.isA_eq (category : Category) : left.isA category = right.isA category := by
  cases same
  rfl

/-- They have the same text of their own. -/
theorem SameNode.ownText_eq : left.ownText = right.ownText := by
  cases same with
  | @of head => cases head <;> rfl

/-- They have the same reference. -/
theorem SameNode.reference_eq : left.reference = right.reference := by
  cases same with
  | @of head => cases head <;> rfl

/-- They have the same title, if they are sections. -/
theorem SameNode.title_eq (isSection : left.isA (.of .section) = true) :
    left.title = right.title := by
  cases same with
  | @of head _ _ _ titles =>
    rw [isA_section, beq_iff_eq, kind?, Option.some.injEq] at isSection
    exact titles isSection

end SameNode

/-- The title of a section lies in the first slot; those behind it have no influence. -/
theorem titleIn_append {first : List (Slot Tree)} (notNil : first ≠ [])
    (left right : List (Slot Tree)) : titleIn (first ++ left) = titleIn (first ++ right) := by
  cases first with
  | nil => exact absurd rfl notNil
  | cons slot rest => cases slot <;> rfl

/-- The function reads a container as it reads what the container holds. -/
def PassesOver {α : Type} (read : Tree → List α) : Prop :=
  ∀ (own : Json.Members) (run : List Tree), read (wrapper own run) = run.flatMap read

/-- Whatever passes containers over reads related things off the children of two trees, if it
does so from children that are related. -/
def ChildrenRead (inside : Tree → Tree → Prop) (left right : Tree) : Prop :=
  ∀ {α : Type} {read : Tree → List α} {related : α → α → Prop} [Std.Refl related],
    PassesOver read →
    (∀ left right, inside left right → List.Forall₂ related (read left) (read right)) →
    List.Forall₂ related (left.children.flatMap read) (right.children.flatMap read)

/-- Whatever passes containers over reads the same off the children, if it does so from children
that are related. -/
theorem ChildrenRead.flatMap_eq {inside : Tree → Tree → Prop} {left right : Tree}
    (below : ChildrenRead inside left right) {α : Type} {read : Tree → List α}
    (passes : PassesOver read) (same : ∀ left right, inside left right → read left = read right) :
    left.children.flatMap read = right.children.flatMap read := by
  have pairs : List.Forall₂ Eq (left.children.flatMap read) (right.children.flatMap read) :=
    below passes fun left right deeper => by
      rw [List.forall₂_eq_eq_eq]
      exact same left right deeper
  rwa [List.forall₂_eq_eq_eq] at pairs

/-- What is read off slots that differ once is related, if it is so in the place of the
difference. -/
theorem DifferOnce.read {inside : Tree → Tree → Prop} {name : Option String}
    {left right : Slot Tree} (differ : DifferOnce inside name left right) {α : Type}
    {read : Tree → List α} {related : α → α → Prop} [Std.Refl related] (passes : PassesOver read)
    (deeper : ∀ left right, inside left right → List.Forall₂ related (read left) (read right)) :
    List.Forall₂ related (left.toList.flatMap read) (right.toList.flatMap read) := by
  cases differ with
  | run before run after own =>
    simp only [Slot.toList, List.flatMap_append, List.flatMap_cons, passes own run,
      List.append_assoc]
    exact List.forall₂_refl _
  | one here =>
    simpa only [Slot.toList, List.flatMap_singleton] using deeper _ _ here
  | many before after here =>
    simp only [Slot.toList, List.flatMap_append, List.flatMap_cons]
    exact List.rel_append (List.forall₂_refl _)
      (List.rel_append (deeper _ _ here) (List.forall₂_refl _))

/-- A relation holds of two trees of which one has a container more, if it passes to them from
what is read off their children. -/
theorem Wraps.childInduct {motive : Tree → Tree → Prop}
    (step : ∀ left right, Wraps left right → SameNode left right →
      ChildrenRead motive left right → motive left right)
    {left right : Tree} (wraps : Wraps left right) : motive left right := by
  refine wraps.induct fun metadata first last left right untitled differ below => ?_
  refine step _ _ (.node metadata last untitled differ)
    (.of fun isSection => titleIn_append (untitled isSection) _ _) fun passes deeper => ?_
  simp only [children, List.flatMap_append, List.flatMap_cons]
  exact List.rel_append (List.forall₂_refl _)
    (List.rel_append (below.read passes deeper) (List.forall₂_refl _))

/-- Wrapping changes a node only below. -/
theorem Wraps.sameNode {left right : Tree} (wraps : Wraps left right) : SameNode left right :=
  wraps.childInduct (motive := SameNode) fun _ _ _ same _ => same

/-- The characters of a tree are its own and then those of its children. -/
theorem toList_text (tree : Tree) :
    tree.text.toList =
      tree.ownText.toList ++ tree.children.flatMap fun child => child.text.toList := by
  have joined : ∀ trees : List Tree, (String.join (trees.map text)).toList =
      trees.flatMap fun child => child.text.toList := by
    intro trees
    induction trees with
    | nil => rfl
    | cons first rest hypothesis =>
      rw [List.map_cons, String.join_cons, String.toList_append, hypothesis, List.flatMap_cons]
  rw [text_eq, String.toList_append, joined]

/-- A container adds nothing to a text. -/
theorem Wraps.text_eq {left right : Tree} (wraps : Wraps left right) : left.text = right.text := by
  have passes : PassesOver fun tree => tree.text.toList := by
    intro own run
    refine (toList_text _).trans ?_
    rw [children_wrapper]
    rfl
  refine String.toList_injective (wraps.childInduct
    (motive := fun left right => left.text.toList = right.text.toList) ?_)
  intro left right _ same below
  rw [toList_text, toList_text right, same.ownText_eq,
    below.flatMap_eq passes fun _ _ texts => texts]

/-- If containers are not collected, the same nodes are collected from both trees, up to the
container. -/
theorem Wraps.collect {left right : Tree} (wraps : Wraps left right) {categories : List Category}
    (others : (categories.any fun category => category.includes .content) = false) :
    List.Forall₂ (Relation.ReflGen Wraps) (left.collect categories)
      (right.collect categories) := by
  have passes : PassesOver (Tree.collect categories) := by
    intro own run
    have passed : (categories.any (wrapper own run).isA) = false := others
    rw [Tree.collect, collectWhere_eq, passed, if_neg Bool.false_ne_true, children_wrapper]
    rfl
  refine wraps.childInduct (motive := fun left right => List.Forall₂ (Relation.ReflGen Wraps)
    (left.collect categories) (right.collect categories)) ?_
  intro left right wraps same below
  have tests : left.isA = right.isA := funext same.isA_eq
  rw [Tree.collect, Tree.collect, collectWhere_eq, collectWhere_eq _ right, tests]
  refine List.rel_append ?_ (below passes fun _ _ collected => collected)
  split
  · exact .cons (.single wraps) .nil
  · exact .nil

/-- A container adds no reference. -/
theorem Wraps.references_eq {left right : Tree} (wraps : Wraps left right) :
    left.references = right.references := by
  refine map_eq_of_forall₂ (fun first second same => ?_) (wraps.collect (by decide))
  cases same with
  | refl => rfl
  | single wraps => exact wraps.sameNode.reference_eq

/-- The trees differ in containers only: any number of runs outside of titles have been put
into containers, or taken out of them. -/
def SameButContainers : Tree → Tree → Prop := Relation.EqvGen Wraps

/-- What one container more does not change is the same for trees that differ in containers
only. -/
theorem SameButContainers.eq_of {α : Type} {read : Tree → α}
    (unchanged : ∀ left right, Wraps left right → read left = read right) {left right : Tree}
    (same : SameButContainers left right) : read left = read right := by
  induction same with
  | rel left right wraps => exact unchanged left right wraps
  | refl => rfl
  | symm _ _ _ hypothesis => exact hypothesis.symm
  | trans _ _ _ _ _ first second => exact first.trans second

/-- If containers are not collected, trees that differ in containers only have collected nodes
that do so, one by one. -/
theorem SameButContainers.collect {left right : Tree} (same : SameButContainers left right)
    {categories : List Category}
    (others : (categories.any fun category => category.includes .content) = false) :
    List.Forall₂ SameButContainers (left.collect categories) (right.collect categories) := by
  induction same with
  | rel left right wraps =>
    refine (wraps.collect others).imp fun first second step => ?_
    cases step with
    | refl => exact .refl _
    | single wraps => exact .rel _ _ wraps
  | refl tree => exact List.forall₂_same.2 fun visited _ => .refl visited
  | symm _ _ _ hypothesis => exact .flip (hypothesis.imp fun _ _ => .symm _ _)
  | trans _ _ _ _ _ first second =>
    have back := List.Forall₂.flip (first.imp fun _ _ => Relation.EqvGen.symm _ _)
    exact forall₂_of_common
      (fun _ _ _ _ toLeft toRight => .trans _ _ _ (.symm _ _ toLeft) toRight) back second

end Folio.Tree
