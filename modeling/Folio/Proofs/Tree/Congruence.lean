import Folio.Proofs.Tree.Equality

/-!
# What trees alike have in common

No visit, collection or text reads metadata, so trees that are alike cannot be told apart by any
of them: they are visited in step, through nodes that are alike pair by pair, and everything that
is read off a visit is the same or alike. `Alike.induct` is the induction along two trees at once
that all of this, and what runs on trees do, follows from.
-/

namespace Folio

/-- Lists related pair by pair look the same to functions that agree on related values. -/
theorem map_eq_of_forall₂ {α β γ : Type} {related : α → β → Prop} {first : α → γ} {second : β → γ}
    (agree : ∀ left right, related left right → first left = second right) {lefts : List α}
    {rights : List β} (pairs : List.Forall₂ related lefts rights) :
    lefts.map first = rights.map second := by
  induction pairs with
  | nil => rfl
  | cons here _ hypothesis => rw [List.map_cons, List.map_cons, agree _ _ here, hypothesis]

/-- What is in the right one of two lists related pair by pair has a partner in the left
one. -/
theorem exists_left_of_mem {α β : Type} {related : α → β → Prop} {lefts : List α}
    {rights : List β} (pairs : List.Forall₂ related lefts rights) {right : β}
    (member : right ∈ rights) : ∃ left ∈ lefts, related left right := by
  induction pairs with
  | nil => cases member
  | cons here _ hypothesis =>
    rcases List.mem_cons.1 member with rfl | later
    · exact ⟨_, List.mem_cons_self, here⟩
    · obtain ⟨left, inLefts, same⟩ := hypothesis later
      exact ⟨left, List.mem_cons_of_mem _ inLefts, same⟩

namespace Tree

/-- What holds everywhere in a tree holds everywhere in each part of it. -/
theorem Everywhere.of_mem {condition : Tree → Prop} {tree visited : Tree}
    (everywhere : tree.Everywhere condition) (met : visited ∈ tree.preorder) :
    visited.Everywhere condition := by
  induction tree using childInduction with
  | step tree below =>
    rw [preorder_eq] at met
    rcases List.mem_cons.1 met with rfl | inside
    · exact everywhere
    · obtain ⟨child, member, inChild⟩ := List.mem_flatMap.1 inside
      exact below child member ((everywhere_iff.1 everywhere).2 child member) inChild

/-- A well-shaped section has its title in the first field and its body in the second, and its
reference is a text. -/
theorem IsShaped.of_section {tree : Tree} (shaped : tree.IsShaped)
    (isSection : tree.isA (.of .section) = true) :
    ∃ (reference : String) (metadata : Json.Members) (title : Tree) (body : List Tree),
      tree = .node (.section (.text reference)) metadata [.one title, .many body] := by
  cases tree with
  | stray value => cases isSection
  | node head metadata slots =>
    obtain ⟨references, layout⟩ := shaped
    rw [isA_section, kind?] at isSection
    cases head with
    | «section» reference =>
      obtain ⟨reference, rfl⟩ : ∃ text, reference = .text text := by
        cases reference with
        | text text => exact ⟨text, rfl⟩
        | _ => cases references
      match slots, layout with
      | [.one title, .many body], _ => exact ⟨reference, metadata, title, body, rfl⟩
    | _ => simp [Head.kind] at isSection

/-- A relation holds of trees alike if it passes from everything in their slots, pair by pair, to
the nodes. -/
theorem Alike.induct {motive : Tree → Tree → Prop}
    (node : ∀ {left right leftMetadata rightMetadata leftSlots rightSlots},
      Head.Agree left right → List.Forall₂ (Slot.Related Alike) leftSlots rightSlots →
        List.Forall₂ (Slot.Related motive) leftSlots rightSlots →
          motive (.node left leftMetadata leftSlots) (.node right rightMetadata rightSlots))
    {left right : Tree} (alike : Alike left right) : motive left right := by
  refine Alike.rec (motive_1 := fun left right _ => motive left right)
    (motive_2 := fun lefts rights _ => List.Forall₂ (Slot.Related motive) lefts rights)
    (motive_3 := fun left right _ => Slot.Related motive left right)
    (motive_4 := fun lefts rights _ => List.Forall₂ motive lefts rights)
    ?_ ?_ ?_ ?_ ?_ ?_ ?_ alike
  · exact fun head slots below => node head slots below
  · exact .nil
  · exact fun _ _ first others => .cons first others
  · exact fun _ content => .one content
  · exact fun _ contents => .many contents
  · exact .nil
  · exact fun _ _ first others => .cons first others

/-- A relation holds of trees alike if it passes from their children, pair by pair, to them. -/
theorem Alike.childInduct {motive : Tree → Tree → Prop}
    (step : ∀ left right, Alike left right →
      List.Forall₂ motive left.children right.children → motive left right)
    {left right : Tree} (alike : Alike left right) : motive left right :=
  alike.induct fun head slots below => step _ _ (.node head slots) (Slot.forall₂_contents below)

section Nodes

variable {left right : Tree} (alike : Alike left right)

include alike

/-- Trees that are alike are of the same categories. -/
theorem Alike.isA_eq (category : Category) : left.isA category = right.isA category := by
  cases alike with
  | node head _ => rw [isA, isA, head.kind_eq]

/-- They have the same text of their own. -/
theorem Alike.ownText_eq : left.ownText = right.ownText := by
  cases alike with
  | @node here _ _ _ _ _ agree _ =>
    cases agree with
    | same => cases here <;> rfl
    | documents _ => rfl

/-- They have the same reference. -/
theorem Alike.reference_eq : left.reference = right.reference := by
  cases alike with
  | @node here _ _ _ _ _ agree _ =>
    cases agree with
    | same => cases here <;> rfl
    | documents _ => rfl

end Nodes

/-- Slots that are alike have titles that are alike. -/
theorem titleIn_alike {left right : List (Slot Tree)}
    (slots : List.Forall₂ (Slot.Related Alike) left right) :
    Alike (titleIn left) (titleIn right) := by
  have none : Alike (ofText "") (ofText "") := .node (.same _) .nil
  cases slots with
  | nil => exact none
  | cons here _ =>
    cases here with
    | one title => exact title
    | many _ => exact none

/-- Their titles are alike. -/
theorem Alike.title {left right : Tree} (alike : Alike left right) :
    Alike left.title right.title := by
  cases alike with
  | node _ slots => exact titleIn_alike slots

section Visits

variable {left right : Tree} (alike : Alike left right)

include alike

/-- Trees alike are visited in step. -/
theorem Alike.preorder : List.Forall₂ Alike left.preorder right.preorder := by
  refine alike.childInduct
    (motive := fun left right => List.Forall₂ Alike left.preorder right.preorder)
    fun left right alike below => ?_
  rw [preorder_eq, preorder_eq right]
  exact .cons alike (List.rel_flatMap below fun _ _ inside => inside)

/-- The same nodes are collected from trees alike. -/
theorem Alike.collect (categories : List Category) :
    List.Forall₂ Alike (left.collect categories) (right.collect categories) := by
  refine List.rel_filter (fun first second same => ?_) alike.preorder
  simp only [same.isA_eq]

/-- Trees alike have the same text. -/
theorem Alike.text_eq : left.text = right.text := by
  rw [text, text, map_eq_of_forall₂ (fun _ _ same => same.ownText_eq) alike.preorder]

/-- The texts of their titles are the same. -/
theorem Alike.titleText_eq : left.titleText = right.titleText := by
  rw [titleText, titleText, alike.title.text_eq]

/-- Trees alike have the same references. -/
theorem Alike.references_eq : left.references = right.references :=
  map_eq_of_forall₂ (fun _ _ same => same.reference_eq) (alike.collect [.of .section])

end Visits

end Tree

end Folio
