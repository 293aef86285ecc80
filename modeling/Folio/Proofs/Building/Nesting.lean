import Folio.Proofs.Building.Levels
import Folio.Proofs.Building.Run

/-!
# Headings in documents and in tables of contents

The sections of a document that was built from headings, and the items of its table of contents,
both stand where the recursion over the headings puts them; so both are nested by the levels of
the headings. In the document a section lies directly in the one around it. In the table an item
lies in the nested list of the item around it, which is the second child of that item.
-/

namespace Folio.Building

open BuildCall DocumentBuilder Contents

/-- A tree is a section. -/
def isSection (tree : Tree) : Bool := tree.isA (.of .section)

/-- A tree is an item of a list. -/
def isItem (tree : Tree) : Bool := tree.isA (.of .listItem)

namespace Heading

variable (heading : Heading) (body : List Tree)

/-- The title of a section is its first child. -/
theorem children_section :
    (heading.section body).children = Tree.ofText heading.title :: body := by
  simp [Heading.section, Tree.ofSection, Tree.children, Slot.toList]

/-- The sections of the section for a heading are itself and those of its body. -/
theorem collect_section :
    (heading.section body).collectWhere isSection =
      heading.section body :: body.flatMap (Tree.collectWhere isSection) := by
  have title : (Tree.ofText heading.title).collectWhere isSection = [] := rfl
  rw [Tree.collectWhere_eq, children_section, List.flatMap_cons, title]
  rfl

/-- Sections stand at the place of a section and in its body, behind its title. -/
theorem places_section :
    (heading.section body).placesWhere isSection = [] :: Tree.placesInAll isSection 1 body := by
  have title : (Tree.ofText heading.title).placesWhere isSection = [] := rfl
  rw [Tree.placesWhere_eq, children_section, Tree.placesInAll, title]
  rfl

/-- The link for a heading, labelled with its title. -/
def link : Tree := Tree.internalLink heading.reference [Tree.ofText heading.title]

/-- The item for a heading: its link, and the items below it as a nested list if there are
any. -/
def item (below : List Tree) : Tree :=
  Tree.listItem (heading.link :: if below.isEmpty then [] else [Tree.orderedList below])

/-- The section for a heading makes one item, with those of its body below it. -/
theorem forest_section :
    forest (heading.section body) = [heading.item (body.flatMap forest)] := by
  have title : forest (Tree.ofText heading.title) = [] := forest_eq_nil rfl
  have isSection : (heading.section body).isA (.of .section) = true := rfl
  rw [forest_eq, if_pos isSection, children_section, List.flatMap_cons, title, List.nil_append]
  rfl

/-- The items in a list are those in each of them. -/
theorem collect_orderedList (items : List Tree) :
    (Tree.orderedList items).collectWhere isItem =
      items.flatMap (Tree.collectWhere isItem) := by
  have children : (Tree.orderedList items).children = items := by
    simp [Tree.orderedList, Tree.ofList, Tree.children, Slot.toList]
  rw [Tree.collectWhere_eq, children]
  rfl

/-- Items stand in a list at the places of its children. -/
theorem places_orderedList (items : List Tree) :
    (Tree.orderedList items).placesWhere isItem = Tree.placesInAll isItem 0 items := by
  have children : (Tree.orderedList items).children = items := by
    simp [Tree.orderedList, Tree.ofList, Tree.children, Slot.toList]
  rw [Tree.placesWhere_eq, children]
  rfl

/-- An item holds its link and a list of the items below, if there are any. -/
theorem children_item (below : List Tree) :
    (heading.item below).children =
      heading.link :: if below.isEmpty then [] else [Tree.orderedList below] := by
  simp [item, Tree.listItem, Tree.ofList, Tree.children, Slot.toList]

/-- The items of the item for a heading are itself and those of its nested list. -/
theorem collect_item (below : List Tree) :
    (heading.item below).collectWhere isItem =
      heading.item below :: below.flatMap (Tree.collectWhere isItem) := by
  have link : heading.link.collectWhere isItem = [] := rfl
  rw [Tree.collectWhere_eq, children_item, List.flatMap_cons, link]
  cases below with
  | nil => rfl
  | cons first rest =>
    rw [List.isEmpty_cons, if_neg Bool.false_ne_true, List.flatMap_singleton,
      collect_orderedList]
    rfl

/-- Items stand at the place of an item and in the list behind its link. -/
theorem places_item (below : List Tree) :
    (heading.item below).placesWhere isItem =
      [] :: (Tree.placesInAll isItem 0 below).map (1 :: ·) := by
  have link : heading.link.placesWhere isItem = [] := rfl
  rw [Tree.placesWhere_eq, children_item, Tree.placesInAll, link]
  cases below with
  | nil => rfl
  | cons first rest =>
    rw [List.isEmpty_cons, if_neg Bool.false_ne_true, Tree.placesInAll, Tree.placesInAll,
      places_orderedList, List.append_nil]
    rfl

end Heading

namespace Entry

/-- Nodes among the entries have no sections. -/
theorem places_content {tree : Tree} (plain : tree.sections = []) :
    tree.placesWhere isSection = [] :=
  Tree.placesWhere_eq_nil _ ((Tree.sections_eq_collectWhere tree).symm.trans plain)

/-- The sections that are arranged from entries are nested as their levels say. -/
theorem nested_sections (index : Nat) (entries : List Entry) :
    Nested [] (levels entries) (Tree.placesInAll isSection index (arrange entries)) := by
  refine nested_places (fun index entries => Tree.placesInAll isSection index (arrange entries))
    (fun index => ?nil)
    (fun index tree plain rest => ⟨index + 1, ?content⟩)
    (fun index first rest => ⟨1, index + 1, ?heading⟩) index entries
  case nil => rw [arrange, Tree.placesInAll]
  case content =>
    rw [arrange, Tree.placesInAll, places_content plain]
    rfl
  case heading =>
    rw [arrange, Tree.placesInAll, Heading.places_section]
    rfl

/-- So are the items of the table of contents that is made of them. -/
theorem nested_items (index : Nat) (entries : List Entry) :
    Nested [1] (levels entries)
      (Tree.placesInAll isItem index ((arrange entries).flatMap forest)) := by
  refine nested_places
    (fun index entries => Tree.placesInAll isItem index ((arrange entries).flatMap forest))
    (fun index => ?nil)
    (fun index tree plain rest => ⟨index, ?content⟩)
    (fun index first rest => ⟨0, index + 1, ?heading⟩) index entries
  case nil => rw [arrange, List.flatMap_nil, Tree.placesInAll]
  case content => rw [arrange, List.flatMap_cons, forest_eq_nil plain, List.nil_append]
  case heading =>
    rw [arrange, List.flatMap_cons, Heading.forest_section, List.singleton_append,
      Tree.placesInAll, Heading.places_item, List.map_cons, List.map_map]
    rfl

/-- A visit of arranged headings meets their sections in the order of the headings. -/
theorem sections_arrange (entries : List Entry) :
    List.Forall₂ (fun found heading => ∃ body, found = Heading.section heading body)
      ((arrange entries).flatMap (Tree.collectWhere isSection)) (headings entries) := by
  fun_induction arrange entries with
  | case1 => exact .nil
  | case2 tree plain rest hypothesis =>
    have none : tree.collectWhere isSection = [] :=
      (Tree.sections_eq_collectWhere tree).symm.trans plain
    rw [List.flatMap_cons, none]
    exact hypothesis
  | case3 first rest own others =>
    rw [List.flatMap_cons, Heading.collect_section, headings_eq]
    exact .cons ⟨_, rfl⟩ (List.rel_append own others)

/-- A visit of the items of arranged headings meets them in the order of the headings. -/
theorem items_arrange (entries : List Entry) :
    List.Forall₂ (fun found heading => ∃ below, found = Heading.item heading below)
      (((arrange entries).flatMap forest).flatMap (Tree.collectWhere isItem))
      (headings entries) := by
  fun_induction arrange entries with
  | case1 => exact .nil
  | case2 tree plain rest hypothesis =>
    rw [List.flatMap_cons, forest_eq_nil plain, List.nil_append]
    exact hypothesis
  | case3 first rest own others =>
    rw [List.flatMap_cons, Heading.forest_section, List.singleton_append, List.flatMap_cons,
      Heading.collect_item, headings_eq]
    exact .cons ⟨_, rfl⟩ (List.rel_append own others)

end Entry

/-- The document of a fresh builder that has been given some entries. -/
theorem document_run (details : Details) (entries : List Entry) :
    (run { head := .document details } (entries.map Entry.call)).document =
      Tree.ofList (.document details) (Entry.arrange entries) := by
  have sound := (Sound.start (.document details)).run (entries.map Entry.call)
  rw [document_eq, sound.sameHead, body_run]
  rfl

/-- Headings of any levels, with nodes without sections among them, given to a fresh builder one
after another. The document has one section for each heading, in their order, and each lies in
the section of the last heading before it that has a lower level, or directly in the document; so
none lies deeper than its level says. The table of contents is built, and has one item for each
heading, in their order, labelled with its title; each lies in the nested list of the item of the
same heading, or in the table itself. -/
theorem nesting_of_headings (details : Details) (entries : List Entry) :
    let document := (run { head := .document details } (entries.map Entry.call)).document
    let headings := Entry.headings entries
    let levels := headings.map (·.level)
    let places := document.placesWhere isSection
    (List.Forall₂ (fun place heading => ∃ body,
        document.at? place = some (heading.section body)) places headings ∧
      Nested [] levels places ∧
      List.Forall₂ (fun place level => (place.length : Int) ≤ level) places levels) ∧
    ∃ contents, (Contents.build {} document).value = .ok contents ∧
      let items := contents.placesWhere isItem
      List.Forall₂ (fun place heading => ∃ below,
        contents.at? place = some (heading.item below)) items headings ∧
      Nested [1] levels items := by
  intro document headings levels places
  have isDocument : document = Tree.ofList (.document details) (Entry.arrange entries) :=
    document_run details entries
  have children : document.children = Entry.arrange entries := by
    rw [isDocument]
    simp [Tree.ofList, Tree.children, Slot.toList]
  have notSection : isSection document = false := by rw [isDocument]; rfl
  have collected : document.collectWhere isSection =
      (Entry.arrange entries).flatMap (Tree.collectWhere isSection) := by
    rw [Tree.collectWhere_eq, notSection, children]
    rfl
  have stand : places = Tree.placesInAll isSection 0 (Entry.arrange entries) := by
    change document.placesWhere isSection = _
    rw [Tree.placesWhere_eq, notSection, children]
    rfl
  have nested : Nested [] levels places := by
    rw [stand]
    exact Entry.nested_sections 0 entries
  refine ⟨⟨?sections, nested, ?depth⟩, Tree.orderedList ((Entry.arrange entries).flatMap forest),
    ?built, ?items, ?nestedItems⟩
  case sections =>
    have related := Entry.sections_arrange entries
    rw [← collected] at related
    refine (Tree.forall₂_placesWhere isSection related).imp ?_
    rintro place heading ⟨_, stands, body, rfl⟩
    exact ⟨body, stands⟩
  case depth =>
    have positive : ∀ level ∈ levels, 1 ≤ level := by
      intro level member
      obtain ⟨heading, -, rfl⟩ := List.mem_map.1 member
      exact heading.positive
    refine List.forall₂_of_length_eq_of_get nested.count fun i inPlaces inLevels => ?_
    exact nested.length_le positive i (List.getElem?_eq_getElem inPlaces)
      (List.getElem?_eq_getElem inLevels)
  case built =>
    have items : forest document = (Entry.arrange entries).flatMap forest := by
      rw [forest_eq, children]
      exact if_neg (ne_true_of_eq_false notSection)
    rw [build_of_lenient rfl, forestWithin_eq_forest rfl, items]
  case items =>
    have related := Entry.items_arrange entries
    rw [← Heading.collect_orderedList] at related
    refine (Tree.forall₂_placesWhere isItem related).imp ?_
    rintro place heading ⟨_, stands, below, rfl⟩
    exact ⟨below, stands⟩
  case nestedItems =>
    rw [Heading.places_orderedList]
    exact Entry.nested_items 0 entries

/-- A paragraph with a text is a node that may stand among headings. -/
theorem sections_paragraph (words : String) :
    (Tree.ofList .paragraph [.ofText words]).sections = [] := rfl

/-- Headings at levels 1, 3, 2 and 1 with a paragraph behind the first: the second and the third
stand next to each other in the first, behind its title and the paragraph, and their items are
nested likewise. -/
theorem nesting_of_headings_skippedLevel :
    let entries : List Entry :=
      [.heading ⟨"A", 1, .text "a", by decide⟩, .content _ (sections_paragraph "p"),
        .heading ⟨"B", 3, .text "b", by decide⟩, .heading ⟨"C", 2, .text "c", by decide⟩,
        .heading ⟨"D", 1, .text "d", by decide⟩]
    let document := (run { head := .document {} } (entries.map Entry.call)).document
    document.placesWhere isSection = [[0], [0, 2], [0, 3], [1]] ∧
      Nested [] [1, 3, 2, 1] [[0], [0, 2], [0, 3], [1]] ∧
      ∃ contents, (Contents.build {} document).value = .ok contents ∧
        Nested [1] [1, 3, 2, 1] (contents.placesWhere isItem) := by
  intro entries document
  have isDocument : document = Tree.ofList (.document {})
      [.ofSection (.ofText "A") [.ofList .paragraph [.ofText "p"],
        .ofSection (.ofText "B") [] (.text "b"), .ofSection (.ofText "C") [] (.text "c")]
        (.text "a"), .ofSection (.ofText "D") [] (.text "d")] := by
    rw [show document = _ from document_run {} entries]
    simp [entries, Entry.arrange, Entry.isWithin, Heading.section, List.takeWhile_cons,
      List.dropWhile_cons]
  have places : document.placesWhere isSection = [[0], [0, 2], [0, 3], [1]] := by
    rw [isDocument]
    rfl
  obtain ⟨⟨-, nested, -⟩, contents, built, -, nestedItems⟩ := nesting_of_headings {} entries
  change Nested [] _ (document.placesWhere isSection) at nested
  rw [places] at nested
  exact ⟨places, nested, contents, built, nestedItems⟩

end Folio.Building
