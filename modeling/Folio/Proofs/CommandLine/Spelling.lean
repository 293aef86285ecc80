import Folio.Proofs.CommandLine.Fixpoint
import Folio.Proofs.Contents.Ranks
import Folio.Proofs.References.Bounds
import Folio.Proofs.Slug.Form
import Folio.Proofs.Tree.Spelling

/-!
# What a report is spelled in

A report without drawings tells of the document that was read, so there is nothing in it but ASCII,
characters of the document and those of the fallback, which may become a reference. A host that can
print these can print every such report (`Host.Covers.canPrint`).
-/

namespace Folio

/-- The host can print ASCII, the characters of a document and those of the fallback. One that
encodes what it prints in UTF-8 does so unless a text holds half of a surrogate pair; one that
escapes what it cannot encode always does. -/
structure Host.Covers (host : Host) (options : ReferenceOptions) (document : Tree) : Prop where
  ascii : ∀ character, Text.isAscii character = true → host.prints character = true
  fallback : Text.Consists host.prints options.fallbackSlug.plain
  document : document.Everywhere (Tree.IsSpelled host.prints)

/-- Half of a surrogate pair is not ASCII. -/
theorem Text.isEncodable_of_isAscii {character : Char} (ascii : isAscii character = true) :
    isEncodable character = true := by
  rw [isAscii, decide_eq_true_eq] at ascii
  have below : ¬(0xE0800 ≤ character.toNat ∧ character.toNat ≤ 0xE0FFF) := by omega
  simp [isEncodable, half?, below]

/-- A host that encodes what it prints in UTF-8 covers a document in which all texts can be
encoded. -/
theorem Host.covers_default {options : ReferenceOptions}
    (fallback : Text.Consists Text.isEncodable options.fallbackSlug.plain) {document : Tree}
    (spelled : document.Everywhere (Tree.IsSpelled Text.isEncodable)) :
    Host.Covers {} options document :=
  ⟨fun _ => Text.isEncodable_of_isAscii, fallback, spelled⟩

namespace CommandLine

open Folio.Contents Folio.References Folio.Tree
open Text (Consists isAscii isPlain consists_append)

variable {allowed : Char → Bool}

/-- What stands in a structural field is a child. -/
theorem mem_children_of_contentsOf {name : String} {tree child : Tree}
    (member : child ∈ contentsOf name tree) : child ∈ tree.children := by
  rw [contentsOf] at member
  cases found : tree.slot? name with
  | none => simp [found] at member
  | some slot =>
    rw [found] at member
    cases tree with
    | stray value => cases found
    | node head metadata slots =>
      obtain ⟨entry, named, rfl⟩ := Option.map_eq_some_iff.1 found
      have inSlots := (List.of_mem_zip (List.mem_of_find?_eq_some named)).2
      exact List.mem_flatMap.2 ⟨entry.2, inSlots, member⟩

section Given

variable (ascii : ∀ character, isAscii character = true → allowed character = true)
  {options : ReferenceOptions} (typed : options.WellTyped)
  (fallback : Consists allowed options.fallbackSlug.plain)

include ascii fallback

/-- A slug is ASCII or the fallback. -/
theorem consists_slug (title : String) :
    Consists allowed (Slug.ofText title options.fallbackSlug.plain) := by
  rw [Slug.ofText_eq]
  split
  · exact fallback
  · rename_i some
    exact Text.consists_ofList.2 fun character member =>
      ascii character (decide_eq_true ((Slug.isSlug_core some).ascii character member))

include typed

/-- A reference that is chosen adds no more to a slug than a hyphen and digits. -/
theorem spelled_choose (taken : List Scalar) (title : String) :
    (Json.scalar (choose options taken title)).Spelled allowed := by
  obtain ⟨start, startEq, _⟩ := typed.start
  have slug := consists_slug ascii fallback title
  obtain ⟨increments, _, _, _, chosen, _⟩ := unique_int taken
    (.text (Slug.ofText title options.fallbackSlug.plain)) start
  rw [choose, startEq]
  change (Json.scalar (unique taken (.int start) _)).Spelled allowed
  rw [chosen]
  split
  · rw [numbered_int]
    have hyphen : Consists isPlain "-" := by decide
    exact (Json.spelled_str_iff ascii).2 (consists_append.2
      ⟨consists_append.2 ⟨slug, hyphen.mono (plain_of_ascii ascii)⟩,
        (Json.consists_int _).mono (plain_of_ascii ascii)⟩)
  · exact (Json.spelled_str_iff ascii).2 slug

/-- Giving references leaves a document spelled. -/
theorem spelled_assign {tree : Tree} (spelled : tree.Everywhere (IsSpelled allowed)) :
    (assign options tree).tree.Everywhere (IsSpelled allowed) := by
  obtain ⟨without, references⟩ := (spelled_iff tree).1 spelled
  refine (spelled_iff _).2 ⟨?_, ?_⟩
  · rwa [withoutReferences_assign]
  · exact assign_forall typed (spelled_choose ascii typed fallback) references

end Given

section Parts

variable (ascii : ∀ character, isAscii character = true → allowed character = true)

include ascii

/-- A line adds indentation, a number and brackets to a title and a reference. -/
theorem consists_line (level number : Nat) {title reference : String}
    (titled : Consists allowed title) (referenced : Consists allowed reference) :
    Consists allowed (line level number title reference) := by
  have literal {text : String} (isPlain : Consists isPlain text) : Consists allowed text :=
    isPlain.mono (plain_of_ascii ascii)
  have indentation : Consists allowed (String.join (List.replicate level "  ")) := by
    refine Text.consists_join fun text member => ?_
    obtain rfl := List.eq_of_mem_replicate member
    exact literal (by decide)
  have number : Consists allowed (toString number) := literal (Json.consists_int number)
  simp only [line, consists_append]
  exact ⟨⟨⟨⟨⟨indentation, number, literal (by decide)⟩, titled⟩, literal (by decide)⟩, referenced⟩,
    literal (by decide)⟩

section Document

variable {document : Tree} (spelled : document.Everywhere (IsSpelled allowed))

include spelled

/-- The title at a place consists of characters of the document. -/
theorem consists_titleAt (place : Position) : Consists allowed (titleAt document place) := by
  rw [titleAt]
  cases stands : document.at? place with
  | none => exact Text.consists_empty
  | some visited => exact consists_titleText ascii (spelled.of_mem (mem_preorder_of_at? stands))

/-- So does the reference at a place. -/
theorem consists_referenceAt (place : Position) :
    Consists allowed (referenceAt document place) := by
  rw [referenceAt]
  cases stands : document.at? place with
  | none => exact Text.consists_empty
  | some visited => exact (spelled visited (mem_preorder_of_at? stands)).consists_reference ascii

/-- The row of a figure shows the source of its image and texts inside it. -/
theorem consists_figureRow : Consists allowed (figureRow document).1 ∧
    Consists allowed (figureRow document).2 := by
  have inside (name : String) : ∀ child ∈ contentsOf name document,
      child.Everywhere (IsSpelled allowed) := fun child member =>
    (everywhere_iff.1 spelled).2 child (mem_children_of_contentsOf member)
  constructor
  · have image := inside "image"
    rw [figureRow]
    dsimp only
    split
    · rename_i source description metadata slots others found
      rw [found] at image
      have spelledImage := (everywhere_iff.1 (image _ List.mem_cons_self)).1
      exact consists_plain ascii
        (spelledImage.1 ("source", .text source) List.mem_cons_self)
    · exact Text.consists_empty
  · refine Text.consists_join fun text member => ?_
    obtain ⟨child, isInside, rfl⟩ := List.mem_map.1 member
    exact consists_text ascii (inside "description" child isInside)

/-- The row of a link to the web shows its target and its label. -/
theorem consists_linkRow : Consists allowed (linkRow document).1 ∧
    Consists allowed (linkRow document).2 := by
  refine ⟨?_, consists_text ascii spelled⟩
  have here := (everywhere_iff.1 spelled).1
  cases document with
  | stray value => exact Text.consists_empty
  | node head metadata slots =>
    cases head with
    | webLink target =>
      exact consists_plain ascii (here.1 ("uri", .text target) (List.mem_singleton_self _))
    | _ => exact Text.consists_empty

/-- What is collected is shown in characters of the document, or counted. -/
theorem consists_rows (kind : Collected) : ∀ row ∈ kind.rows document,
    Consists allowed row.1 ∧ Consists allowed row.2 := by
  have counted (count : Nat) : Consists allowed (toString count) :=
    (Json.consists_int count).mono (plain_of_ascii ascii)
  cases kind with
  | figures =>
    refine List.forall_mem_map.2 fun figure member => ?_
    exact consists_figureRow ascii (spelled.of_mem (List.mem_of_mem_filter member))
  | tables =>
    intro row member
    obtain ⟨index, inside, rfl⟩ := List.mem_mapIdx.1 member
    exact ⟨counted _, counted _⟩
  | links =>
    refine List.forall_mem_map.2 fun link member => ?_
    exact consists_linkRow ascii (spelled.of_mem (List.mem_of_mem_filter member))

end Document

end Parts

/-- The report on a table of contents that is built has a line for each listed section. -/
theorem report_contents {invocation : Invocation} (task : invocation.task = .contents)
    (plain : invocation.given.rich = false) {options : ReferenceOptions × ContentsOptions}
    (typed : options.1.WellTyped) {document table : Tree}
    (built : (build options.2 (assign options.1 document).tree).value = .ok table) :
    (invocation.report options document).value =
      .ok ((listedPlaces options.2 0 (assign options.1 document).tree).map fun place =>
        line (listedAbove options.2 0 (assign options.1 document).tree place).length
          (rankAt options.2 0 (assign options.1 document).tree place)
          (titleAt (assign options.1 document).tree place)
          (referenceAt (assign options.1 document).tree place)) := by
  obtain rfl := eq_of_build built
  rw [← lines_table]
  simp only [Invocation.report, task, plain, withReferences, (assign_give typed document).2,
    reportContents, built]
  rfl

/-- A report without drawings on a typed document consists of ASCII and of characters of the
document and of the fallback. -/
theorem consists_report
    (ascii : ∀ character, isAscii character = true → allowed character = true)
    {invocation : Invocation} (plain : invocation.given.rich = false)
    {options : ReferenceOptions × ContentsOptions} (typed : options.1.WellTyped)
    (fallback : Consists allowed options.1.fallbackSlug.plain) {document : Tree}
    (typedTree : document.Typed) (spelled : document.Everywhere (IsSpelled allowed))
    {report : List String} (told : (invocation.report options document).value = .ok report) :
    ∀ text ∈ report, Consists allowed text := by
  have given := spelled_assign ascii typed fallback spelled
  cases task : invocation.task with
  | contents =>
    cases built : (build options.2 (assign options.1 document).tree).value with
    | error cause =>
      simp only [Invocation.report, task, withReferences, (assign_give typed document).2,
        reportContents, built] at told
      cases told
    | ok table =>
      rw [report_contents task plain typed built] at told
      obtain rfl := Except.ok.inj told
      exact List.forall_mem_map.2 fun place _ => consists_line ascii _ _
        (consists_titleAt ascii given place) (consists_referenceAt ascii given place)
  | text =>
    simp only [Invocation.report, task] at told
    obtain rfl := Except.ok.inj told
    exact List.forall_mem_singleton.2 (consists_text ascii spelled)
  | references =>
    have noFault := (assign_give typed document).2
    rw [report_references task options noFault (typed_assign typed typedTree)] at told
    obtain rfl := Except.ok.inj told
    refine List.forall_mem_singleton.2 ?_
    have plainAllowed := plain_of_ascii ascii
    exact Json.consists_render plainAllowed _ (spelled_encode plainAllowed given)
  | collect kind =>
    simp only [Invocation.report, task, plain, reportCollected] at told
    obtain rfl := Except.ok.inj told
    refine List.forall_mem_map.2 fun row member => ?_
    obtain ⟨first, second⟩ := consists_rows ascii spelled kind row member
    have tab : Consists isAscii "\t" := by decide
    exact consists_append.2 ⟨consists_append.2 ⟨first, tab.mono ascii⟩, second⟩

/-- A host that covers a document can print every report on it without drawings. -/
theorem canPrint_of_covers {host : Host} {options : ReferenceOptions × ContentsOptions}
    {document : Tree} (covers : host.Covers options.1 document) {invocation : Invocation}
    (plain : invocation.given.rich = false) (typed : options.1.WellTyped)
    (typedTree : document.Typed) {report : List String}
    (told : (invocation.report options document).value = .ok report) :
    host.canPrint (printed report) = true := by
  have each := consists_report covers.ascii plain typed covers.fallback typedTree covers.document
    told
  have lineEnd : Consists host.prints "\n" := Consists.mono covers.ascii (by decide)
  have consists : Consists host.prints (printed report) :=
    Text.consists_join (List.forall_mem_map.2 fun text member =>
      consists_append.2 ⟨each text member, lineEnd⟩)
  exact List.all_eq_true.2 consists

end CommandLine

end Folio
