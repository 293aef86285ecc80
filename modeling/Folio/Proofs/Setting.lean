import Folio.Proofs.Json.Exact
import Folio.Setting

/-!
# Settings whose keys are texts

Tables may have any scalars as keys, but only one of the formats can write other keys than
texts. `Setting.Named` says that all keys are texts, at whatever depth; it is kept by whatever
puts entries into tables, and it holds of everything that comes from JSON.
-/

namespace Folio

/-- All keys in a setting are texts. -/
inductive Setting.Named : Setting → Prop where
  | scalar (value : Scalar) : Named (.scalar value)
  | foreign (value : Foreign) : Named (.foreign value)
  | list {items : List Setting} (each : ∀ item ∈ items, Named item) : Named (.list items)
  | table {entries : Settings} (keys : ∀ entry ∈ entries, ∃ name, entry.1 = .text name)
      (values : ∀ entry ∈ entries, Named entry.2) : Named (.table entries)

namespace Setting

/-- A list has texts for keys if its items have. -/
theorem named_list {items : List Setting} :
    Named (.list items) ↔ ∀ item ∈ items, Named item :=
  ⟨fun named => match named with | .list each => each, .list⟩

/-- A table has texts for keys if its own are texts and its values have such. -/
theorem named_table {entries : Settings} :
    Named (.table entries) ↔
      ∀ entry ∈ entries, (∃ name, entry.1 = .text name) ∧ Named entry.2 :=
  ⟨fun named => match named with
    | .table keys values => fun entry member => ⟨keys entry member, values entry member⟩,
    fun each => .table (fun entry member => (each entry member).1)
      fun entry member => (each entry member).2⟩

variable {entries : Settings} {name : String} {value : Setting}

/-- What is found in a table has only texts as keys if the table has. -/
theorem Named.named? (named : Named (.table entries)) (found : entries.named? name = some value) :
    value.Named := by
  obtain ⟨entry, first, rfl⟩ := Option.map_eq_some_iff.1 found
  exact (named_table.1 named entry (List.mem_of_find?_eq_some first)).2

/-- A value that is put under a text leaves texts for keys. -/
theorem Named.put (named : Named (.table entries)) (isNamed : value.Named) :
    Named (.table (entries.put (.text name) value)) := by
  induction entries with
  | nil => exact named_table.2 (by simpa [Settings.put] using isNamed)
  | cons entry rest hypothesis =>
    obtain ⟨key, old⟩ := entry
    obtain ⟨first, others⟩ := List.forall_mem_cons.1 (named_table.1 named)
    rw [Settings.put]
    split
    · exact named_table.2 (List.forall_mem_cons.2 ⟨⟨first.1, isNamed⟩, others⟩)
    · exact named_table.2
        (List.forall_mem_cons.2 ⟨first, named_table.1 (hypothesis (named_table.2 others))⟩)

/-- So does one that is added at the end. -/
theorem Named.append (named : Named (.table entries)) (isNamed : value.Named) :
    Named (.table (entries ++ [(.text name, value)])) :=
  named_table.2 <| List.forall_mem_append.2
    ⟨named_table.1 named, by simpa using isNamed⟩

/-- Items become settings one by one. -/
theorem ofJsonItems_eq (items : List Json) : ofJsonItems items = items.map ofJson := by
  induction items with
  | nil => rfl
  | cons item rest hypothesis => rw [ofJsonItems, hypothesis, List.map_cons]

/-- Members become entries with texts for keys. -/
theorem ofJsonMembers_eq (members : Json.Members) :
    ofJsonMembers members = members.map fun member => (.text member.1, ofJson member.2) := by
  induction members with
  | nil => rfl
  | cons member rest hypothesis => rw [ofJsonMembers, hypothesis, List.map_cons]

/-- The names of JSON members are texts. -/
theorem named_ofJson (value : Json) : (ofJson value).Named := by
  induction value using Json.induction with
  | scalar value => exact .scalar value
  | arr items below =>
    rw [ofJson, ofJsonItems_eq]
    exact named_list.2 (List.forall_mem_map.2 below)
  | obj members below =>
    rw [ofJson, ofJsonMembers_eq]
    exact named_table.2 (List.forall_mem_map.2 fun member inside => ⟨⟨_, rfl⟩, below member inside⟩)

end Setting

end Folio
