import Folio.FileTree
import Mathlib.Data.List.Basic

/-!
# Files that are written and read

A file that is put at a location where no directory stands changes what stands there and
nothing else that a path meets on its way: directories stay directories. So a path that was
written to leads to what was written. Texts with no carriage return are read as they were
written.
-/

namespace Folio

namespace FileTree

variable {files : FileTree} {location other : Location}

/-- What was put at a location stands there. -/
theorem entry?_put (location : Location) (content : ByteArray) (files : FileTree) :
    entry? (files.put location content) location = some (.file content) := by
  have none : (files.entries.filter fun entry => entry.1 != location).find?
      (fun entry => entry.1 == location) = Option.none := by
    rw [List.find?_filter, List.find?_eq_none]
    intro entry _
    simp
  simp [put, entry?, List.find?_append, none]

/-- An entry of its own at another location is found as before. -/
theorem find?_put (content : ByteArray) (differs : other ≠ location) :
    (files.put location content).entries.find? (fun entry => entry.1 == other) =
      files.entries.find? (fun entry => entry.1 == other) := by
  have last : [(location, FileEntry.file content)].find? (fun entry => entry.1 == other) =
      none := by
    simp [differs.symm]
  rw [put, List.find?_append, last, Option.or_none, List.find?_filter]
  congr 1
  funext entry
  by_cases same : entry.1 = other <;> simp [same, differs]

/-- A location that led to an entry still does. -/
theorem leads_put (content : ByteArray)
    (leads : files.entries.any (fun entry => other.isPrefixOf entry.1) = true) :
    (files.put location content).entries.any (fun entry => other.isPrefixOf entry.1) = true := by
  obtain ⟨entry, member, below⟩ := List.any_eq_true.1 leads
  rw [put, List.any_append, Bool.or_eq_true]
  by_cases same : entry.1 = location
  · right
    simpa [← same] using below
  · left
    exact List.any_eq_true.2 ⟨entry, List.mem_filter.2 ⟨member, by simpa using same⟩, below⟩

/-- Directories stay directories when a file is put where none of them stands. -/
theorem entry?_put_of_directory (content : ByteArray)
    (free : files.entry? location ≠ some .directory)
    (directory : files.entry? other = some .directory) :
    entry? (files.put location content) other = some .directory := by
  have differs : other ≠ location := fun same => free (same ▸ directory)
  unfold entry? at directory ⊢
  rw [find?_put content differs]
  cases found : files.entries.find? (fun entry => entry.1 == other) with
  | some entry =>
    rw [found] at directory
    exact directory
  | none =>
    rw [found] at directory
    simp only [ite_eq_left_iff, Bool.or_eq_true, reduceCtorEq, imp_false, not_not] at directory
    rcases directory with root | leads
    · simp [root]
    · simp [leads_put content leads]

/-- Files elsewhere stay as they are. -/
theorem entry?_put_of_file (content : ByteArray) {old : ByteArray} (differs : other ≠ location)
    (file : files.entry? other = some (.file old)) :
    entry? (files.put location content) other = some (.file old) := by
  unfold entry? at file ⊢
  rw [find?_put content differs]
  cases found : files.entries.find? (fun entry => entry.1 == other) with
  | some entry =>
    rw [found] at file
    exact file
  | none =>
    rw [found] at file
    simp at file

/-- A file has an entry of its own. -/
theorem mem_of_file {content : ByteArray} (file : files.entry? location = some (.file content)) :
    ∃ entry ∈ files.entries, entry.1 = location := by
  unfold entry? at file
  split at file
  · rename_i found
    exact ⟨_, List.mem_of_find?_eq_some found, by simpa using List.find?_some found⟩
  · split at file <;> cases file

/-- Where nothing stood, nothing stands after a file elsewhere has been replaced. -/
theorem entry?_put_of_none (content : ByteArray) {old : ByteArray}
    (replaced : files.entry? location = some (.file old)) (nothing : files.entry? other = none) :
    entry? (files.put location content) other = none := by
  have differs : other ≠ location := by
    rintro rfl
    rw [nothing] at replaced
    cases replaced
  -- The replaced file had an entry of its own, so no directory comes into being above it.
  obtain ⟨present, member, same⟩ := mem_of_file replaced
  unfold entry? at nothing ⊢
  rw [find?_put content differs]
  cases found : files.entries.find? (fun entry => entry.1 == other) with
  | some entry =>
    rw [found] at nothing
    cases nothing
  | none =>
    rw [found] at nothing
    simp only [ite_eq_right_iff, reduceCtorEq, imp_false, Bool.or_eq_true, not_or,
      Bool.not_eq_true, List.any_eq_false] at nothing ⊢
    refine ⟨nothing.1, fun entry inside => ?_⟩
    rw [put, List.mem_append] at inside
    rcases inside with kept | last
    · exact nothing.2 entry (List.mem_of_mem_filter kept)
    · obtain rfl := List.mem_singleton.1 last
      rw [← same]
      exact nothing.2 present member

/-- Names lead to the same location when a file is put where no directory stands. -/
theorem follow_put (content : ByteArray) (free : files.entry? location ≠ some .directory)
    {start place : Location} {names : List String}
    (leads : files.follow start names = .ok place) :
    (files.put location content).follow start names = .ok place := by
  induction names generalizing start with
  | nil => exact leads
  | cons name rest hypothesis =>
    rw [follow] at leads ⊢
    cases stands : files.entry? start with
    | none => simp [descend, stands] at leads
    | some entry =>
      cases entry with
      | file old => simp [descend, stands] at leads
      | directory =>
        have same : (files.put location content).descend start name =
            files.descend start name := by
          rw [descend, descend, entry?_put_of_directory content free stands, stands]
        rw [same]
        cases next : files.descend start name with
        | error problem => simp [next] at leads
        | ok further =>
          rw [next] at leads
          exact hypothesis leads

/-- A path leads to the same location when a file is put where no directory stands. -/
theorem locate_put (content : ByteArray) (free : files.entry? location ≠ some .directory)
    {path : FilePath} {place : Location} (leads : files.locate path = .ok place) :
    (files.put location content).locate path = .ok place := by
  have sameRoot : (files.put location content).belowRoot? path = files.belowRoot? path := rfl
  rw [locate] at leads ⊢
  rw [sameRoot]
  cases below : files.belowRoot? path with
  | some names =>
    rw [below] at leads
    exact follow_put content free leads
  | none =>
    rw [below] at leads
    by_cases absolute : path.absolute = true
    · simp [absolute] at leads
    · simp only [absolute, Bool.false_eq_true, if_false] at leads ⊢
      exact follow_put content free leads

/-- A path that lets a file be written leads to its location, where no directory stands. -/
theorem writable_spec {path : FilePath} (writable : files.writable path = .ok location) :
    files.locate path = .ok location ∧ files.entry? location ≠ some .directory := by
  rw [FileTree.writable] at writable
  cases leads : files.locate path with
  | error problem => simp [leads] at writable
  | ok place =>
    rw [leads] at writable
    cases stands : files.entry? place with
    | none =>
      simp only [stands] at writable
      cases above : files.entry? place.dropLast with
      | none => simp [above] at writable
      | some entry =>
        cases entry with
        | file old => simp [above] at writable
        | directory =>
          simp only [above, Except.ok.injEq] at writable
          subst writable
          simp [stands]
    | some entry =>
      cases entry with
      | directory => simp [stands] at writable
      | file old =>
        simp only [stands, Except.ok.injEq] at writable
        subst writable
        simp [stands]

/-- A file that is replaced takes no other file its place to be written. -/
theorem writable_put (content : ByteArray) {old : ByteArray} {path : FilePath}
    (replaced : files.entry? location = some (.file old))
    (writable : files.writable path = .ok other) :
    (files.put location content).writable path = .ok other := by
  have free : files.entry? location ≠ some .directory := by simp [replaced]
  obtain ⟨leads, -⟩ := writable_spec writable
  rw [FileTree.writable, leads] at writable
  rw [FileTree.writable, locate_put content free leads]
  cases stands : files.entry? other with
  | none =>
    simp only [stands] at writable
    simp only [entry?_put_of_none content replaced stands]
    cases above : files.entry? other.dropLast with
    | none => simp [above] at writable
    | some entry =>
      cases entry with
      | file old => simp [above] at writable
      | directory => simp only [entry?_put_of_directory content free above]
  | some entry =>
    cases entry with
    | directory => simp [stands] at writable
    | file kept =>
      by_cases same : other = location
      · subst same
        simp only [entry?_put]
      · simp only [entry?_put_of_file content same stands]

/-- What was put where a path leads is read from that path. -/
theorem read_put (content : ByteArray) {path : FilePath} (leads : files.locate path = .ok location)
    (free : files.entry? location ≠ some .directory) :
    (files.put location content).read path = .ok content := by
  rw [read, locate_put content free leads]
  simp only [entry?_put]

/-- A file put elsewhere changes nothing of what is read. -/
theorem read_put_of_ne (content : ByteArray) {path : FilePath} {old : ByteArray}
    (leads : files.locate path = .ok other) (file : files.entry? other = some (.file old))
    (free : files.entry? location ≠ some .directory) (differs : other ≠ location) :
    (files.put location content).read path = .ok old := by
  rw [read, locate_put content free leads]
  simp only [entry?_put_of_file content differs file]

end FileTree

namespace Text

/-- Line ends without a carriage return are unified. -/
theorem unifyLineEnds_of_notMem {text : List Char} (unified : '\r' ∉ text) :
    unifyLineEnds text = text := by
  induction text with
  | nil => rfl
  | cons character rest hypothesis =>
    obtain ⟨here, later⟩ : '\r' ≠ character ∧ '\r' ∉ rest := by simpa using unified
    rw [unifyLineEnds.eq_def]
    split
    · rename_i equal
      exact absurd (List.cons.inj equal).1.symm here
    · rename_i equal
      exact absurd (List.cons.inj equal).1.symm here
    · rename_i equal
      obtain ⟨rfl, rfl⟩ := List.cons.inj equal
      rw [hypothesis later]
    · rename_i equal
      cases equal

/-- The bytes of a text are decoded as that text. -/
theorem fromUTF8?_toUTF8 (text : String) : String.fromUTF8? text.toUTF8 = some text := by
  have valid : text.toUTF8.IsValidUTF8 := text.isValidUTF8
  rw [String.fromUTF8?, dif_pos valid]
  rfl

/-- The bytes of a text without carriage returns are read as that text. -/
theorem ofBytes?_toUTF8 {text : String} (unified : '\r' ∉ text.toList) :
    ofBytes? text.toUTF8 = some text := by
  rw [ofBytes?, fromUTF8?_toUTF8, Option.map_some, unifyLineEnds_of_notMem unified,
    String.ofList_toList]

end Text

end Folio
