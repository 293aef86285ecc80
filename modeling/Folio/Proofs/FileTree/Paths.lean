import Folio.Proofs.FileTree

/-!
# Paths from the root

The text of a location is a path that leads there. This needs names that can be written in a path,
and files with nothing below them (`FileTree.Proper`): then all that a path meets on the way to a
file are directories, and a file is read by the path of its location.
-/

namespace Folio

/-- A name that a path leads along: it is not read as several names, as none or as the way up. -/
structure FilePath.IsName (name : String) : Prop where
  whole : '/' ∉ name.toList
  shown : name ≠ "" ∧ name ≠ "."
  down : name ≠ ".."

instance (name : String) : Decidable (FilePath.IsName name) :=
  decidable_of_iff ('/' ∉ name.toList ∧ (name ≠ "" ∧ name ≠ ".") ∧ name ≠ "..")
    ⟨fun ⟨whole, shown, down⟩ => ⟨whole, shown, down⟩, fun isName => ⟨isName.1, isName.2, isName.3⟩⟩

/-- A file tree as file systems have it: names can be written in paths, there is nothing below a
file, and the root is not written as the working directory. -/
structure FileTree.Proper (files : FileTree) : Prop where
  names : ∀ entry ∈ files.entries, ∀ name ∈ entry.1, FilePath.IsName name
  leaves : ∀ location content, files.entry? location = some (.file content) →
    ∀ entry ∈ files.entries, location <+: entry.1 → entry.1 = location
  root : (FilePath.ofText (files.root ++ "/")).absolute = true ∨
    (FilePath.ofText (files.root ++ "/")).names ≠ []

namespace FilePath

/-- A text has at least one part between slashes. -/
theorem splitSlashes_ne_nil (text : List Char) : splitSlashes text ≠ [] := by
  rw [splitSlashes.eq_def]
  split
  · simp
  · simp
  · split <;> simp

/-- A character that is no slash belongs to the first part. -/
theorem splitSlashes_cons {character : Char} (plain : character ≠ '/') {rest part : List Char}
    {others : List (List Char)} (cut : splitSlashes rest = part :: others) :
    splitSlashes (character :: rest) = (character :: part) :: others := by
  rw [splitSlashes.eq_def]
  split
  · rename_i same
    cases same
  · rename_i same
    exact absurd (List.cons.inj same).1 plain
  · rename_i same
    obtain ⟨rfl, rfl⟩ := List.cons.inj same
    rw [cut]

/-- What is in front of a slash and what follows it are cut separately. -/
theorem splitSlashes_append (before after : List Char) :
    splitSlashes (before ++ '/' :: after) = splitSlashes before ++ splitSlashes after := by
  induction before with
  | nil => rfl
  | cons character rest hypothesis =>
    by_cases slash : character = '/'
    · subst slash
      exact congrArg ([] :: ·) hypothesis
    · obtain ⟨part, others, cut⟩ := List.exists_cons_of_ne_nil (splitSlashes_ne_nil rest)
      rw [cut, List.cons_append] at hypothesis
      rw [List.cons_append, splitSlashes_cons slash hypothesis, splitSlashes_cons slash cut,
        List.cons_append]

/-- A text without slashes is one part. -/
theorem splitSlashes_of_notMem {text : List Char} (whole : '/' ∉ text) :
    splitSlashes text = [text] := by
  induction text with
  | nil => rfl
  | cons character rest hypothesis =>
    obtain ⟨plain, later⟩ : '/' ≠ character ∧ '/' ∉ rest := by simpa using whole
    exact splitSlashes_cons plain.symm (hypothesis later)

/-- A name behind a slash is the last name of a path. -/
theorem names_ofText_append (text : String) {name : String} (isName : IsName name) :
    (ofText (text ++ "/" ++ name)).names = (ofText text).names ++ [name] := by
  have characters : (text ++ "/" ++ name).toList = text.toList ++ '/' :: name.toList := by simp
  have kept : [name].filter (fun name => name != "" && name != ".") = [name] := by
    simp [isName.shown]
  rw [ofText, ofText, characters, splitSlashes_append, splitSlashes_of_notMem isName.whole,
    List.map_append, List.filter_append, List.map_singleton, String.ofList_toList, kept]

/-- A slash at the end adds no name. -/
theorem names_ofText_slash (text : String) :
    (ofText (text ++ "/")).names = (ofText text).names := by
  have characters : (text ++ "/").toList = text.toList ++ '/' :: [] := by simp
  rw [ofText, ofText, characters, splitSlashes_append]
  simp [splitSlashes]

/-- The names behind a text are the last names of a path. -/
theorem names_ofText_join (text : String) {location : Location}
    (areNames : ∀ name ∈ location, IsName name) :
    (ofText (text ++ String.join (location.map fun name => "/" ++ name))).names =
      (ofText text).names ++ location := by
  induction location generalizing text with
  | nil => simp
  | cons name rest hypothesis =>
    obtain ⟨isName, areNames⟩ := List.forall_mem_cons.1 areNames
    have shown : text ++ String.join ((name :: rest).map fun name => "/" ++ name) =
        text ++ "/" ++ name ++ String.join (rest.map fun name => "/" ++ name) := by
      simp [String.append_assoc]
    rw [shown, hypothesis _ areNames, names_ofText_append text isName, List.append_assoc,
      List.singleton_append]

end FilePath

namespace FileTree

variable {files : FileTree} {location : Location} {content : ByteArray}

/-- The names of the path of a location are those that lead there from the root. -/
theorem belowRoot?_locationText (proper : files.Proper)
    (areNames : ∀ name ∈ location, FilePath.IsName name) (below : location ≠ []) :
    files.belowRoot? (FilePath.ofText (files.locationText location)) = some location := by
  have names : (FilePath.ofText (files.locationText location)).names = _ :=
    FilePath.names_ofText_join files.root areNames
  have absolute : (FilePath.ofText (files.locationText location)).absolute =
      (FilePath.ofText (files.root ++ "/")).absolute := by
    obtain ⟨name, rest, rfl⟩ := List.exists_cons_of_ne_nil below
    simp [FilePath.ofText, locationText, List.head?_append]
  have root := proper.root
  rw [FilePath.names_ofText_slash, ← absolute] at root
  rw [belowRoot?, names, if_pos]
  · rw [List.drop_left]
  · simpa [List.isEmpty_iff] using root

/-- Names lead from directory to directory. -/
theorem follow_of_directories {start rest : Location} (down : ∀ name ∈ rest, name ≠ "..")
    (directories : ∀ before after, rest = before ++ after → after ≠ [] →
      files.entry? (start ++ before) = some .directory) :
    files.follow start rest = .ok (start ++ rest) := by
  induction rest generalizing start with
  | nil => simp [follow]
  | cons name rest hypothesis =>
    obtain ⟨isDown, down⟩ := List.forall_mem_cons.1 down
    have here : files.entry? start = some .directory := by
      simpa using directories [] (name :: rest) rfl (by simp)
    have next : files.descend start name = .ok (start ++ [name]) := by
      simp [descend, here, isDown]
    have further (before after : List String) (isRest : rest = before ++ after)
        (more : after ≠ []) : files.entry? (start ++ [name] ++ before) = some .directory := by
      simpa using directories (name :: before) after (congrArg (name :: ·) isRest) more
    have later := hypothesis down further
    rw [follow, next]
    simpa using later

/-- On the way to a file are directories. -/
theorem entry?_above_file (proper : files.Proper)
    (file : files.entry? location = some (.file content)) {before after : Location}
    (isLocation : location = before ++ after) (more : after ≠ []) :
    files.entry? before = some .directory := by
  obtain ⟨entry, member, rfl⟩ := mem_of_file file
  have leads : before <+: entry.1 := ⟨after, isLocation.symm⟩
  have inside : files.entries.any (fun entry => before.isPrefixOf entry.1) = true :=
    List.any_eq_true.2 ⟨entry, member, List.isPrefixOf_iff_prefix.2 leads⟩
  cases stands : files.entry? before with
  | none =>
    unfold entry? at stands
    split at stands
    · cases stands
    · simp [inside] at stands
  | some found =>
    cases found with
    | directory => rfl
    | file other =>
      have same := proper.leaves before other stands entry member leads
      rw [isLocation] at same
      exact absurd (List.append_right_eq_self.1 same) more

/-- A file is read by the path of its location. -/
theorem read_locationText (proper : files.Proper) (below : location ≠ [])
    (file : files.entry? location = some (.file content)) :
    files.read (FilePath.ofText (files.locationText location)) = .ok content := by
  have areNames : ∀ name ∈ location, FilePath.IsName name := by
    obtain ⟨entry, member, rfl⟩ := mem_of_file file
    exact proper.names entry member
  have leads : files.follow [] location = .ok location :=
    follow_of_directories (fun name member => (areNames name member).down)
      fun before after isLocation more => entry?_above_file proper file isLocation more
  rw [read, locate, belowRoot?_locationText proper areNames below]
  simp only [leads, file]

end FileTree

end Folio
