import Folio.Logging
import Folio.Proofs.FileTree

/-!
# The log and other files

Setting up the log makes its file, and from then on records only lengthen it. So a file that
could be written before records were written still can be, and a file that has been written
keeps its text: all that ever follows it are lines of the log, and these only if the log goes
to that very file.
-/

namespace Folio.Logging

/-- The file that gets the records is there, if one does. -/
def Outputs.Open (outputs : Outputs) (files : FileTree) : Prop :=
  ∀ location ∈ outputs.file, ∃ content, files.entry? location = some (.file content)

/-- What records do to the files: a log file that is there gets longer. -/
theorem files_write {outputs : Outputs} {written : Written} (isOpen : outputs.Open written.files)
    (records : List LogRecord) :
    (outputs.file = none ∧ (write outputs records written).files = written.files) ∨
      ∃ location content, outputs.file = some location ∧
        written.files.entry? location = some (.file content) ∧
        (write outputs records written).files =
          written.files.put location (content ++ (lines outputs records).toUTF8) := by
  cases named : outputs.file with
  | none =>
    left
    simp only [write, named, and_self]
  | some location =>
    right
    obtain ⟨content, stands⟩ := isOpen location named
    refine ⟨location, content, rfl, stands, ?_⟩
    simp only [write, named, stands]

/-- The log file stays there when a file is put anywhere but in the place of a directory. -/
theorem Outputs.Open.put {outputs : Outputs} {files : FileTree} (isOpen : outputs.Open files)
    (location : Location) (content : ByteArray) : outputs.Open (files.put location content) := by
  intro place named
  obtain ⟨old, stands⟩ := isOpen place named
  by_cases same : place = location
  · subst same
    exact ⟨content, FileTree.entry?_put place content files⟩
  · exact ⟨old, FileTree.entry?_put_of_file content same stands⟩

/-- The log file is still there after records have been written. -/
theorem Outputs.Open.write {outputs : Outputs} {written : Written}
    (isOpen : outputs.Open written.files) (records : List LogRecord) :
    outputs.Open (Logging.write outputs records written).files := by
  rcases files_write isOpen records with ⟨-, same⟩ | ⟨location, content, -, -, longer⟩
  · rwa [same]
  · rw [longer]
    exact isOpen.put location _

/-- Setting up the log makes its file. -/
theorem configure_open (level : Level) (file : Option String) (trace : Bool)
    (files : FileTree) :
    (configure level file trace files).1.Open (configure level file trace files).2.files := by
  rw [configure.eq_def]
  split
  · rintro location ⟨⟩
  · rintro location ⟨⟩
  · split
    · rintro location ⟨⟩
    · rename_i place _
      rintro location ⟨⟩
      simp only [write]
      split <;> exact ⟨_, FileTree.entry?_put ..⟩

variable {outputs : Outputs} {written : Written} {path : FilePath} {location : Location}

/-- A file that could be written still can be after records have been written. -/
theorem writable_write (isOpen : outputs.Open written.files) (records : List LogRecord)
    (writable : written.files.writable path = .ok location) :
    (write outputs records written).files.writable path = .ok location := by
  rcases files_write isOpen records with ⟨-, same⟩ | ⟨place, content, -, stands, longer⟩
  · rwa [same]
  · rw [longer]
    exact FileTree.writable_put _ stands writable

/-- A file that was written keeps its content; only the lines of a log that goes to the same
file follow. -/
theorem read_write (isOpen : outputs.Open written.files) (records : List LogRecord)
    {content : ByteArray} (writable : written.files.writable path = .ok location)
    (after : Written) (put : after.files = written.files.put location content) :
    ∃ logged, (write outputs records after).files.read path = .ok (content ++ logged) ∧
      (outputs.file ≠ some location → logged = ByteArray.empty) := by
  obtain ⟨leads, free⟩ := FileTree.writable_spec writable
  have openAfter : outputs.Open after.files := put ▸ isOpen.put location content
  have leadsAfter := FileTree.locate_put content free leads
  have here := FileTree.entry?_put location content written.files
  rw [← put] at leadsAfter here
  rcases files_write openAfter records with ⟨noLog, same⟩ | ⟨place, old, logs, stands, longer⟩
  · refine ⟨ByteArray.empty, ?_, fun _ => rfl⟩
    rw [same, put, FileTree.read_put content leads free, ByteArray.append_empty]
  · by_cases own : place = location
    · subst own
      rw [here] at stands
      cases stands
      refine ⟨(lines outputs records).toUTF8, ?_, fun other => absurd logs other⟩
      rw [longer, FileTree.read_put _ leadsAfter (by simp [here])]
    · refine ⟨ByteArray.empty, ?_, fun _ => rfl⟩
      rw [longer, ByteArray.append_empty]
      exact FileTree.read_put_of_ne _ leadsAfter here (by simp [stands]) (Ne.symm own)

end Folio.Logging
