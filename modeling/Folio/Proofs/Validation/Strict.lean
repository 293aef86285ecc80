import Folio.Proofs.Validation.Exact
import Folio.Session

/-!
# The strict check

Both checks report the misfits of a tree in the same order. So the strict check ends with the first
of what the lenient one finds, and with nothing if that finds nothing. The failure that the
strict check becomes has the message of this violation, and its path is what stands in front of
the message. The document is left as it is by either check.
-/

namespace Folio

/-- A validation error that is made from a wording and a path puts the path in front. -/
theorem make_validation (wording : String) {path : String} (given : path ≠ "") :
    Failure.make .validation [.str wording, .str path] =
      .ok (.own .validation (path ++ ": " ++ wording) [("path", .str path)]) := by
  have isSet : (Setting.ofJson (.str path)).isSet = true := by
    simp [Setting.ofJson, Setting.isSet, Scalar.isSet, given]
  have bound : ErrorClass.validation.signature.bind [Json.str wording, .str path] [] =
      .ok ⟨[("message", .str wording), ("path", .str path)], [], []⟩ := rfl
  rw [Failure.make, bound]
  show Except.ok (Failure.own _ ((if (Setting.ofJson (.str path)).isSet then _ else _) ++ _) _) = _
  rw [isSet]
  rfl

namespace Violation

/-- What a violation says behind its path. -/
def complaint (violation : Violation) : String :=
  s!"expected {violation.expected}, got {violation.found}"

/-- A message tells the place and then the complaint. -/
theorem message_eq (violation : Violation) :
    violation.message = violation.path ++ ": " ++ violation.complaint := by
  apply String.toList_injective
  simp [message, complaint, toString]

/-- The failure of a violation is the one made from its complaint and its path. -/
theorem make_eq {violation : Violation} (given : violation.path ≠ "") :
    Failure.make .validation [.str violation.complaint, .str violation.path] =
      .ok (.ofViolation violation) := by
  rw [make_validation _ given, ← message_eq, Failure.ofViolation]

end Violation

namespace Tree

/-- Below the root, paths are not empty. -/
theorem path_ne_empty {tree : Tree} {path : String} {misfit : Misfit}
    (listed : misfit ∈ tree.misfits) : (misfit.violation path).path ≠ "" := by
  obtain ⟨descent, rest, isPlace⟩ := List.exists_cons_of_ne_nil (place_ne_nil listed)
  simp [Misfit.violation, placeText, isPlace]

end Tree

/-- Of the document of a session, the strict check gives the first of what the lenient check
finds, and fails if that finds anything. The message of the failure is the first entry, the
path of the failure stands in front of it, and no check changes the session. -/
theorem validate_first (state : Session.State) :
    ∃ found : List Violation,
      state.document.check false state.document.rootPath [] = .ok found ∧
      Session.apply (.validate false) state = (state, .ok (.violations found)) ∧
      state.document.check true state.document.rootPath [] =
        (match found with
          | [] => .ok []
          | first :: _ => .error first) ∧
      Session.apply (.validate true) state =
        (state, match found with
          | [] => .ok (.violations [])
          | first :: _ => .error (.ofViolation first)) ∧
      ∀ violation ∈ found,
        violation.message = violation.path ++ ": " ++ violation.complaint ∧
        Failure.make .validation [.str violation.complaint, .str violation.path] =
          .ok (.ofViolation violation) ∧
        (Failure.ofViolation violation).failureClass = .own .validation ∧
        (Failure.ofViolation violation).message = some violation.message ∧
        (Failure.ofViolation violation).fields = [("path", .str violation.path)] := by
  have found := state.document.violations_eq
  refine ⟨state.document.violations, ?lenient, rfl, state.document.check_strict, ?applied, ?named⟩
  case lenient => rw [Tree.check_lenient, found]
  case applied =>
    have first := state.document.firstViolation?_eq
    cases all : state.document.violations <;> simp [Session.apply, first, all]
  case named =>
    intro violation member
    rw [found] at member
    obtain ⟨misfit, listed, rfl⟩ := List.mem_map.1 member
    exact ⟨Violation.message_eq _, Violation.make_eq (Tree.path_ne_empty listed), rfl, rfl, rfl⟩

/-- In a document with a number for a node inside a paragraph and nothing for a node behind it, the
strict check fails with the number, which it comes upon first. -/
theorem validate_first_strayNumber :
    let document := Tree.ofList (.document {})
      [.ofList .paragraph [.stray (.int 3)], .stray .null]
    let number : Violation := ⟨"document.children[0].children[0]", "Node", "int"⟩
    let null : Violation := ⟨"document.children[1]", "Node", "NoneType"⟩
    document.check false document.rootPath [] = .ok [number, null] ∧
      document.check true document.rootPath [] = .error number ∧
      Session.apply (.validate true) { document } =
        ({ document }, .error (.ofViolation number)) := by
  intro document number null
  have all : document.check false document.rootPath [] = .ok [number, null] := rfl
  obtain ⟨found, lenient, -, strict, applied, -⟩ := validate_first { document }
  obtain rfl : [number, null] = found := Except.ok.inj (all.symm.trans lenient)
  exact ⟨all, strict, applied⟩

end Folio
