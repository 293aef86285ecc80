/-!
# Faults

A fault is the refusal to apply an operation to a value of the wrong kind. Faults name the
kinds of the values involved, as messages spell them. A search that would go on for ever counts
as a fault too. Faults, and whatever else comes from using things for what they are not, belong to
a few general classes of misuse.
-/

namespace Folio

/-- General classes of misuse. -/
inductive Misuse where
  | value
  | type
  | key
  | member
  | missingFile
  | directoryFile
  | fileInPath
  | undecodable
  deriving DecidableEq, Repr, Inhabited

/-- What was asked of a value that cannot do it. -/
inductive Fault where
  | noMember (type member : String)
  | notIterable (type : String)
  | notStructured
  | notHashable (type : String)
  | notOrdered (left right : String)
  | notText (index : Nat) (type : String)
  | notMarkup (type : String)
  | notStorable (type : String)
  | endlessSearch
  deriving DecidableEq, Repr, Inhabited

/-- The wording of a fault. -/
def Fault.message : Fault → String
  | noMember type member => s!"'{type}' object has no attribute '{member}'"
  | notIterable type => s!"'{type}' object is not iterable"
  | notStructured => "must be called with a dataclass type or instance"
  | notHashable type => s!"unhashable type: '{type}'"
  | notOrdered left right =>
    s!"'<' not supported between instances of '{left}' and '{right}'"
  | notText index type => s!"sequence item {index}: expected str instance, {type} found"
  | notMarkup type => s!"expected string or bytes-like object, got '{type}'"
  | notStorable type => s!"Object of type {type} is not JSON serializable"
  | endlessSearch => "every number leads to a reference that is in use"

end Folio
