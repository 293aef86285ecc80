import Folio.Text.Surrogate
import Folio.Yaml.Loader

/-!
# Hosts

What a run needs besides files: a loader of YAML, and the places where texts go. Standard output
and files are encoded, and what a character becomes there is no matter of this library. A host
tells which characters its standard output and its files can take. Unless something else is said,
these are all but the halves of surrogate pairs.
-/

namespace Folio

/-- The surroundings of a run. -/
structure Host where
  yaml : Yaml.Loader := Yaml.load
  prints : Char → Bool := Text.isEncodable
  stores : Char → Bool := Text.isEncodable

namespace Host

/-- Standard output can take a text. -/
def canPrint (host : Host) (text : String) : Bool := text.toList.all host.prints

/-- A file can take a text. -/
def canStore (host : Host) (text : String) : Bool := text.toList.all host.stores

/-- The empty text can be printed everywhere. -/
@[simp] theorem canPrint_empty (host : Host) : host.canPrint "" = true := rfl

end Host

end Folio
