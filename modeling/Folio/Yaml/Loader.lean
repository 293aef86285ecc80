import Folio.Fault
import Folio.Yaml.Reader

/-!
# Loading YAML

YAML is read by a loader that comes from elsewhere. It is a parameter of everything that reads
files: of a loader no more is known than that it makes a value of a text, finds the text malformed,
or fails in some other way, as on a text that has the form of a date and is none. The loader that
runs unless another is given knows the part of YAML that `Yaml.parse?` reads.
-/

namespace Folio.Yaml

/-- What a loader makes of a text. -/
inductive Loaded where
  | value (setting : Setting)
  | malformed
  | failed (misuse : Misuse) (message : String)
  deriving Inhabited, Repr

/-- A loader of YAML texts. -/
abbrev Loader := String → Loaded

/-- The loader for the part of YAML that is read here. -/
def load : Loader := fun text => (parse? text).elim .malformed .value

end Folio.Yaml
