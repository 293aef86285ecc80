import Folio.Decimal.Shortest
import Folio.Text.Quoted

/-!
# Scalars

The values that configuration files, option tables and metadata share: nothing, truth
values, whole numbers of any size, doubles and texts. Truth values count as 0 and 1
wherever numbers are compared.
-/

namespace Folio

/-- A value without parts. -/
inductive Scalar where
  | null
  | bool (value : Bool)
  | int (value : Int)
  | float (value : Float)
  | text (value : String)
  deriving Inhabited, Repr

namespace Scalar

/-- The word for the kind of a scalar in messages. -/
def typeName : Scalar → String
  | null => "NoneType"
  | bool _ => "bool"
  | int _ => "int"
  | float _ => "float"
  | text _ => "str"

/-- The whole number that a truth value or whole number counts as. -/
def whole? : Scalar → Option Int
  | bool value => some (if value then 1 else 0)
  | int value => some value
  | _ => none

/-- Nothing, zero and the empty text do not count as set. -/
def isSet : Scalar → Bool
  | null => false
  | bool value => value
  | int value => value != 0
  | float value => value != 0.0
  | text value => value != ""

/-- Two scalars have the same value: numbers by size, whatever their kind, and texts by
their characters. -/
def same : Scalar → Scalar → Bool
  | null, null => true
  | text left, text right => left == right
  | float left, float right => left == right
  | float left, right =>
    match right.whole? with
    | some number => Decimal.integer? left == some number
    | none => false
  | left, float right =>
    match left.whole? with
    | some number => Decimal.integer? right == some number
    | none => false
  | left, right =>
    match left.whole?, right.whole? with
    | some first, some second => first == second
    | _, _ => false

/-- The double that is no number and has not even its own value. -/
def isNaN : Scalar → Bool
  | float value => value.isNaN
  | _ => false

/-- The number is below `bound`; `none` for a scalar that is not a number. -/
def below? (bound : Nat) : Scalar → Option Bool
  | float value => some (value < Float.ofNat bound)
  | value => value.whole?.map (· < (bound : Int))

/-- One number is at least another; `none` unless both are numbers. -/
def atLeast? : Scalar → Scalar → Option Bool
  | float left, float right => some (right ≤ left)
  | float left, right => right.whole?.map fun number => Float.ofInt number ≤ left
  | left, float right => left.whole?.map fun number => right ≤ Float.ofInt number
  | left, right => do
    let first ← left.whole?
    let second ← right.whole?
    pure (second ≤ first)

/-- The scalar as messages show it: texts in quotes. -/
def display : Scalar → String
  | null => "None"
  | bool value => if value then "True" else "False"
  | int value => toString value
  | float value => Decimal.text value "inf" "nan"
  | text value => Text.quote value

/-- The scalar as running text: a text is itself, all else as `display` shows it. -/
def plain : Scalar → String
  | text value => value
  | value => value.display

@[simp] theorem same_text (left right : String) :
    (text left).same (text right) = (left == right) := rfl

@[simp] theorem isSet_text (value : String) : (text value).isSet = (value != "") := rfl

/-- Only the same text has the value of a text. -/
theorem text_same_iff {value : String} {other : Scalar} :
    (text value).same other = true ↔ other = text value := by
  cases other with
  | text other => rw [same_text, beq_iff_eq, text.injEq, eq_comm]
  | _ => simp [same, whole?]

/-- A text has the value of the same text only. -/
theorem same_text_iff {value : String} {other : Scalar} :
    other.same (text value) = true ↔ other = text value := by
  cases other <;> simp [same, whole?]

end Scalar

end Folio
