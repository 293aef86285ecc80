import Folio.Json.Parser
import Folio.Scalar

/-!
# Plain scalars

The value of a scalar that stands without quotes follows from its form: truth values in
several spellings, nothing, whole numbers in four bases, whole numbers and floats in base
60, floats. All other forms are texts.
-/

namespace Folio.Yaml

/-- The truth value that a word writes. -/
def truth? (word : String) : Option Bool :=
  if ["yes", "Yes", "YES", "true", "True", "TRUE", "on", "On", "ON"].contains word then some true
  else if ["no", "No", "NO", "false", "False", "FALSE", "off", "Off", "OFF"].contains word then
    some false
  else none

/-- The word writes nothing. -/
def isNull (word : String) : Bool := ["", "~", "null", "Null", "NULL"].contains word

/-- A sign and what stands behind it. -/
def splitSign : List Char → Bool × List Char
  | '-' :: rest => (true, rest)
  | '+' :: rest => (false, rest)
  | text => (false, text)

/-- A digit or an underscore. -/
def isLooseDigit (character : Char) : Bool := Json.isDigit character || character == '_'

/-- A number without its underscores. -/
def withoutUnderscores (text : List Char) : List Char := text.filter (· != '_')

/-- The value of digits in a base. -/
def basedValue (base : Nat) (digits : List Char) : Nat :=
  digits.foldl (fun value digit => value * base + (Json.hexDigit? digit).getD 0) 0

/-- A text cut at its colons. -/
def splitColons : List Char → List (List Char)
  | [] => [[]]
  | ':' :: rest => [] :: splitColons rest
  | character :: rest =>
    match splitColons rest with
    | part :: others => (character :: part) :: others
    | [] => [[character]]

/-- A part of a number in base 60 behind the first: one or two digits below 60. -/
def isSixtieth (part : List Char) : Bool :=
  match part with
  | [digit] => Json.isDigit digit
  | [tens, digit] => '0' ≤ tens && tens ≤ '5' && Json.isDigit digit
  | _ => false

/-- The value of the parts of a number in base 60. -/
def sixtyValue (parts : List (List Char)) : Nat :=
  parts.foldl (fun value part => value * 60 + Json.digitsValue part) 0

/-- A first digit from 1 to 9 and then digits and underscores. -/
def isPositive (text : List Char) : Bool :=
  match text with
  | first :: rest => '1' ≤ first && first ≤ '9' && rest.all isLooseDigit
  | [] => false

/-- The size of a whole number behind its sign. -/
def wholeSize? (text : List Char) : Option Nat :=
  match text with
  | ['0'] => some 0
  | '0' :: 'b' :: digits =>
    if !digits.isEmpty && digits.all (fun digit => digit == '0' || digit == '1' || digit == '_')
    then some (basedValue 2 (withoutUnderscores digits)) else none
  | '0' :: 'x' :: digits =>
    if !digits.isEmpty &&
        digits.all (fun digit => (Json.hexDigit? digit).isSome || digit == '_')
    then some (basedValue 16 (withoutUnderscores digits)) else none
  | '0' :: digits =>
    if digits.all fun digit => ('0' ≤ digit && digit ≤ '7') || digit == '_' then
      some (basedValue 8 (withoutUnderscores digits))
    else none
  | _ =>
    match splitColons text with
    | [single] =>
      if isPositive single then some (Json.digitsValue (withoutUnderscores single)) else none
    | first :: rest =>
      if isPositive first && rest.all isSixtieth then
        some (sixtyValue (withoutUnderscores first :: rest))
      else none
    | [] => none

/-- The whole number that a word writes. -/
def whole? (text : List Char) : Option Int :=
  let (negative, size) := splitSign text
  (wholeSize? size).map fun value => if negative then -(value : Int) else value

/-- The exponent of a float: a letter, a sign and digits; none is needed. -/
def exponent? (text : List Char) : Option Int :=
  match text with
  | [] => some 0
  | letter :: sign :: digits =>
    if (letter == 'e' || letter == 'E') && (sign == '-' || sign == '+') && !digits.isEmpty &&
        digits.all Json.isDigit then
      some ((if sign == '-' then -1 else 1) * (Json.digitsValue digits : Int))
    else none
  | [_] => none

/-- The size of a float that needs digits before or behind its point. -/
def decimalSize? (text : List Char) : Option Float :=
  let before := text.takeWhile isLooseDigit
  match text.dropWhile isLooseDigit with
  | '.' :: rest =>
    let behind := rest.takeWhile isLooseDigit
    match exponent? (rest.dropWhile isLooseDigit) with
    | none => none
    | some exponent =>
      let startsWithDigit (part : List Char) : Bool := (part.head?).any Json.isDigit
      if startsWithDigit before || (before.isEmpty && startsWithDigit behind) then
        let fraction := withoutUnderscores behind
        some (Json.scientific (Json.digitsValue (withoutUnderscores before ++ fraction))
          (exponent - fraction.length))
      else none
  | _ => none

/-- The size of a float in base 60: parts between colons, the last with a fraction. -/
def sixtyFloat? (text : List Char) : Option Float :=
  let before := text.takeWhile (· != '.')
  match text.dropWhile (· != '.'), splitColons before with
  | '.' :: fraction, first :: second :: rest =>
    let startsWithDigit := (first.head?).any Json.isDigit
    if startsWithDigit && first.all isLooseDigit && (second :: rest).all isSixtieth &&
        fraction.all isLooseDigit then
      let digits := withoutUnderscores fraction
      let parts := Float.ofNat (sixtyValue (withoutUnderscores first :: second :: rest))
      some (parts + Json.scientific (Json.digitsValue digits) (-(digits.length : Int)))
    else none
  | _, _ => none

/-- The float that a word writes. -/
def float? (text : List Char) : Option Float :=
  if [".nan", ".NaN", ".NAN"].contains (String.ofList text) then some (0.0 / 0.0)
  else
    let (negative, size) := splitSign text
    let hasSign := size.length != text.length
    let found :=
      if [".inf", ".Inf", ".INF"].contains (String.ofList size) then some (1.0 / 0.0)
      else if hasSign && size.head? == some '.' then none
      else (decimalSize? size).orElse fun _ => sixtyFloat? size
    found.map fun value => if negative then -value else value

/-- The value of a scalar without quotes. -/
def plainValue (word : String) : Scalar :=
  if isNull word then .null
  else
    match truth? word with
    | some value => .bool value
    | none =>
      match whole? word.toList with
      | some value => .int value
      | none =>
        match float? word.toList with
        | some value => .float value
        | none => .text word

end Folio.Yaml
