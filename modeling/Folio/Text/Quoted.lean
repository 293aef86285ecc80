import Folio.Text.Printable
import Folio.Text.Surrogate

/-!
# Quoted text

Messages and log lines show a text in quotes. Apostrophes enclose it unless it holds an
apostrophe and no double quote. The enclosing quote, the backslash, line feed, carriage
return and tab have short escapes; other hidden characters are written by code point, and so
are halves of surrogate pairs.
-/

namespace Folio.Text

/-- Lower-case hexadecimal digits, padded with zeros to `width`. -/
def hexText (width code : Nat) : String :=
  let digits := Nat.toDigits 16 code
  String.ofList (List.replicate (width - digits.length) '0' ++ digits)

/-- One character between the quotes `mark`. -/
def quoteChar (mark character : Char) : String :=
  if let some half := half? character then "\\u" ++ hexText 4 half
  else if character == mark || character == '\\' then "\\" ++ character.toString
  else if character == '\n' then "\\n"
  else if character == '\r' then "\\r"
  else if character == '\t' then "\\t"
  else if isPrintable character then character.toString
  else if character.toNat < 0x100 then "\\x" ++ hexText 2 character.toNat
  else if character.toNat < 0x10000 then "\\u" ++ hexText 4 character.toNat
  else "\\U" ++ hexText 8 character.toNat

/-- The quote that encloses a text. -/
def quoteMark (text : String) : Char :=
  if text.contains '\'' && !text.contains '"' then '"' else '\''

/-- The text in quotes, with everything hidden made visible. -/
def quote (text : String) : String :=
  let mark := quoteMark text
  mark.toString ++ String.join (text.toList.map (quoteChar mark)) ++ mark.toString

end Folio.Text
