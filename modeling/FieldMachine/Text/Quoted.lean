import FieldMachine.Text.Numeral
import FieldMachine.Text.Unprintable

/-!
# Quoted text

Text as the journal quotes it: between double quotes, with a backslash in front
of quotes and backslashes, short names for some controls, and the number of
every other character that cannot be shown on its own.
-/

namespace FieldMachine.Text

set_option autoImplicit false

/-- Whether a character is quoted by its number. -/
def isNumbered (char : Char) : Bool :=
  char.toNat < 0x20 || (0x7F ≤ char.toNat && (char.toNat = 0x7F || isUnprintable char))

/-- A character as it stands between quotes. -/
def quoteChar (char : Char) : String :=
  if char = '"' then "\\\""
  else if char = '\\' then "\\\\"
  else if char = '\n' then "\\n"
  else if char = '\r' then "\\r"
  else if char = '\t' then "\\t"
  else if char.toNat = 0 then "\\0"
  else if isNumbered char then "\\u\x7b" ++ Numeral.hexLower 1 char.toNat ++ "\x7d"
  else char.toString

/-- A text between quotes. -/
def quote (text : String) : String :=
  "\"" ++ String.join (text.toList.map quoteChar) ++ "\""

end FieldMachine.Text
