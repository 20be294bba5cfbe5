import FieldMachine.Text.Numeral

/-!
# Plain scalars with a meaning

A scalar without quotes that is empty, or spells the null value, a truth value
or a number, is not read back as a text.  This module recognises them: numbers
are whole ones of up to 128 bits in four bases, and decimal ones that do not
exceed the range of double precision.  Digits behind a leading zero spell no
number in one edition of the format and an octal one in another, and count as
well.
-/

namespace FieldMachine.Yaml

set_option autoImplicit false

/-- Whether a text spells the null value. -/
def isNull (text : String) : Bool := ["null", "Null", "NULL", "~"].contains text

/-- Whether a text spells a truth value. -/
def isTruthValue (text : String) : Bool :=
  ["true", "True", "TRUE", "false", "False", "FALSE"].contains text

/-- A sign in front of digits, and what follows it. -/
def dropSign : List Char → List Char
  | '+' :: rest | '-' :: rest => rest
  | chars => chars

/-- Whether characters are digits behind a leading zero. -/
def isZeroLed (chars : List Char) : Bool :=
  match dropSign chars with
  | '0' :: rest => !rest.isEmpty && rest.all Char.isDigit
  | _ => false

/-! ## Whole numbers -/

/-- The number below a limit that digits behind the mark of their base write. -/
def based? (limit : Nat) : List Char → Option Nat
  | '0' :: 'x' :: digits => Numeral.below? limit 16 digits
  | '0' :: 'o' :: digits => Numeral.below? limit 8 digits
  | '0' :: 'b' :: digits => Numeral.below? limit 2 digits
  | digits => Numeral.below? limit 10 digits

/-- Whether characters spell a whole number of 128 bits. -/
def isWhole (chars : List Char) : Bool :=
  match chars with
  | '-' :: rest => (based? (Nat.pow 2 127 + 1) rest).isSome
  | '+' :: rest => (based? (Nat.pow 2 128) rest).isSome
  | rest => (based? (Nat.pow 2 128) rest).isSome

/-! ## Decimal numbers -/

/-- A decimal number: its digits from the first one on that is not zero, and the power of ten that
they are multiplied by. -/
structure Decimal where
  digits : List Char
  exponent : Int
deriving DecidableEq

/-- The least number that rounds to infinity in double precision. -/
def overflow : Nat := Nat.pow 2 1024 - Nat.pow 2 970

/-- The number of digits of the least number that rounds to infinity. -/
def overflowDigits : Nat := 309

/-- Whether a decimal number is within the range of double precision.  If it has as many digits in
front of the point as the least number beyond, those decide. -/
def Decimal.isFinite (decimal : Decimal) : Bool :=
  let places := (decimal.digits.length : Int) + decimal.exponent
  let whole := (decimal.digits.take overflowDigits).rightpad overflowDigits '0'
  decimal.digits.isEmpty || places < overflowDigits
    || (places = overflowDigits && (Numeral.below? overflow 10 whole).isSome)

/-- From this bound on the digits that follow in an exponent change nothing. -/
def exponentBound : Nat := 0x10000

/-- The exponent that characters write behind its mark; no characters write none. -/
def exponent? : List Char → Option Int
  | [] => some 0
  | 'e' :: rest | 'E' :: rest =>
      match rest with
      | '-' :: digits => (Numeral.upTo? exponentBound 10 digits).map fun size => -(size : Int)
      | '+' :: digits => (Numeral.upTo? exponentBound 10 digits).map fun size => (size : Int)
      | digits => (Numeral.upTo? exponentBound 10 digits).map fun size => (size : Int)
  | _ => none

/-- The decimal number that characters without a sign write. -/
def decimal? (chars : List Char) : Option Decimal := do
  let whole := chars.takeWhile Char.isDigit
  let rest := chars.dropWhile Char.isDigit
  let (places, rest) := match rest with
    | '.' :: rest => (rest.takeWhile Char.isDigit, rest.dropWhile Char.isDigit)
    | rest => ([], rest)
  guard (!(whole.isEmpty && places.isEmpty))
  let exponent ← exponent? rest
  return {
    digits := (whole ++ places).dropWhile (· = '0')
    exponent := exponent - places.length }

/-- Whether characters spell a decimal number. -/
def isDecimal (chars : List Char) : Bool :=
  (decimal? (dropSign chars)).any Decimal.isFinite

/-- Whether a text spells infinity, or what is not a number. -/
def isSpecialNumber (text : String) : Bool :=
  [".inf", ".Inf", ".INF", "+.inf", "+.Inf", "+.INF", "-.inf", "-.Inf", "-.INF",
    ".nan", ".NaN", ".NAN"].contains text

/-- Whether a text without quotes would not be read back as a text. -/
def hasMeaning (text : String) : Bool :=
  let chars := text.toList
  chars.isEmpty || isNull text || isTruthValue text || isZeroLed chars || isWhole chars
    || isSpecialNumber text || isDecimal chars

end FieldMachine.Yaml
