import FieldMachine.Text.Numeral

/-!
# Bytes in hexadecimal

Bytes are written as pairs of digits.  For reading they stand in runs between
blanks, and a run may be followed by a star and the number of times that it
stands for.
-/

namespace FieldMachine.HexBytes

set_option autoImplicit false

/-- The digits of bytes, two for each. -/
def write (bytes : List UInt8) : String :=
  String.join (bytes.map fun byte => Numeral.hexLower 2 byte.toNat)

/-- The bytes of digits in pairs. -/
def ofPairs? : List Char → Option (List UInt8)
  | [] => some []
  | high :: low :: rest => do
      let number ← Numeral.ofDigits? 16 [high, low]
      return number.toUInt8 :: (← ofPairs? rest)
  | _ => none

/-- How often a run may be repeated at most, and one more. -/
def repeatLimit : Nat := 0x100000000

/-- The bytes of one run. -/
def ofRun? (run : List Char) : Option (List UInt8) := do
  let bytes ← ofPairs? (run.takeWhile (· ≠ '*'))
  match run.dropWhile (· ≠ '*') with
  | [] => return bytes
  | _ :: count =>
      let count ← Numeral.unsigned? repeatLimit (String.ofList count)
      return (List.replicate count bytes).flatten

/-- The runs between blanks. -/
def runs : List Char → List (List Char)
  | [] => [[]]
  | char :: rest =>
      if char.isWhitespace then [] :: runs rest
      else match runs rest with
        | [] => [[char]]
        | run :: others => (char :: run) :: others

/-- The bytes of all runs of a text. -/
def read? (text : String) : Option (List UInt8) := do
  return (← (runs text.toList).mapM ofRun?).flatten

end FieldMachine.HexBytes
