/-!
# Numerals

Numbers as the reports write them: hexadecimal digits in either case, filled up
with zeros to a least width, and fields filled up with blanks.  A number that
needs more room than the least width is written in full.  Beside them is the
reading of decimal numbers that have to stay below a limit.
-/

namespace FieldMachine.Numeral

set_option autoImplicit false

/-! ## Writing -/

/-- Fills `text` up with `fill` on the left until it has `width` characters. -/
def padLeft (width : Nat) (fill : Char) (text : String) : String :=
  String.ofList (List.replicate (width - text.length) fill) ++ text

/-- The lower-case hexadecimal digits of `number`, at least `width` of them. -/
def hexLower (width number : Nat) : String :=
  padLeft width '0' (String.ofList (Nat.toDigits 16 number))

/-- The upper-case hexadecimal digits of `number`, at least `width` of them. -/
def hexUpper (width number : Nat) : String :=
  padLeft width '0' (String.ofList ((Nat.toDigits 16 number).map Char.toUpper))

/-! ## Reading -/

/-- The value of a digit in any base up to sixteen. -/
def digitValue? (char : Char) : Option Nat :=
  if '0' ≤ char ∧ char ≤ '9' then some (char.toNat - '0'.toNat)
  else if 'a' ≤ char ∧ char ≤ 'f' then some (char.toNat - 'a'.toNat + 10)
  else if 'A' ≤ char ∧ char ≤ 'F' then some (char.toNat - 'A'.toNat + 10)
  else none

/-- The value of a digit of a base. -/
def digitOf? (base : Nat) (char : Char) : Option Nat :=
  (digitValue? char).filter (· < base)

/-- The number that digits of a base write; at least one is needed. -/
def ofDigits? (base : Nat) (digits : List Char) : Option Nat :=
  if digits.isEmpty then none
  else digits.foldlM (fun value digit => (digitOf? base digit).map (value * base + ·)) 0

/-- The number that digits of a base write; at least one is needed.  Once the number has come to a
bound, the digits that follow change nothing. -/
def upTo? (bound base : Nat) (digits : List Char) : Option Nat :=
  if digits.isEmpty then none
  else digits.foldlM
    (fun value digit => (digitOf? base digit).map fun next =>
      if value < bound then value * base + next else value)
    0

/-- The number below a limit that digits of a base write. -/
def below? (limit base : Nat) (digits : List Char) : Option Nat :=
  (upTo? limit base digits).filter (· < limit)

/-- The number below a limit that a text of decimal digits writes, with a plus sign in front or
without one. -/
def unsigned? (limit : Nat) (text : String) : Option Nat :=
  let digits := match text.toList with
    | '+' :: digits => digits
    | digits => digits
  below? limit 10 digits

end FieldMachine.Numeral
