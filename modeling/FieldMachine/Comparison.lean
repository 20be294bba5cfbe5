/-!
# Comparisons

The tests of conditional jumps.  Both sides are signed numbers of 32 bits; a bit
number outside the word names a clear bit.
-/

namespace FieldMachine

set_option autoImplicit false

/-- A test between two numbers. -/
inductive Comparison
  | equal
  | notEqual
  | greater
  | less
  | greaterOrEqual
  | lessOrEqual
  /-- Some bit is set in both. -/
  | sharedBits
  /-- Some bit differs. -/
  | differingBits
  /-- Some bit is set in either. -/
  | anyBits
  | bitSet
  | bitClear
deriving DecidableEq

namespace Comparison

/-- The test that a byte names. -/
def ofByte? (byte : UInt8) : Option Comparison :=
  #[equal, notEqual, greater, less, greaterOrEqual, lessOrEqual, sharedBits, differingBits,
    anyBits, bitSet, bitClear][byte.toNat]?

/-- The byte of a test. -/
def byte : Comparison → UInt8
  | .equal => 0
  | .notEqual => 1
  | .greater => 2
  | .less => 3
  | .greaterOrEqual => 4
  | .lessOrEqual => 5
  | .sharedBits => 6
  | .differingBits => 7
  | .anyBits => 8
  | .bitSet => 9
  | .bitClear => 10

/-- The name of a test. -/
def name : Comparison → String
  | .equal => "Equal"
  | .notEqual => "NotEqual"
  | .greater => "Greater"
  | .less => "Less"
  | .greaterOrEqual => "GreaterOrEqual"
  | .lessOrEqual => "LessOrEqual"
  | .sharedBits => "AndNonZero"
  | .differingBits => "XorNonZero"
  | .anyBits => "OrNonZero"
  | .bitSet => "BitSet"
  | .bitClear => "BitClear"

/-- Whether bit `index` of a number is set. -/
def hasBit (value index : Int32) : Bool :=
  decide (0 ≤ index) && decide (index < 32) && (value >>> index) &&& 1 != 0

/-- Whether two numbers pass a test. -/
def test (a b : Int32) : Comparison → Bool
  | .equal => a = b
  | .notEqual => a ≠ b
  | .greater => b < a
  | .less => a < b
  | .greaterOrEqual => b ≤ a
  | .lessOrEqual => a ≤ b
  | .sharedBits => a &&& b ≠ 0
  | .differingBits => a ^^^ b ≠ 0
  | .anyBits => a ||| b ≠ 0
  | .bitSet => hasBit a b
  | .bitClear => !hasBit a b

/-- Reading back the byte of a test gives the test. -/
theorem ofByte?_byte (comparison : Comparison) : ofByte? comparison.byte = some comparison := by
  cases comparison <;> rfl

end Comparison

end FieldMachine
