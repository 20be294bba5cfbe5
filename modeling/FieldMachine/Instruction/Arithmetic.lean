import FieldMachine.Reading

/-!
# Arithmetic on cells

A binary instruction has a byte of selectors, the address of the destination
cell, and a source operand of its width; the byte forms work on the low eight
bits of a cell and clear the high ones.  Results wrap around, except in the forms
that stop at the end of the range.  Division by zero leaves the destination
alone.
-/

namespace FieldMachine.Arithmetic

set_option autoImplicit false

open Reading

/-- How many bits of a cell an instruction works on. -/
inductive Width
  | byte
  | word
deriving DecidableEq

/-- One more than the largest number of a width. -/
def Width.size : Width → Nat
  | .byte => 0x100
  | .word => 0x10000

/-- What is computed from the old destination and the source. -/
inductive Operation
  | set
  | add
  | sub
  | mul
  | div
  | mod
  | and
  | or
  | xor
  /-- Adds, up to the largest number. -/
  | addCapped
  /-- Subtracts, down to zero. -/
  | subFloored
  | lowByte
  | highByte
deriving DecidableEq

/-- The result for numbers below `size`, not yet reduced; none leaves the destination alone. -/
def Operation.apply (size d s : Nat) : Operation → Option Nat
  | .set => some s
  | .add => some (d + s)
  | .sub => some (d + size - s)
  | .mul => some (d * s)
  | .div => if s = 0 then none else some (d / s)
  | .mod => if s = 0 then none else some (d % s)
  | .and => some (d &&& s)
  | .or => some (d ||| s)
  | .xor => some (d ^^^ s)
  | .addCapped => some (min (d + s) (size - 1))
  | .subFloored => some (d - s)
  | .lowByte => some (s % 256)
  | .highByte => some (s / 256)

/-- The cell that an operation writes for a destination and a source. -/
def Operation.result? (operation : Operation) (width : Width) (d s : UInt16) : Option UInt16 :=
  (operation.apply width.size (d.toNat % width.size) (s.toNat % width.size)).map fun result =>
    (result % width.size).toUInt16

/-- Writes the destination cell, if there is a result. -/
def storeResult (selector address : UInt8) (result : Option UInt16) : Plan :=
  .next (result.toList.map fun value => .store selector address value)

/-- Reads a source operand of a width. -/
def source : Width → Reading UInt16
  | .byte => return (← byte).toUInt16
  | .word => word

/-- An operation on a destination and a source operand. -/
def binary (width : Width) (operation : Operation) : Reading Plan := do
  let selectors ← selectors
  let address ← byte
  let raw ← source width
  let s ← load selectors.low raw
  let d ← load selectors.high address.toUInt16
  return storeResult selectors.high address (operation.result? width d s)

/-- An operation on a destination and the number one. -/
def unary (width : Width) (operation : Operation) : Reading Plan := do
  let selectors ← selectors
  let address ← byte
  let d ← load selectors.high address.toUInt16
  return storeResult selectors.high address (operation.result? width d 1)

/-- A change of one bit, given the cell and the bit as a mask. -/
def bit (change : UInt16 → UInt16 → UInt16) : Reading Plan := do
  let selectors ← selectors
  let address ← byte
  let raw ← byte
  let index ← load selectors.low raw.toUInt16
  if 16 ≤ index then invalid "bit" index.toUInt32
  else do
    let value ← load selectors.high address.toUInt16
    return .next [.store selectors.high address (change value (1 <<< index))]

/-- Sets a bit. -/
def setBit : Reading Plan := bit fun value mask => value ||| mask

/-- Clears a bit. -/
def clearBit : Reading Plan := bit fun value mask => value &&& ~~~mask

/-- Flips a bit. -/
def flipBit : Reading Plan := bit fun value mask => value ^^^ mask

/-- Packs two bytes into one cell. -/
def pack : Reading Plan := do
  let first ← selectors
  let second ← selectors
  let address ← byte
  let low ← byte
  let high ← byte
  let low ← loadByte first.low low
  let high ← loadByte second.high high
  return .next [.store first.high address (low.toUInt16 ||| (high.toUInt16 <<< 8))]

/-- Grows the random numbers from a new seed. -/
def reseed : Reading Plan := do
  let selectors ← selectors
  let raw ← byte
  let seed ← load selectors.high raw.toUInt16
  return .next [.reseed seed.toUInt64]

/-- Draws a random byte. -/
def random : Reading Plan := do
  let selectors ← selectors
  let address ← byte
  return .next [.drawByte selectors.high address]

/-- The parts of a full turn that an angle is given in. -/
def angleUnits : Float32 := 4096.0

/-- Scales a function of an angle, rounds it, and adds a bias. -/
def angular (curve : Float32 → Float32) : Reading Plan := do
  let first ← selectors
  let second ← selectors
  let angle ← word
  let scale ← signed
  let bias ← signed
  let address ← byte
  let angle ← load first.high angle
  let scale ← loadSigned first.low scale
  let bias ← loadCoordinate second.high bias
  let radians := angle.toFloat32 / angleUnits * fullCircle
  let value := roundToInt (curve radians * scale.toFloat32) + bias
  return .next [.store second.low address value.toUInt32.toUInt16]

end FieldMachine.Arithmetic
