import FieldMachine.Fault

/-!
# Operands

Operands follow the opcode byte, low byte first, in the order in which an
instruction takes them.  A cursor reads them: a read that would pass the limit
of the code fails and leaves the cursor where it was.  Many instructions begin
with a byte of two selectors; a selector of 0 makes the operand an immediate
value, and any other one names the bank whose cell it stands for.
-/

namespace FieldMachine

set_option autoImplicit false

/-- A place in code, with the first byte of the instruction being read. -/
structure Cursor where
  code : Array UInt8
  start : Nat
  pc : Nat
deriving DecidableEq

namespace Cursor

/-- A cursor on the first byte of an instruction. -/
def atStart (code : Array UInt8) (start : Nat) : Cursor := { code, start, pc := start }

/-- The byte `offset` places after the cursor. -/
def peek (cursor : Cursor) (offset : Nat) : UInt8 := (cursor.code[cursor.pc + offset]?).getD 0

/-- Steps over `count` bytes that all lie inside the code. -/
def skip (cursor : Cursor) (count : Nat) : Except ExecError Cursor :=
  if cursor.pc + count ≤ cursor.code.size then
    .ok { cursor with pc := cursor.pc + count }
  else .error (.truncated cursor.pc)

/-- The number by which a report calls a place, of 64 bits with a sign. -/
def reported (pc : Nat) : Int := Int.bmod pc 0x10000000000000000

/-- Moves to another place of the code, its end included. -/
def moveTo (cursor : Cursor) (pc : Nat) : Except ExecError Cursor :=
  if pc ≤ cursor.code.size then .ok { cursor with pc }
  else .error (.jumpOutOfRange (reported pc) 0 cursor.code.size)

/-- Reads one byte. -/
def byte (cursor : Cursor) : Except ExecError (UInt8 × Cursor) := do
  let after ← cursor.skip 1
  return (cursor.peek 0, after)

/-- Reads two bytes. -/
def word (cursor : Cursor) : Except ExecError (UInt16 × Cursor) := do
  let after ← cursor.skip 2
  return ((cursor.peek 0).toUInt16 ||| ((cursor.peek 1).toUInt16 <<< 8), after)

/-- Reads two bytes as a signed number. -/
def signed (cursor : Cursor) : Except ExecError (Int16 × Cursor) := do
  let (value, after) ← cursor.word
  return (value.toInt16, after)

/-- Reads three bytes. -/
def triple (cursor : Cursor) : Except ExecError (UInt32 × Cursor) := do
  let after ← cursor.skip 3
  return ((cursor.peek 0).toUInt32 ||| ((cursor.peek 1).toUInt32 <<< 8)
    ||| ((cursor.peek 2).toUInt32 <<< 16), after)

/-- Reads four bytes. -/
def long (cursor : Cursor) : Except ExecError (UInt32 × Cursor) := do
  let after ← cursor.skip 4
  return ((cursor.peek 0).toUInt32 ||| ((cursor.peek 1).toUInt32 <<< 8)
    ||| ((cursor.peek 2).toUInt32 <<< 16) ||| ((cursor.peek 3).toUInt32 <<< 24), after)

end Cursor

/-- A byte that holds two selectors. -/
structure Selectors where
  byte : UInt8
deriving DecidableEq

namespace Selectors

/-- The selector of the first operand. -/
def high (selectors : Selectors) : UInt8 := selectors.byte >>> 4

/-- The selector of the second operand. -/
def low (selectors : Selectors) : UInt8 := selectors.byte &&& 0x0F

/-- The byte for two selectors; the second keeps its low four bits, the first is shifted. -/
def pack (high low : UInt8) : Selectors := { byte := (high <<< 4) ||| (low &&& 0x0F) }

end Selectors

end FieldMachine
