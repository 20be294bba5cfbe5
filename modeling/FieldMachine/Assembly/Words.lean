import FieldMachine.Assembly

/-!
# Words of the assembly

Every form of instruction has a word, which is followed by its operands as
numbers.  A number is cut to the width of its operand, and operands that are
left out are zero.
-/

namespace FieldMachine.Assembly

set_option autoImplicit false

/-- Why a word with its operands stands for no instruction. -/
inductive WordError
  | unknownWord
  /-- The byte of an instruction names none. -/
  | unnamedOpcode
  /-- The byte of a comparison names none. -/
  | unnamedComparison
deriving DecidableEq

/-- The text that reports why a word stands for no instruction. -/
def WordError.message : WordError → String
  | .unknownWord => "word"
  | .unnamedOpcode => "unnamed opcode"
  | .unnamedComparison => "comparison"

/-- The operands of a word. -/
structure Operands where
  numbers : List Int
deriving DecidableEq

namespace Operands

/-- An operand as it was given. -/
def nth (operands : Operands) (place : Nat) : Int := operands.numbers.getD place 0

/-- An operand of one byte. -/
def byte (operands : Operands) (place : Nat) : UInt8 := .ofInt (operands.nth place)

/-- An operand of two bytes. -/
def word (operands : Operands) (place : Nat) : UInt16 := .ofInt (operands.nth place)

/-- A signed operand of two bytes. -/
def signed (operands : Operands) (place : Nat) : Int16 := .ofInt (operands.nth place)

/-- An operand of four bytes. -/
def long (operands : Operands) (place : Nat) : UInt32 := .ofInt (operands.nth place)

/-- A selector and a value of one byte behind it. -/
def byteOperand (operands : Operands) (place : Nat) : ByteOperand :=
  { selector := operands.byte place, value := operands.byte (place + 1) }

/-- A selector and a value of two bytes behind it. -/
def wordOperand (operands : Operands) (place : Nat) : WordOperand :=
  { selector := operands.byte place, value := operands.word (place + 1) }

/-- The instruction that an operand names. -/
def opcode (operands : Operands) (place : Nat) : Except WordError Opcode :=
  (Opcode.ofByte? (operands.byte place)).elim (.error .unnamedOpcode) .ok

/-- The comparison that an operand names. -/
def comparison (operands : Operands) (place : Nat) : Except WordError Comparison :=
  (Comparison.ofByte? (operands.byte place)).elim (.error .unnamedComparison) .ok

/-- A call whose first three operands are its target, a priority and a script. -/
def call (operands : Operands) (op : Opcode) : Item :=
  .call op (operands.byte 0) (operands.byte 1) (operands.byte 2)

end Operands

/-- The instruction of a word with its operands. -/
def Item.ofWord (word : String) (operands : Operands) : Except WordError Item := do
  match word with
  | "op" => return .opcode (← operands.opcode 0)
  | "u8" => return .raw [operands.byte 0]
  | "u16" => return .raw (Assembly.word (operands.word 0))
  | "i16" => return .raw (Assembly.signed (operands.signed 0))
  | "u24" => return .raw (triple (operands.long 0))
  | "u32" => return .raw (long (operands.long 0))
  | "banks" => return .raw (selectors (operands.byte 0) (operands.byte 1))
  | "ret" => return .ret
  | "nop" => return .nop
  | "req" => return operands.call .req
  | "req_sw" => return operands.call .reqsw
  | "req_ew" => return operands.call .reqew
  | "preq" => return operands.call .preq
  | "preq_ew" => return operands.call .prqew
  | "ret_to" => return .retTo (operands.byte 0) (operands.byte 1)
  | "jmpf" => return .jumpForward (operands.byte 0)
  | "jmpb" => return .jumpBackward (operands.byte 0)
  | "wait" => return .wait (operands.word 0)
  | "ifub" =>
      return .compareBytes (operands.byteOperand 0) (operands.byteOperand 2)
        (← operands.comparison 4) (operands.byte 5)
  | "ifuw" =>
      return .compareWords (operands.wordOperand 0) (operands.wordOperand 2)
        (← operands.comparison 4) (operands.byte 5)
  | "setbyte" => return .setByte (operands.byte 0) (operands.byte 1) (operands.byte 2)
  | "setword" => return .setWord (operands.byte 0) (operands.byte 1) (operands.word 2)
  | "arith" =>
      return .byteArithmetic (← operands.opcode 0) (operands.byteOperand 1)
        (operands.byteOperand 3)
  | "arith2" =>
      return .wordArithmetic (← operands.opcode 0) (operands.byteOperand 1)
        (operands.wordOperand 3)
  | "step" => return .step (← operands.opcode 0) (operands.byte 1) (operands.byte 2)
  | "message" => return .message (operands.byte 0) (operands.byte 1)
  | "ask" =>
      return .ask (operands.byte 0) (operands.byte 1) (operands.byte 2) (operands.byte 3)
        (operands.byte 4) (operands.byte 5)
  | "battle" => return .battle (operands.word 0)
  | "xyzi" =>
      return .place (operands.signed 0) (operands.signed 1) (operands.signed 2) (operands.word 3)
  | "move_to" => return .move (operands.signed 0) (operands.signed 1)
  | "msped" => return .moveSpeed 0 (operands.word 0)
  | _ => throw .unknownWord

end FieldMachine.Assembly
