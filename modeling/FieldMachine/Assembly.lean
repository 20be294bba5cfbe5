import FieldMachine.Cursor
import FieldMachine.Comparison

/-!
# Assembling scripts

The bytes of instructions, one function per form of instruction, for whoever
writes scripts by hand.  A script is the bytes of its instructions one after the
other.
-/

namespace FieldMachine.Assembly

set_option autoImplicit false

/-! ## Operands -/

/-- Two bytes, the low one first. -/
def word (value : UInt16) : List UInt8 := [value.toUInt8, (value >>> 8).toUInt8]

/-- Two bytes of a signed number. -/
def signed (value : Int16) : List UInt8 := word value.toUInt16

/-- Three bytes, the low one first; the highest byte of the number is left out. -/
def triple (value : UInt32) : List UInt8 :=
  [value.toUInt8, (value >>> 8).toUInt8, (value >>> 16).toUInt8]

/-- Four bytes, the low one first. -/
def long (value : UInt32) : List UInt8 := triple value ++ [(value >>> 24).toUInt8]

/-- A byte of two selectors. -/
def selectors (high low : UInt8) : List UInt8 := [(Selectors.pack high low).byte]

/-- The byte that names a priority and a script. -/
def callee (priority script : UInt8) : UInt8 := (priority <<< 5) ||| (script &&& 0x1F)

/-- An operand of one byte, in a cell or immediate. -/
structure ByteOperand where
  selector : UInt8
  value : UInt8
deriving DecidableEq

/-- An operand of two bytes, in a cell or immediate. -/
structure WordOperand where
  selector : UInt8
  value : UInt16
deriving DecidableEq

/-! ## Instructions -/

/-- One form of instruction, or operand bytes on their own. -/
inductive Item
  | opcode (op : Opcode)
  | raw (data : List UInt8)
  | ret
  | nop
  | call (op : Opcode) (target priority script : UInt8)
  | retTo (priority script : UInt8)
  | jumpForward (offset : UInt8)
  | jumpBackward (offset : UInt8)
  | wait (frames : UInt16)
  | compareBytes (a b : ByteOperand) (comparison : Comparison) (offset : UInt8)
  | compareWords (a b : WordOperand) (comparison : Comparison) (offset : UInt8)
  | setByte (bank address value : UInt8)
  | setWord (bank address : UInt8) (value : UInt16)
  | byteArithmetic (op : Opcode) (destination source : ByteOperand)
  | wordArithmetic (op : Opcode) (destination : ByteOperand) (source : WordOperand)
  | step (op : Opcode) (bank address : UInt8)
  | message (window text : UInt8)
  | ask (bank window text first last address : UInt8)
  | battle (id : UInt16)
  | place (x y z : Int16) (triangle : UInt16)
  | move (x y : Int16)
  | moveSpeed (selector : UInt8) (speed : UInt16)
deriving DecidableEq

/-- The bytes of an instruction. -/
def Item.encode : Item → List UInt8
  | .opcode op => [op.byte]
  | .raw data => data
  | .ret => [Opcode.ret.byte]
  | .nop => [Opcode.nop.byte]
  | .call op target priority script => [op.byte, target, callee priority script]
  | .retTo priority script => [Opcode.retto.byte, callee priority script]
  | .jumpForward offset => [Opcode.jmpf.byte, offset]
  | .jumpBackward offset => [Opcode.jmpb.byte, offset]
  | .wait frames => Opcode.wait.byte :: word frames
  | .compareBytes a b comparison offset =>
      Opcode.ifub.byte :: selectors a.selector b.selector
        ++ [a.value, b.value, comparison.byte, offset]
  | .compareWords a b comparison offset =>
      Opcode.ifuw.byte :: selectors a.selector b.selector
        ++ word a.value ++ word b.value ++ [comparison.byte, offset]
  | .setByte bank address value => Opcode.setbyte.byte :: selectors bank 0 ++ [address, value]
  | .setWord bank address value =>
      Opcode.setword.byte :: selectors bank 0 ++ address :: word value
  | .byteArithmetic op destination source =>
      op.byte :: selectors destination.selector source.selector
        ++ [destination.value, source.value]
  | .wordArithmetic op destination source =>
      op.byte :: selectors destination.selector source.selector
        ++ destination.value :: word source.value
  | .step op bank address => op.byte :: selectors bank 0 ++ [address]
  | .message window text => [Opcode.message.byte, window, text]
  | .ask bank window text first last address =>
      Opcode.ask.byte :: selectors bank 0 ++ [window, text, first, last, address]
  | .battle id => Opcode.battle.byte :: selectors 0 0 ++ word id
  | .place x y z triangle =>
      Opcode.xyzi.byte :: selectors 0 0 ++ selectors 0 0 ++ signed x ++ signed y ++ signed z
        ++ word triangle
  | .move x y => Opcode.move.byte :: selectors 0 0 ++ signed x ++ signed y
  | .moveSpeed selector speed => Opcode.msped.byte :: selectors selector 0 ++ word speed

/-- The bytes of a script. -/
def assemble (items : List Item) : List UInt8 := items.flatMap Item.encode

end FieldMachine.Assembly
