import FieldMachine.Memory
import FieldMachine.Opcode

/-!
# Faults

Why an instruction cannot be carried out, and the report of a lane that was
given up for it.  The wording of all of them is here.
-/

namespace FieldMachine

set_option autoImplicit false

/-- Why an instruction cannot be carried out. -/
inductive ExecError
  /-- The byte at `ip` starts no instruction that can be carried out. -/
  | unknownOpcode (byte : UInt8) (ip : Nat)
  /-- The bytecode ends before the operand at `pc` does. -/
  | truncated (pc : Nat)
  | jumpOutOfRange (target : Int) (start finish : Nat)
  | address (error : AddressError)
  | noSuchEntity (index : Nat)
  | entityGone
  | emptyPartySlot (slot : UInt8)
  | noCharacterEntity (character : UInt8)
  | invalidOperand (byte : UInt8) (what : String) (value : UInt32)
deriving DecidableEq

/-- The text that reports an error. -/
def ExecError.message : ExecError → String
  | .unknownOpcode byte ip =>
      "unknown opcode 0x" ++ Numeral.hexUpper 2 byte.toNat ++ " at 0x" ++ Numeral.hexUpper 4 ip
  | .truncated pc => "bytecode truncated at 0x" ++ Numeral.hexUpper 4 pc
  | .jumpOutOfRange target start finish =>
      s!"jump target {target} outside bytecode 0x" ++ Numeral.hexUpper 4 start ++ "..0x"
        ++ Numeral.hexUpper 4 finish
  | .address error => error.message
  | .noSuchEntity index => s!"no entity at field index {index}"
  | .entityGone => "entity no longer exists"
  | .emptyPartySlot slot => s!"party slot {slot} is empty"
  | .noCharacterEntity character => s!"no field entity plays character {character}"
  | .invalidOperand byte what value =>
      s!"invalid {what} operand {value} for opcode 0x" ++ Numeral.hexUpper 2 byte.toNat

/-- The report of a lane that was given up. -/
structure Fault where
  entity : Nat
  name : String
  priority : Nat
  ip : Nat
  error : ExecError
deriving DecidableEq

/-- The text of a report. -/
def Fault.message (fault : Fault) : String :=
  s!"entity {fault.entity} ({fault.name}) priority {fault.priority} at 0x"
    ++ Numeral.hexUpper 4 fault.ip ++ ": " ++ fault.error.message

end FieldMachine
