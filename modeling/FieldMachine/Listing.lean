import FieldMachine.Host
import FieldMachine.Section

/-!
# Listings

The instructions of a section in readable form: for every entity its scripts,
for every script its instructions with their operand bytes and, where one
branches, the place it branches to.  A script ends where the next one of any
entity begins, or where the bytecode ends.  Slots that begin at the place of an
earlier slot of the same entity are left out.
-/

namespace FieldMachine

set_option autoImplicit false

/-- One line of a listing. -/
structure ListedInstruction where
  address : Nat
  mnemonic : String
  operands : List UInt8
  /-- Where the instruction branches to. -/
  target : Option Nat := none
deriving DecidableEq

/-- A script of a listing. -/
structure ListedScript where
  slot : Nat
  offset : Nat
  instructions : List ListedInstruction
deriving DecidableEq

/-- An entity of a listing. -/
structure ListedEntity where
  index : Nat
  name : String
  scripts : List ListedScript
deriving DecidableEq

/-- What is told about the section as a whole. -/
structure ListingHeader where
  field : String
  creator : String
  version : UInt16
  scale : UInt16
  modelCount : UInt8
  texts : List String
deriving DecidableEq

namespace Listing

/-! ## Branches -/

/-- The place that a byte at `place` leads to; the distance counts from the byte itself. -/
def nearTarget? (bytes : Array UInt8) (place : Nat) : Option Nat :=
  bytes[place]?.map fun distance => place + distance.toNat

/-- The distance in two bytes at `place`. -/
def farDistance? (bytes : Array UInt8) (place : Nat) : Option Nat := do
  return (← bytes[place]?).toNat + 256 * (← bytes[place + 1]?).toNat

/-- The place that lies a distance before another one. -/
def backFrom? (place distance : Nat) : Option Nat :=
  if distance ≤ place then some (place - distance) else none

/-- Where an instruction branches to. -/
def target? (bytes : Array UInt8) (address length : Nat) (op : Opcode) : Option Nat :=
  match op with
  | .jmpf | .ifub | .ifsw | .ifuw | .ifkey | .ifkeyon | .ifkeyoff | .ifprtyq | .ifmembq =>
      nearTarget? bytes (address + length - 1)
  | .jmpfl | .ifubl | .ifswl | .ifuwl =>
      (farDistance? bytes (address + length - 2)).map (address + length - 2 + ·)
  | .jmpb => do backFrom? address (← bytes[address + 1]?).toNat
  | .jmpbl => do backFrom? address (← farDistance? bytes (address + 1))
  | _ => none

/-! ## Instructions -/

/-- The bytes from one place up to another. -/
def between (bytes : Array UInt8) (start finish : Nat) : List UInt8 :=
  (bytes.extract start finish).toList

/-- The instruction at an address, of a known length. -/
def instructionAt (bytes : Array UInt8) (address length : Nat) : ListedInstruction :=
  let byte := Section.byteAt bytes address
  { address
    mnemonic := mnemonicOf byte
    operands := between bytes (address + 1) (address + length)
    target := (Opcode.ofByte? byte).bind (target? bytes address length) }

/-- What is left at an address where no instruction fits before the end of the section. -/
def remnantAt (bytes : Array UInt8) (address finish : Nat) : ListedInstruction :=
  { address
    mnemonic := mnemonicOf (Section.byteAt bytes address)
    operands := between bytes (address + 1) finish }

/-- The line about a byte at an address that something is wrong with. -/
def warning (what : String) (bytes : Array UInt8) (address : Nat) : LogLine :=
  ⟨.warn, what ++ " 0x" ++ Numeral.hexUpper 2 (Section.byteAt bytes address).toNat ++ " at 0x"
    ++ Numeral.hexUpper 4 address⟩

/-- The line about a byte that names no instruction. -/
def unknownWarning (bytes : Array UInt8) (address : Nat) : List LogLine :=
  if (Opcode.ofByte? (Section.byteAt bytes address)).isNone then
    [warning "unknown opcode" bytes address]
  else []

/-- The instructions that begin between two places, with the lines about what is wrong with them. -/
def instructions (bytes : Array UInt8) (finish address : Nat) :
    List ListedInstruction × List LogLine :=
  if address < finish then
    match instructionLength? bytes address with
    | none =>
        ([remnantAt bytes address finish], [warning "truncated instruction" bytes address])
    | some length =>
        let (listed, warnings) := instructions bytes finish (address + max length 1)
        (instructionAt bytes address (max length 1) :: listed,
          unknownWarning bytes address ++ warnings)
  else ([], [])
termination_by finish - address

/-! ## Scripts -/

/-- Where the script that begins at `start` ends. -/
def scriptEnd (source : Section) (start : Nat) : Nat :=
  let later := source.entities.toList.flatMap fun entity =>
    entity.entries.toList.filter (start < ·)
  later.foldl min source.codeEnd

/-- The slots of an entity that begin at places of their own. -/
def ownSlots (entity : EntityScripts) : List (Nat × Nat) :=
  entity.entries.toList.zipIdx.filterMap fun (offset, slot) =>
    if (entity.entries.toList.take slot).contains offset then none else some (slot, offset)

/-- The scripts in some slots. -/
def scripts (source : Section) (slots : List (Nat × Nat)) : List ListedScript × List LogLine :=
  let listed := slots.map fun (slot, offset) =>
    let (instructions, warnings) := instructions source.bytes (scriptEnd source offset) offset
    (({ slot, offset, instructions } : ListedScript), warnings)
  (listed.map Prod.fst, listed.flatMap Prod.snd)

/-- The entities of a section, with the lines about what is wrong with their instructions. -/
def entities (source : Section) : List ListedEntity × List LogLine :=
  let listed := source.entities.toList.zipIdx.map fun (entity, index) =>
    let (scripts, warnings) := scripts source (ownSlots entity)
    (({ index, name := entity.name, scripts } : ListedEntity), warnings)
  (listed.map Prod.fst, listed.flatMap Prod.snd)

/-! ## The header -/

/-- What is told about a section as a whole.  Texts are looked up by a byte, so that a text past
the last number a byte can hold is given as the one that shares its byte. -/
def header (source : Section) : ListingHeader :=
  { field := source.name
    creator := source.creator
    version := source.version
    scale := source.scale
    modelCount := source.modelCount
    texts := (List.range source.texts.size).filterMap fun index =>
      (source.text? (index % 256)).map Utf8.decodeString }

end Listing

end FieldMachine
