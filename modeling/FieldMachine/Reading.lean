import FieldMachine.Effect
import FieldMachine.Cursor

/-!
# Reading an instruction

An instruction is worked out before anything happens: it reads its operands,
looks at the world, the session and what the host can be asked, and arrives at a
`Plan`.  Nothing can be changed on the way, so an instruction that fails while
it is worked out leaves everything as it was.

A plan is either to try again in the next tick, or a list of effects with an
`Ending` that says how the lane goes on.
-/

namespace FieldMachine

set_option autoImplicit false

/-- How a lane goes on after an instruction. -/
inductive Ending
  /-- On to the next instruction. -/
  | advance
  /-- On to the next instruction in the next tick. -/
  | yield
  /-- On with the rest of this instruction in the next tick. -/
  | suspend (continuation : Continuation)
  | pause (reason : PauseReason)
  /-- The invocation is over, and whoever waits for it is woken. -/
  | stop
  /-- The invocation is over, and another script of the same entity begins. -/
  | handOver (priority script : Nat)
  /-- The host decides: it completes the request at once or leaves the lane waiting. -/
  | request (request : Request) (reason : PauseReason)
  | fault (error : ExecError)

/-- What an instruction comes to. -/
inductive Plan
  /-- Nothing happens, and the instruction is tried again in the next tick. -/
  | retry (entries : List Entry)
  | act (effects : List Effect) (ending : Ending)

/-- Effects after which the lane goes on to the next instruction. -/
def Plan.next (effects : List Effect) : Plan := .act effects .advance

/-- What an instruction can look at. -/
structure Scene where
  source : Section
  config : Config
  world : World
  session : Session
  senses : Senses
  entity : EntityId
  priority : Nat
  /-- The lane that the instruction runs on. -/
  lane : Lane
  /-- The byte that starts the instruction. -/
  opcode : UInt8

/-- A computation that reads operands and looks at the scene. -/
abbrev Reading := ReaderT Scene (StateT Cursor (Except ExecError))

namespace Reading

/-! ## Operands -/

/-- Reads one byte. -/
def byte : Reading UInt8 := fun _ cursor => cursor.byte

/-- Reads two bytes. -/
def word : Reading UInt16 := fun _ cursor => cursor.word

/-- Reads two bytes as a signed number. -/
def signed : Reading Int16 := fun _ cursor => cursor.signed

/-- Reads three bytes. -/
def triple : Reading UInt32 := fun _ cursor => cursor.triple

/-- Reads four bytes. -/
def long : Reading UInt32 := fun _ cursor => cursor.long

/-- Reads a byte of two selectors. -/
def selectors : Reading Selectors := return { byte := ← byte }

/-- Reads a byte that is a switch; zero is off. -/
def switch : Reading Bool := return (← byte) ≠ 0

/-- Reads a byte that is a switch; zero is on. -/
def inverseSwitch : Reading Bool := return (← byte) = 0

/-- Gives the instruction up. -/
def fail {α : Type} (error : ExecError) : Reading α := fun _ _ => .error error

/-- Gives the instruction up because of an operand. -/
def invalid {α : Type} (what : String) (value : UInt32) : Reading α :=
  fun scene _ => .error (.invalidOperand scene.opcode what value)

/-- Where the next operand starts. -/
def here : Reading Nat := fun _ cursor => .ok (cursor.pc, cursor)

/-- Where the instruction starts. -/
def instructionStart : Reading Nat := fun _ cursor => .ok (cursor.start, cursor)

/-- What the instruction looks at. -/
def scene : Reading Scene := fun scene cursor => .ok (scene, cursor)

/-- The error of a jump to a target that is not inside the bytecode. -/
def jumpError? (source : Section) (target : Int) : Option ExecError :=
  if target < source.codeStart || (source.codeEnd : Int) ≤ target then
    some (.jumpOutOfRange target source.codeStart source.codeEnd)
  else none

/-- Goes on at another place of the bytecode. -/
def jump (target : Int) : Reading Unit := fun scene cursor =>
  match jumpError? scene.source target with
  | some error => .error error
  | none => (cursor.moveTo target.toNat).map fun cursor => ((), cursor)

/-! ## Values -/

/-- The value of an operand: itself for selector 0, and otherwise the cell that it names. -/
def load (selector : UInt8) (raw : UInt16) : Reading UInt16 := fun scene cursor =>
  if selector = 0 then .ok (raw, cursor)
  else match scene.session.memory.read selector raw with
    | .ok value => .ok (value, cursor)
    | .error error => .error (.address error)

/-- The value of a signed operand. -/
def loadSigned (selector : UInt8) (raw : Int16) : Reading Int16 :=
  return (← load selector raw.toUInt16).toInt16

/-- The value of a signed operand as a coordinate. -/
def loadCoordinate (selector : UInt8) (raw : Int16) : Reading Int32 :=
  return (← loadSigned selector raw).toInt32

/-- The value of an operand of one byte; a cell counts with its low byte. -/
def loadByte (selector raw : UInt8) : Reading UInt8 :=
  return (← load selector raw.toUInt16).toUInt8

/-- Reads a number of 32 bits as two halves, each with a selector of its own. -/
def splitLong (low high : UInt8) : Reading UInt32 := do
  let lowRaw ← word
  let highRaw ← word
  let lowValue ← load low lowRaw
  let highValue ← load high highRaw
  return lowValue.toUInt32 ||| (highValue.toUInt32 <<< 16)

/-! ## Entities -/

/-- The entity registered at an index. -/
def entityAt (index : UInt8) : Reading EntityId := do
  match (← scene).world.entity? index.toNat with
  | some _ => return index.toNat
  | none => fail (.noSuchEntity index.toNat)

/-- The body of an entity. -/
def actorOf (id : EntityId) : Reading Actor := do
  match (← scene).world.actor? id with
  | some actor => return actor
  | none => fail .entityGone

/-- The body of the entity that runs. -/
def self : Reading Actor := do actorOf (← scene).entity

/-- The body of the entity registered at an index. -/
def actorAt (index : UInt8) : Reading Actor := do actorOf (← entityAt index)

/-- The entity that plays the character in a party slot, or why there is none. -/
def partyMember (session : Session) (world : World) (slot : UInt8) :
    Except ExecError EntityId :=
  match session.party.slot slot.toNat with
  | none => .error (.emptyPartySlot slot)
  | some character =>
    match world.characterEntity? character with
    | none => .error (.noCharacterEntity character)
    | some id => .ok id

/-- The entity that plays the character in a party slot. -/
def partyEntity (slot : UInt8) : Reading EntityId := do
  let scene ← scene
  match partyMember scene.session scene.world slot with
  | .ok id => return id
  | .error error => fail error

/-- Names the invocation that runs. -/
def token : Reading ResumeToken := do
  let scene ← scene
  return { entity := scene.entity, priority := scene.priority, epoch := scene.lane.epoch }

/-- What the host can be asked. -/
def senses : Reading Senses := return (← scene).senses

/-- The stage. -/
def stage : Reading Stage := return (← scene).world.stage

/-- The session. -/
def session : Reading Session := return (← scene).session

/-! ## Plans -/

/-- A change of the body of the entity that runs. -/
def changeSelf (changes : List ActorChange) : Reading (List Effect) := do
  let id := (← scene).entity
  return changes.map (.actor id)

end Reading

end FieldMachine
