import FieldMachine.Reading
import FieldMachine.Comparison

/-!
# Returns, calls, jumps and waits

The instructions that decide where a lane goes on.  A forward jump counts from
the byte that holds its offset, a backward jump from the byte of its opcode.  A
conditional jump is taken when its condition fails.
-/

namespace FieldMachine.Control

set_option autoImplicit false

open Reading

/-! ## Returns -/

/-- Returns.  The first script of the base lane, as long as nobody waits for it, does not end: its
first return marks the beginning of its main loop, and every return goes on there in the next
tick.  Everywhere else a return ends the invocation. -/
def goBack : Reading Plan := do
  let next ← here
  let scene ← scene
  if scene.priority ≠ 0 || scene.lane.script ≠ 0 || scene.lane.onStop?.isSome then
    return .act [] .stop
  let entry := scene.lane.mainEntry.getD next
  let record := Effect.recordMain scene.entity scene.priority entry
  match jumpError? scene.source entry with
  | some error => return .act [record] (.fault error)
  | none => do
      jump entry
      return .act [record] .yield

/-! ## Calls -/

/-- Reads the priority and the script of a call, three bits and five bits of one byte. -/
def callee : Reading (Nat × Nat) := do
  let packed ← byte
  return ((packed >>> 5).toNat, (packed &&& 0x1F).toNat)

/-- Calls a script of an entity. -/
def call (strength : CallStrength) (target : EntityId) (priority script : Nat) :
    Reading Plan := do
  let scene ← scene
  let some entity := scene.world.entity? target | fail .entityGone
  let told := Entry.called scene.entity target priority script strength
  match entity.admission priority script with
  | .error refusal =>
      if strength = .forget then
        return .next [.log refusal.entry, .log (told false)]
      else return .retry [refusal.entry, told false]
  | .ok entry =>
      let caller ← token
      let onStop := if strength = .wait then some caller else none
      let effects := [Effect.startLane target priority entry script onStop, .log (told true)]
      return .act effects (if strength = .wait then .pause .call else .advance)

/-- Calls a script of the entity registered at an index. -/
def callEntity (strength : CallStrength) : Reading Plan := do
  let index ← byte
  let (priority, script) ← callee
  call strength (← entityAt index) priority script

/-- Calls a script of the entity that plays the character in a party slot. -/
def callMember (strength : CallStrength) : Reading Plan := do
  let slot ← byte
  let (priority, script) ← callee
  call strength (← partyEntity slot) priority script

/-- Ends the invocation and begins another script of the same entity. -/
def handOver : Reading Plan := do
  let (priority, script) ← callee
  return .act [] (.handOver priority script)

/-! ## Jumps -/

/-- Reads the offset of a jump, of one byte or of two. -/
def offset (wide : Bool) : Reading Nat := do
  if wide then return (← word).toNat else return (← byte).toNat

/-- Jumps forward. -/
def jumpForward (wide : Bool) : Reading Plan := do
  let base ← here
  let distance ← offset wide
  jump (base + distance)
  return .next []

/-- Jumps backward. -/
def jumpBackward (wide : Bool) : Reading Plan := do
  let distance ← offset wide
  jump ((← instructionStart) - distance)
  return .next []

/-- Reads the offset of a conditional jump and jumps if the condition fails. -/
def jumpUnless (wide condition : Bool) : Reading Plan := do
  let base ← here
  let distance ← offset wide
  if !condition then jump (base + distance)
  return .next []

/-- How the operands of a comparison are taken. -/
inductive Width
  | byte
  | signedWord
  | word
deriving DecidableEq

/-- Reads the two sides of a comparison. -/
def sides (width : Width) (selectors : Selectors) : Reading (Int32 × Int32) := do
  match width with
  | .byte => do
      let a ← byte
      let b ← byte
      return ((← loadByte selectors.high a).toUInt32.toInt32,
        (← loadByte selectors.low b).toUInt32.toInt32)
  | .signedWord => do
      let a ← signed
      let b ← signed
      return (← loadCoordinate selectors.high a, ← loadCoordinate selectors.low b)
  | .word => do
      let a ← word
      let b ← word
      return ((← load selectors.high a).toUInt32.toInt32,
        (← load selectors.low b).toUInt32.toInt32)

/-- Jumps unless two operands pass a test. -/
def compare (width : Width) (wide : Bool) : Reading Plan := do
  let (a, b) ← sides width (← selectors)
  let kind ← byte
  match Comparison.ofByte? kind with
  | none => invalid "comparison" kind.toUInt32
  | some comparison => jumpUnless wide (comparison.test a b)

/-- Jumps unless one of some buttons is in a set of buttons. -/
def compareKeys (buttons : Keys → Buttons) : Reading Plan := do
  let mask := (← word) &&& knownButtons
  jumpUnless false (buttons (← scene).world.keys &&& mask ≠ 0)

/-- Jumps unless a character is in the party. -/
def compareParty : Reading Plan := do
  let character ← byte
  jumpUnless false ((← session).party.contains character)

/-- Jumps unless the party switcher offers a character. -/
def compareAvailable : Reading Plan := do
  let character ← byte
  jumpUnless false ((← session).party.isAvailable character)

/-! ## Waiting -/

/-- Waits a number of ticks: it is tried again until it has been retried that often. -/
def wait : Reading Plan := do
  let frames ← word
  if frames.toUInt32 ≤ (← scene).lane.retries then return .next [] else return .retry []

/-- Does nothing. -/
def nothing : Reading Plan := return .next []

end FieldMachine.Control
