import FieldMachine.Reading

/-!
# Battles and ways out

The instructions that hand control to another part of the game: battles,
minigames, tutorials, other discs and other fields.
-/

namespace FieldMachine.Transition

set_option autoImplicit false

open Reading

/-! ## Battles -/

/-- Starts a battle; its outcome is kept. -/
def battle : Reading Plan := do
  let selectors ← selectors
  let id ← word
  let id ← load selectors.high id
  return .act [] (.request (.battle id) .battle)

/-- Allows or forbids encounters. -/
def allowEncounters : Reading Plan := do
  let on ← inverseSwitch
  return .next [.session (.setEncounters on)]

/-- Sets the mode of battles from two bytes. -/
def setBattleMode : Reading Plan := do
  let mode ← word
  return .next [.session (.setBattleMode mode.toUInt32)]

/-- Sets the mode of battles from four bytes. -/
def setLongBattleMode : Reading Plan := do
  let mode ← long
  return .next [.session (.setBattleMode mode)]

/-- Stores the outcome of the last battle. -/
def storeBattleResult : Reading Plan := do
  let selectors ← selectors
  let address ← byte
  return .next [.store selectors.high address (← session).battle.lastResult]

/-- Chooses the table of encounters. -/
def setBattleTable : Reading Plan := do
  let table ← byte
  return .next [.session (.setBattleTable table)]

/-! ## Fields -/

/-- Leaves the field; the lane waits for good. -/
def leaveField : Reading Plan := do
  let field ← word
  let x ← signed
  let y ← signed
  let triangle ← word
  let direction ← byte
  let jump : MapJump := { field, x, y, triangle, direction }
  return .act
    [.log (.leaving (← scene).entity field), .stage (.setPendingJump jump),
      .notify (.leaveField jump)]
    (.pause .fieldJump)

/-- Allows or forbids leaving the field. -/
def allowMapJumps : Reading Plan := do
  let on ← inverseSwitch
  return .next [.stage (.setMapJumpsEnabled on)]

/-- Prepares another field. -/
def prepareField : Reading Plan := do
  let field ← word
  return .next [.stage (.setPreparedField field), .notify (.prepareField field)]

/-- Hints that a prepared field will be needed; nothing depends on it. -/
def hintField : Reading Plan := do
  return .next [.log (.fieldCacheHint (← scene).entity)]

/-- Stores the field that was left last. -/
def storeLastField : Reading Plan := do
  let selectors ← selectors
  let address ← byte
  return .next [.store selectors.high address (← session).lastField]

/-- Shows or hides the small map. -/
def showMinimap : Reading Plan := do
  let on ← switch
  return .next [.stage (.setMinimapVisible on)]

/-! ## Other parts of the game -/

/-- Asks for another disc. -/
def changeDisc : Reading Plan := do
  let disc ← byte
  return .act [.session (.setDisc disc)] (.request (.disc disc) .discChange)

/-- Starts a minigame. -/
def minigame : Reading Plan := do
  let field ← word
  let x ← signed
  let y ← signed
  let triangle ← word
  let param ← byte
  let game ← byte
  return .act [] (.request (.minigame { game, param, field, x, y, triangle }) .minigame)

/-- Opens a tutorial. -/
def tutorial : Reading Plan := do
  let id ← byte
  return .act [] (.request (.tutorial id) .tutorial)

/-- Ends the game. -/
def gameOver : Reading Plan := return .act [.notify .gameOver] .stop

end FieldMachine.Transition
