import FieldMachine.Reading

/-!
# Windows and dialogs

The shape of the dialog windows, the texts and questions shown in them, the
menus, and the countdown timer.
-/

namespace FieldMachine.Dialogue

set_option autoImplicit false

open Reading

/-- The window with a number. -/
def windowAt (id : UInt8) : Reading Window := do
  match (← stage).windows[id.toNat]? with
  | some window => return window
  | none => invalid "window" id.toUInt32

/-- Changes of one window. -/
def changeWindow (id : UInt8) (changes : List WindowChange) : Reading (List Effect) := do
  let _ ← windowAt id
  return changes.map (.window id.toNat)

/-! ## Shape -/

/-- Sets place and size of a window. -/
def setGeometry : Reading Plan := do
  let id ← byte
  let x ← word
  let y ← word
  let width ← word
  let height ← word
  return .next (← changeWindow id [.setGeometry x y width height])

/-- Moves a window. -/
def moveWindow : Reading Plan := do
  let id ← byte
  let x ← signed
  let y ← signed
  return .next (← changeWindow id [.moveTo x.toUInt16 y.toUInt16])

/-- Sets how a window is drawn and whether the player can close it. -/
def setMode : Reading Plan := do
  let id ← byte
  let mode ← byte
  let closable ← inverseSwitch
  return .next (← changeWindow id [.setMode mode closable])

/-- Makes a window what it was at first. -/
def resetWindow : Reading Plan := do
  let id ← byte
  return .next (← changeWindow id [.reset])

/-- Closes a window, and makes it what it was at first if that is asked for. -/
def closeWindow (reset : Bool) : Reading Plan := do
  let id ← byte
  let effects ← changeWindow id (if reset then [.reset, .close] else [.close])
  return .next (effects ++ [.notify (.closeWindow id)])

/-- Sets the number of rows of a window. -/
def setRows : Reading Plan := do
  let id ← byte
  let rows ← byte
  return .next (← changeWindow id [.setRows rows])

/-- The special content that a byte names. -/
def specialOfByte? (byte : UInt8) : Option WindowSpecial :=
  #[WindowSpecial.none, .clock, .numeric][byte.toNat]?

/-- Sets the special content of a window. -/
def setSpecial : Reading Plan := do
  let id ← byte
  let kind ← byte
  let x ← byte
  let y ← byte
  match specialOfByte? kind with
  | none => invalid "window special" kind.toUInt32
  | some special => return .next (← changeWindow id [.setSpecial special x y])

/-- Sets the number shown in a window. -/
def setNumber : Reading Plan := do
  let selectors ← selectors
  let id ← byte
  let number ← splitLong selectors.high selectors.low
  let digits ← byte
  return .next (← changeWindow id [.setNumber number digits])

/-- Sets a message variable of a window. -/
def setVariable (window slot : UInt8) (value : UInt16) : Reading Plan := do
  if messageVariableCount ≤ slot.toNat then invalid "message variable" slot.toUInt32
  else return .next (← changeWindow window [.setVariable slot.toNat value])

/-- Sets a message variable to a byte. -/
def setByteVariable : Reading Plan := do
  let selectors ← selectors
  let window ← byte
  let slot ← byte
  let value ← byte
  let value ← loadByte selectors.high value
  setVariable window slot value.toUInt16

/-- Sets a message variable to a word. -/
def setWordVariable : Reading Plan := do
  let selectors ← selectors
  let window ← byte
  let slot ← byte
  let value ← word
  let value ← load selectors.high value
  setVariable window slot value

/-! ## Texts, questions and menus -/

/-- The dialog that shows a text in a window. -/
def dialogIn (window text : UInt8) (choices : Option (UInt8 × UInt8)) : Reading Dialog := do
  let frame ← windowAt window
  let bytes := ((← scene).source.text? text.toNat).getD []
  return { window, text, bytes, frame, choices }

/-- Shows a text. -/
def message : Reading Plan := do
  let window ← byte
  let text ← byte
  return .act [] (.request (.dialog (← dialogIn window text none)) (.message window))

/-- Asks a question; the chosen line goes to a cell. -/
def ask : Reading Plan := do
  let selectors ← selectors
  let window ← byte
  let text ← byte
  let first ← byte
  let last ← byte
  let address ← byte
  let bank := selectors.high
  if bank = 0 then fail (.address .immediateDestination)
  else do
    let dialog ← dialogIn window text (some (first, last))
    return .act [] (.request (.dialog dialog) (.ask window bank address))

/-- Opens a menu. -/
def menu : Reading Plan := do
  let selectors ← selectors
  let kind ← byte
  let param ← byte
  let kind ← loadByte selectors.high kind
  let param ← loadByte selectors.low param
  return .act [] (.request (.menu kind param) .menu)

/-- Allows or forbids the menu. -/
def allowMenu : Reading Plan := do
  let on ← inverseSwitch
  return .next [.stage (.setMenuEnabled on)]

/-- Names the place. -/
def nameLocation : Reading Plan := do
  let text ← byte
  return .next [.notify (.locationName text)]

/-- Sets the countdown timer from hours, minutes and seconds. -/
def setTimer : Reading Plan := do
  let first ← selectors
  let second ← selectors
  let hours ← byte
  let minutes ← byte
  let seconds ← byte
  let hours ← loadByte first.high hours
  let minutes ← loadByte first.low minutes
  let seconds ← loadByte second.high seconds
  return .next [.session (.setTimer
    (hours.toUInt32 * 3600 + minutes.toUInt32 * 60 + seconds.toUInt32))]

end FieldMachine.Dialogue
