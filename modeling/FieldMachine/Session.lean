import FieldMachine.Memory
import FieldMachine.Config
import FieldMachine.Session.Party
import FieldMachine.Session.Inventory

/-!
# The session

The state of the game that scripts change but that outlives a field: the memory
banks, the party and its belongings, the settings of battles, and the countdown
timer.  Amounts saturate: gil stops at its cap and at zero, points stop at their
maximum and at zero.
-/

namespace FieldMachine

set_option autoImplicit false

/-- The number of playable characters. -/
def characterCount : Nat := 9

/-- The most gil that can be held. -/
def maxGil : Nat := 99999999

/-- Hit points and magic points of one character. -/
structure Character where
  hp : UInt16 := 0
  maxHp : UInt16 := 0
  mp : UInt16 := 0
  maxMp : UInt16 := 0
deriving DecidableEq

namespace Character

/-- Fills up both kinds of points. -/
def restore (character : Character) : Character :=
  { character with hp := character.maxHp, mp := character.maxMp }

/-- Adds an amount to a level that stops at a maximum. -/
def raise (level amount maximum : UInt16) : UInt16 :=
  (min (min (level.toNat + amount.toNat) 0xFFFF) maximum.toNat).toUInt16

/-- Takes an amount from a level that stops at zero. -/
def lower (level amount : UInt16) : UInt16 := if level ≤ amount then 0 else level - amount

end Character

/-- One piece of materia with the ability points it has gathered. -/
structure Materia where
  id : UInt8
  ap : UInt32
deriving DecidableEq

/-- The settings of the coming battles and the outcome of the last one. -/
structure BattleSettings where
  encountersEnabled : Bool := true
  mode : UInt32 := 0
  table : UInt8 := 0
  lastResult : UInt16 := 0
  music : UInt8 := 0
deriving DecidableEq

/-- The state of the game that outlives a field. -/
structure Session where
  memory : Memory
  party : Party := {}
  characters : Vector Character characterCount := Vector.replicate characterCount {}
  inventory : Inventory := {}
  /-- The pieces in the order in which they were gained. -/
  materia : Array Materia := #[]
  gil : UInt32 := 0
  battle : BattleSettings := {}
  /-- What is left of the countdown, in whole seconds. -/
  timerSeconds : UInt32 := 0
  /-- The milliseconds that have not yet made up a second. -/
  timerCarry : UInt64 := 0
  lastField : UInt16 := 0
  disc : UInt8 := 1
deriving DecidableEq

namespace Session

/-- A session at its beginning, with banks of the configured shape. -/
def fresh (config : Config) : Session :=
  { memory := Memory.blank config.bankCount config.bankSize }

/-- Puts a value into a cell that exists. -/
def putCell (session : Session) (bank : UInt8) (address : UInt16) (value : UInt16) : Session :=
  { session with memory := session.memory.put bank address value }

/-- Adds gil up to the cap. -/
def addGil (session : Session) (amount : UInt32) : Session :=
  { session with gil := (min (session.gil.toNat + amount.toNat) maxGil).toUInt32 }

/-- Takes gil away, down to nothing. -/
def takeGil (session : Session) (amount : UInt32) : Session :=
  { session with gil := if session.gil ≤ amount then 0 else session.gil - amount }

/-- Sets the countdown. -/
def setTimer (session : Session) (seconds : UInt32) : Session :=
  { session with timerSeconds := seconds, timerCarry := 0 }

/-- Lets `elapsed` milliseconds pass on the countdown and keeps what is less than a second. -/
def advanceTimer (session : Session) (elapsed : UInt64) : Session :=
  if session.timerSeconds = 0 then { session with timerCarry := 0 }
  else
    let carry := session.timerCarry + elapsed
    let whole := (carry / 1000).toUInt32
    { session with
      timerCarry := carry % 1000
      timerSeconds := if session.timerSeconds ≤ whole then 0 else session.timerSeconds - whole }

/-- The character with a number, if there is one. -/
def character? (session : Session) (id : UInt8) : Option Character :=
  session.characters[id.toNat]?

/-- Changes the character with a number, if there is one. -/
def updateCharacter (session : Session) (id : UInt8) (change : Character → Character) : Session :=
  match session.characters[id.toNat]? with
  | none => session
  | some character =>
      { session with
        characters := session.characters.setIfInBounds id.toNat (change character) }

/-- Restores every character. -/
def restoreAll (session : Session) : Session :=
  { session with characters := session.characters.map Character.restore }

/-- Restores the characters in the party. -/
def restoreParty (session : Session) : Session :=
  session.party.slots.toList.foldl
    (fun session held => match held with
      | none => session
      | some id => session.updateCharacter id Character.restore)
    session

/-- Appends a piece of materia. -/
def addMateria (session : Session) (materia : Materia) : Session :=
  { session with materia := session.materia.push materia }

/-- What is left of some pieces without the first `quantity` ones that equal `materia`. -/
def withoutMateria (materia : Materia) : Nat → List Materia → List Materia
  | _, [] => []
  | quantity, held :: rest =>
      if held = materia then
        match quantity with
        | 0 => held :: rest
        | less + 1 => withoutMateria materia less rest
      else held :: withoutMateria materia quantity rest

/-- Removes the first `quantity` pieces that equal `materia`. -/
def dropMateria (session : Session) (materia : Materia) (quantity : Nat) : Session :=
  { session with materia := (withoutMateria materia quantity session.materia.toList).toArray }

/-- How many pieces of an identity have at least some ability points. -/
def countMateria (session : Session) (least : Materia) : Nat :=
  session.materia.countP fun held => held.id == least.id && decide (least.ap ≤ held.ap)

end Session

end FieldMachine
