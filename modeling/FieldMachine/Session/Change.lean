import FieldMachine.Session

/-!
# Changes of the session

What instructions do to the session apart from writing cells: one constructor
per kind of change, carried out by `SessionChange.apply`.  Changes of the party
slots are kept apart as `PartyChange`, because every one of them is announced.
-/

namespace FieldMachine

set_option autoImplicit false

/-- What an instruction does to the party slots. -/
inductive PartyChange
  | assign (slots : Vector (Option UInt8) partySize)
  | add (character : UInt8)
  | remove (character : UInt8)
deriving DecidableEq

/-- The party after a change of its slots. -/
def PartyChange.apply (party : Party) : PartyChange → Party
  | .assign slots => { party with slots }
  | .add character => party.add character
  | .remove character => party.remove character

/-- What an instruction does to the session, apart from cells and party slots. -/
inductive SessionChange
  | setAvailable (character : UInt8) (on : Bool)
  | setLocked (character : UInt8) (on : Bool)
  | addGil (amount : UInt32)
  | takeGil (amount : UInt32)
  | restoreParty
  | restoreAll
  | raiseHp (character : UInt8) (amount : UInt16)
  | lowerHp (character : UInt8) (amount : UInt16)
  | raiseMp (character : UInt8) (amount : UInt16)
  | lowerMp (character : UInt8) (amount : UInt16)
  | addItem (item : UInt16) (quantity : UInt8)
  | removeItem (item : UInt16) (quantity : UInt8)
  | addMateria (materia : Materia)
  /-- Takes away the first pieces that equal `materia`. -/
  | dropMateria (materia : Materia) (quantity : Nat)
  | setTimer (seconds : UInt32)
  | setEncounters (on : Bool)
  | setBattleMode (mode : UInt32)
  | setBattleTable (table : UInt8)
  | setBattleMusic (music : UInt8)
  | setBattleResult (result : UInt16)
  | setDisc (disc : UInt8)
deriving DecidableEq

/-- The session after a change. -/
def SessionChange.apply (session : Session) : SessionChange → Session
  | .setAvailable character on =>
      { session with party := session.party.setAvailable character on }
  | .setLocked character on => { session with party := session.party.setLocked character on }
  | .addGil amount => session.addGil amount
  | .takeGil amount => session.takeGil amount
  | .restoreParty => session.restoreParty
  | .restoreAll => session.restoreAll
  | .raiseHp character amount =>
      session.updateCharacter character fun c => { c with hp := Character.raise c.hp amount c.maxHp }
  | .lowerHp character amount =>
      session.updateCharacter character fun c => { c with hp := Character.lower c.hp amount }
  | .raiseMp character amount =>
      session.updateCharacter character fun c => { c with mp := Character.raise c.mp amount c.maxMp }
  | .lowerMp character amount =>
      session.updateCharacter character fun c => { c with mp := Character.lower c.mp amount }
  | .addItem item quantity => { session with inventory := session.inventory.add item quantity }
  | .removeItem item quantity =>
      { session with inventory := session.inventory.remove item quantity }
  | .addMateria materia => session.addMateria materia
  | .dropMateria materia quantity => session.dropMateria materia quantity
  | .setTimer seconds => session.setTimer seconds
  | .setEncounters on =>
      { session with battle := { session.battle with encountersEnabled := on } }
  | .setBattleMode mode => { session with battle := { session.battle with mode } }
  | .setBattleTable table => { session with battle := { session.battle with table } }
  | .setBattleMusic music => { session with battle := { session.battle with music } }
  | .setBattleResult result =>
      { session with battle := { session.battle with lastResult := result } }
  | .setDisc disc => { session with disc }

end FieldMachine
