import FieldMachine.Reading

/-!
# The party and its belongings

Who is in the party, the points of its members, gil, items and materia, and the
walks in which the party gathers around its leader or parts from him.
-/

namespace FieldMachine.Company

set_option autoImplicit false

open Reading

/-! ## Party slots -/

/-- The character that a byte names; one byte stands for nobody. -/
def characterOrNobody (byte : UInt8) : Option UInt8 := if byte = nobody then none else some byte

/-- Fills the three slots from operands with selectors. -/
def assignLoaded : Reading Plan := do
  let front ← selectors
  let back ← selectors
  let first ← byte
  let second ← byte
  let third ← byte
  let first ← loadByte front.high first
  let second ← loadByte front.low second
  let third ← loadByte back.high third
  return .next [.party (.assign
    #v[characterOrNobody first, characterOrNobody second, characterOrNobody third])]

/-- Fills the three slots from immediate operands. -/
def assign : Reading Plan := do
  let first ← byte
  let second ← byte
  let third ← byte
  return .next [.party (.assign
    #v[characterOrNobody first, characterOrNobody second, characterOrNobody third])]

/-- The byte for what is in a slot. -/
def slotByte (party : Party) (slot : Nat) : UInt8 := (party.slot slot).getD nobody

/-- Stores the three slots in three cells. -/
def storeSlots : Reading Plan := do
  let front ← selectors
  let back ← selectors
  let first ← byte
  let second ← byte
  let third ← byte
  let party := (← session).party
  return .next
    [.store front.high first (slotByte party 0).toUInt16,
      .store front.low second (slotByte party 1).toUInt16,
      .store back.high third (slotByte party 2).toUInt16]

/-- Stores what is in one slot. -/
def storeSlot : Reading Plan := do
  let selectors ← selectors
  let slot ← byte
  let address ← byte
  return .next
    [.store selectors.high address (slotByte (← session).party slot.toNat).toUInt16]

/-- Takes a character into the party. -/
def add : Reading Plan := do
  let character ← byte
  let party := (← session).party
  let full := !party.contains character && !party.slots.contains none
  let entries := if full then [Effect.log (.partyFull character)] else []
  return .next (entries ++ [.party (.add character)])

/-- Takes a character out of the party. -/
def remove : Reading Plan := do
  let character ← byte
  return .next [.party (.remove character)]

/-- Offers a character in the party switcher or withdraws it. -/
def setAvailable : Reading Plan := do
  let on ← switch
  let character ← byte
  return .next [.session (.setAvailable character on)]

/-- Locks a character into the party or unlocks it. -/
def setLocked (on : Bool) : Reading Plan := do
  let character ← byte
  return .next [.session (.setLocked character on)]

/-! ## Gil and points -/

/-- Changes the gil by an amount of 32 bits. -/
def changeGil (change : UInt32 → SessionChange) : Reading Plan := do
  let selectors ← selectors
  let amount ← splitLong selectors.high selectors.low
  return .next [.session (change amount)]

/-- Stores the gil in two cells, the low half first. -/
def storeGil : Reading Plan := do
  let selectors ← selectors
  let low ← byte
  let high ← byte
  let gil := (← session).gil
  return .next
    [.store selectors.high low gil.toUInt16,
      .store selectors.low high (gil >>> 16).toUInt16]

/-- Makes one change of the session. -/
def change (change : SessionChange) : Reading Plan := return .next [.session change]

/-- Changes the points of the character in a party slot. -/
def changePoints (change : UInt8 → UInt16 → SessionChange) : Reading Plan := do
  let selectors ← selectors
  let slot ← byte
  let amount ← word
  let amount ← load selectors.high amount
  match (← session).party.slot slot.toNat with
  | none => fail (.emptyPartySlot slot)
  | some character =>
      if characterCount ≤ character.toNat then invalid "character" character.toUInt32
      else return .next [.session (change character amount)]

/-! ## Items and materia -/

/-- Changes the number of pieces of an item. -/
def changeItem (change : UInt16 → UInt8 → SessionChange) : Reading Plan := do
  let selectors ← selectors
  let item ← word
  let quantity ← byte
  let item ← load selectors.high item
  let quantity ← loadByte selectors.low quantity
  return .next [.session (change item quantity)]

/-- Stores how many pieces of an item are carried. -/
def storeItemCount : Reading Plan := do
  let selectors ← selectors
  let item ← word
  let address ← byte
  let item ← load selectors.high item
  return .next [.store selectors.low address ((← session).inventory.count item).toUInt16]

/-- Reads a piece of materia; points taken from a cell have sixteen bits. -/
def materia (selectors : Selectors) : Reading Materia := do
  let id ← byte
  let ap ← triple
  let id ← loadByte selectors.high id
  if selectors.low = 0 then return { id, ap }
  else return { id, ap := (← load selectors.low ap.toUInt16).toUInt32 }

/-- Adds a piece of materia. -/
def addMateria : Reading Plan := do
  let first ← selectors
  let _ ← selectors
  let piece ← materia first
  return .next [.session (.addMateria piece)]

/-- Takes pieces of materia away. -/
def dropMateria : Reading Plan := do
  let first ← selectors
  let second ← selectors
  let piece ← materia first
  let quantity ← byte
  let quantity ← load second.high quantity.toUInt16
  return .next [.session (.dropMateria piece quantity.toNat)]

/-- Stores how many pieces of materia have at least some points. -/
def storeMateriaCount : Reading Plan := do
  let first ← selectors
  let second ← selectors
  let _ ← selectors
  let least ← materia first
  let _ ← byte
  let address ← byte
  let count := (← session).countMateria least
  return .next [.store second.low address (min count 0xFFFF).toUInt16]

/-! ## Places of party members -/

/-- Stores the place of the entity that plays the character in a party slot. -/
def storePlace : Reading Plan := do
  let front ← selectors
  let back ← selectors
  let slot ← byte
  let x ← byte
  let y ← byte
  let z ← byte
  let triangle ← byte
  let actor ← actorOf (← partyEntity slot)
  return .next
    [.store front.high x actor.position.x.toUInt32.toUInt16,
      .store front.low y actor.position.y.toUInt32.toUInt16,
      .store back.high z actor.position.z.toUInt32.toUInt16,
      .store back.low triangle actor.triangle]

/-- Stores the direction of the entity that plays the character in a party slot. -/
def storeDirection : Reading Plan := do
  let selectors ← selectors
  let slot ← byte
  let address ← byte
  let actor ← actorOf (← partyEntity slot)
  return .next [.store selectors.high address actor.direction.toUInt16]

/-! ## Gathering and parting -/

/-- The entity in the first slot, and those in the other slots that are in the field. -/
def leaderAndOthers : Reading (EntityId × List EntityId) := do
  let leader ← partyEntity 0
  let scene ← scene
  let others := [1, 2].filterMap fun slot : UInt8 =>
    (partyMember scene.session scene.world slot).toOption
  return (leader, others)

/-- Lets walkers set out, and waits for them. -/
def walkTogether (first : List Effect) (walks : List Walk) (frames : UInt16) :
    Reading Plan := do
  let token ← token
  return .act
    (first ++ [.log (.choreographyStarted token.entity walks.length frames),
      .choreography walks frames token])
    (.pause .choreography)

/-- Lets the others walk to the leader and disappear. -/
def gather : Reading Plan := do
  let frames ← byte
  let (leader, others) ← leaderAndOthers
  let goal := (← actorOf leader).position
  walkTogether []
    (others.map fun entity => { entity, goal, direction := none, visibleAfter := false })
    frames.toUInt16

/-- Lets the others appear at the leader and walk to two points. -/
def part : Reading Plan := do
  let front ← selectors
  let middle ← selectors
  let back ← selectors
  let x1 ← signed
  let y1 ← signed
  let direction1 ← byte
  let x2 ← signed
  let y2 ← signed
  let direction2 ← byte
  let frames ← byte
  let x1 ← loadCoordinate front.high x1
  let y1 ← loadCoordinate front.low y1
  let direction1 ← loadByte middle.high direction1
  let x2 ← loadCoordinate middle.low x2
  let y2 ← loadCoordinate back.high y2
  let direction2 ← loadByte back.low direction2
  let (leader, others) ← leaderAndOthers
  let origin := (← actorOf leader).position
  let goals : List (Position × UInt8) :=
    [({ x := x1, y := y1, z := origin.z }, direction1),
      ({ x := x2, y := y2, z := origin.z }, direction2)]
  let appear := others.flatMap fun entity =>
    [Effect.actor entity (.lift origin), .actor entity (.setFlag .visible true)]
  let walks := (others.zip goals).map fun (entity, goal, direction) =>
    ({ entity, goal, direction := some direction, visibleAfter := true } : Walk)
  walkTogether appear walks frames.toUInt16

end FieldMachine.Company
