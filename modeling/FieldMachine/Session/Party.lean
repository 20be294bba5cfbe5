/-!
# The party

Three slots that hold a character each or nobody, beside two masks that say
which characters the party switcher offers and which ones it keeps.
-/

namespace FieldMachine

set_option autoImplicit false

/-- The number of party slots. -/
def partySize : Nat := 3

/-- The byte that scripts write for an empty party slot. -/
def nobody : UInt8 := 0xFF

/-- The party slots and the masks of the party switcher. -/
structure Party where
  slots : Vector (Option UInt8) partySize := Vector.replicate partySize none
  /-- Bit `n` set: character `n` is offered by the switcher. -/
  available : UInt16 := 0
  /-- Bit `n` set: character `n` is not to be taken out. -/
  locked : UInt16 := 0
deriving DecidableEq

/-- Sets or clears bit `index` of a mask; indices past 15 name no bit. -/
def setMaskBit (mask : UInt16) (index : UInt8) (on : Bool) : UInt16 :=
  if 16 ≤ index then mask
  else if on then mask ||| ((1 : UInt16) <<< index.toUInt16)
  else mask &&& ~~~((1 : UInt16) <<< index.toUInt16)

namespace Party

/-- The character in a slot; there is nobody past the last slot. -/
def slot (party : Party) (index : Nat) : Option UInt8 := party.slots[index]?.join

/-- Whether a character is in some slot. -/
def contains (party : Party) (character : UInt8) : Bool :=
  party.slots.contains (some character)

/-- The character in the first occupied slot. -/
def leader (party : Party) : Option UInt8 := party.slots.toList.findSome? id

/-- Puts a character into the first empty slot of a list of slots. -/
def fillFirst (character : UInt8) : List (Option UInt8) → List (Option UInt8)
  | [] => []
  | none :: rest => some character :: rest
  | some other :: rest => some other :: fillFirst character rest

/-- Filling a slot adds none. -/
theorem length_fillFirst (character : UInt8) (slots : List (Option UInt8)) :
    (fillFirst character slots).length = slots.length := by
  fun_induction fillFirst character slots <;> simp_all

/-- Takes a character in, at the first empty slot; a full party takes in nobody. -/
def add (party : Party) (character : UInt8) : Party :=
  if party.contains character then party
  else { party with
    slots := ⟨(fillFirst character party.slots.toList).toArray,
      by simp [length_fillFirst]⟩ }

/-- Empties every slot that holds the character. -/
def remove (party : Party) (character : UInt8) : Party :=
  { party with
    slots := party.slots.map fun held => if held = some character then none else held }

/-- Whether the switcher offers a character. -/
def isAvailable (party : Party) (character : UInt8) : Bool :=
  character < 16 && party.available &&& ((1 : UInt16) <<< character.toUInt16) ≠ 0

/-- Offers a character in the switcher or withdraws it. -/
def setAvailable (party : Party) (character : UInt8) (on : Bool) : Party :=
  { party with available := setMaskBit party.available character on }

/-- Locks a character into the party or unlocks it. -/
def setLocked (party : Party) (character : UInt8) (on : Bool) : Party :=
  { party with locked := setMaskBit party.locked character on }

end Party

end FieldMachine
