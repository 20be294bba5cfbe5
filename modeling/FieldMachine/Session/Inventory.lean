import Std.Data.ExtTreeMap

/-!
# The inventory

How many pieces of each item the party carries.  Adding pieces stops at the
largest stack; taking the last one away removes the entry.
-/

namespace FieldMachine

set_option autoImplicit false

open Std (ExtTreeMap)

/-- The most pieces of one item that can be carried. -/
def maxItemStack : Nat := 99

/-- The carried items, in ascending order, with their counts. -/
structure Inventory where
  items : ExtTreeMap UInt16 UInt8 := ∅
deriving DecidableEq

namespace Inventory

/-- How many pieces of an item are carried. -/
def count (inventory : Inventory) (item : UInt16) : UInt8 := inventory.items[item]?.getD 0

/-- Adds pieces of an item, as far as its stack can grow. -/
def add (inventory : Inventory) (item : UInt16) (quantity : UInt8) : Inventory :=
  let total := (inventory.count item).toNat + quantity.toNat
  { items := inventory.items.insert item (min total maxItemStack).toUInt8 }

/-- Takes pieces of an item away, and the item itself with its last piece. -/
def remove (inventory : Inventory) (item : UInt16) (quantity : UInt8) : Inventory :=
  match inventory.items[item]? with
  | none => inventory
  | some held =>
      if held ≤ quantity then { items := inventory.items.erase item }
      else { items := inventory.items.insert item (held - quantity) }

/-- The carried items with their counts, in ascending order. -/
def toList (inventory : Inventory) : List (UInt16 × UInt8) := inventory.items.toList

end Inventory

end FieldMachine
