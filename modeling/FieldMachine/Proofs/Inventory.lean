import FieldMachine.Proofs.Belongings
import Mathlib.Data.List.Induction

/-!
# The inventory

Pieces of an item are counted from zero by the operations on that item alone, where adding
stops at the largest stack and taking away at nothing (`Inventory.level`).  The listing
shows each item once, in ascending order, with that number of pieces
(`Inventory.Counts`).

What is listed is what is carried, except that an item stays listed without pieces where
the last operation on it has added none of them: taking pieces away removes an empty
entry, adding does not (`Inventory.nothing_is_listed`).

Whatever a field does to an inventory are such operations, and an instruction that gives
or takes pieces is one of them.
-/

namespace FieldMachine

set_option autoImplicit false

namespace Inventory

/-- An operation on an inventory: pieces of an item are added or taken away. -/
inductive Operation
  | add (item : UInt16) (quantity : UInt8)
  | remove (item : UInt16) (quantity : UInt8)
deriving DecidableEq

namespace Operation

/-- The item whose pieces are concerned. -/
def item : Operation → UInt16
  | add item _ => item
  | remove item _ => item

/-- Whether pieces are added. -/
def adds : Operation → Bool
  | add .. => true
  | remove .. => false

/-- The number of pieces after an operation, from what there were. -/
def level (pieces : Nat) : Operation → Nat
  | add _ quantity => min (pieces + quantity.toNat) maxItemStack
  | remove _ quantity => pieces - quantity.toNat

end Operation

/-- The inventory after an operation. -/
def perform (inventory : Inventory) : Operation → Inventory
  | .add item quantity => inventory.add item quantity
  | .remove item quantity => inventory.remove item quantity

/-- The inventory after some operations. -/
def after (inventory : Inventory) (operations : List Operation) : Inventory :=
  operations.foldl perform inventory

/-- The operations on an item. -/
def on (item : UInt16) (operations : List Operation) : List Operation :=
  operations.filter (·.item == item)

/-- The pieces of an item after some operations, counted from zero by those on the item. -/
def level (item : UInt16) (operations : List Operation) : Nat :=
  (on item operations).foldl Operation.level 0

/-- Whether the last operation on an item adds pieces of it. -/
def addedLast (item : UInt16) (operations : List Operation) : Bool :=
  (on item operations).getLast?.any Operation.adds

/-! ## One operation -/

variable {operations : List Operation}

theorem on_concat (item : UInt16) (operation : Operation) :
    on item (operations ++ [operation]) =
      if operation.item = item then on item operations ++ [operation] else on item operations := by
  by_cases own : operation.item = item <;> simp [on, List.filter_append, own]

theorem level_concat (item : UInt16) (operation : Operation) :
    level item (operations ++ [operation]) =
      if operation.item = item then operation.level (level item operations)
      else level item operations := by
  unfold level
  rw [on_concat]
  split
  · rw [List.foldl_append]
    rfl
  · rfl

theorem addedLast_concat (item : UInt16) (operation : Operation) :
    addedLast item (operations ++ [operation]) =
      if operation.item = item then operation.adds else addedLast item operations := by
  unfold addedLast
  rw [on_concat]
  split
  · rw [List.getLast?_concat]
    rfl
  · rfl

theorem level_le (item : UInt16) (operations : List Operation) :
    level item operations ≤ maxItemStack := by
  induction operations using List.reverseRecOn with
  | nil => exact Nat.zero_le _
  | append_singleton rest operation ih =>
      rw [level_concat]
      split
      · cases operation with
        | add item quantity => exact Nat.min_le_right ..
        | remove item quantity => exact Nat.le_trans (Nat.sub_le ..) ih
      · exact ih

/-- The entry of an item after an operation, from what it was. -/
def Operation.entry (held : Option UInt8) : Operation → Option UInt8
  | .add _ quantity =>
      some (min ((held.getD 0).toNat + quantity.toNat) maxItemStack).toUInt8
  | .remove _ quantity =>
      held.bind fun held => if held ≤ quantity then none else some (held - quantity)

theorem getElem?_perform_self (inventory : Inventory) (operation : Operation) :
    (inventory.perform operation).items[operation.item]? =
      operation.entry inventory.items[operation.item]? := by
  cases operation with
  | add item quantity => exact Std.ExtTreeMap.getElem?_insert_self
  | remove item quantity =>
      show (inventory.remove item quantity).items[item]? =
        Operation.entry inventory.items[item]? (.remove item quantity)
      unfold remove
      split
      · next absent => rw [absent]; rfl
      · next held found =>
          rw [found, Operation.entry, Option.bind_some]
          split
          · exact Std.ExtTreeMap.getElem?_erase_self
          · exact Std.ExtTreeMap.getElem?_insert_self

theorem getElem?_perform_other (inventory : Inventory) {operation : Operation} {item : UInt16}
    (apart : operation.item ≠ item) :
    (inventory.perform operation).items[item]? = inventory.items[item]? := by
  have unequal : compare operation.item item ≠ .eq := fun same =>
    apart (Std.compare_eq_iff_eq.mp same)
  cases operation with
  | add own quantity => exact Std.ExtTreeMap.getElem?_insert.trans (if_neg unequal)
  | remove own quantity =>
      show (inventory.remove own quantity).items[item]? = _
      unfold remove
      split
      · rfl
      · split
        · exact Std.ExtTreeMap.getElem?_erase.trans (if_neg unequal)
        · exact Std.ExtTreeMap.getElem?_insert.trans (if_neg unequal)

/-! ## Entries -/

/-- The entry of an item with so many pieces; without any, the item may linger. -/
def entryOf (pieces : Nat) (lingers : Bool) : Option UInt8 :=
  if 1 ≤ pieces ∨ lingers then some pieces.toUInt8 else none

theorem getD_entryOf {pieces : Nat} (lingers : Bool) (small : pieces < 256) :
    ((entryOf pieces lingers).getD 0).toNat = pieces := by
  unfold entryOf
  split
  · exact Nat.mod_eq_of_lt small
  · show 0 = pieces
    omega

/-- An operation leaves the entry that its item should have. -/
theorem entry_entryOf (operation : Operation) {pieces : Nat} (lingers : Bool)
    (small : pieces < 256) :
    operation.entry (entryOf pieces lingers) = entryOf (operation.level pieces) operation.adds := by
  cases operation with
  | add item quantity =>
      rw [Operation.entry, getD_entryOf lingers small]
      exact (if_pos (.inr rfl)).symm
  | remove item quantity =>
      have byte : pieces.toUInt8.toNat = pieces := Nat.mod_eq_of_lt small
      have gone (all : pieces ≤ quantity.toNat) :
          entryOf (pieces - quantity.toNat) false = none :=
        if_neg (by rw [Nat.sub_eq_zero_of_le all]; decide)
      simp only [Operation.entry, Operation.level, Operation.adds]
      by_cases held : 1 ≤ pieces ∨ lingers
      · rw [entryOf, if_pos held, Option.bind_some]
        by_cases all : pieces ≤ quantity.toNat
        · rw [gone all, if_pos (UInt8.le_iff_toNat_le.mpr (byte.symm ▸ all))]
        · have more : ¬pieces.toUInt8 ≤ quantity := fun least =>
            all (byte ▸ UInt8.le_iff_toNat_le.mp least)
          rw [if_neg more, entryOf, if_pos (.inl (by omega))]
          refine congrArg some (UInt8.toNat_inj.mp ?_)
          rw [UInt8.toNat_sub_of_le _ _ (UInt8.le_of_lt (UInt8.not_le.mp more)), byte]
          exact (Nat.mod_eq_of_lt (by omega)).symm
      · rw [entryOf, if_neg held, gone (by omega)]
        rfl

/-- After any operations, every item has the entry that it should have. -/
theorem getElem?_after (operations : List Operation) (item : UInt16) :
    (after {} operations).items[item]? =
      entryOf (level item operations) (addedLast item operations) := by
  induction operations using List.reverseRecOn with
  | nil => exact Std.ExtTreeMap.getElem?_empty
  | append_singleton rest operation ih =>
      rw [after, List.foldl_append, level_concat, addedLast_concat]
      show ((after {} rest).perform operation).items[item]? = _
      by_cases own : operation.item = item
      · subst own
        rw [getElem?_perform_self, ih, if_pos rfl, if_pos rfl]
        exact entry_entryOf operation _
          (Nat.lt_of_le_of_lt (level_le operation.item rest) (by decide))
      · rw [getElem?_perform_other _ own, ih, if_neg own, if_neg own]

/-! ## The listing -/

/-- An inventory counts the pieces of every item by the operations on it, and lists each item once
and in ascending order, if it has pieces or lingers without any. -/
structure Counts (inventory : Inventory) (operations : List Operation) : Prop where
  counted : ∀ item, (inventory.count item).toNat = level item operations
  ascending : (inventory.toList.map Prod.fst).Pairwise (· < ·)
  listed : ∀ item quantity, (item, quantity) ∈ inventory.toList ↔
    quantity = inventory.count item ∧ (1 ≤ quantity.toNat ∨ addedLast item operations)
  capped : ∀ item quantity, (item, quantity) ∈ inventory.toList → quantity.toNat ≤ 99

/-- An inventory lists what is carried and nothing else. -/
def ListsCarried (inventory : Inventory) : Prop :=
  ∀ item quantity, (item, quantity) ∈ inventory.toList ↔
    quantity = inventory.count item ∧ 1 ≤ quantity.toNat

theorem after_counts (operations : List Operation) :
    (after {} operations).Counts operations := by
  have counted (item : UInt16) :
      ((after {} operations).count item).toNat = level item operations := by
    rw [count, getElem?_after]
    exact getD_entryOf _ (Nat.lt_of_le_of_lt (level_le item operations) (by decide))
  have listed (item : UInt16) (quantity : UInt8) :
      (item, quantity) ∈ (after {} operations).toList ↔
        quantity = (after {} operations).count item ∧
          (1 ≤ quantity.toNat ∨ addedLast item operations) := by
    rw [toList, Std.ExtTreeMap.mem_toList_iff_getElem?_eq_some]
    constructor
    · intro found
      have same : quantity = (after {} operations).count item := by rw [count, found]; rfl
      rw [getElem?_after, entryOf] at found
      refine ⟨same, ?_⟩
      rw [same, counted]
      exact (Option.ite_none_right_eq_some.mp found).1
    · rintro ⟨rfl, held⟩
      rw [counted] at held
      rw [getElem?_after, entryOf, if_pos held]
      refine congrArg some (UInt8.toNat_inj.mp ?_)
      rw [counted]
      exact Nat.mod_eq_of_lt (Nat.lt_of_le_of_lt (level_le item operations) (by decide))
  refine ⟨counted, ?_, listed, fun item quantity member => ?_⟩
  · exact List.pairwise_map.mpr
      (Std.ExtTreeMap.ordered_keys_toList.imp fun less => Std.compare_eq_lt.mp less)
  · rw [((listed item quantity).mp member).1, counted]
    exact level_le item operations

/-- What is listed is what is carried just if no item lingers without pieces. -/
theorem listsCarried_iff (operations : List Operation) :
    (after {} operations).ListsCarried ↔
      ∀ item, addedLast item operations → 1 ≤ level item operations := by
  obtain ⟨counted, -, listed, -⟩ := after_counts operations
  constructor
  · intro carried item added
    have shown := (listed item ((after {} operations).count item)).mpr ⟨rfl, .inr added⟩
    rw [← counted]
    exact ((carried item _).mp shown).2
  · intro pieces item quantity
    rw [listed]
    refine and_congr_right fun same => ⟨fun held => held.elim id fun added => ?_, .inl⟩
    rw [same, counted]
    exact pieces item added

/-- An item lingers without pieces only where none of them were added. -/
theorem level_of_addedLast {item : UInt16} (never : .add item 0 ∉ operations)
    (added : addedLast item operations) : 1 ≤ level item operations := by
  induction operations using List.reverseRecOn with
  | nil => cases added
  | append_singleton rest operation ih =>
      rw [List.mem_append, not_or] at never
      rw [addedLast_concat] at added
      rw [level_concat]
      split at added
      · next own =>
          rw [if_pos own]
          cases operation with
          | add other quantity =>
              have given : quantity ≠ 0 := by
                rintro rfl
                exact never.2 (List.mem_singleton.mpr (own ▸ rfl))
              have positive : 0 < quantity.toNat := Nat.pos_of_ne_zero fun zero =>
                given (UInt8.toNat_inj.mp zero)
              simp only [Operation.level, maxItemStack]
              omega
          | remove other quantity => cases added
      · next other =>
          rw [if_neg other]
          exact ih never.1 added

end Inventory

/-! ## The inventory of a field -/

open Inventory (Operation)

namespace Session

theorem inventory_updateCharacter (session : Session) (id : UInt8)
    (change : Character → Character) :
    (session.updateCharacter id change).inventory = session.inventory := by
  obtain ⟨characters, same⟩ := session.updateCharacter_eq id change
  rw [same]

theorem inventory_restoreParty (session : Session) :
    session.restoreParty.inventory = session.inventory := by
  obtain ⟨characters, same⟩ := session.restoreParty_eq
  rw [same]

/-- What one step of a session does to its inventory are operations. -/
theorem Step.inventory {before after : Session} (step : before.Step after) :
    ∃ operations, after.inventory = before.inventory.after operations := by
  cases step with
  | change change =>
      cases change with
      | addItem item quantity => exact ⟨[.add item quantity], rfl⟩
      | removeItem item quantity => exact ⟨[.remove item quantity], rfl⟩
      | restoreParty => exact ⟨[], before.inventory_restoreParty⟩
      | raiseHp character amount | lowerHp character amount | raiseMp character amount
      | lowerMp character amount => exact ⟨[], before.inventory_updateCharacter character _⟩
      | _ => exact ⟨[], rfl⟩
  | time elapsed =>
      refine ⟨[], ?_⟩
      unfold advanceTimer
      split <;> rfl
  | _ => exact ⟨[], rfl⟩

theorem Steps.inventory {before after : Session} (steps : before.Steps after) :
    ∃ operations, after.inventory = before.inventory.after operations := by
  refine Steps.invariant (motive := fun after => ∃ operations,
    after.inventory = before.inventory.after operations) ?_ steps ⟨[], rfl⟩
  rintro reached next step ⟨first, same⟩
  obtain ⟨second, further⟩ := step.inventory
  refine ⟨first ++ second, ?_⟩
  rw [further, same]
  exact List.foldl_append.symm

end Session

namespace Company

/-- The instructions that give pieces of an item or take them away. -/
def handling : List Opcode := [.stitm, .dlitm]

/-- The operation of such an instruction. -/
def operationOf (op : Opcode) (item : UInt16) (quantity : UInt8) : Operation :=
  if op = .stitm then .add item quantity else .remove item quantity

theorem changes_of_pieces {op : Opcode} (member : op ∈ handling) :
    ∃ change : UInt16 → UInt8 → SessionChange,
      op.Changes (fun scene => piecesAt scene.session.memory) (fun told => change told.1 told.2) ∧
      ∀ (session : Session) (item : UInt16) (quantity : UInt8),
        (change item quantity).apply session = { session with
          inventory := session.inventory.perform (operationOf op item quantity) } := by
  simp only [handling, List.mem_cons, List.not_mem_nil, or_false] at member
  rcases member with rfl | rfl
  · exact ⟨.addItem, changeItem_changes rfl, fun _ _ _ => rfl⟩
  · exact ⟨.removeItem, changeItem_changes rfl, fun _ _ _ => rfl⟩

end Company

namespace Machine

open Company

variable {σ : Type}

/-- An inventory is a count of pieces.

After any operations on an empty inventory, each item has as many pieces as the operations on it
alone have left, with adding capped and taking away floored, and the listing is in ascending order
and shows each item once, with at most 99 pieces.  It shows what is carried, if no operation adds
nothing; and it does just if there is no item without pieces whose last operation has added some.

Whatever moves are made in a field, its inventory has undergone such operations, and an instruction
that gives pieces or takes them away is one of them. -/
theorem inventory_counts (setting : Setting σ) :
    (∀ operations : List Operation,
      (Inventory.after {} operations).Counts operations ∧
      ((∀ item, .add item 0 ∉ operations) → (Inventory.after {} operations).ListsCarried) ∧
      ((Inventory.after {} operations).ListsCarried ↔
        ∀ item, Inventory.addedLast item operations → 1 ≤ Inventory.level item operations)) ∧
    (∀ (machine : Machine σ) (moves : List Move), ∃ operations,
      (machine.follow setting moves).session.inventory =
        machine.session.inventory.after operations) ∧
    (∀ {machine : Machine σ} {id : EntityId} {priority place : Nat} {lane : Lane} {op : Opcode},
      machine.world.lane? id priority = some lane → lane.Begins setting.source.code place op →
      op ∈ handling →
      let stepped := machine.step setting id priority
      let read := piecesAt machine.session.memory setting.source.code (place + 1)
      (stepped.2 = .goOn ↔
        place + op.size ≤ setting.source.code.size ∧ ∃ told, read = .ok told) ∧
      (stepped.2 = .goOn → ∃ item quantity, read = .ok (item, quantity) ∧
        stepped.1.session =
          { machine.session with
            inventory := machine.session.inventory.perform (operationOf op item quantity) }) ∧
      (stepped.2 ≠ .goOn → stepped.1.session = machine.session)) := by
  refine ⟨fun operations => ⟨Inventory.after_counts operations, fun never => ?_,
    Inventory.listsCarried_iff operations⟩,
    fun machine moves => (machine.follow_deals setting moves).inventory,
    fun here begins member => ?_⟩
  · exact (Inventory.listsCarried_iff operations).mpr fun item =>
      Inventory.level_of_addedLast (never item)
  · obtain ⟨change, changes, same⟩ := changes_of_pieces member
    obtain ⟨goesOn, done, spared⟩ := session_of_changes changes here begins
    refine ⟨goesOn, fun went => ?_, spared⟩
    obtain ⟨⟨item, quantity⟩, read, after⟩ := done went
    exact ⟨item, quantity, read, after.trans (same _ item quantity)⟩

end Machine

namespace Inventory

/-- An item of which nothing was added is listed all the same. -/
theorem nothing_is_listed :
    (after {} [.add 7 0]).toList = [(7, 0)] ∧ level 7 [.add 7 0] = 0 ∧
      ¬(after {} [.add 7 0]).ListsCarried := by
  have listed : (after {} [.add 7 0]).toList = [(7, 0)] := by decide
  refine ⟨listed, by decide, fun carried => ?_⟩
  have shown := (carried 7 0).mp (listed ▸ List.mem_singleton.mpr rfl)
  exact absurd shown.2 (by decide)

end Inventory

/-! ## A stack that is filled up -/

namespace Stacking

/-- Sixty pieces of an item are given twice, and nine are taken away. -/
def bytes : Array UInt8 :=
  (([2, 5, 1, 0, 131, 0, 0, 0, 0, 2] ++ List.replicate 22 0 ++ List.replicate 8 0
    ++ [104, 0] ++ (List.replicate 31 [119, 0]).flatten
    ++ [0x58, 0x00, 0x07, 0x00, 0x3C, 0x58, 0x00, 0x07, 0x00, 0x3C, 0x59, 0x00, 0x07, 0x00, 0x09,
      0x00]
    : List UInt8)).toArray

def setting : Setting Unit :=
  { source := Section.ofBytes bytes, config := { opsPerTick := 8 }, host := Host.accepting }

/-- The field after so many instructions. -/
def after : Nat → Machine Unit
  | 0 => (Machine.enter setting (Session.fresh setting.config) (.ofSeed 0) ()).start
  | count + 1 => ((after count).step setting 0 0).1

/-- The lane at a place of the code. -/
def lane (place : Nat) : Lane := { status := .active place 0 none none, script := 0, epoch := 1 }

/-- What the instructions do to the inventory. -/
def operations : List Operation := [.add 7 60, .add 7 60, .remove 7 9]

/-- The stack stops at 99 pieces, of which 90 are left. -/
theorem filled_up :
    (∃ item quantity, (after 3).session =
      { (after 2).session with
        inventory := (after 2).session.inventory.perform (.remove item quantity) }) ∧
      (after 3).session.inventory.ListsCarried ∧
      ((after 3).session.inventory.count 7).toNat = 90 := by
  obtain ⟨counts, -, handles⟩ := Machine.inventory_counts setting
  obtain ⟨counted, carried, -⟩ := counts operations
  obtain ⟨here, went, named, reached⟩ : (after 2).world.lane? 0 0 = some (lane 114) ∧
      ((after 2).step setting 0 0).2 = .goOn ∧
      setting.source.code[114]? = some Opcode.dlitm.byte ∧
      (after 3).session.inventory = Inventory.after {} operations := by decide +kernel
  have begins : (lane 114).Begins setting.source.code 114 .dlitm := ⟨rfl, rfl, rfl, named⟩
  obtain ⟨-, taken, -⟩ := handles here begins (by decide)
  obtain ⟨item, quantity, -, same⟩ := taken went
  have last : ((after 2).step setting 0 0).1 = after 3 := rfl
  rw [last] at same
  refine ⟨⟨item, quantity, same⟩, ?_, ?_⟩
  · rw [reached]
    refine carried fun item => ?_
    simp [operations]
  · rw [reached, counted.counted]
    decide

end Stacking

end FieldMachine
