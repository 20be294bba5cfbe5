import FieldMachine.Proofs.Dealing
import FieldMachine.Proofs.Operand

/-!
# Instructions that change what the party has

Instructions that give or take gil, points or pieces of an item come to one change of
the session, and the bytes of the instruction tell which, together with the cells that
they name and, for points, the party slots (`Opcode.Changes`).  Either the lane goes on
and the change was made, or the session stays as it was (`Machine.session_of_changes`).
-/

namespace FieldMachine

set_option autoImplicit false

open Section (byteAt wordAt)

/-- A number of 32 bits put together from two halves, low half first. -/
theorem or_shiftLeft_sixteen (low high : UInt16) :
    low.toUInt32 ||| (high.toUInt32 <<< 16) = (low.toNat + 65536 * high.toNat).toUInt32 := by
  have small := low.toNat_lt
  have large := high.toNat_lt
  have fits : high.toNat <<< 16 < 4294967296 := by rw [Nat.shiftLeft_eq]; omega
  apply UInt32.toNat_inj.mp
  rw [UInt32.toNat_or, UInt32.toNat_shiftLeft, UInt16.toNat_toUInt32, UInt16.toNat_toUInt32,
    Nat.or_comm]
  show high.toNat <<< 16 % 4294967296 ||| low.toNat = _ % 4294967296
  rw [Nat.mod_eq_of_lt fits, ← Nat.shiftLeft_add_eq_or_of_lt small, Nat.shiftLeft_eq]
  omega

namespace Company

/-! ## Operands -/

/-- What names the halves of an amount of 32 bits, low half first: two words behind a byte of
selectors. -/
def amountSourcesAt (code : Array UInt8) (place : Nat) : (UInt8 × UInt16) × (UInt8 × UInt16) :=
  let selectors : Selectors := { byte := byteAt code place }
  ((selectors.high, (wordAt code (place + 1)).toUInt16),
    (selectors.low, (wordAt code (place + 3)).toUInt16))

/-- An amount of 32 bits. -/
def amountAt (memory : Memory) (code : Array UInt8) (place : Nat) : Except ExecError Nat := do
  let (first, second) := amountSourcesAt code place
  let low ← Control.operand memory first.1 first.2
  let high ← Control.operand memory second.1 second.2
  return low.toNat + 65536 * high.toNat

/-- The character in a party slot and an amount of points, as they are named by a byte and a word
behind a byte of selectors. -/
def pointsAt (scene : Scene) (code : Array UInt8) (place : Nat) :
    Except ExecError (UInt8 × UInt16) := do
  let selectors : Selectors := { byte := byteAt code place }
  let slot := byteAt code (place + 1)
  let amount ←
    Control.operand scene.session.memory selectors.high (wordAt code (place + 2)).toUInt16
  match scene.session.party.slot slot.toNat with
  | none => throw (.emptyPartySlot slot)
  | some character =>
      if characterCount ≤ character.toNat then
        throw (.invalidOperand scene.opcode "character" character.toUInt32)
      else return (character, amount)

/-- An item and a number of pieces, as they are named by a word and a byte behind a byte of
selectors; a cell gives its low byte as the number. -/
def piecesAt (memory : Memory) (code : Array UInt8) (place : Nat) :
    Except ExecError (UInt16 × UInt8) := do
  let selectors : Selectors := { byte := byteAt code place }
  let item ← Control.operand memory selectors.high (wordAt code (place + 1)).toUInt16
  let quantity ← Control.operand memory selectors.low (byteAt code (place + 3)).toUInt16
  return (item, quantity.toUInt8)

theorem amountAt_lt {memory : Memory} {code : Array UInt8} {place amount : Nat}
    (read : amountAt memory code place = .ok amount) : amount < UInt32.size := by
  obtain ⟨low, -, read⟩ := exists_of_bind_eq_ok read
  obtain ⟨high, -, read⟩ := exists_of_bind_eq_ok read
  cases read
  have small := low.toNat_lt
  have large := high.toNat_lt
  show low.toNat + 65536 * high.toNat < 4294967296
  omega

end Company

/-- An instruction that can be carried out takes all of its operands, and comes to the change of the
session that they tell. -/
def Opcode.Changes {α : Type} (op : Opcode)
    (operands : Scene → Array UInt8 → Nat → Except ExecError α) (change : α → SessionChange) :
    Prop :=
  op.Plans operands fun _ told => .next [.session (change told)]

namespace Company

open Reading Arithmetic

theorem changeGil_changes {op : Opcode} {change : UInt32 → SessionChange}
    (known : op.plan? = some (changeGil change))
    (long : op.size - 1 = 5 := by decide +kernel) :
    op.Changes (fun scene => amountAt scene.session.memory) (change ·.toUInt32) := by
  refine Opcode.Plans.of_works 5 known (fun scene cursor inside => ?_) long
  have first : cursor.pc + 1 ≤ cursor.code.size := by omega
  have second : cursor.pc + (1 + 2) ≤ cursor.code.size := by omega
  simp only [changeGil, splitLong, bind_assoc, bind_of_ok (selectors_of_le first),
    bind_of_ok (word_forward second), bind_of_ok (word_forward inside),
    bind_of_operand (load_eq _ _), or_shiftLeft_sixteen]
  exact bind_eq_bind_bind fun low => bind_eq_bind_bind fun high => rfl

theorem changePoints_changes {op : Opcode} {change : UInt8 → UInt16 → SessionChange}
    (known : op.plan? = some (changePoints change))
    (long : op.size - 1 = 4 := by decide +kernel) :
    op.Changes pointsAt fun told => change told.1 told.2 := by
  refine Opcode.Plans.of_works 4 known (fun scene cursor inside => ?_) long
  have first : cursor.pc + 1 ≤ cursor.code.size := by omega
  have second : cursor.pc + (1 + 1) ≤ cursor.code.size := by omega
  simp only [changePoints, bind_of_ok (selectors_of_le first), bind_of_ok (byte_forward second),
    bind_of_ok (word_forward inside), bind_of_operand (load_eq _ _), bind_session]
  refine bind_eq_bind_bind fun amount => ?_
  cases scene.session.party.slot (byteAt cursor.code (cursor.pc + 1)).toNat with
  | none => rfl
  | some character =>
      simp only
      split <;> rfl

theorem changeItem_changes {op : Opcode} {change : UInt16 → UInt8 → SessionChange}
    (known : op.plan? = some (changeItem change))
    (long : op.size - 1 = 4 := by decide +kernel) :
    op.Changes (fun scene => piecesAt scene.session.memory) fun told => change told.1 told.2 := by
  refine Opcode.Plans.of_works 4 known (fun scene cursor inside => ?_) long
  have first : cursor.pc + 1 ≤ cursor.code.size := by omega
  have second : cursor.pc + (1 + 2) ≤ cursor.code.size := by omega
  simp only [changeItem, bind_of_ok (selectors_of_le first), bind_of_ok (word_forward second),
    bind_of_ok (byte_forward inside), bind_of_operand (load_eq _ _),
    bind_of_operand (loadByte_eq _ _)]
  exact bind_eq_bind_bind fun item => bind_eq_bind_bind fun quantity => rfl

end Company

/-! ## Steps -/

namespace Machine

variable {σ : Type} {setting : Setting σ} {machine : Machine σ} {id : EntityId}
  {priority place : Nat} {lane : Lane} {op : Opcode}

/-- A step on an instruction that comes to a change of the session.  The lane goes on just if the
instruction lies inside the code and its operands can be read, and then the change that they tell
was made; otherwise the session stays as it was. -/
theorem session_of_changes {α : Type}
    {operands : Scene → Array UInt8 → Nat → Except ExecError α} {change : α → SessionChange}
    (changes : op.Changes operands change) (here : machine.world.lane? id priority = some lane)
    (begins : lane.Begins setting.source.code place op) :
    let stepped := machine.step setting id priority
    let read :=
      operands (machine.sceneOf setting id priority place lane) setting.source.code (place + 1)
    (stepped.2 = .goOn ↔
      place + op.size ≤ setting.source.code.size ∧ ∃ told, read = .ok told) ∧
    (stepped.2 = .goOn →
      ∃ told, read = .ok told ∧ stepped.1.session = (change told).apply machine.session) ∧
    (stepped.2 ≠ .goOn → stepped.1.session = machine.session) := by
  obtain ⟨goesOn, done, stops⟩ := goOn_of_plans changes here begins fun _ _ _ => rfl
  intro stepped read
  refine ⟨goesOn, fun went => ?_, fun stopped => ?_⟩
  · obtain ⟨told, found, same⟩ := done went
    exact ⟨told, found, congrArg (·.1.session) same⟩
  · obtain ⟨error, same⟩ := stops stopped
    exact (congrArg (·.1.session) same).trans (session_giveUp ..)

end Machine

end FieldMachine
