import FieldMachine.Proofs.Belongings
import Mathlib.Data.Nat.Bitwise

/-!
# Who is in the party

A character who is in a party stays there until an operation takes it out: one that
removes it, or one that fills the slots anew without it (`Party.Operation.TakesOut`).
Nothing else moves anybody, and whoever comes in takes a slot that was empty.

The mask of the locked characters has no say in that.  Locking lasts until it is lifted,
but the slots are what they would be without any locks, so that a locked character is
taken out like any other (`Locking.locked_and_removed`).

Whatever a field does to a party are such operations, and an instruction that concerns
the party is the one that its bytes tell.
-/

namespace FieldMachine

set_option autoImplicit false

open Section (byteAt wordAt)

/-! ## Bits of a mask -/

theorem toNat_shiftLeft_toUInt16 {index : UInt8} (small : index < 16) :
    ((1 : UInt16) <<< index.toUInt16).toNat = 2 ^ index.toNat := by
  have below : index.toUInt16 < 16 := by
    rw [UInt16.lt_iff_toNat_lt, UInt8.toNat_toUInt16]
    exact UInt8.lt_iff_toNat_lt.mp small
  rw [Arithmetic.toNat_shiftLeft_one below, UInt8.toNat_toUInt16]

theorem and_shiftLeft_ne_zero_iff {mask : UInt16} {index : UInt8} (small : index < 16) :
    mask &&& ((1 : UInt16) <<< index.toUInt16) ≠ 0 ↔ mask.toNat.testBit index.toNat := by
  rw [Ne, ← UInt16.toNat_inj, UInt16.toNat_and, toNat_shiftLeft_toUInt16 small, Nat.and_two_pow]
  cases mask.toNat.testBit index.toNat <;> simp

theorem testBit_and_not (mask cleared : UInt16) {index : Nat} (small : index < 16) :
    (mask &&& ~~~cleared).toNat.testBit index =
      (mask.toNat.testBit index && !cleared.toNat.testBit index) := by
  show (mask &&& ~~~cleared).toBitVec.toNat.testBit index =
    (mask.toBitVec.toNat.testBit index && !cleared.toBitVec.toNat.testBit index)
  rw [UInt16.toBitVec_and, UInt16.toBitVec_not]
  simp only [BitVec.testBit_toNat, BitVec.getLsbD_and, BitVec.getLsbD_not, small, decide_true,
    Bool.true_and]

/-- Setting or clearing a bit of a mask leaves the others as they are. -/
theorem testBit_setMaskBit (mask : UInt16) (index : UInt8) {other : UInt8} (on : Bool)
    (small : other < 16) :
    (setMaskBit mask index on).toNat.testBit other.toNat =
      if other = index then on else mask.toNat.testBit other.toNat := by
  have same : index.toNat = other.toNat ↔ other = index := UInt8.toNat_inj.trans eq_comm
  unfold setMaskBit
  split
  · next large =>
      have apart : other ≠ index := fun same => UInt8.not_le.mpr small (same ▸ large)
      rw [if_neg apart]
  · next known =>
      have bit := toNat_shiftLeft_toUInt16 (UInt8.not_le.mp known)
      cases on with
      | true =>
          rw [if_pos rfl, UInt16.toNat_or, bit, Nat.testBit_or, Nat.testBit_two_pow]
          by_cases own : other = index <;> simp [same, own]
      | false =>
          rw [if_neg Bool.false_ne_true, testBit_and_not _ _ (UInt8.lt_iff_toNat_lt.mp small), bit,
            Nat.testBit_two_pow]
          by_cases own : other = index <;> simp [same, own]

/-! ## Operations on a party -/

namespace Party

/-- An operation on a party: its slots are changed, or a character is offered by the switcher or
locked into the party, or no longer so. -/
inductive Operation
  | change (change : PartyChange)
  | offer (character : UInt8) (on : Bool)
  | lock (character : UInt8) (on : Bool)
deriving DecidableEq

/-- The party after an operation. -/
def perform (party : Party) : Operation → Party
  | .change change => change.apply party
  | .offer character on => party.setAvailable character on
  | .lock character on => party.setLocked character on

/-- The party after some operations. -/
def after (party : Party) (operations : List Operation) : Party :=
  operations.foldl perform party

/-- Whether a character is locked into the party. -/
def isLocked (party : Party) (character : UInt8) : Bool :=
  character < 16 && party.locked &&& ((1 : UInt16) <<< character.toUInt16) ≠ 0

/-- An operation takes a character out of any party. -/
def Operation.TakesOut (character : UInt8) : Operation → Prop
  | .change (.assign slots) => some character ∉ slots
  | .change (.remove other) => other = character
  | _ => False

variable {party first second : Party} {character : UInt8} {operations : List Operation}

theorem contains_iff : party.contains character ↔ some character ∈ party.slots.toList := by
  rw [contains, Vector.contains_iff_mem, Vector.mem_toList_iff]

theorem mem_fillFirst (taken : UInt8) (slots : List (Option UInt8)) :
    some character ∈ fillFirst taken slots ↔
      some character ∈ slots ∨ character = taken ∧ none ∈ slots := by
  fun_induction fillFirst taken slots with
  | case1 => simp
  | case2 rest => simp [or_comm]
  | case3 other rest ih => simp [ih, or_assoc]

/-- A character who is taken in gets an empty slot, if there is any. -/
theorem contains_add (taken : UInt8) :
    (party.add taken).contains character ↔
      party.contains character ∨ character = taken ∧ none ∈ party.slots.toList := by
  unfold add
  split
  · next present => exact ⟨.inl, fun either => either.elim id fun same => same.1 ▸ present⟩
  · rw [contains_iff, contains_iff]
    exact mem_fillFirst taken party.slots.toList

theorem contains_remove (removed : UInt8) :
    (party.remove removed).contains character ↔
      party.contains character ∧ character ≠ removed := by
  rw [contains_iff, contains_iff, remove, Vector.toList_map, List.mem_map]
  constructor
  · rintro ⟨held, present, kept⟩
    split at kept
    · cases kept
    · next other => exact ⟨kept ▸ present, fun same => other (kept.trans (congrArg some same))⟩
  · rintro ⟨present, other⟩
    exact ⟨some character, present, if_neg fun same => other (Option.some.inj same)⟩

/-- Whoever is in a party stays there, unless the operation takes that character out. -/
theorem contains_perform (present : party.contains character) (operation : Operation) :
    (party.perform operation).contains character ↔ ¬operation.TakesOut character := by
  match operation with
  | .change (.assign slots) =>
      simp only [Operation.TakesOut, Decidable.not_not]
      exact contains_iff.trans Vector.mem_toList_iff
  | .change (.add taken) => exact ⟨fun _ => id, fun _ => (contains_add taken).mpr (.inl present)⟩
  | .change (.remove removed) =>
      refine (contains_remove removed).trans ?_
      simp only [Operation.TakesOut, present, true_and, Ne, eq_comm]
  | .offer _ _ | .lock _ _ => exact ⟨fun _ => id, fun _ => present⟩

/-- Whoever is in a party stays there until an operation takes that character out. -/
theorem contains_after (present : party.contains character)
    (never : ∀ operation ∈ operations, ¬operation.TakesOut character) :
    (party.after operations).contains character := by
  induction operations generalizing party with
  | nil => exact present
  | cons operation rest ih =>
      rw [List.forall_mem_cons] at never
      exact ih ((contains_perform present operation).mpr never.1) never.2

/-! ## Locks -/

theorem isLocked_iff (small : character < 16) :
    party.isLocked character ↔ party.locked.toNat.testBit character.toNat := by
  rw [isLocked, Bool.and_eq_true, decide_eq_true_eq, decide_eq_true_eq,
    and_shiftLeft_ne_zero_iff small]
  exact and_iff_right small

/-- Whoever is locked stays so, unless the operation lifts that lock. -/
theorem isLocked_perform (small : character < 16) (locked : party.isLocked character)
    (operation : Operation) :
    (party.perform operation).isLocked character ↔ operation ≠ .lock character false := by
  match operation with
  | .change (.add taken) =>
      refine ⟨fun _ => nofun, fun _ => ?_⟩
      simp only [perform, PartyChange.apply, add]
      split <;> exact locked
  | .lock other on =>
      have set := (isLocked_iff small).mp locked
      rw [isLocked_iff small, perform, setLocked, testBit_setMaskBit _ _ _ small]
      by_cases own : character = other
      · simp [own]
      · simp [own, Ne.symm own, set]
  | .change (.assign _) | .change (.remove _) | .offer _ _ =>
      exact ⟨fun _ => nofun, fun _ => locked⟩

/-- A lock lasts until it is lifted. -/
theorem isLocked_after (small : character < 16) (locked : party.isLocked character)
    (never : .lock character false ∉ operations) :
    (party.after operations).isLocked character := by
  induction operations generalizing party with
  | nil => exact locked
  | cons operation rest ih =>
      rw [List.mem_cons, not_or] at never
      exact ih ((isLocked_perform small locked operation).mpr (Ne.symm never.1)) never.2

/-- The slots are the same whatever the masks are. -/
theorem slots_perform (same : first.slots = second.slots) (operation : Operation) :
    (first.perform operation).slots = (second.perform operation).slots := by
  match operation with
  | .change (.add taken) =>
      have present : first.contains taken = second.contains taken :=
        congrArg (·.contains (some taken)) same
      simp only [perform, PartyChange.apply, add, present]
      split
      · exact same
      · simp only [same]
  | .change (.remove removed) => simp only [perform, PartyChange.apply, remove, same]
  | .change (.assign slots) => rfl
  | .offer _ _ | .lock _ _ => exact same

theorem slots_after (same : first.slots = second.slots) (operations : List Operation) :
    (first.after operations).slots = (second.after operations).slots := by
  induction operations generalizing first second with
  | nil => exact same
  | cons operation rest ih => exact ih (slots_perform same operation)

end Party

/-! ## The party of a session -/

namespace Session

theorem party_updateCharacter (session : Session) (id : UInt8) (change : Character → Character) :
    (session.updateCharacter id change).party = session.party := by
  obtain ⟨characters, same⟩ := session.updateCharacter_eq id change
  rw [same]

theorem party_restoreParty (session : Session) : session.restoreParty.party = session.party := by
  obtain ⟨characters, same⟩ := session.restoreParty_eq
  rw [same]

/-- What one step of a session does to its party are operations. -/
theorem Step.operates {before after : Session} (step : before.Step after) :
    ∃ operations, after.party = before.party.after operations := by
  cases step with
  | change change =>
      cases change with
      | setAvailable character on => exact ⟨[.offer character on], rfl⟩
      | setLocked character on => exact ⟨[.lock character on], rfl⟩
      | restoreParty => exact ⟨[], before.party_restoreParty⟩
      | raiseHp character amount | lowerHp character amount | raiseMp character amount
      | lowerMp character amount => exact ⟨[], before.party_updateCharacter character _⟩
      | _ => exact ⟨[], rfl⟩
  | party change => exact ⟨[.change change], rfl⟩
  | time elapsed =>
      refine ⟨[], ?_⟩
      unfold advanceTimer
      split <;> rfl
  | _ => exact ⟨[], rfl⟩

theorem Steps.operates {before after : Session} (steps : before.Steps after) :
    ∃ operations, after.party = before.party.after operations := by
  refine Steps.invariant (motive := fun after => ∃ operations,
    after.party = before.party.after operations) ?_ steps ⟨[], rfl⟩
  rintro reached next step ⟨first, same⟩
  obtain ⟨second, further⟩ := step.operates
  refine ⟨first ++ second, ?_⟩
  rw [further, same]
  exact List.foldl_append.symm

end Session

/-! ## Instructions -/

namespace Company

open Reading Arithmetic

/-- The instructions that concern the party. -/
def enrolling : List Opcode := [.sptye, .prtyp, .prtym, .prtye, .mmbud, .mmblk, .mmbuk]

/-- The characters that three operands name, as cells or as themselves, behind two bytes of
selectors. -/
def loadedMembersAt (memory : Memory) (code : Array UInt8) (place : Nat) :
    Except ExecError (Vector (Option UInt8) partySize) := do
  let front : Selectors := { byte := byteAt code place }
  let back : Selectors := { byte := byteAt code (place + 1) }
  let first ← Control.operand memory front.high (byteAt code (place + 2)).toUInt16
  let second ← Control.operand memory front.low (byteAt code (place + 3)).toUInt16
  let third ← Control.operand memory back.high (byteAt code (place + 4)).toUInt16
  return #v[characterOrNobody first.toUInt8, characterOrNobody second.toUInt8,
    characterOrNobody third.toUInt8]

/-- The characters that three bytes name. -/
def membersAt (code : Array UInt8) (place : Nat) : Vector (Option UInt8) partySize :=
  #v[characterOrNobody (byteAt code place), characterOrNobody (byteAt code (place + 1)),
    characterOrNobody (byteAt code (place + 2))]

/-- The operation of an instruction that concerns the party. -/
def operationAt (op : Opcode) (memory : Memory) (code : Array UInt8) (place : Nat) :
    Except ExecError Party.Operation :=
  match op with
  | .sptye => (loadedMembersAt memory code place).map fun slots => .change (.assign slots)
  | .prtye => .ok (.change (.assign (membersAt code place)))
  | .prtyp => .ok (.change (.add (byteAt code place)))
  | .prtym => .ok (.change (.remove (byteAt code place)))
  | .mmbud => .ok (.offer (byteAt code (place + 1)) (byteAt code place ≠ 0))
  | .mmblk => .ok (.lock (byteAt code place) true)
  | .mmbuk => .ok (.lock (byteAt code place) false)
  | _ => .error (.unknownOpcode op.byte place)

/-- The effects of an operation; a party that is full says so when somebody is to be taken in. -/
def effectsOn (party : Party) : Party.Operation → List Effect
  | .change (.add character) =>
      (if !party.contains character && !party.slots.contains none then
        [Effect.log (.partyFull character)] else []) ++ [.party (.add character)]
  | .change change => [.party change]
  | .offer character on => [.session (.setAvailable character on)]
  | .lock character on => [.session (.setLocked character on)]

variable {scene : Scene} {cursor : Cursor}

theorem assignLoaded_of_le (inside : cursor.pc + 5 ≤ cursor.code.size) :
    assignLoaded scene cursor =
      (loadedMembersAt scene.session.memory cursor.code cursor.pc).bind fun slots =>
        .ok (.next [.party (.assign slots)], cursor.forward 5) := by
  have first : cursor.pc + 1 ≤ cursor.code.size := by omega
  have second : cursor.pc + (1 + 1) ≤ cursor.code.size := by omega
  have third : cursor.pc + (2 + 1) ≤ cursor.code.size := by omega
  have fourth : cursor.pc + (3 + 1) ≤ cursor.code.size := by omega
  simp only [assignLoaded, bind_of_ok (selectors_of_le first),
    bind_of_ok (selectors_forward second), bind_of_ok (byte_forward third),
    bind_of_ok (byte_forward fourth), bind_of_ok (byte_forward inside),
    bind_of_operand (loadByte_eq _ _)]
  exact bind_eq_bind_bind fun first => bind_eq_bind_bind fun second =>
    bind_eq_bind_bind fun third => rfl

theorem assign_of_le (inside : cursor.pc + 3 ≤ cursor.code.size) :
    assign scene cursor =
      .ok (.next [.party (.assign (membersAt cursor.code cursor.pc))], cursor.forward 3) := by
  have first : cursor.pc + 1 ≤ cursor.code.size := by omega
  have second : cursor.pc + (1 + 1) ≤ cursor.code.size := by omega
  simp only [assign, bind_of_ok (byte_of_le first), bind_of_ok (byte_forward second),
    bind_of_ok (byte_forward inside)]
  rfl

theorem setAvailable_of_le (inside : cursor.pc + 2 ≤ cursor.code.size) :
    setAvailable scene cursor =
      .ok (.next [.session (.setAvailable (byteAt cursor.code (cursor.pc + 1))
        (byteAt cursor.code cursor.pc ≠ 0))], cursor.forward 2) := by
  have first : cursor.pc + 1 ≤ cursor.code.size := by omega
  simp only [setAvailable, Reading.switch, bind_assoc, pure_bind, bind_of_ok (byte_of_le first),
    bind_of_ok (byte_forward inside)]
  rfl

/-- The instruction is the operation that its operands tell. -/
theorem plans_of_enrolling {op : Opcode} (member : op ∈ enrolling) :
    op.Plans (fun scene => operationAt op scene.session.memory)
      (fun scene operation => .next (effectsOn scene.session.party operation)) := by
  simp only [enrolling, List.mem_cons, List.not_mem_nil, or_false] at member
  rcases member with rfl | rfl | rfl | rfl | rfl | rfl | rfl
  · refine .of_works 5 rfl fun scene cursor inside => (assignLoaded_of_le inside).trans ?_
    simp only [operationAt]
    cases loadedMembersAt scene.session.memory cursor.code cursor.pc <;> rfl
  · refine .of_works 1 rfl fun scene cursor inside => ?_
    rw [add, bind_of_ok (byte_of_le inside)]
    rfl
  · refine .of_works 1 rfl fun scene cursor inside => ?_
    rw [remove, bind_of_ok (byte_of_le inside)]
    rfl
  · exact .of_works 3 rfl fun scene cursor inside => assign_of_le inside
  · exact .of_works 2 rfl fun scene cursor inside => setAvailable_of_le inside
  all_goals
    refine .of_works 1 rfl fun scene cursor inside => ?_
    rw [setLocked, bind_of_ok (byte_of_le inside)]
    rfl

end Company

namespace Machine

open Company

variable {σ : Type} {setting : Setting σ} {machine : Machine σ} {id : EntityId}
  {priority place : Nat} {lane : Lane} {op : Opcode}

/-- The effects of an operation are carried out, and the session has got the party after it. -/
theorem performAll_effectsOn (setting : Setting σ) (machine : Machine σ) (party : Party)
    (operation : Party.Operation) :
    ∃ after, Effect.performAll setting machine (effectsOn party operation) = (after, none) ∧
      after.session =
        { machine.session with party := machine.session.party.perform operation } := by
  -- A change of the slots is told to the host, which leaves the session alone.
  have announced (machine : Machine σ) (change : PartyChange) :
      ((Effect.party change).perform setting machine).1.session =
        { machine.session with party := change.apply machine.session.party } := by
    simp only [Effect.perform, session_notify]
    rfl
  cases operation with
  | change change =>
      cases change with
      | add character =>
          rw [effectsOn]
          split
          · exact ⟨_, rfl, announced (machine.note (.partyFull character)) (.add character)⟩
          · exact ⟨_, rfl, announced machine (.add character)⟩
      | assign slots => exact ⟨_, rfl, announced machine (.assign slots)⟩
      | remove character => exact ⟨_, rfl, announced machine (.remove character)⟩
  | offer | lock => exact ⟨_, rfl, rfl⟩

/-- A step on an instruction that concerns the party. -/
theorem party_of_step (here : machine.world.lane? id priority = some lane)
    (begins : lane.Begins setting.source.code place op) (member : op ∈ enrolling) :
    let stepped := machine.step setting id priority
    let read := operationAt op machine.session.memory setting.source.code (place + 1)
    (stepped.2 = .goOn ↔
      place + op.size ≤ setting.source.code.size ∧ ∃ operation, read = .ok operation) ∧
    (stepped.2 = .goOn → ∃ operation, read = .ok operation ∧ stepped.1.session =
      { machine.session with party := machine.session.party.perform operation }) ∧
    (stepped.2 ≠ .goOn → stepped.1.session = machine.session) := by
  have goes (machine : Machine σ) (scene : Scene) (operation : Party.Operation) :
      (machine.carryOut setting id priority place (place + op.size) lane
        (.next (effectsOn scene.session.party operation))).2 = .goOn ∧
      (machine.carryOut setting id priority place (place + op.size) lane
        (.next (effectsOn scene.session.party operation))).1.session =
          { machine.session with party := machine.session.party.perform operation } := by
    obtain ⟨after, performed, same⟩ :=
      performAll_effectsOn setting machine scene.session.party operation
    simp only [Plan.next, carryOut, performed]
    exact ⟨rfl, same⟩
  obtain ⟨goesOn, done, stops⟩ := goOn_of_plans (plans_of_enrolling member) here begins
    fun machine scene operation => (goes machine scene operation).1
  intro stepped read
  refine ⟨goesOn, fun went => ?_, fun stopped => ?_⟩
  · obtain ⟨operation, found, same⟩ := done went
    exact ⟨operation, found, (congrArg (·.1.session) same).trans (goes _ _ operation).2⟩
  · obtain ⟨error, same⟩ := stops stopped
    exact (congrArg (·.1.session) same).trans (session_giveUp ..)

/-- Members of a party stay until they are taken out.

Whatever operations are made on a party, a character who is in it is there afterwards if none of
them takes that character out, and a single operation leaves it there just if it does not.  Locking
a character lasts until it is lifted, and has no say in the slots: they become the same whatever the
masks of the party are.

Whatever moves are made in a field, its party has undergone such operations, and an instruction that
concerns the party is the one that its bytes tell, if they are all there and its operands can be
read. -/
theorem members_stay (setting : Setting σ) :
    (∀ (party : Party) (operations : List Party.Operation) (character : UInt8),
      (party.contains character → (∀ operation ∈ operations, ¬operation.TakesOut character) →
        (party.after operations).contains character) ∧
      (character < 16 → party.isLocked character → .lock character false ∉ operations →
        (party.after operations).isLocked character)) ∧
    (∀ (party : Party) (operation : Party.Operation) (character : UInt8),
      party.contains character →
        ((party.perform operation).contains character ↔ ¬operation.TakesOut character)) ∧
    (∀ (first second : Party) (operations : List Party.Operation), first.slots = second.slots →
      (first.after operations).slots = (second.after operations).slots) ∧
    (∀ (machine : Machine σ) (moves : List Move), ∃ operations,
      (machine.follow setting moves).session.party = machine.session.party.after operations) ∧
    (∀ {machine : Machine σ} {id : EntityId} {priority place : Nat} {lane : Lane} {op : Opcode},
      machine.world.lane? id priority = some lane → lane.Begins setting.source.code place op →
      op ∈ enrolling →
      let stepped := machine.step setting id priority
      let read := operationAt op machine.session.memory setting.source.code (place + 1)
      (stepped.2 = .goOn ↔
        place + op.size ≤ setting.source.code.size ∧ ∃ operation, read = .ok operation) ∧
      (stepped.2 = .goOn → ∃ operation, read = .ok operation ∧ stepped.1.session =
        { machine.session with party := machine.session.party.perform operation }) ∧
      (stepped.2 ≠ .goOn → stepped.1.session = machine.session)) :=
  ⟨fun _ _ _ => ⟨Party.contains_after, Party.isLocked_after⟩,
    fun _ operation _ present => Party.contains_perform present operation,
    fun _ _ operations same => Party.slots_after same operations,
    fun machine moves => (machine.follow_deals setting moves).operates,
    fun here begins member => party_of_step here begins member⟩

end Machine

/-! ## A lock that holds nobody -/

namespace Locking

/-- A character is taken into the party, locked, and taken out. -/
def setting : Setting Unit := .ofScripts [[0xC8, 0x03, 0xCE, 0x03, 0xC9, 0x03, 0x00, 0x00]]

/-- The field after so many instructions. -/
def after (count : Nat) : Machine Unit :=
  (setting.entered (Session.fresh setting.config)).afterSteps setting 0 0 count

/-- After two instructions the character is locked into the party, and the third one is carried
out. -/
theorem third_goesOn :
    (after 2).session.party.contains 3 ∧ (after 2).session.party.isLocked 3 ∧
      ((after 2).step setting 0 0).2 = .goOn := by
  decide +kernel

/-- A character who is locked into the party is taken out by an instruction that does not lift the
lock. -/
theorem locked_and_removed :
    ((after 2).session.party.contains 3 ∧ (after 2).session.party.isLocked 3 ∧
        ((after 2).step setting 0 0).2 = .goOn) ∧
      ((after 2).step setting 0 0).1.session.party.isLocked 3 ∧
      ¬((after 2).step setting 0 0).1.session.party.contains 3 :=
  ⟨third_goesOn, by decide +kernel⟩

/-- Somebody else is taken in and out again, and the character stays. -/
def operations : List Party.Operation := [.change (.add 5), .offer 3 false, .change (.remove 5)]

/-- The locked character stays while others come and go, and leaves by the operation that the
instruction tells. -/
theorem stays_and_leaves :
    (((after 2).session.party.after operations).contains 3 ∧
      ((after 2).session.party.after operations).isLocked 3) ∧
      ∃ operation : Party.Operation, operation.TakesOut 3 ∧ (after 3).session =
        { (after 2).session with party := (after 2).session.party.perform operation } := by
  obtain ⟨run, -, -, -, steps⟩ := Machine.members_stay setting
  obtain ⟨present, locked, went⟩ := third_goesOn
  obtain ⟨stays, holds⟩ := run (after 2).session.party operations 3
  obtain ⟨here, named, character⟩ : (after 2).world.lane? 0 0 = some (.at 110) ∧
      setting.source.code[110]? = some Opcode.prtym.byte ∧ byteAt setting.source.code 111 = 3 := by
    decide +kernel
  obtain ⟨-, done, -⟩ := steps here (Lane.begins_at named) (by decide)
  obtain ⟨operation, read, same⟩ := done went
  cases read
  refine ⟨⟨stays present ?_, holds (by decide) locked (by decide)⟩,
    .change (.remove (byteAt setting.source.code 111)), character, same⟩
  simp [operations, Party.Operation.TakesOut]

end Locking

end FieldMachine
