import FieldMachine.Listing
import FieldMachine.Proofs.Length
import FieldMachine.Proofs.Run
import FieldMachine.Proofs.Section.Format

/-!
# Branches

Where an instruction branches to is worked out twice.  A listing finds the offset
with the length of the instruction, a lane where its operands have taken it.  Both
come to the same place: a lane that branches goes on at the target that is listed,
or is given up, and then no target inside the bytecode is listed
(`Machine.branches_as_listed`).

Whether a lane branches is told by the bytes of the instruction, the cells that
they name, the buttons and the party (`Opcode.branches`).  An instruction that
looks at something branches unless it finds it.
-/

namespace FieldMachine

set_option autoImplicit false

open Section (byteAt wordAt)

/-! ## Numbers in the code -/

/-- Two bytes put together, low byte first. -/
theorem or_shiftLeft_eight (low high : UInt8) :
    low.toUInt16 ||| (high.toUInt16 <<< 8) = (low.toNat + 256 * high.toNat).toUInt16 := by
  have small := low.toNat_lt
  have large := high.toNat_lt
  have fits : high.toNat <<< 8 < 2 ^ 16 := by rw [Nat.shiftLeft_eq]; omega
  apply UInt16.toNat_inj.mp
  rw [UInt16.toNat_or, UInt16.toNat_shiftLeft, UInt8.toNat_toUInt16, UInt8.toNat_toUInt16,
    Nat.or_comm]
  show high.toNat <<< 8 % 2 ^ 16 ||| low.toNat = _ % 65536
  rw [Nat.mod_eq_of_lt fits, ← Nat.shiftLeft_add_eq_or_of_lt small, Nat.shiftLeft_eq]
  omega

theorem toInt32_eq_ofInt (value : UInt32) : value.toInt32 = Int32.ofInt value.toNat := by
  apply Int32.toBitVec_inj.mp
  rw [UInt32.toBitVec_toInt32, Int32.toBitVec_ofInt, BitVec.ofInt_natCast]
  simp

theorem wordAt_lt (code : Array UInt8) (place : Nat) : wordAt code place < 65536 := by
  have small := (byteAt code place).toNat_lt
  have large := (byteAt code (place + 1)).toNat_lt
  unfold wordAt
  omega

namespace Control

open Reading

variable {scene : Scene} {cursor : Cursor}

/-! ## What an instruction looks at -/

/-- What stands at a place as a side of a comparison. -/
def Width.rawAt (width : Width) (code : Array UInt8) (place : Nat) : UInt16 :=
  match width with
  | .byte => (byteAt code place).toUInt16
  | .signedWord | .word => (wordAt code place).toUInt16

/-- The number for which a value stands in a comparison: its low byte, the number with a sign, or
the number without one. -/
def Width.number (width : Width) (value : UInt16) : Int :=
  match width with
  | .byte => value.toNat % 256
  | .signedWord => value.toInt16.toInt
  | .word => value.toNat

/-- The value of an operand: itself for selector 0, and otherwise the cell that it names. -/
def operand (memory : Memory) (selector : UInt8) (raw : UInt16) : Except ExecError UInt16 :=
  if selector = 0 then .ok raw else (memory.read selector raw).mapError .address

/-- The verdict of the test that a byte names. -/
def verdict (scene : Scene) (kind : UInt8) (a b : Int) : Except ExecError Bool :=
  match Comparison.ofByte? kind with
  | none => .error (.invalidOperand scene.opcode "comparison" kind.toUInt32)
  | some comparison => .ok (comparison.test (Int32.ofInt a) (Int32.ofInt b))

/-- The verdict of a comparison whose operands stand at a place: the selectors, the two sides, and
the byte of the test. -/
def comparisonAt (width : Width) (scene : Scene) (code : Array UInt8) (place : Nat) :
    Except ExecError Bool := do
  let selectors : Selectors := { byte := byteAt code place }
  let a ← operand scene.session.memory selectors.high (width.rawAt code (place + 1))
  let b ← operand scene.session.memory selectors.low (width.rawAt code (place + 1 + width.bytes))
  verdict scene (byteAt code (place + 1 + 2 * width.bytes)) (width.number a) (width.number b)

/-- Whether one of the buttons that stand at a place is in a set of buttons. -/
def keysAmongAt (buttons : Buttons) (code : Array UInt8) (place : Nat) : Bool :=
  buttons &&& ((wordAt code place).toUInt16 &&& knownButtons) ≠ 0

/-- The offset at a place, of one byte or of two. -/
def offsetAt (wide : Bool) (code : Array UInt8) (place : Nat) : Nat :=
  if wide then wordAt code place else (byteAt code place).toNat

end Control

namespace Opcode

/-- The instructions that branch. -/
def branching : List Opcode :=
  [.jmpf, .jmpfl, .jmpb, .jmpbl, .ifub, .ifubl, .ifsw, .ifswl, .ifuw, .ifuwl, .ifkey, .ifkeyon,
    .ifkeyoff, .ifprtyq, .ifmembq]

/-- Whether a branching instruction at a place branches, or why it cannot be carried out. -/
def branches (op : Opcode) (scene : Scene) (code : Array UInt8) (place : Nat) :
    Except ExecError Bool :=
  match op with
  | .ifub | .ifubl => (Control.comparisonAt .byte scene code (place + 1)).map (!·)
  | .ifsw | .ifswl => (Control.comparisonAt .signedWord scene code (place + 1)).map (!·)
  | .ifuw | .ifuwl => (Control.comparisonAt .word scene code (place + 1)).map (!·)
  | .ifkey => .ok !Control.keysAmongAt scene.world.keys.held code (place + 1)
  | .ifkeyon => .ok !Control.keysAmongAt scene.world.keys.pressed code (place + 1)
  | .ifkeyoff => .ok !Control.keysAmongAt scene.world.keys.released code (place + 1)
  | .ifprtyq => .ok !scene.session.party.contains (byteAt code (place + 1))
  | .ifmembq => .ok !scene.session.party.isAvailable (byteAt code (place + 1))
  | _ => .ok true

/-- Whether the offset of a branching instruction has two bytes. -/
def isFar (op : Opcode) : Bool := op ∈ [jmpfl, jmpbl, ifubl, ifswl, ifuwl]

/-- Where the offset of a branching instruction stands: its last bytes. -/
def offsetPlace (op : Opcode) (place : Nat) : Nat := place + op.size - 1 - op.isFar.toNat

/-- Where a branching instruction at a place branches to, be it inside the code or not: forward from
its offset, or backward from its first byte. -/
def destination (op : Opcode) (code : Array UInt8) (place : Nat) : Int :=
  let offset := Control.offsetAt op.isFar code (op.offsetPlace place)
  if op = .jmpb ∨ op = .jmpbl then place - offset else op.offsetPlace place + offset

end Opcode

/-! ## Readings that branch -/

namespace Reading

variable {scene : Scene} {cursor : Cursor}

/-- Jumps to a place or goes on. -/
def branch (target : Int) (taken : Bool) : Reading Plan := do
  if taken then jump target
  return .next []

theorem skip_of_le {count : Nat} (inside : cursor.pc + count ≤ cursor.code.size) :
    cursor.skip count = .ok (cursor.forward count) :=
  Cursor.skip_eq_ok.mpr ⟨inside, rfl⟩

theorem byte_of_le (inside : cursor.pc + 1 ≤ cursor.code.size) :
    byte scene cursor = .ok (byteAt cursor.code cursor.pc, cursor.forward 1) := by
  show (cursor.skip 1).map (cursor.peek 0, ·) = _
  rw [skip_of_le inside]
  rfl

theorem word_of_le (inside : cursor.pc + 2 ≤ cursor.code.size) :
    word scene cursor = .ok ((wordAt cursor.code cursor.pc).toUInt16, cursor.forward 2) := by
  show (cursor.skip 2).map ((cursor.peek 0).toUInt16 ||| ((cursor.peek 1).toUInt16 <<< 8), ·) = _
  rw [skip_of_le inside, or_shiftLeft_eight]
  rfl

theorem signed_of_le (inside : cursor.pc + 2 ≤ cursor.code.size) :
    signed scene cursor =
      .ok ((wordAt cursor.code cursor.pc).toUInt16.toInt16, cursor.forward 2) := by
  show (word scene cursor).map (fun found => (found.1.toInt16, found.2)) = _
  rw [word_of_le inside]
  rfl

/-- What follows a reading that succeeds. -/
theorem bind_of_ok {α β : Type} {reading : Reading α} {next : α → Reading β} {value : α}
    {after : Cursor} (read : reading scene cursor = .ok (value, after)) :
    (reading >>= next) scene cursor = next value scene after := by
  rw [bind_apply, read]
  rfl

/-- What follows a reading that looks an operand up. -/
theorem bind_of_operand {α β : Type} {reading : Reading α} {next : α → Reading β}
    {found : Except ExecError UInt16} {change : UInt16 → α}
    (read : reading scene cursor = found.map (change ·, cursor)) :
    (reading >>= next) scene cursor = found.bind fun value => next (change value) scene cursor := by
  rw [bind_apply, read]
  cases found <;> rfl

theorem load_eq (selector : UInt8) (raw : UInt16) :
    load selector raw scene cursor =
      (Control.operand scene.session.memory selector raw).map (·, cursor) := by
  unfold load Control.operand
  split
  · rfl
  · cases scene.session.memory.read selector raw <;> rfl

theorem loadByte_eq (selector raw : UInt8) :
    loadByte selector raw scene cursor =
      (Control.operand scene.session.memory selector raw.toUInt16).map (·.toUInt8, cursor) := by
  rw [loadByte, bind_of_operand (load_eq selector raw.toUInt16)]
  cases Control.operand scene.session.memory selector raw.toUInt16 <;> rfl

theorem loadCoordinate_eq (selector : UInt8) (raw : Int16) :
    loadCoordinate selector raw scene cursor =
      (Control.operand scene.session.memory selector raw.toUInt16).map
        (·.toInt16.toInt32, cursor) := by
  rw [loadCoordinate, loadSigned, bind_assoc, bind_of_operand (load_eq selector raw.toUInt16)]
  cases Control.operand scene.session.memory selector raw.toUInt16 <;> rfl

end Reading

namespace Control

open Reading

variable {scene : Scene} {cursor : Cursor}

theorem offset_of_le {wide : Bool} (inside : cursor.pc + (wide.toNat + 1) ≤ cursor.code.size) :
    offset wide scene cursor =
      .ok (offsetAt wide cursor.code cursor.pc, cursor.forward (wide.toNat + 1)) := by
  cases wide with
  | true =>
      show (word scene cursor).map (fun found => (found.1.toNat, found.2)) = _
      rw [word_of_le inside]
      simp [Except.map, offsetAt, Nat.mod_eq_of_lt (wordAt_lt _ _)]
  | false =>
      show (byte scene cursor).map (fun found => (found.1.toNat, found.2)) = _
      rw [byte_of_le inside]
      rfl

theorem jumpForward_of_le {wide : Bool}
    (inside : cursor.pc + (wide.toNat + 1) ≤ cursor.code.size) :
    jumpForward wide scene cursor =
      branch (cursor.pc + offsetAt wide cursor.code cursor.pc) true scene
        (cursor.forward (wide.toNat + 1)) := by
  show (offset wide scene cursor).bind _ = _
  rw [offset_of_le inside]
  rfl

theorem jumpBackward_of_le {wide : Bool}
    (inside : cursor.pc + (wide.toNat + 1) ≤ cursor.code.size) :
    jumpBackward wide scene cursor =
      branch (cursor.start - offsetAt wide cursor.code cursor.pc) true scene
        (cursor.forward (wide.toNat + 1)) := by
  show (offset wide scene cursor).bind _ = _
  rw [offset_of_le inside]
  rfl

theorem jumpUnless_of_le {wide condition : Bool}
    (inside : cursor.pc + (wide.toNat + 1) ≤ cursor.code.size) :
    jumpUnless wide condition scene cursor =
      branch (cursor.pc + offsetAt wide cursor.code cursor.pc) (!condition) scene
        (cursor.forward (wide.toNat + 1)) := by
  show (offset wide scene cursor).bind _ = _
  rw [offset_of_le inside]
  rfl

/-! ## Conditions -/

/-- The two sides of a comparison are the operands at the cursor. -/
theorem sides_of_le {width : Width} (selectors : Selectors)
    (inside : cursor.pc + 2 * width.bytes ≤ cursor.code.size) :
    sides width selectors scene cursor =
      (operand scene.session.memory selectors.high
        (width.rawAt cursor.code cursor.pc)).bind fun a =>
      (operand scene.session.memory selectors.low
        (width.rawAt cursor.code (cursor.pc + width.bytes))).bind fun b =>
      .ok ((Int32.ofInt (width.number a), Int32.ofInt (width.number b)),
        cursor.forward (2 * width.bytes)) := by
  cases width with
  | byte =>
      have first : cursor.pc + 1 ≤ cursor.code.size := by simp [Width.bytes] at inside; omega
      have second : (cursor.forward 1).pc + 1 ≤ (cursor.forward 1).code.size := inside
      have low (value : UInt16) :
          value.toUInt8.toUInt32.toInt32 = Int32.ofInt (value.toNat % 256) := by
        rw [toInt32_eq_ofInt]
        simp
      simp only [sides, bind_of_ok (byte_of_le first), bind_of_ok (byte_of_le second),
        bind_of_operand (loadByte_eq _ _), low]
      rfl
  | signedWord =>
      have first : cursor.pc + 2 ≤ cursor.code.size := by simp [Width.bytes] at inside; omega
      have second : (cursor.forward 2).pc + 2 ≤ (cursor.forward 2).code.size := inside
      simp only [sides, bind_of_ok (signed_of_le first), bind_of_ok (signed_of_le second),
        bind_of_operand (loadCoordinate_eq _ _), UInt16.toUInt16_toInt16, ← Int32.ofInt_int16ToInt]
      rfl
  | word =>
      have first : cursor.pc + 2 ≤ cursor.code.size := by simp [Width.bytes] at inside; omega
      have second : (cursor.forward 2).pc + 2 ≤ (cursor.forward 2).code.size := inside
      simp only [sides, bind_of_ok (word_of_le first), bind_of_ok (word_of_le second),
        bind_of_operand (load_eq _ _), toInt32_eq_ofInt, UInt16.toNat_toUInt32]
      rfl

/-- A condition whose operands are the `count` bytes at the cursor, with its verdict. -/
def Tells (condition : Reading Bool) (scene : Scene) (count : Nat)
    (verdict : Array UInt8 → Nat → Except ExecError Bool) : Prop :=
  ∀ cursor : Cursor, cursor.pc + count ≤ cursor.code.size →
    condition scene cursor = (verdict cursor.code cursor.pc).map (·, cursor.forward count)

/-- The byte of the test follows the two sides. -/
theorem verdict_of_le {a b : Int} (inside : cursor.pc + 1 ≤ cursor.code.size) :
    (do
      let kind ← byte
      match Comparison.ofByte? kind with
      | none => invalid "comparison" kind.toUInt32
      | some comparison =>
          return comparison.test (Int32.ofInt a) (Int32.ofInt b) : Reading Bool) scene cursor =
      (verdict scene (byteAt cursor.code cursor.pc) a b).map (·, cursor.forward 1) := by
  rw [bind_of_ok (byte_of_le inside), verdict]
  cases Comparison.ofByte? (byteAt cursor.code cursor.pc) <;> rfl

theorem comparison_tells (width : Width) :
    Tells (comparison width) scene (2 * width.bytes + 2) (comparisonAt width scene) := by
  intro cursor inside
  have first : cursor.pc + 1 ≤ cursor.code.size := by omega
  have between : (cursor.forward 1).pc + 2 * width.bytes ≤ (cursor.forward 1).code.size := by
    rw [Cursor.pc_forward, Cursor.code_forward]; omega
  have last : ((cursor.forward 1).forward (2 * width.bytes)).pc + 1 ≤
      ((cursor.forward 1).forward (2 * width.bytes)).code.size := by
    simp only [Cursor.pc_forward, Cursor.code_forward]; omega
  have behind : ((cursor.forward 1).forward (2 * width.bytes)).forward 1 =
      cursor.forward (2 * width.bytes + 2) := by
    rw [Cursor.forward_forward, Cursor.forward_forward]; congr 1; omega
  rw [comparison, Reading.selectors, bind_assoc, bind_of_ok (byte_of_le first), pure_bind,
    bind_apply, sides_of_le _ between, Cursor.pc_forward, Cursor.code_forward, comparisonAt]
  cases operand scene.session.memory _ (width.rawAt cursor.code (cursor.pc + 1)) with
  | error error => rfl
  | ok a =>
      cases operand scene.session.memory _
        (width.rawAt cursor.code (cursor.pc + 1 + width.bytes)) with
      | error error => rfl
      | ok b =>
          rw [← behind]
          exact verdict_of_le last

theorem keysAmong_tells (buttons : Keys → Buttons) :
    Tells (keysAmong buttons) scene 2
      fun code place => .ok (keysAmongAt (buttons scene.world.keys) code place) := by
  intro cursor inside
  rw [keysAmong, bind_of_ok (word_of_le inside)]
  rfl

theorem inParty_tells :
    Tells inParty scene 1
      fun code place => .ok (scene.session.party.contains (byteAt code place)) := by
  intro cursor inside
  rw [inParty, bind_of_ok (byte_of_le inside)]
  rfl

theorem available_tells :
    Tells available scene 1
      fun code place => .ok (scene.session.party.isAvailable (byteAt code place)) := by
  intro cursor inside
  rw [available, bind_of_ok (byte_of_le inside)]
  rfl

/-- A conditional jump branches unless its condition holds. -/
theorem Tells.unless {condition : Reading Bool} {count : Nat} {wide : Bool}
    {verdict : Array UInt8 → Nat → Except ExecError Bool}
    (tells : Tells condition scene count verdict)
    (inside : cursor.pc + (count + (wide.toNat + 1)) ≤ cursor.code.size) :
    (condition >>= jumpUnless wide) scene cursor =
      (verdict cursor.code cursor.pc).bind fun holds =>
        branch ((cursor.pc + count : Nat) + offsetAt wide cursor.code (cursor.pc + count)) (!holds)
          scene (cursor.forward (count + (wide.toNat + 1))) := by
  have last : (cursor.forward count).pc + (wide.toNat + 1) ≤ (cursor.forward count).code.size := by
    rw [Cursor.pc_forward, Cursor.code_forward]; omega
  rw [bind_apply, tells cursor (by omega), ← Cursor.forward_forward]
  cases verdict cursor.code cursor.pc with
  | error error => rfl
  | ok holds => exact jumpUnless_of_le last

end Control

namespace Opcode

open Reading

/-- An instruction with its operands inside the code branches as its bytes tell. -/
def BranchesBy (op : Opcode) (scene : Scene) (reading : Reading Plan) : Prop :=
  ∀ code place, place + op.size ≤ code.size →
    reading scene ((Cursor.atStart code place).forward 1) =
      (op.branches scene code place).bind fun taken =>
        branch (op.destination code place) taken scene ((Cursor.atStart code place).forward op.size)

theorem offsetPlace_eq {op : Opcode} {count : Nat} {wide : Bool} (far : op.isFar = wide)
    (length : op.size = count + (wide.toNat + 1) + 1) (place : Nat) :
    op.offsetPlace place = place + 1 + count := by
  rw [offsetPlace, far, length]
  omega

namespace BranchesBy

variable {op : Opcode} {scene : Scene} {handler reading : Reading Plan}

/-- A jump whose only operand is its offset. -/
theorem of_jump (wide : Bool)
    (jumps : ∀ {cursor : Cursor}, cursor.pc + (wide.toNat + 1) ≤ cursor.code.size →
      cursor.pc = cursor.start + 1 →
      handler scene cursor = branch (op.destination cursor.code cursor.start) true scene
        (cursor.forward (wide.toNat + 1)))
    (known : some handler = some reading)
    (always : ∀ code place, op.branches scene code place = .ok true)
    (length : op.size = 0 + (wide.toNat + 1) + 1) : op.BranchesBy scene reading := by
  cases known
  intro code place inside
  have operands : place + 1 + (wide.toNat + 1) ≤ code.size := by omega
  have behind : (Cursor.atStart code place).forward op.size =
      ((Cursor.atStart code place).forward 1).forward (wide.toNat + 1) := by
    rw [Cursor.forward_forward, length, Nat.zero_add, Nat.add_comm]
  rw [always, behind]
  exact jumps operands rfl

theorem of_forward {wide : Bool} (known : some (Control.jumpForward wide) = some reading)
    (always : ∀ code place, op.branches scene code place = .ok true := by intros; rfl)
    (forward : ¬(op = .jmpb ∨ op = .jmpbl) := by decide) (far : op.isFar = wide := by decide)
    (length : op.size = 0 + (wide.toNat + 1) + 1 := by decide +kernel) :
    op.BranchesBy scene reading := by
  refine of_jump wide (fun {cursor} inside behind => ?_) known always length
  rw [Control.jumpForward_of_le inside, destination, far, if_neg forward,
    offsetPlace_eq far length, Nat.add_zero, behind]

theorem of_backward {wide : Bool} (known : some (Control.jumpBackward wide) = some reading)
    (always : ∀ code place, op.branches scene code place = .ok true := by intros; rfl)
    (backward : op = .jmpb ∨ op = .jmpbl := by decide) (far : op.isFar = wide := by decide)
    (length : op.size = 0 + (wide.toNat + 1) + 1 := by decide +kernel) :
    op.BranchesBy scene reading := by
  refine of_jump wide (fun {cursor} inside behind => ?_) known always length
  rw [Control.jumpBackward_of_le inside, destination, far, if_pos backward,
    offsetPlace_eq far length, Nat.add_zero, behind]

/-- A conditional jump. -/
theorem of_condition {condition : Reading Bool} {count : Nat} {wide : Bool}
    {verdict : Array UInt8 → Nat → Except ExecError Bool}
    (same : handler = condition >>= Control.jumpUnless wide)
    (tells : Control.Tells condition scene count verdict) (known : some handler = some reading)
    (told : ∀ code place,
      op.branches scene code place = (verdict code (place + 1)).map (!·) := by intros; rfl)
    (forward : ¬(op = .jmpb ∨ op = .jmpbl) := by decide) (far : op.isFar = wide := by decide)
    (length : op.size = count + (wide.toNat + 1) + 1 := by decide +kernel) :
    op.BranchesBy scene reading := by
  cases known
  subst same
  intro code place inside
  have operands : ((Cursor.atStart code place).forward 1).pc + (count + (wide.toNat + 1)) ≤
      ((Cursor.atStart code place).forward 1).code.size := by
    show place + 1 + (count + (wide.toNat + 1)) ≤ code.size
    omega
  have behind : (Cursor.atStart code place).forward op.size =
      ((Cursor.atStart code place).forward 1).forward (count + (wide.toNat + 1)) := by
    rw [Cursor.forward_forward, length, Nat.add_comm]
  rw [tells.unless operands, told, destination, far, if_neg forward, offsetPlace_eq far length,
    behind]
  show (verdict code (place + 1)).bind _ = ((verdict code (place + 1)).map _).bind _
  cases verdict code (place + 1) <;> rfl

end BranchesBy

/-- Every branching instruction branches as its bytes tell. -/
theorem branchesBy {op : Opcode} (scene : Scene) (member : op ∈ branching) {reading : Reading Plan}
    (known : op.plan? = some reading) : op.BranchesBy scene reading := by
  cases op with
  | jmpf | jmpfl => exact .of_forward known
  | jmpb | jmpbl => exact .of_backward known
  | ifub | ifubl | ifsw | ifswl | ifuw | ifuwl =>
      exact .of_condition (Control.compare_eq _ _) (Control.comparison_tells _) known
  | ifkey | ifkeyon | ifkeyoff =>
      exact .of_condition (Control.compareKeys_eq _) (Control.keysAmong_tells _) known
  | ifprtyq => exact .of_condition Control.compareParty_eq Control.inParty_tells known
  | ifmembq => exact .of_condition Control.compareAvailable_eq Control.available_tells known
  | _ => exact absurd member (by decide)

/-- Every branching instruction can be carried out. -/
theorem isSome_plan?_of_branching {op : Opcode} (member : op ∈ branching) : op.plan?.isSome := by
  have all : ∀ op ∈ branching, op.plan?.isSome := by decide
  exact all op member

end Opcode

/-! ## Targets of a listing -/

namespace Listing

open Control

variable {source : Section} {place : Nat}

theorem getElem?_bytes (inside : place < source.code.size) :
    source.bytes[place]? = some (byteAt source.code place) := by
  apply Section.getElem?_bytes_of_code
  rw [byteAt, Array.getElem?_eq_getElem inside, Option.getD_some]

theorem backFrom?_eq (place distance : Nat) :
    backFrom? place distance = (place - distance : Int).toNat? := by
  unfold backFrom?
  split
  · next reached =>
      rw [← Int.ofNat_sub reached]
      rfl
  · next early =>
      obtain ⟨missing, same⟩ := Int.eq_negSucc_of_lt_zero (by omega : (place - distance : Int) < 0)
      rw [same]
      rfl

section Targets

variable {op : Opcode}

theorem nearTarget?_eq (inside : place + 1 ≤ source.code.size) :
    nearTarget? source.bytes place = (place + offsetAt false source.code place : Int).toNat? := by
  rw [nearTarget?, getElem?_bytes inside]
  rfl

theorem farDistance?_eq (inside : place + 2 ≤ source.code.size) :
    farDistance? source.bytes place = some (offsetAt true source.code place) := by
  rw [farDistance?, getElem?_bytes (by omega), getElem?_bytes (by omega)]
  rfl

theorem farTarget?_eq (inside : place + 2 ≤ source.code.size) :
    (farDistance? source.bytes place).map (place + ·) =
      (place + offsetAt true source.code place : Int).toNat? := by
  rw [farDistance?_eq inside]
  rfl

theorem target?_of_near (inside : place + op.size ≤ source.code.size)
    (form : ∀ bytes address length,
      target? bytes address length op = nearTarget? bytes (address + length - 1) := by intros; rfl)
    (forward : ¬(op = .jmpb ∨ op = .jmpbl) := by decide) (near : op.isFar = false := by decide)
    (long : 2 ≤ op.size := by decide +kernel) :
    target? source.bytes place op.size op = (op.destination source.code place).toNat? := by
  have offset : op.offsetPlace place = place + op.size - 1 := by
    rw [Opcode.offsetPlace, near, Bool.toNat_false, Nat.sub_zero]
  rw [form, Opcode.destination, if_neg forward, offset, near]
  exact nearTarget?_eq (by omega)

theorem target?_of_far (inside : place + op.size ≤ source.code.size)
    (form : ∀ bytes address length, target? bytes address length op =
      (farDistance? bytes (address + length - 2)).map (address + length - 2 + ·) := by intros; rfl)
    (forward : ¬(op = .jmpb ∨ op = .jmpbl) := by decide) (far : op.isFar = true := by decide)
    (long : 3 ≤ op.size := by decide +kernel) :
    target? source.bytes place op.size op = (op.destination source.code place).toNat? := by
  have offset : op.offsetPlace place = place + op.size - 2 := by
    rw [Opcode.offsetPlace, far, Bool.toNat_true, Nat.sub_sub]
  rw [form, Opcode.destination, if_neg forward, offset, far]
  exact farTarget?_eq (by omega)

/-- A listing shows where an instruction branches to, unless that lies before the section. -/
theorem target?_eq (member : op ∈ Opcode.branching)
    (inside : place + op.size ≤ source.code.size) :
    target? source.bytes place op.size op = (op.destination source.code place).toNat? := by
  cases op with
  | jmpf | ifub | ifsw | ifuw | ifkey | ifkeyon | ifkeyoff | ifprtyq | ifmembq =>
      exact target?_of_near inside
  | jmpfl | ifubl | ifswl | ifuwl => exact target?_of_far inside
  | jmpb =>
      have long : Opcode.jmpb.size = 2 := by decide +kernel
      have offset : Opcode.jmpb.offsetPlace place = place + 1 := by
        rw [Opcode.offsetPlace, long]
        rfl
      rw [target?, getElem?_bytes (by omega), Opcode.destination, offset]
      exact backFrom?_eq place _
  | jmpbl =>
      have long : Opcode.jmpbl.size = 3 := by decide +kernel
      have offset : Opcode.jmpbl.offsetPlace place = place + 1 := by
        rw [Opcode.offsetPlace, long]
        rfl
      rw [target?, farDistance?_eq (by omega), Opcode.destination, offset]
      exact backFrom?_eq place _
  | _ => exact absurd member (by decide)

end Targets

end Listing

/-! ## Lanes that branch -/

namespace Reading

variable {scene : Scene} {behind : Cursor} {target : Int}

/-- A branch to a place inside the bytecode ends there. -/
theorem branch_inside (whole : behind.code.size = scene.source.codeEnd)
    (above : scene.source.codeStart ≤ target) (below : target < scene.source.codeEnd) :
    branch target true scene behind = .ok (.next [], { behind with pc := target.toNat }) := by
  have moves : behind.moveTo target.toNat = .ok { behind with pc := target.toNat } :=
    Cursor.moveTo_eq_ok.mpr ⟨by omega, rfl⟩
  show (jump target scene behind).bind _ = _
  unfold jump
  rw [jumpError?_eq_none.mpr ⟨above, below⟩, moves]
  rfl

/-- A branch to a place outside the bytecode fails. -/
theorem branch_outside
    (outside : ¬(scene.source.codeStart ≤ target ∧ target < scene.source.codeEnd)) :
    branch target true scene behind =
      .error (.jumpOutOfRange target scene.source.codeStart scene.source.codeEnd) := by
  have strays : jumpError? scene.source target =
      some (.jumpOutOfRange target scene.source.codeStart scene.source.codeEnd) := by
    unfold jumpError?
    rw [if_pos (by simp only [Bool.or_eq_true, decide_eq_true_eq]; omega)]
  show (jump target scene behind).bind _ = _
  unfold jump
  rw [strays]
  rfl

end Reading

namespace Machine

open Reading

variable {σ : Type} {setting : Setting σ} {machine : Machine σ} {id : EntityId}
  {priority place : Nat} {lane : Lane} {op : Opcode}

/-- A whole instruction is worked out by its reading. -/
theorem workOut_of_fetch {code : Array UInt8} {scene : Scene} {byte : UInt8}
    {reading : Reading Plan} {cursor : Cursor}
    (fetched : fetch code place = .ok (byte, reading, cursor)) :
    workOut code scene place none =
      (reading scene cursor).map fun (plan, after) => (plan, after.pc) := by
  simp only [workOut, fetched, bind, Except.bind]
  cases reading scene cursor <;> rfl

/-- The step of a lane on an instruction that can be carried out. -/
theorem step_of_plan? {reading : Reading Plan}
    (here : machine.world.lane? id priority = some lane) (active : lane.isActive)
    (stands : lane.ip? = some place) (fresh : lane.suspended? = none)
    (opcode : setting.source.code[place]? = some op.byte) (known : op.plan? = some reading) :
    machine.step setting id priority =
      match reading (machine.sceneOf setting id priority place lane)
        ((Cursor.atStart setting.source.code place).forward 1) with
      | .error error =>
          ((machine.note (.executing id priority place op.byte)).giveUp setting id priority place
            error, .released)
      | .ok (plan, after) =>
          (machine.note (.executing id priority place op.byte)).carryOut setting id priority place
            after.pc lane plan := by
  have fetched : fetch setting.source.code place =
      .ok (op.byte, reading, (Cursor.atStart setting.source.code place).forward 1) :=
    fetch_eq_ok.mpr ⟨opcode, planOfByte?_eq_some.mpr ⟨op, rfl, known⟩, rfl⟩
  have noted : machine.onRecord setting id priority place lane =
      machine.note (.executing id priority place op.byte) := by
    unfold onRecord
    rw [fresh, fetched]
  rw [step_eq_of_active setting here active stands, fresh, workOut_of_fetch fetched, noted]
  cases reading (machine.sceneOf setting id priority place lane)
    ((Cursor.atStart setting.source.code place).forward 1) <;> rfl

/-- The step of a lane on an instruction that can be worked out. -/
theorem step_of_reading {reading : Reading Plan} {plan : Plan} {after : Cursor}
    (here : machine.world.lane? id priority = some lane) (active : lane.isActive)
    (stands : lane.ip? = some place) (fresh : lane.suspended? = none)
    (opcode : setting.source.code[place]? = some op.byte) (known : op.plan? = some reading)
    (read : reading (machine.sceneOf setting id priority place lane)
      ((Cursor.atStart setting.source.code place).forward 1) = .ok (plan, after)) :
    machine.step setting id priority =
      (machine.note (.executing id priority place op.byte)).carryOut setting id priority place
        after.pc lane plan := by
  rw [step_of_plan? here active stands fresh opcode known, read]

/-- A step of a lane that stands on a branching instruction. -/
theorem step_of_branching (here : machine.world.lane? id priority = some lane)
    (active : lane.isActive) (stands : lane.ip? = some place) (fresh : lane.suspended? = none)
    (named : setting.source.code[place]? = some op.byte) (member : op ∈ Opcode.branching)
    (inside : place + op.size ≤ setting.source.code.size) :
    machine.step setting id priority =
      match (op.branches (machine.sceneOf setting id priority place lane) setting.source.code
          place).bind fun taken =>
        branch (op.destination setting.source.code place) taken
          (machine.sceneOf setting id priority place lane)
          ((Cursor.atStart setting.source.code place).forward op.size) with
      | .error error =>
          ((machine.note (.executing id priority place op.byte)).giveUp setting id priority place
            error, .released)
      | .ok (plan, after) =>
          (machine.note (.executing id priority place op.byte)).carryOut setting id priority place
            after.pc lane plan := by
  obtain ⟨reading, known⟩ := Option.isSome_iff_exists.mp (Opcode.isSome_plan?_of_branching member)
  rw [step_of_plan? here active stands fresh named known,
    Opcode.branchesBy _ member known _ _ inside]

/-- The table has the length of a branching instruction that lies inside the code. -/
theorem length_of_branching {code : Array UInt8} {length : Nat} (member : op ∈ Opcode.branching)
    (named : code[place]? = some op.byte) (whole : instructionLength? code place = some length) :
    length = op.size ∧ place + op.size ≤ code.size := by
  have plain : ∀ op ∈ Opcode.branching, op.byte ≠ 0x1C ∧ op.byte ≠ Opcode.kawai.byte := by decide
  obtain ⟨notPayload, notKawai⟩ := plain op member
  simp only [instructionLength?, named, Option.bind_eq_bind, Option.bind_some, notPayload, notKawai,
    if_false] at whole
  obtain ⟨inside, same⟩ := Option.ite_none_right_eq_some.mp whole
  exact ⟨(Option.some.inj same).symm, inside⟩

variable (setting) in
/-- A lane branches where the listing says.

A branching instruction that lies inside the bytecode either cannot be carried out, or the lane goes
on behind it, or the lane branches; which of them, its bytes tell together with the cells, buttons
and party members that they name.  A lane that branches goes on at the target that is listed, or is
given up because it would leave the bytecode; then no target inside the bytecode is listed. -/
theorem branches_as_listed {bytes : Array UInt8} {length : Nat}
    (accepted : Section.read bytes = .ok setting.source)
    (here : machine.world.lane? id priority = some lane) (active : lane.isActive)
    (stands : lane.ip? = some place) (fresh : lane.suspended? = none)
    (named : setting.source.code[place]? = some op.byte) (member : op ∈ Opcode.branching)
    (whole : instructionLength? setting.source.code place = some length) :
    let begun := machine.note (.executing id priority place op.byte)
    let taken :=
      op.branches (machine.sceneOf setting id priority place lane) setting.source.code place
    let start := setting.source.codeStart
    let finish := setting.source.codeEnd
    (∀ error, taken = .error error →
      machine.step setting id priority =
        (begun.giveUp setting id priority place error, .released)) ∧
    (taken = .ok false →
      machine.step setting id priority =
        (begun.updateLane id priority (·.advance (place + length)), .goOn)) ∧
    (taken = .ok true →
      (∃ target, Listing.target? bytes place length op = some target ∧
        start ≤ target ∧ target < finish ∧
        machine.step setting id priority =
          (begun.updateLane id priority (·.advance target), .goOn)) ∨
      (∃ target : Int,
        (∀ listed, Listing.target? bytes place length op = some listed →
          listed < start ∨ finish ≤ listed) ∧
        machine.step setting id priority =
          (begun.giveUp setting id priority place (.jumpOutOfRange target start finish),
            .released))) := by
  obtain ⟨long, inside⟩ := length_of_branching member named whole
  rw [long]
  have size := (Section.sound_of_read accepted).size
  have same : setting.source.bytes = bytes :=
    congrArg Section.bytes (Section.read_eq_ok.mp accepted).2
  have listed := Listing.target?_eq member inside
  rw [same] at listed
  have stepped := step_of_branching here active stands fresh named member inside
  intro begun taken start finish
  refine ⟨fun error fails => ?_, fun stays => ?_, fun branches => ?_⟩
  · rw [stepped, show op.branches _ _ _ = _ from fails]
    rfl
  · rw [stepped, show op.branches _ _ _ = _ from stays]
    rfl
  · rw [show op.branches _ _ _ = _ from branches] at stepped
    rw [listed, stepped]
    generalize op.destination setting.source.code place = target
    by_cases within : (start : Int) ≤ target ∧ target < finish
    · left
      obtain ⟨natural, rfl⟩ := Int.eq_ofNat_of_zero_le (by omega : 0 ≤ target)
      refine ⟨natural, rfl, by omega, by omega, ?_⟩
      simp only [Except.bind]
      rw [branch_inside size within.1 within.2]
      rfl
    · right
      refine ⟨target, ?_, ?_⟩
      · intro shown known
        rw [Int.mem_toNat?.mp known] at within
        omega
      · simp only [Except.bind]
        rw [branch_outside within]
        rfl

end Machine

/-! ## A branch between two numbers below zero -/

namespace Crossing

/-- A cell is set to -5, and then a branch with a long offset is taken unless the cell is greater
than -3. -/
def bytes : Array UInt8 :=
  (([2, 5, 1, 0, 120, 0, 0, 0, 0, 2] ++ List.replicate 22 0 ++ List.replicate 8 0
    ++ [104, 0] ++ (List.replicate 31 [118, 0]).flatten
    ++ [0x81, 0x10, 0x04, 0xFB, 0xFF, 0x17, 0x10, 0x04, 0x00, 0xFD, 0xFF, 0x02, 0x03, 0x00, 0x00,
      0x00] : List UInt8)).toArray

def setting : Setting Unit :=
  { source := Section.ofBytes bytes, config := { opsPerTick := 8 }, host := Host.accepting }

/-- The field when the cell is set. -/
def compared : Machine Unit :=
  ((Machine.enter setting (Session.fresh setting.config) (.ofSeed 0) ()).start.step setting 0 0).1

/-- The lane that stands on the branch. -/
def lane : Lane := { status := .active 109 0 none none, script := 0, epoch := 1 }

/-- The cell is not greater, so the lane branches to where the listing says. -/
theorem branch_taken_as_listed :
    Listing.target? bytes 109 9 .ifswl = some 119 ∧
      compared.step setting 0 0 =
        ((compared.note (.executing 0 0 109 0x17)).updateLane 0 0 (·.advance 119), .goOn) := by
  have accepted : Section.read bytes = .ok setting.source :=
    Section.read_eq_ofBytes (by decide +kernel)
  have here : compared.world.lane? 0 0 = some lane := by decide +kernel
  have named : setting.source.code[109]? = some Opcode.ifswl.byte := by decide +kernel
  have whole : instructionLength? setting.source.code 109 = some 9 := by decide +kernel
  have taken : Opcode.ifswl.branches (compared.sceneOf setting 0 0 109 lane) setting.source.code
      109 = .ok true := by
    have found : (Opcode.ifswl.branches (compared.sceneOf setting 0 0 109 lane)
        setting.source.code 109).toOption = some true := by decide +kernel
    revert found
    cases Opcode.ifswl.branches (compared.sceneOf setting 0 0 109 lane) setting.source.code 109 with
    | error error => exact nofun
    | ok taken => exact fun found => congrArg Except.ok (Option.some.inj found)
  have listed : Listing.target? bytes 109 9 .ifswl = some 119 := by decide +kernel
  obtain ⟨-, -, branches⟩ :=
    Machine.branches_as_listed setting accepted here rfl rfl rfl named (by decide) whole
  rcases branches taken with ⟨target, told, -, -, stepped⟩ | ⟨-, strays, -⟩
  · cases listed.symm.trans told
    exact ⟨listed, stepped⟩
  · have outside := strays 119 listed
    have start : setting.source.codeStart = 104 := by decide +kernel
    have finish : setting.source.codeEnd = 120 := by decide +kernel
    omega

end Crossing

end FieldMachine
