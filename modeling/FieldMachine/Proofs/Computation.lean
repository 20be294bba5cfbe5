import FieldMachine.Proofs.Branch
import Mathlib.Algebra.Group.Nat.Defs

/-!
# What an instruction computes

Some thirty instructions compute a new value for one cell, from the cell itself and
a source.  Here they are described without the machine: `Opcode.ideal?` is the
result in whole numbers, and `Opcode.fit` puts it into the range of the
instruction, which it leaves at neither end where the instruction saturates and
where everything else wraps around.  `Opcode.destinationAt` and `Opcode.sourceAt`
tell which operands are meant.

Every one of these instructions is worked out to just that
(`Arithmetic.worksOut_of_computing`).  What the instructions have in common is the
place of their operands, of which there are four kinds, and there is one lemma for
each kind.
-/

namespace FieldMachine

set_option autoImplicit false

open Section (byteAt wordAt)

/-! ## What an instruction computes -/

/-- What stands at a place as a source of a width. -/
def Arithmetic.Width.rawAt (width : Arithmetic.Width) (code : Array UInt8) (place : Nat) : UInt16 :=
  match width with
  | .byte => (byteAt code place).toUInt16
  | .word => (wordAt code place).toUInt16

namespace Opcode

/-- The instructions that compute a new value for one cell. -/
def computing : List Opcode :=
  [.setbyte, .setword, .plus, .plus2, .minus, .minus2, .mul, .mul2, .div, .div2, .mod, .mod2, .and,
    .and2, .or, .or2, .xor, .xor2, .inc, .inc2, .dec, .dec2, .plusSat, .plus2Sat, .minusSat,
    .minus2Sat, .incSat, .inc2Sat, .decSat, .dec2Sat, .lbyte, .hbyte, .biton, .bitoff, .bitxor,
    .twoByte]

/-- How many bits of its operands an instruction computes with. -/
def width : Opcode → Arithmetic.Width
  | .setbyte | .plus | .minus | .mul | .div | .mod | .and | .or | .xor | .inc | .dec | .plusSat
  | .minusSat | .incSat | .decSat | .lbyte => .byte
  | _ => .word

/-- Whether a result past the end of the range becomes the end of the range. -/
def saturates (op : Opcode) : Bool :=
  op ∈ [plusSat, plus2Sat, minusSat, minus2Sat, incSat, inc2Sat, decSat, dec2Sat]

/-- Whether the source of an instruction names a bit of the destination. -/
def changesBit (op : Opcode) : Bool := op ∈ [biton, bitoff, bitxor]

/-- The exact result for a destination and a source; a division by zero has none. -/
def ideal? (op : Opcode) (d s : Nat) : Option Int :=
  match op with
  | .plus | .plus2 | .plusSat | .plus2Sat | .inc | .inc2 | .incSat | .inc2Sat => some (d + s)
  | .minus | .minus2 | .minusSat | .minus2Sat | .dec | .dec2 | .decSat | .dec2Sat => some (d - s)
  | .mul | .mul2 => some (d * s)
  | .div | .div2 => if s = 0 then none else some (d / s)
  | .mod | .mod2 => if s = 0 then none else some (d % s)
  | .and | .and2 => some (d &&& s : Nat)
  | .or | .or2 => some (d ||| s : Nat)
  | .xor | .xor2 => some (d ^^^ s : Nat)
  | .lbyte => some (s % 256)
  | .hbyte => some (s / 256)
  | .biton => some (d ||| 2 ^ s : Nat)
  | .bitoff => some (d - (d &&& 2 ^ s : Nat))
  | .bitxor => some (d ^^^ 2 ^ s : Nat)
  | _ => some s

/-- The number that stands for an exact result in the range of the instruction. -/
def fit (op : Opcode) (result : Int) : Int :=
  if op.saturates then max 0 (min result (op.width.size - 1)) else result % op.width.size

/-- The cell that operands at a place name as the destination. -/
def destinationAt (op : Opcode) (code : Array UInt8) (place : Nat) : UInt8 × UInt8 :=
  (Selectors.high ⟨byteAt code place⟩,
    byteAt code (if op = .twoByte then place + 2 else place + 1))

/-- The source among operands at a place.  It is the number one where only a destination is named,
and `2BYTE` puts two bytes together. -/
def sourceAt (op : Opcode) (memory : Memory) (code : Array UInt8) (place : Nat) :
    Except ExecError Nat :=
  let selectors : Selectors := ⟨byteAt code place⟩
  match op with
  | .inc | .inc2 | .dec | .dec2 | .incSat | .inc2Sat | .decSat | .dec2Sat => .ok 1
  | .twoByte => do
      let more : Selectors := ⟨byteAt code (place + 1)⟩
      let low ← Control.operand memory selectors.low (byteAt code (place + 3)).toUInt16
      let high ← Control.operand memory more.high (byteAt code (place + 4)).toUInt16
      return low.toNat % 256 + 256 * (high.toNat % 256)
  | _ =>
      let raw := if op.changesBit then (byteAt code (place + 2)).toUInt16
        else op.width.rawAt code (place + 2)
      (Control.operand memory selectors.low raw).map UInt16.toNat

/-- The value that an instruction gives to its destination, if it gives it one. -/
def new? (op : Opcode) (d : UInt16) (s : Nat) : Option UInt16 :=
  (op.ideal? (d.toNat % op.width.size) (s % op.width.size)).map fun result =>
    (op.fit result).toNat.toUInt16

end Opcode

namespace Arithmetic

/-! ## Results -/

section Results

variable {op : Opcode} {operation : Operation}

/-- An operation comes to the exact result, put into the range of the instruction. -/
def Agrees (op : Opcode) (operation : Operation) : Prop :=
  ∀ d s, d < op.width.size → s < op.width.size →
    (operation.apply op.width.size d s).map (fun result => (↑(result % op.width.size) : Int)) =
      (op.ideal? d s).map op.fit

/-- A result that wraps around. -/
theorem agrees_of_wrapping
    (same : ∀ d s, op.ideal? d s = (operation.apply op.width.size d s).map Nat.cast)
    (wraps : op.saturates = false := by decide) : Agrees op operation := by
  intro d s _ _
  rw [same, Option.map_map]
  refine congrArg (Option.map · _) (funext fun result => ?_)
  rw [Function.comp_apply, Opcode.fit, wraps, if_neg Bool.false_ne_true]
  exact Int.natCast_emod result _

/-- Below zero a difference wraps around too. -/
theorem agrees_sub (same : ∀ d s, op.ideal? d s = some (d - s : Int) := by intros; rfl)
    (wraps : op.saturates = false := by decide) : Agrees op .sub := by
  intro d s _ small
  rw [same, Operation.apply, Option.map_some, Option.map_some, Opcode.fit, wraps,
    if_neg Bool.false_ne_true]
  rw [Int.natCast_emod, Int.natCast_sub (by omega), Int.natCast_add,
    show (d + op.width.size - s : Int) = (d - s) + op.width.size by omega, Int.add_emod_right]

theorem agrees_addCapped (same : ∀ d s, op.ideal? d s = some (d + s : Int) := by intros; rfl)
    (saturates : op.saturates = true := by decide) : Agrees op .addCapped := by
  intro d s small _
  rw [same, Operation.apply, Option.map_some, Option.map_some, Opcode.fit, if_pos saturates,
    Nat.mod_eq_of_lt (by omega)]
  congr 1
  omega

theorem agrees_subFloored (same : ∀ d s, op.ideal? d s = some (d - s : Int) := by intros; rfl)
    (saturates : op.saturates = true := by decide) : Agrees op .subFloored := by
  intro d s small _
  rw [same, Operation.apply, Option.map_some, Option.map_some, Opcode.fit, if_pos saturates,
    Nat.mod_eq_of_lt (by omega)]
  congr 1
  omega

theorem agrees_div (same : ∀ d s, op.ideal? d s = if s = 0 then none else some (d / s : Int) := by
      intros; rfl)
    (wraps : op.saturates = false := by decide) : Agrees op .div := by
  refine agrees_of_wrapping (fun d s => ?_) wraps
  rw [same, Operation.apply]
  split <;> rfl

theorem agrees_mod (same : ∀ d s, op.ideal? d s = if s = 0 then none else some (d % s : Int) := by
      intros; rfl)
    (wraps : op.saturates = false := by decide) : Agrees op .mod := by
  refine agrees_of_wrapping (fun d s => ?_) wraps
  rw [same, Operation.apply]
  split <;> rfl

theorem Width.size_pos (width : Width) : 0 < width.size := by cases width <;> decide

/-- The value that an operation gives to the destination. -/
theorem Agrees.result?_eq (agrees : Agrees op operation) (d s : UInt16) :
    operation.result? op.width d s = op.new? d s.toNat := by
  have same := congrArg (Option.map fun result : Int => result.toNat.toUInt16)
    (agrees _ _ (Nat.mod_lt d.toNat op.width.size_pos) (Nat.mod_lt s.toNat op.width.size_pos))
  simp only [Option.map_map] at same
  exact same

/-- What fits is a number of the range. -/
theorem fit_bounds (op : Opcode) (result : Int) :
    0 ≤ op.fit result ∧ op.fit result < op.width.size := by
  have positive := op.width.size_pos
  unfold Opcode.fit
  split
  · omega
  · exact ⟨Int.emod_nonneg _ (by omega), Int.emod_lt_of_pos _ (by omega)⟩

theorem Width.size_le (width : Width) : width.size ≤ 65536 := by cases width <;> decide

/-- The new value of the destination is the exact result, put into the range of the instruction. -/
theorem toNat_new? {d : UInt16} {s : Nat} :
    (op.new? d s).map (fun value => (value.toNat : Int)) =
      (op.ideal? (d.toNat % op.width.size) (s % op.width.size)).map op.fit := by
  rw [Opcode.new?, Option.map_map]
  refine congrArg (Option.map · _) (funext fun result => ?_)
  obtain ⟨nonneg, small⟩ := fit_bounds op result
  have limit := op.width.size_le
  rw [Function.comp_apply]
  simp only [UInt16.toNat_ofNat', Nat.toUInt16_eq]
  omega

/-! ### Bits -/

theorem toNat_shiftLeft_one {index : UInt16} (small : index < 16) :
    ((1 : UInt16) <<< index).toNat = 2 ^ index.toNat := by
  have below : index.toNat < 16 := UInt16.lt_iff_toNat_lt.mp small
  have power : 2 ^ index.toNat < 2 ^ 16 := Nat.pow_lt_pow_right (by decide) below
  rw [UInt16.toNat_shiftLeft, Nat.mod_eq_of_lt below, UInt16.toNat_one, Nat.shiftLeft_eq,
    Nat.one_mul, Nat.mod_eq_of_lt power]

/-- Clearing the bits of a mask takes away those that are set. -/
theorem toNat_and_not (value mask : UInt16) :
    ((value &&& ~~~mask).toNat : Int) = value.toNat - (value.toNat &&& mask.toNat : Nat) := by
  have apart : (value &&& ~~~mask).toBitVec &&& (value &&& mask).toBitVec = 0 := by
    rw [UInt16.toBitVec_and, UInt16.toBitVec_not, UInt16.toBitVec_and]
    grind
  have whole : (value &&& ~~~mask).toBitVec ||| (value &&& mask).toBitVec = value.toBitVec := by
    ext i bound
    rw [UInt16.toBitVec_and, UInt16.toBitVec_not, UInt16.toBitVec_and]
    grind
  have total := BitVec.toNat_add_of_and_eq_zero apart
  rw [BitVec.add_eq_or_of_and_eq_zero _ _ apart, whole] at total
  have total : value.toNat = (value &&& ~~~mask).toNat + (value &&& mask).toNat := total
  rw [UInt16.toNat_and value mask] at total
  omega

/-- A value of the whole cell is what is exact if the two are the same number. -/
theorem new?_eq_of_exact {d value : UInt16} {s : Nat} {result : Int} (small : s < 65536)
    (exact : op.ideal? d.toNat s = some result) (same : (value.toNat : Int) = result)
    (wide : op.width = .word := by rfl) (wraps : op.saturates = false := by decide) :
    op.new? d s = some value := by
  have below := value.toNat_lt
  have low := d.toNat_lt
  rw [Opcode.new?, wide, Width.size, Nat.mod_eq_of_lt low, Nat.mod_eq_of_lt small, exact, ← same,
    Option.map_some, Opcode.fit, wraps, if_neg Bool.false_ne_true, wide, Width.size,
    Int.emod_eq_of_lt (by omega) (by omega), Int.toNat_natCast]
  exact congrArg some UInt16.ofNat_toNat

theorem new?_biton (d index : UInt16) (small : index < 16) :
    Opcode.biton.new? d index.toNat = some (d ||| 1 <<< index) := by
  refine new?_eq_of_exact index.toNat_lt rfl ?_
  rw [UInt16.toNat_or, toNat_shiftLeft_one small]

theorem new?_bitoff (d index : UInt16) (small : index < 16) :
    Opcode.bitoff.new? d index.toNat = some (d &&& ~~~(1 <<< index)) := by
  refine new?_eq_of_exact index.toNat_lt rfl ?_
  rw [toNat_and_not, toNat_shiftLeft_one small]

theorem new?_bitxor (d index : UInt16) (small : index < 16) :
    Opcode.bitxor.new? d index.toNat = some (d ^^^ 1 <<< index) := by
  refine new?_eq_of_exact index.toNat_lt rfl ?_
  rw [UInt16.toNat_xor, toNat_shiftLeft_one small]

/-- Two bytes make up a number of sixteen bits. -/
theorem new?_twoByte (d low high : UInt16) :
    Opcode.twoByte.new? d (low.toNat % 256 + 256 * (high.toNat % 256)) =
      some (low.toUInt8.toUInt16 ||| (high.toUInt8.toUInt16 <<< 8)) := by
  refine new?_eq_of_exact (by omega) rfl ?_
  rw [or_shiftLeft_eight, UInt16.toNat_toUInt8, UInt16.toNat_toUInt8, Nat.toUInt16_eq,
    UInt16.toNat_ofNat']
  omega

end Results

/-! ## Readings -/

section Readings

open Reading

variable {scene : Scene} {cursor : Cursor} {op : Opcode}

/-- What an instruction comes to whose operands can be read. -/
def planAt (op : Opcode) (scene : Scene) (code : Array UInt8) (place : Nat) :
    Except ExecError Plan :=
  let memory := scene.session.memory
  let (bank, address) := op.destinationAt code place
  (op.sourceAt memory code place).bind fun s =>
    if op.changesBit ∧ 16 ≤ s then .error (.invalidOperand scene.opcode "bit" s.toUInt32)
    else
      (if op = .twoByte then .ok 0 else Control.operand memory bank address.toUInt16).map fun d =>
        storeResult bank address (op.new? d s)

theorem selectors_of_le (inside : cursor.pc + 1 ≤ cursor.code.size) :
    selectors scene cursor = .ok (⟨byteAt cursor.code cursor.pc⟩, cursor.forward 1) := by
  rw [Reading.selectors, bind_of_ok (byte_of_le inside)]
  rfl

/-- A byte that stands some bytes behind a cursor. -/
theorem byte_forward {count : Nat} (inside : cursor.pc + (count + 1) ≤ cursor.code.size) :
    byte scene (cursor.forward count) =
      .ok (byteAt cursor.code (cursor.pc + count), cursor.forward (count + 1)) := by
  have here : (cursor.forward count).pc + 1 ≤ (cursor.forward count).code.size := by
    rw [Cursor.pc_forward, Cursor.code_forward]; omega
  rw [byte_of_le here, Cursor.forward_forward, Cursor.pc_forward, Cursor.code_forward]

theorem selectors_forward {count : Nat} (inside : cursor.pc + (count + 1) ≤ cursor.code.size) :
    selectors scene (cursor.forward count) =
      .ok (⟨byteAt cursor.code (cursor.pc + count)⟩, cursor.forward (count + 1)) := by
  rw [Reading.selectors, bind_of_ok (byte_forward inside)]
  rfl

theorem source_forward {count : Nat} (width : Width)
    (inside : cursor.pc + (count + width.bytes) ≤ cursor.code.size) :
    source width scene (cursor.forward count) =
      .ok (width.rawAt cursor.code (cursor.pc + count), cursor.forward (count + width.bytes)) := by
  cases width with
  | byte =>
      rw [source, bind_of_ok (byte_forward inside)]
      rfl
  | word =>
      have here : (cursor.forward count).pc + 2 ≤ (cursor.forward count).code.size := by
        rw [Cursor.pc_forward, Cursor.code_forward]
        simp only [Width.bytes] at inside
        omega
      show word scene (cursor.forward count) = _
      rw [word_of_le here, Cursor.forward_forward, Cursor.pc_forward, Cursor.code_forward]
      rfl

/-- What is looked up last goes into the plan. -/
theorem bind_pure_eq_map {found : Except ExecError UInt16} {plan : UInt16 → Plan} :
    (found.bind fun value => (pure (plan value) : Reading Plan) scene cursor) =
      (found.map plan).map (·, cursor) := by
  cases found <;> rfl

/-- A reading whose bytes are all there works out what the instruction comes to. -/
def WorksOut (op : Opcode) (reading : Reading Plan) : Prop :=
  ∀ (scene : Scene) (cursor : Cursor), cursor.pc + (op.size - 1) ≤ cursor.code.size →
    reading scene cursor =
      (planAt op scene cursor.code cursor.pc).map (·, cursor.forward (op.size - 1))

theorem binary_worksOut {operation : Operation} (agrees : Agrees op operation)
    (named : ∀ code place, op.destinationAt code place =
      (Selectors.high ⟨byteAt code place⟩, byteAt code (place + 1)) := by intros; rfl)
    (given : ∀ memory code place, op.sourceAt memory code place =
      (Control.operand memory (Selectors.low ⟨byteAt code place⟩)
        (op.width.rawAt code (place + 2))).map UInt16.toNat := by intros; rfl)
    (whole : op.changesBit = false := by decide) (other : op ≠ .twoByte := by decide)
    (long : op.size - 1 = 2 + op.width.bytes := by decide +kernel) :
    WorksOut op (binary op.width operation) := by
  intro scene cursor inside
  rw [long] at inside ⊢
  have first : cursor.pc + 1 ≤ cursor.code.size := by omega
  have second : cursor.pc + (1 + 1) ≤ cursor.code.size := by omega
  simp only [binary, bind_of_ok (selectors_of_le first), bind_of_ok (byte_forward second),
    bind_of_ok (source_forward op.width inside), bind_of_operand (load_eq _ _), bind_pure_eq_map]
  rw [planAt]
  simp only [named, given, whole, other, agrees.result?_eq]
  cases Control.operand scene.session.memory (Selectors.low ⟨byteAt cursor.code cursor.pc⟩)
    (op.width.rawAt cursor.code (cursor.pc + 2)) <;> rfl

theorem unary_worksOut {operation : Operation} (agrees : Agrees op operation)
    (named : ∀ code place, op.destinationAt code place =
      (Selectors.high ⟨byteAt code place⟩, byteAt code (place + 1)) := by intros; rfl)
    (given : ∀ memory code place, op.sourceAt memory code place = .ok 1 := by intros; rfl)
    (whole : op.changesBit = false := by decide) (other : op ≠ .twoByte := by decide)
    (long : op.size - 1 = 2 := by decide +kernel) : WorksOut op (unary op.width operation) := by
  intro scene cursor inside
  rw [long] at inside ⊢
  have first : cursor.pc + 1 ≤ cursor.code.size := by omega
  simp only [unary, bind_of_ok (selectors_of_le first), bind_of_ok (byte_forward inside),
    bind_of_operand (load_eq _ _), bind_pure_eq_map]
  rw [planAt]
  simp only [named, given, whole, other, agrees.result?_eq]
  rfl

theorem bit_worksOut {change : UInt16 → UInt16 → UInt16}
    (changed : ∀ value index : UInt16, index < 16 →
      op.new? value index.toNat = some (change value (1 <<< index)))
    (named : ∀ code place, op.destinationAt code place =
      (Selectors.high ⟨byteAt code place⟩, byteAt code (place + 1)) := by intros; rfl)
    (given : ∀ memory code place, op.sourceAt memory code place =
      (Control.operand memory (Selectors.low ⟨byteAt code place⟩)
        (byteAt code (place + 2)).toUInt16).map UInt16.toNat := by intros; rfl)
    (single : op.changesBit = true := by decide) (other : op ≠ .twoByte := by decide)
    (long : op.size - 1 = 3 := by decide +kernel) : WorksOut op (bit change) := by
  intro scene cursor inside
  rw [long] at inside ⊢
  have first : cursor.pc + 1 ≤ cursor.code.size := by omega
  have second : cursor.pc + (1 + 1) ≤ cursor.code.size := by omega
  simp only [bit, bind_of_ok (selectors_of_le first), bind_of_ok (byte_forward second),
    bind_of_ok (byte_forward inside), bind_of_operand (load_eq _ _)]
  rw [planAt]
  simp only [named, given, single, other]
  cases Control.operand scene.session.memory (Selectors.low ⟨byteAt cursor.code cursor.pc⟩)
    (byteAt cursor.code (cursor.pc + 2)).toUInt16 with
  | error error => rfl
  | ok index =>
      simp only [Except.bind, Except.map, true_and, if_false]
      by_cases past : 16 ≤ index
      · have reached : 16 ≤ index.toNat := UInt16.le_iff_toNat_le.mp past
        have same : index.toNat.toUInt32 = index.toUInt32 := by simp
        rw [if_pos past, if_pos reached, same]
        rfl
      · have small : ¬16 ≤ index.toNat := fun reached => past (UInt16.le_iff_toNat_le.mpr reached)
        rw [if_neg past, if_neg small]
        simp only [bind_of_operand (load_eq _ _), changed _ index (UInt16.not_le.mp past)]
        cases Control.operand scene.session.memory (Selectors.high ⟨byteAt cursor.code cursor.pc⟩)
          (byteAt cursor.code (cursor.pc + 1)).toUInt16 <;> rfl

theorem pack_worksOut : WorksOut .twoByte pack := by
  intro scene cursor inside
  rw [show Opcode.twoByte.size - 1 = 5 by decide +kernel] at inside ⊢
  have first : cursor.pc + 1 ≤ cursor.code.size := by omega
  have second : cursor.pc + (1 + 1) ≤ cursor.code.size := by omega
  have third : cursor.pc + (2 + 1) ≤ cursor.code.size := by omega
  have fourth : cursor.pc + (3 + 1) ≤ cursor.code.size := by omega
  simp only [pack, bind_of_ok (selectors_of_le first), bind_of_ok (selectors_forward second),
    bind_of_ok (byte_forward third), bind_of_ok (byte_forward fourth),
    bind_of_ok (byte_forward inside), bind_of_operand (loadByte_eq _ _)]
  rw [planAt]
  simp only [Opcode.sourceAt, Opcode.destinationAt]
  cases Control.operand scene.session.memory (Selectors.low ⟨byteAt cursor.code cursor.pc⟩)
    (byteAt cursor.code (cursor.pc + 3)).toUInt16 with
  | error error => rfl
  | ok low =>
      cases Control.operand scene.session.memory
        (Selectors.high ⟨byteAt cursor.code (cursor.pc + 1)⟩)
        (byteAt cursor.code (cursor.pc + 4)).toUInt16 with
      | error error => rfl
      | ok high =>
          simp only [bind, Except.bind, pure, Except.pure, new?_twoByte]
          rfl

/-- Every instruction of the list works out the exact result. -/
theorem worksOut_of_computing (member : op ∈ Opcode.computing) {reading : Reading Plan}
    (known : op.plan? = some reading) : WorksOut op reading := by
  cases op with
  | setbyte | setword | plus | plus2 | mul | mul2 | and | and2 | or | or2 | xor | xor2 | lbyte
  | hbyte =>
      cases known
      exact binary_worksOut (agrees_of_wrapping fun _ _ => rfl)
  | minus | minus2 =>
      cases known
      exact binary_worksOut agrees_sub
  | div | div2 =>
      cases known
      exact binary_worksOut agrees_div
  | mod | mod2 =>
      cases known
      exact binary_worksOut agrees_mod
  | plusSat | plus2Sat =>
      cases known
      exact binary_worksOut agrees_addCapped
  | minusSat | minus2Sat =>
      cases known
      exact binary_worksOut agrees_subFloored
  | inc | inc2 =>
      cases known
      exact unary_worksOut (agrees_of_wrapping fun _ _ => rfl)
  | dec | dec2 =>
      cases known
      exact unary_worksOut agrees_sub
  | incSat | inc2Sat =>
      cases known
      exact unary_worksOut agrees_addCapped
  | decSat | dec2Sat =>
      cases known
      exact unary_worksOut agrees_subFloored
  | biton =>
      cases known
      exact bit_worksOut new?_biton
  | bitoff =>
      cases known
      exact bit_worksOut new?_bitoff
  | bitxor =>
      cases known
      exact bit_worksOut new?_bitxor
  | twoByte =>
      cases known
      exact pack_worksOut
  | _ => exact absurd member (by decide)

section Plans

variable {code : Array UInt8} {place s : Nat} {missing : AddressError}

theorem planAt_of_error {error : ExecError}
    (source : op.sourceAt scene.session.memory code place = .error error) :
    planAt op scene code place = .error error := by
  unfold planAt
  dsimp only
  rw [source]
  rfl

theorem planAt_of_past (source : op.sourceAt scene.session.memory code place = .ok s)
    (past : op.changesBit ∧ 16 ≤ s) :
    planAt op scene code place = .error (.invalidOperand scene.opcode "bit" s.toUInt32) := by
  unfold planAt
  dsimp only
  rw [source, Except.bind, if_pos past]

/-- An instruction whose destination exists comes to the exact result; two bytes are put together
without a look at the destination. -/
theorem planAt_of_located (source : op.sourceAt scene.session.memory code place = .ok s)
    (small : ¬(op.changesBit ∧ 16 ≤ s)) (bank : (op.destinationAt code place).1 ≠ 0)
    (stands : scene.session.memory.locate (op.destinationAt code place).1
      (op.destinationAt code place).2.toUInt16 = .ok ()) :
    planAt op scene code place =
      .ok (storeResult (op.destinationAt code place).1 (op.destinationAt code place).2
        (op.new? (scene.session.memory.cellAt (op.destinationAt code place).1
          (op.destinationAt code place).2.toUInt16) s)) := by
  unfold planAt
  dsimp only
  rw [source, Except.bind, if_neg small]
  split
  · next pack =>
      subst pack
      rfl
  · rw [Control.operand, if_neg bank, Memory.read, stands]
    rfl

/-- An instruction whose destination is missing fails, or comes to a write that does. -/
theorem planAt_of_missing (source : op.sourceAt scene.session.memory code place = .ok s)
    (small : ¬(op.changesBit ∧ 16 ≤ s)) (bank : (op.destinationAt code place).1 ≠ 0)
    (absent : scene.session.memory.locate (op.destinationAt code place).1
      (op.destinationAt code place).2.toUInt16 = .error missing) :
    planAt op scene code place = .error (.address missing) ∨
      ∃ value, planAt op scene code place =
        .ok (storeResult (op.destinationAt code place).1 (op.destinationAt code place).2
          (some value)) := by
  unfold planAt
  dsimp only
  rw [source, Except.bind, if_neg small]
  split
  · next pack =>
      subst pack
      exact .inr ⟨_, rfl⟩
  · left
    rw [Control.operand, if_neg bank, Memory.read, absent]
    rfl

end Plans

end Readings

end Arithmetic

end FieldMachine
