import FieldMachine.Proofs.Banks
import FieldMachine.Proofs.Computation
import FieldMachine.Proofs.Failure

/-!
# Arithmetic on cells

A lane that stands on an instruction that computes goes on if the instruction can
be carried out, and then the destination has got the exact result, put into the
range of the instruction, while every other name of a cell reads what it read
before (`Machine.step_computes`).  The cells may be the same: a source is read
before anything is written.

The high and the low byte of a number that were taken into two further cells make
up the number again.  `Machine.arithmetic_exact` states both.
-/

namespace FieldMachine

set_option autoImplicit false

open Section (byteAt)

namespace Arithmetic

/-! ## What becomes of the cells -/

/-- What an instruction with the source `s` does to the cells.  The destination gets the exact
result, put into the range of the instruction, or stays as it is, with all of its bits, where there
is no result; every other name of a cell reads the same. -/
structure Computed (op : Opcode) (before after : Memory) (cell : UInt8 × UInt8) (s : Nat) :
    Prop where
  others : ∀ bank address, ¬(cell.1 = bank ∧ cell.2.toUInt16 = address) →
    after.read bank address = before.read bank address
  exact : ∃ d value, before.read cell.1 cell.2.toUInt16 = .ok d ∧
    after.read cell.1 cell.2.toUInt16 = .ok value ∧
    match op.ideal? (d.toNat % op.width.size) (s % op.width.size) with
    | none => value = d
    | some result => (value.toNat : Int) = op.fit result

/-- The memory after an instruction whose destination exists. -/
def settled (op : Opcode) (memory : Memory) (cell : UInt8 × UInt8) (s : Nat) : Memory :=
  match op.new? (memory.cellAt cell.1 cell.2.toUInt16) s with
  | none => memory
  | some value => memory.put cell.1 cell.2.toUInt16 value

theorem computed_settled {op : Opcode} {memory : Memory} {cell : UInt8 × UInt8} (s : Nat)
    (stands : memory.locate cell.1 cell.2.toUInt16 = .ok ()) :
    Computed op memory (settled op memory cell s) cell s := by
  let d := memory.cellAt cell.1 cell.2.toUInt16
  have old : memory.read cell.1 cell.2.toUInt16 = .ok d := by
    rw [Memory.read, stands]
    rfl
  have same := @toNat_new? op d s
  unfold settled
  cases made : op.new? d s with
  | none =>
      rw [made] at same
      refine ⟨fun _ _ _ => rfl, d, d, old, old, ?_⟩
      rw [Option.map_eq_none_iff.mp same.symm]
  | some value =>
      rw [made] at same
      obtain ⟨result, exact, fits⟩ := Option.map_eq_some_iff.mp same.symm
      refine ⟨fun bank address other => ?_, d, value, old, ?_, ?_⟩
      · rw [Memory.read_put value stands, if_neg other]
      · rw [Memory.read_put value stands, if_pos ⟨rfl, rfl⟩]
      · rw [exact]
        exact fits.symm

namespace Computed

variable {op : Opcode} {before after : Memory} {cell : UInt8 × UInt8} {s : Nat}

/-- The value of the destination where there is a result. -/
theorem value (computed : Computed op before after cell s) {result : Nat → Int}
    (known : ∀ d, op.ideal? d (s % op.width.size) = some (result d)) :
    ∃ d value : UInt16, after.read cell.1 cell.2.toUInt16 = .ok value ∧
      (value.toNat : Int) = op.fit (result (d.toNat % op.width.size)) := by
  obtain ⟨d, value, -, now, exact⟩ := computed.exact
  rw [known] at exact
  exact ⟨d, value, now, exact⟩

/-- A cell of another name reads the same. -/
theorem read_other (computed : Computed op before after cell s) {other : UInt8 × UInt8}
    (apart : cell ≠ other) :
    after.read other.1 other.2.toUInt16 = before.read other.1 other.2.toUInt16 := by
  refine computed.others _ _ fun same => apart (Prod.ext same.1 ?_)
  have number := congrArg UInt16.toNat same.2
  rw [UInt8.toNat_toUInt16, UInt8.toNat_toUInt16] at number
  exact UInt8.toNat_inj.mp number

/-- The high byte of a number. -/
theorem high (computed : Computed .hbyte before after cell s) (small : s < 65536) :
    ∃ value : UInt16, after.read cell.1 cell.2.toUInt16 = .ok value ∧ value.toNat = s / 256 := by
  obtain ⟨d, value, now, exact⟩ := computed.value fun d => rfl
  refine ⟨value, now, ?_⟩
  have wraps : Opcode.hbyte.saturates = false := by decide
  simp only [Opcode.fit, wraps, if_neg Bool.false_ne_true, Opcode.width, Width.size] at exact
  omega

/-- The low byte of a number. -/
theorem low (computed : Computed .lbyte before after cell s) :
    ∃ value : UInt16, after.read cell.1 cell.2.toUInt16 = .ok value ∧ value.toNat = s % 256 := by
  obtain ⟨d, value, now, exact⟩ := computed.value fun d => rfl
  refine ⟨value, now, ?_⟩
  have wraps : Opcode.lbyte.saturates = false := by decide
  simp only [Opcode.fit, wraps, if_neg Bool.false_ne_true, Opcode.width, Width.size] at exact
  omega

/-- A number of two bytes. -/
theorem packed (computed : Computed .twoByte before after cell s) (small : s < 65536) :
    ∃ value : UInt16, after.read cell.1 cell.2.toUInt16 = .ok value ∧ value.toNat = s := by
  obtain ⟨d, value, now, exact⟩ := computed.value fun d => rfl
  refine ⟨value, now, ?_⟩
  have wraps : Opcode.twoByte.saturates = false := by decide
  simp only [Opcode.fit, wraps, if_neg Bool.false_ne_true, Opcode.width, Width.size] at exact
  omega

end Computed

/-- What it takes to carry an instruction at a place out: it lies inside the code, its source can be
read and names a bit if it has to, and its destination exists. -/
structure Ready (op : Opcode) (memory : Memory) (code : Array UInt8) (place s : Nat) : Prop where
  inside : place + op.size ≤ code.size
  source : op.sourceAt memory code (place + 1) = .ok s
  small : op.changesBit → s < 16
  stands : memory.locate (op.destinationAt code (place + 1)).1
    (op.destinationAt code (place + 1)).2.toUInt16 = .ok ()

end Arithmetic

/-- A lane is about to begin an instruction. -/
structure Lane.Begins (lane : Lane) (code : Array UInt8) (place : Nat) (op : Opcode) : Prop where
  active : lane.isActive
  stands : lane.ip? = some place
  fresh : lane.suspended? = none
  named : code[place]? = some op.byte

namespace Machine

open Arithmetic

variable {σ : Type} {setting : Setting σ} {machine : Machine σ} {id : EntityId}
  {priority place : Nat} {lane : Lane} {op : Opcode}

/-- Puts a result into the cell of a destination that exists. -/
def putResult (setting : Setting σ) (cell : UInt8 × UInt8) (result : Option UInt16)
    (machine : Machine σ) : Machine σ :=
  result.elim machine (machine.putCell setting cell.1 cell.2 ·)

/-- A result changes the memory and what is told about it, and nothing else. -/
theorem putResult_eq (setting : Setting σ) (machine : Machine σ) (cell : UInt8 × UInt8) (s : Nat) :
    ∃ host journal,
      machine.putResult setting cell
          (op.new? (machine.session.memory.cellAt cell.1 cell.2.toUInt16) s) =
        { machine with
          session := { machine.session with memory := settled op machine.session.memory cell s }
          host, journal } := by
  unfold settled
  cases op.new? (machine.session.memory.cellAt cell.1 cell.2.toUInt16) s with
  | none => exact ⟨machine.host, machine.journal, rfl⟩
  | some value => exact putAll_eq setting machine [⟨cell.1, cell.2, value⟩]

theorem carryOut_storeResult {cell : UInt8 × UInt8} (next : Nat) (result : Option UInt16)
    (bank : cell.1 ≠ 0)
    (stands : machine.session.memory.locate cell.1 cell.2.toUInt16 = .ok ()) :
    machine.carryOut setting id priority place next lane (storeResult cell.1 cell.2 result) =
      ((machine.putResult setting cell result).updateLane id priority (·.advance next),
        .goOn) := by
  cases result with
  | none => rfl
  | some value =>
      simp only [storeResult, Plan.next, carryOut, Option.toList_some, List.map_cons, List.map_nil,
        Effect.performAll, Effect.perform, store, if_neg bank, writeCell, stands]
      rfl

theorem carryOut_storeResult_of_missing {cell : UInt8 × UInt8} {missing : AddressError}
    (next : Nat) (value : UInt16) (bank : cell.1 ≠ 0)
    (absent : machine.session.memory.locate cell.1 cell.2.toUInt16 = .error missing) :
    machine.carryOut setting id priority place next lane
        (storeResult cell.1 cell.2 (some value)) =
      (machine.giveUp setting id priority place (.address missing), .released) := by
  simp only [storeResult, Plan.next, carryOut, Option.toList_some, List.map_cons, List.map_nil,
    Effect.performAll, Effect.perform, store, if_neg bank, writeCell, absent]
  rfl

section Whole

variable {reading : Reading Plan} (here : machine.world.lane? id priority = some lane)
  (begins : lane.Begins setting.source.code place op) (known : op.plan? = some reading)
include here begins known

/-- The step on an instruction whose reading takes all of its operands. -/
theorem step_of_worked {given : Except ExecError Plan} :
    reading (machine.sceneOf setting id priority place lane)
      ((Cursor.atStart setting.source.code place).forward 1) =
        given.map (·, ((Cursor.atStart setting.source.code place).forward 1).forward
          (op.size - 1)) →
    machine.step setting id priority =
      match given with
      | .error error =>
          ((machine.note (.executing id priority place op.byte)).giveUp setting id priority place
            error, .released)
      | .ok plan =>
          (machine.note (.executing id priority place op.byte)).carryOut setting id priority place
            (place + op.size) lane plan := by
  intro works
  have next : (((Cursor.atStart setting.source.code place).forward 1).forward (op.size - 1)).pc =
      place + op.size := by
    have long : 0 < op.size := Opcode.fixedLength_pos op.byte
    show place + 1 + (op.size - 1) = place + op.size
    omega
  rw [step_of_plan? here begins.active begins.stands begins.fresh begins.named known, works, ← next]
  cases given <;> rfl

/-- An instruction that does not end inside the code is given up. -/
theorem step_of_overrun (cut : ¬place + op.size ≤ setting.source.code.size) :
    ∃ error, machine.step setting id priority =
      ((machine.note (.executing id priority place op.byte)).giveUp setting id priority place error,
        .released) := by
  rw [step_of_plan? here begins.active begins.stands begins.fresh begins.named known]
  cases worked : reading (machine.sceneOf setting id priority place lane)
    ((Cursor.atStart setting.source.code place).forward 1) with
  | error error => exact ⟨error, rfl⟩
  | ok came =>
      obtain ⟨operands, size, follows⟩ := op.agrees _ known
      obtain ⟨within, -⟩ := Array.getElem?_eq_some_iff.mp begins.named
      have within : ((Cursor.atStart setting.source.code place).forward 1).pc ≤
          setting.source.code.size := within
      obtain ⟨reached, -⟩ := follows.result within worked
      have reached : place + 1 + operands ≤ setting.source.code.size := reached
      omega

end Whole

section Steps

variable (here : machine.world.lane? id priority = some lane)
  (begins : lane.Begins setting.source.code place op) (member : op ∈ Opcode.computing)
include here begins member

/-- The step is that of the plan. -/
theorem step_of_computing (inside : place + op.size ≤ setting.source.code.size) :
    machine.step setting id priority =
      match planAt op (machine.sceneOf setting id priority place lane) setting.source.code
        (place + 1) with
      | .error error =>
          ((machine.note (.executing id priority place op.byte)).giveUp setting id priority place
            error, .released)
      | .ok plan =>
          (machine.note (.executing id priority place op.byte)).carryOut setting id priority place
            (place + op.size) lane plan := by
  have carried : ∀ op ∈ Opcode.computing, op.plan?.isSome ∧ 1 ≤ op.size := by decide +kernel
  obtain ⟨named, long⟩ := carried op member
  obtain ⟨reading, known⟩ := Option.isSome_iff_exists.mp named
  have works : reading (machine.sceneOf setting id priority place lane)
      ((Cursor.atStart setting.source.code place).forward 1) =
      (planAt op (machine.sceneOf setting id priority place lane) setting.source.code
        (place + 1)).map
        (·, ((Cursor.atStart setting.source.code place).forward 1).forward (op.size - 1)) :=
    worksOut_of_computing member known _ _
      (show place + 1 + (op.size - 1) ≤ setting.source.code.size by omega)
  exact step_of_worked here begins known works

/-- An instruction that does not end inside the code is given up. -/
theorem step_of_cut (cut : ¬place + op.size ≤ setting.source.code.size) :
    ∃ error, machine.step setting id priority =
      ((machine.note (.executing id priority place op.byte)).giveUp setting id priority place error,
        .released) := by
  have carried : ∀ op ∈ Opcode.computing, op.plan?.isSome := by decide
  obtain ⟨reading, known⟩ := Option.isSome_iff_exists.mp (carried op member)
  exact step_of_overrun here begins known cut

/-- The lane goes on with the result in its destination, or is given up. -/
theorem step_cases (bank : (op.destinationAt setting.source.code (place + 1)).1 ≠ 0) :
    (∃ s, Ready op machine.session.memory setting.source.code place s ∧
      machine.step setting id priority =
        (((machine.note (.executing id priority place op.byte)).putResult setting
          (op.destinationAt setting.source.code (place + 1))
          (op.new? (machine.session.memory.cellAt
            (op.destinationAt setting.source.code (place + 1)).1
            (op.destinationAt setting.source.code (place + 1)).2.toUInt16) s)).updateLane id
          priority (·.advance (place + op.size)), .goOn)) ∨
    (¬∃ s, Ready op machine.session.memory setting.source.code place s) ∧
      ∃ error, machine.step setting id priority =
        ((machine.note (.executing id priority place op.byte)).giveUp setting id priority place
          error, .released) := by
  by_cases inside : place + op.size ≤ setting.source.code.size
  · have stepped := step_of_computing here begins member inside
    cases source : op.sourceAt machine.session.memory setting.source.code (place + 1) with
    | error error =>
        have fails : planAt op (machine.sceneOf setting id priority place lane)
            setting.source.code (place + 1) = _ := planAt_of_error source
        rw [fails] at stepped
        exact .inr ⟨fun ⟨s, ready⟩ => (nomatch source.symm.trans ready.source), error, stepped⟩
    | ok s =>
        by_cases past : op.changesBit ∧ 16 ≤ s
        · have fails : planAt op (machine.sceneOf setting id priority place lane)
              setting.source.code (place + 1) = _ := planAt_of_past source past
          rw [fails] at stepped
          refine .inr ⟨fun ⟨other, ready⟩ => ?_, _, stepped⟩
          cases source.symm.trans ready.source
          exact Nat.not_lt.mpr past.2 (ready.small past.1)
        cases found : machine.session.memory.locate
          (op.destinationAt setting.source.code (place + 1)).1
          (op.destinationAt setting.source.code (place + 1)).2.toUInt16 with
        | ok =>
            have comes : planAt op (machine.sceneOf setting id priority place lane)
                setting.source.code (place + 1) = _ := planAt_of_located source past bank found
            rw [comes] at stepped
            have small : op.changesBit → s < 16 := fun single =>
              Nat.lt_of_not_le fun reached => past ⟨single, reached⟩
            exact .inl ⟨s, ⟨inside, source, small, found⟩,
              stepped.trans (carryOut_storeResult _ _ bank found)⟩
        | error missing =>
            refine .inr ⟨fun ⟨other, ready⟩ => (nomatch found.symm.trans ready.stands), ?_⟩
            have fails : planAt op (machine.sceneOf setting id priority place lane)
                setting.source.code (place + 1) = _ ∨ _ := planAt_of_missing source past bank found
            rcases fails with fails | ⟨value, comes⟩
            · rw [fails] at stepped
              exact ⟨_, stepped⟩
            · rw [comes] at stepped
              exact ⟨_, stepped.trans (carryOut_storeResult_of_missing _ value bank found)⟩
  · exact .inr ⟨fun ⟨s, ready⟩ => inside ready.inside, step_of_cut here begins member inside⟩

/-- What an instruction that computes comes to.  The lane goes on exactly if the instruction can be
carried out, and is given up otherwise.  Where it goes on, the destination has got the exact
result. -/
theorem step_computes (bank : (op.destinationAt setting.source.code (place + 1)).1 ≠ 0) :
    let stepped := machine.step setting id priority
    (stepped.2 = .goOn ↔ ∃ s, Ready op machine.session.memory setting.source.code place s) ∧
    (stepped.2 ≠ .goOn → ∃ error, stepped =
      ((machine.note (.executing id priority place op.byte)).giveUp setting id priority place error,
        .released)) ∧
    (stepped.2 = .goOn → ∃ s after,
      op.sourceAt machine.session.memory setting.source.code (place + 1) = .ok s ∧
      Computed op machine.session.memory after
        (op.destinationAt setting.source.code (place + 1)) s ∧
      stepped.1.session = { machine.session with memory := after } ∧
      stepped.1.world = (machine.updateLane id priority (·.advance (place + op.size))).world) := by
  intro stepped
  rcases step_cases here begins member bank with ⟨s, ready, same⟩ | ⟨unready, error, same⟩
  · have same : stepped = _ := same
    obtain ⟨host, journal, put⟩ := putResult_eq setting
      (machine.note (.executing id priority place op.byte))
      (op.destinationAt setting.source.code (place + 1)) s
    rw [show (machine.note (.executing id priority place op.byte)).session = machine.session
      from rfl] at put
    rw [put] at same
    rw [same]
    exact ⟨⟨fun _ => ⟨s, ready⟩, fun _ => rfl⟩, fun stays => absurd rfl stays, fun _ =>
      ⟨s, _, ready.source, computed_settled s ready.stands, rfl, rfl⟩⟩
  · have same : stepped = _ := same
    rw [same]
    exact ⟨⟨nofun, fun ready => absurd ready unready⟩, fun _ => ⟨error, rfl⟩, nofun⟩

/-- A lane that has gone on stands behind the instruction, with the exact result in its cell. -/
theorem computed_of_goOn (bank : (op.destinationAt setting.source.code (place + 1)).1 ≠ 0)
    {after : Machine σ} (went : machine.step setting id priority = (after, .goOn)) :
    ∃ s, op.sourceAt machine.session.memory setting.source.code (place + 1) = .ok s ∧
      Computed op machine.session.memory after.session.memory
        (op.destinationAt setting.source.code (place + 1)) s ∧
      after.world.lane? id priority = some (lane.advance (place + op.size)) := by
  obtain ⟨-, -, goes⟩ := step_computes here begins member bank
  rw [went] at goes
  obtain ⟨s, memory, source, computed, session, world⟩ := goes rfl
  refine ⟨s, source, ?_, ?_⟩
  · rw [session]
    exact computed
  · rw [world]
    exact lane?_updateLane_self here _

end Steps

end Machine

/-! ## Two halves of a number -/

namespace Arithmetic

/-- The cell that operands at a place name as the source. -/
def sourceCellAt (width : Width) (code : Array UInt8) (place : Nat) : UInt8 × UInt16 :=
  (Selectors.low ⟨byteAt code place⟩, width.rawAt code (place + 2))

/-- The cells whose bytes operands at a place put together, the low one first. -/
def halvesAt (code : Array UInt8) (place : Nat) : (UInt8 × UInt8) × (UInt8 × UInt8) :=
  ((Selectors.low ⟨byteAt code place⟩, byteAt code (place + 3)),
    (Selectors.high ⟨byteAt code (place + 1)⟩, byteAt code (place + 4)))

/-- The bytes of the cell `whole` are taken apart at two places of the code into two further cells,
and those are put together at a third one. -/
structure Rejoins (code : Array UInt8) (atHigh atLow atPack : Nat) (whole high low : UInt8 × UInt8) :
    Prop where
  highOpcode : code[atHigh]? = some Opcode.hbyte.byte
  lowOpcode : code[atLow]? = some Opcode.lbyte.byte
  packOpcode : code[atPack]? = some Opcode.twoByte.byte
  highSource : sourceCellAt .word code (atHigh + 1) = (whole.1, whole.2.toUInt16)
  lowSource : sourceCellAt .byte code (atLow + 1) = (whole.1, whole.2.toUInt16)
  highCell : Opcode.hbyte.destinationAt code (atHigh + 1) = high
  lowCell : Opcode.lbyte.destinationAt code (atLow + 1) = low
  halves : halvesAt code (atPack + 1) = (low, high)
  named : whole.1 ≠ 0 ∧ high.1 ≠ 0 ∧ low.1 ≠ 0 ∧
    (Opcode.twoByte.destinationAt code (atPack + 1)).1 ≠ 0
  further : high ≠ whole ∧ low ≠ whole ∧ high ≠ low

variable {memory : Memory} {code : Array UInt8} {place s : Nat}

/-- A source that is a cell. -/
theorem read_of_sourceAt {op : Opcode} {cell : UInt8 × UInt8}
    (named : sourceCellAt op.width code place = (cell.1, cell.2.toUInt16)) (bank : cell.1 ≠ 0)
    (source : op.sourceAt memory code place = .ok s)
    (given : op.sourceAt memory code place =
      (Control.operand memory (sourceCellAt op.width code place).1
        (sourceCellAt op.width code place).2).map UInt16.toNat := by rfl) :
    ∃ value : UInt16, memory.read cell.1 cell.2.toUInt16 = .ok value ∧ value.toNat = s := by
  rw [given, named, Control.operand, if_neg bank] at source
  cases read : memory.read cell.1 cell.2.toUInt16 with
  | error error =>
      rw [read] at source
      cases source
  | ok value =>
      rw [read] at source
      exact ⟨value, rfl, Except.ok.inj source⟩

/-- Two halves that are read make up the number. -/
theorem sourceAt_twoByte {low high : UInt8 × UInt8} {lowValue highValue : UInt16}
    (named : halvesAt code place = (low, high)) (banks : low.1 ≠ 0 ∧ high.1 ≠ 0)
    (lowRead : memory.read low.1 low.2.toUInt16 = .ok lowValue)
    (highRead : memory.read high.1 high.2.toUInt16 = .ok highValue) :
    Opcode.twoByte.sourceAt memory code place =
      .ok (lowValue.toNat % 256 + 256 * (highValue.toNat % 256)) := by
  obtain ⟨rfl, rfl⟩ := Prod.mk.injEq .. ▸ named
  have first : Control.operand memory (Selectors.low ⟨byteAt code place⟩)
      (byteAt code (place + 3)).toUInt16 = .ok lowValue := by
    rw [Control.operand, if_neg banks.1, lowRead]
    rfl
  have second : Control.operand memory (Selectors.high ⟨byteAt code (place + 1)⟩)
      (byteAt code (place + 4)).toUInt16 = .ok highValue := by
    rw [Control.operand, if_neg banks.2, highRead]
    rfl
  simp only [Opcode.sourceAt, first, second]
  rfl

/-- An instruction that writes a part of its source, as a number. -/
structure Extracts (op : Opcode) (part : Nat → Nat) : Prop where
  member : op ∈ Opcode.computing
  given : ∀ memory code place, op.sourceAt memory code place =
    (Control.operand memory (sourceCellAt op.width code place).1
      (sourceCellAt op.width code place).2).map UInt16.toNat
  written : ∀ {before after : Memory} {cell : UInt8 × UInt8} {s : Nat}, s < 65536 →
    Computed op before after cell s →
    ∃ value : UInt16, after.read cell.1 cell.2.toUInt16 = .ok value ∧ value.toNat = part s

theorem hbyte_extracts : Extracts .hbyte (· / 256) where
  member := by decide
  given _ _ _ := rfl
  written small computed := computed.high small

theorem lbyte_extracts : Extracts .lbyte (· % 256) where
  member := by decide
  given _ _ _ := rfl
  written _ computed := computed.low

end Arithmetic

theorem Lane.begins_advance (lane : Lane) {code : Array UInt8} {next : Nat} {op : Opcode}
    (named : code[next]? = some op.byte) : (lane.advance next).Begins code next op :=
  ⟨rfl, rfl, rfl, named⟩

namespace Machine

open Arithmetic

variable {σ : Type} {setting : Setting σ} {machine first second third : Machine σ} {id : EntityId}
  {priority place next : Nat} {lane : Lane} {one other : Opcode} {part rest : Nat → Nat}
  {whole half more : UInt8 × UInt8}

/-- A step writes a part of a cell into another one. -/
theorem part_of_step (extracts : Extracts one part)
    (here : machine.world.lane? id priority = some lane)
    (begins : lane.Begins setting.source.code place one)
    (source : sourceCellAt one.width setting.source.code (place + 1) =
      (whole.1, whole.2.toUInt16))
    (cell : one.destinationAt setting.source.code (place + 1) = half)
    (banks : whole.1 ≠ 0 ∧ half.1 ≠ 0)
    (went : machine.step setting id priority = (first, .goOn)) :
    first.world.lane? id priority = some (lane.advance (place + one.size)) ∧
      (∀ other : UInt8 × UInt8, half ≠ other →
        first.session.memory.read other.1 other.2.toUInt16 =
          machine.session.memory.read other.1 other.2.toUInt16) ∧
      ∃ value piece : UInt16, machine.session.memory.read whole.1 whole.2.toUInt16 = .ok value ∧
        first.session.memory.read half.1 half.2.toUInt16 = .ok piece ∧
        piece.toNat = part value.toNat := by
  obtain ⟨s, given, computed, later⟩ :=
    computed_of_goOn here begins extracts.member (by rw [cell]; exact banks.2) went
  rw [cell] at computed
  obtain ⟨value, read, rfl⟩ := read_of_sourceAt source banks.1 given (extracts.given _ _ _)
  obtain ⟨piece, written, same⟩ := extracts.written value.toNat_lt computed
  exact ⟨later, fun other apart => computed.read_other apart, value, piece, read, written, same⟩

/-- Two steps that write parts of one cell into two further ones leave both parts behind. -/
theorem parts_of_steps (extracts : Extracts one part) (extractsToo : Extracts other rest)
    (here : machine.world.lane? id priority = some lane)
    (begins : lane.Begins setting.source.code place one)
    (named : setting.source.code[place + one.size]? = some other.byte)
    (source : sourceCellAt one.width setting.source.code (place + 1) =
      (whole.1, whole.2.toUInt16))
    (sourceToo : sourceCellAt other.width setting.source.code (place + one.size + 1) =
      (whole.1, whole.2.toUInt16))
    (cell : one.destinationAt setting.source.code (place + 1) = half)
    (cellToo : other.destinationAt setting.source.code (place + one.size + 1) = more)
    (banks : whole.1 ≠ 0 ∧ half.1 ≠ 0 ∧ more.1 ≠ 0) (further : half ≠ whole ∧ more ≠ half)
    (went : machine.step setting id priority = (first, .goOn))
    (wentOn : first.step setting id priority = (second, .goOn)) :
    second.world.lane? id priority =
        some ((lane.advance (place + one.size)).advance (place + one.size + other.size)) ∧
      ∃ value piece remains : UInt16,
        machine.session.memory.read whole.1 whole.2.toUInt16 = .ok value ∧
        second.session.memory.read half.1 half.2.toUInt16 = .ok piece ∧
        second.session.memory.read more.1 more.2.toUInt16 = .ok remains ∧
        piece.toNat = part value.toNat ∧ remains.toNat = rest value.toNat := by
  obtain ⟨there, kept, value, piece, read, written, same⟩ :=
    part_of_step extracts here begins source cell ⟨banks.1, banks.2.1⟩ went
  obtain ⟨later, keptToo, again, remains, readAgain, writtenToo, sameToo⟩ :=
    part_of_step extractsToo there (lane.begins_advance named) sourceToo cellToo
      ⟨banks.1, banks.2.2⟩ wentOn
  -- The first part is in another cell, so the second step finds the source as it was.
  rw [kept whole further.1, read] at readAgain
  cases readAgain
  exact ⟨later, value, piece, remains, read, (keptToo half further.2).trans written, writtenToo,
    same, sameToo⟩

/-- Two halves are put together to the number. -/
theorem read_of_pack {low high : UInt8 × UInt8} {value lowValue highValue : UInt16}
    (here : machine.world.lane? id priority = some lane)
    (begins : lane.Begins setting.source.code place .twoByte)
    (halves : halvesAt setting.source.code (place + 1) = (low, high))
    (banks : low.1 ≠ 0 ∧ high.1 ≠ 0)
    (bank : (Opcode.twoByte.destinationAt setting.source.code (place + 1)).1 ≠ 0)
    (lowRead : machine.session.memory.read low.1 low.2.toUInt16 = .ok lowValue)
    (highRead : machine.session.memory.read high.1 high.2.toUInt16 = .ok highValue)
    (lowHalf : lowValue.toNat = value.toNat % 256) (highHalf : highValue.toNat = value.toNat / 256)
    (went : machine.step setting id priority = (first, .goOn)) :
    first.session.memory.read (Opcode.twoByte.destinationAt setting.source.code (place + 1)).1
      (Opcode.twoByte.destinationAt setting.source.code (place + 1)).2.toUInt16 = .ok value := by
  obtain ⟨s, source, computed, -⟩ := computed_of_goOn here begins (by decide) bank went
  have small := value.toNat_lt
  rw [sourceAt_twoByte halves banks lowRead highRead] at source
  have number : s = value.toNat := by
    have known := Except.ok.inj source
    omega
  subst number
  obtain ⟨packed, now, same⟩ := computed.packed small
  rw [now, UInt16.toNat_inj.mp same]

variable (setting id priority) in
/-- Arithmetic on cells is exact.

An instruction that computes, with a destination that is a cell, lets its lane go on if it can be
carried out, and otherwise the lane is given up.  Where the lane goes on, the destination alone may
have changed, and has got the exact result put into the range of the instruction, or has stayed as
it is where there is none.  Nothing is asked of the cells that are named, so that the source may be
the destination.

A lane that takes the high and the low byte of a cell into two further cells, in either order, and
then puts those together, has the value of the first cell again. -/
theorem arithmetic_exact :
    (∀ {machine : Machine σ} {place : Nat} {lane : Lane} {op : Opcode},
      machine.world.lane? id priority = some lane → lane.Begins setting.source.code place op →
      op ∈ Opcode.computing → (op.destinationAt setting.source.code (place + 1)).1 ≠ 0 →
      let stepped := machine.step setting id priority
      (stepped.2 = .goOn ↔ ∃ s, Ready op machine.session.memory setting.source.code place s) ∧
      (stepped.2 ≠ .goOn → ∃ error, stepped =
        ((machine.note (.executing id priority place op.byte)).giveUp setting id priority place
          error, .released)) ∧
      (stepped.2 = .goOn → ∃ s after,
        op.sourceAt machine.session.memory setting.source.code (place + 1) = .ok s ∧
        Computed op machine.session.memory after
          (op.destinationAt setting.source.code (place + 1)) s ∧
        stepped.1.session = { machine.session with memory := after } ∧
        stepped.1.world =
          (machine.updateLane id priority (·.advance (place + op.size))).world)) ∧
    (∀ {machine first second third : Machine σ} {place atHigh atLow : Nat} {lane : Lane}
      {whole high low : UInt8 × UInt8},
      machine.world.lane? id priority = some lane → lane.isActive → lane.ip? = some place →
      lane.suspended? = none →
      (atHigh = place ∧ atLow = place + Opcode.hbyte.size ∨
        atLow = place ∧ atHigh = place + Opcode.lbyte.size) →
      Rejoins setting.source.code atHigh atLow (place + Opcode.hbyte.size + Opcode.lbyte.size)
        whole high low →
      machine.step setting id priority = (first, .goOn) →
      first.step setting id priority = (second, .goOn) →
      second.step setting id priority = (third, .goOn) →
      let target := Opcode.twoByte.destinationAt setting.source.code
        (place + Opcode.hbyte.size + Opcode.lbyte.size + 1)
      ∃ value, machine.session.memory.read whole.1 whole.2.toUInt16 = .ok value ∧
        third.session.memory.read target.1 target.2.toUInt16 = .ok value) := by
  refine ⟨fun here begins member bank => step_computes here begins member bank, ?_⟩
  intro machine first second third place atHigh atLow lane whole high low here active stands fresh
    order rejoins went wentOn ended target
  obtain ⟨named, highNamed, lowNamed, bank⟩ := rejoins.named
  obtain ⟨highApart, lowApart, apart⟩ := rejoins.further
  rcases order with ⟨highPlace, lowPlace⟩ | ⟨lowPlace, highPlace⟩
  · rw [highPlace, lowPlace] at rejoins
    obtain ⟨there, value, highValue, lowValue, read, highRead, lowRead, highHalf, lowHalf⟩ :=
      parts_of_steps hbyte_extracts lbyte_extracts here ⟨active, stands, fresh, rejoins.highOpcode⟩
        rejoins.lowOpcode rejoins.highSource rejoins.lowSource rejoins.highCell rejoins.lowCell
        ⟨named, highNamed, lowNamed⟩ ⟨highApart, apart.symm⟩ went wentOn
    exact ⟨value, read, read_of_pack there (Lane.begins_advance _ rejoins.packOpcode)
      rejoins.halves ⟨lowNamed, highNamed⟩ bank lowRead highRead lowHalf highHalf ended⟩
  · rw [highPlace, lowPlace] at rejoins
    have places : place + Opcode.lbyte.size + Opcode.hbyte.size =
        place + Opcode.hbyte.size + Opcode.lbyte.size := Nat.add_right_comm ..
    obtain ⟨there, value, lowValue, highValue, read, lowRead, highRead, lowHalf, highHalf⟩ :=
      parts_of_steps lbyte_extracts hbyte_extracts here ⟨active, stands, fresh, rejoins.lowOpcode⟩
        rejoins.highOpcode rejoins.lowSource rejoins.highSource rejoins.lowCell rejoins.highCell
        ⟨named, lowNamed, highNamed⟩ ⟨lowApart, apart⟩ went wentOn
    rw [places] at there
    exact ⟨value, read, read_of_pack there (Lane.begins_advance _ rejoins.packOpcode)
      rejoins.halves ⟨lowNamed, highNamed⟩ bank lowRead highRead lowHalf highHalf ended⟩

end Machine

/-! ## A number that is doubled, taken apart and put together -/

namespace Doubling

/-- A cell is set to 0xAB12 and added to itself; its bytes go into two further cells, and from there
into a last one. -/
def bytes : Array UInt8 :=
  (([2, 5, 1, 0, 131, 0, 0, 0, 0, 2] ++ List.replicate 22 0 ++ List.replicate 8 0
    ++ [104, 0] ++ (List.replicate 31 [129, 0]).flatten
    ++ [0x81, 0x10, 0x04, 0x12, 0xAB, 0x86, 0x11, 0x04, 0x04, 0x00, 0x9B, 0x11, 0x05, 0x04, 0x00,
      0x9A, 0x11, 0x06, 0x04, 0x9C, 0x11, 0x10, 0x07, 0x06, 0x05, 0x00, 0x00]
    : List UInt8)).toArray

def setting : Setting Unit :=
  { source := Section.ofBytes bytes, config := { opsPerTick := 8 }, host := Host.accepting }

/-- The field after so many instructions. -/
def after : Nat → Machine Unit
  | 0 => (Machine.enter setting (Session.fresh setting.config) (.ofSeed 0) ()).start
  | count + 1 => ((after count).step setting 0 0).1

/-- The lane at a place of the code. -/
def lane (place : Nat) : Lane := { status := .active place 0 none none, script := 0, epoch := 1 }

/-- The doubled number wraps around, and is there again after it was taken apart. -/
theorem doubled_and_rejoined :
    ((after 1).step setting 0 0).2 = .goOn ∧
      (∃ s memory, Opcode.plus2.sourceAt (after 1).session.memory setting.source.code 110 = .ok s ∧
        Arithmetic.Computed .plus2 (after 1).session.memory memory (1, 4) s ∧
        (after 2).session = { (after 1).session with memory }) ∧
      ∃ value, (after 2).session.memory.read 1 4 = .ok value ∧
        (after 5).session.memory.read 1 7 = .ok value := by
  have went : ∀ count < 5, ((after count).step setting 0 0).2 = .goOn := by decide +kernel
  have steps (count : Nat) (early : count < 5) :
      (after count).step setting 0 0 = (after (count + 1), .goOn) :=
    Prod.ext rfl (went count early)
  have here : (after 1).world.lane? 0 0 = some (lane 109) := by decide +kernel
  have there : (after 2).world.lane? 0 0 = some (lane 114) := by decide +kernel
  have named : setting.source.code[109]? = some Opcode.plus2.byte := by decide +kernel
  obtain ⟨computes, rejoins⟩ := Machine.arithmetic_exact setting 0 0
  obtain ⟨-, -, exact⟩ := computes here ⟨rfl, rfl, rfl, named⟩ (by decide) (by decide +kernel)
  obtain ⟨s, memory, source, computed, session, -⟩ := exact (went 1 (by decide))
  have first : (after 1).step setting 0 0 = (after 2, .goOn) := steps 1 (by decide)
  rw [first] at session
  have cell : Opcode.plus2.destinationAt setting.source.code 110 = (1, 4) := by decide +kernel
  refine ⟨went 1 (by decide), ⟨s, memory, source, cell ▸ computed, session⟩, ?_⟩
  have sizes : Opcode.hbyte.size = 5 ∧ Opcode.lbyte.size = 4 := by decide +kernel
  have apart : Arithmetic.Rejoins setting.source.code 114 119 123 (1, 4) (1, 5) (1, 6) := by
    constructor <;> decide +kernel
  have target : Opcode.twoByte.destinationAt setting.source.code 124 = (1, 7) := by decide +kernel
  have places : 114 + Opcode.hbyte.size = 119 ∧
      114 + Opcode.hbyte.size + Opcode.lbyte.size = 123 := by
    rw [sizes.1, sizes.2]
    exact ⟨rfl, rfl⟩
  rw [← places.2] at apart
  have order : 114 = 114 ∧ 119 = 114 + Opcode.hbyte.size := ⟨rfl, places.1.symm⟩
  have last : (after 4).step setting 0 0 = (after 5, .goOn) := steps 4 (by decide)
  obtain ⟨value, read, again⟩ := rejoins there rfl rfl rfl (.inl order) apart
    (steps 2 (by decide)) (steps 3 (by decide)) last
  rw [places.2, target] at again
  exact ⟨value, read, again⟩

end Doubling

end FieldMachine
