import FieldMachine.Proofs.Instruction
import FieldMachine.Scheduler

/-!
# The length of the instruction that a lane stands on

A listing finds the next instruction with `instructionLength?`, a lane by
reading operands.  Whatever an instruction comes to, all its bytes lie inside the
code, and unless it jumps the cursor stands where the listing goes on
(`Machine.worked_of_fetch`).
-/

namespace FieldMachine

set_option autoImplicit false

namespace Opcode

/-- Only the byte of an opcode names it. -/
theorem byte_of_ofByte? {byte : UInt8} {op : Opcode} (named : ofByte? byte = some op) :
    op.byte = byte := by
  have all : ∀ entry ∈ table.toList.zipIdx, entry.1.all (·.byte = UInt8.ofNat entry.2) := by
    decide +kernel
  have here : table.toList[byte.toNat]? = some (some op) := by
    rw [Array.getElem?_toList]
    exact Option.join_eq_some_iff.mp named
  have same := all (some op, byte.toNat) (List.mem_zipIdx_iff_getElem?.mpr here)
  simpa using same

/-- No two opcodes have the same byte. -/
theorem byte_injective {first second : Opcode} (same : first.byte = second.byte) :
    first = second := by
  have named := ofByte?_byte first
  rw [same, ofByte?_byte] at named
  exact (Option.some.inj named).symm

/-- Carried-out instructions have the length of the table, however their operands are. -/
theorem instructionLength?_eq {op : Opcode} {code : Array UInt8} {start : Nat}
    (carried : op.plan?.isSome) (here : code[start]? = some op.byte)
    (inside : start + op.size ≤ code.size) : instructionLength? code start = some op.size := by
  have notPayload : op.byte ≠ 0x1C := by
    intro same
    have unnamed : ofByte? 0x1C = none := by decide +kernel
    have named := ofByte?_byte op
    rw [same, unnamed] at named
    cases named
  have notKawai : op.byte ≠ Opcode.kawai.byte := by
    intro same
    cases byte_injective same
    cases carried
  simp only [instructionLength?, here, Option.bind_eq_bind, Option.bind_some, notPayload, notKawai,
    if_false]
  exact if_pos inside

theorem fixedLength_pos (byte : UInt8) : 0 < fixedLength byte := by
  have all : ∀ number < 256, 0 < (lengths[number]?).getD 0 := by decide +kernel
  exact all byte.toNat byte.toNat_lt

end Opcode

/-- An instruction that has a length has one byte or more, and ends inside the code. -/
theorem bounds_of_instructionLength? {code : Array UInt8} {start length : Nat}
    (long : instructionLength? code start = some length) :
    0 < length ∧ start + length ≤ code.size := by
  have checked (found : Nat) (positive : 0 < found)
      (kept : (if start + found ≤ code.size then some found else none) = some length) :
      0 < length ∧ start + length ≤ code.size := by
    obtain ⟨inside, same⟩ := Option.ite_none_right_eq_some.mp kept
    cases same
    exact ⟨positive, inside⟩
  unfold instructionLength? at long
  obtain ⟨byte, -, long⟩ := Option.bind_eq_some_iff.mp long
  have table := Opcode.fixedLength_pos byte
  dsimp only at long
  split at long
  · obtain ⟨payload, -, long⟩ := Option.bind_eq_some_iff.mp long
    exact checked _ (Nat.add_pos_left table _) long
  · split at long
    · obtain ⟨own, -, long⟩ := Option.bind_eq_some_iff.mp long
      refine checked _ ?_ long
      split
      · exact table
      · next stated => exact Nat.pos_of_ne_zero fun none => stated (UInt8.toNat_inj.mp none)
    · obtain ⟨found, same, long⟩ := Option.bind_eq_some_iff.mp long
      rw [← Option.some.inj same] at long
      exact checked _ table long

/-- An instruction that has a length ends inside the code. -/
theorem instructionLength?_le {code : Array UInt8} {start length : Nat}
    (long : instructionLength? code start = some length) : start + length ≤ code.size :=
  (bounds_of_instructionLength? long).2

/-- A byte has a plan exactly when it is the byte of an opcode that can be carried out. -/
theorem planOfByte?_eq_some {byte : UInt8} {reading : Reading Plan} :
    planOfByte? byte = some reading ↔ ∃ op : Opcode, op.byte = byte ∧ op.plan? = some reading := by
  unfold planOfByte?
  rw [Option.bind_eq_some_iff]
  constructor
  · rintro ⟨op, named, known⟩
    exact ⟨op, Opcode.byte_of_ofByte? named, known⟩
  · rintro ⟨op, rfl, known⟩
    exact ⟨op, Opcode.ofByte?_byte op, known⟩

/-- Reading a byte succeeds exactly where there is one. -/
theorem Cursor.byte_eq_ok {cursor after : Cursor} {byte : UInt8} :
    cursor.byte = .ok (byte, after) ↔
      cursor.code[cursor.pc]? = some byte ∧ after = cursor.forward 1 := by
  by_cases inside : cursor.pc < cursor.code.size
  · have reached : cursor.pc + 1 ≤ cursor.code.size := inside
    simp [Cursor.byte, Cursor.skip, Cursor.peek, Cursor.forward, reached, inside, Functor.map,
      Except.map, eq_comm]
  · have outside : ¬cursor.pc + 1 ≤ cursor.code.size := inside
    simp [Cursor.byte, Cursor.skip, outside, inside, Functor.map, Except.map]

/-- What an instruction at `ip` came to, with the cursor at `next`. -/
structure Opcode.Worked (op : Opcode) (code : Array UInt8) (scene : Scene) (ip : Nat) (plan : Plan)
    (next : Nat) : Prop where
  stands : code[ip]? = some op.byte
  long : instructionLength? code ip = some op.size
  fits : plan.Fits scene op.HoldsUp
  passes : ¬op.jumps scene ((Cursor.atStart code ip).forward 1) → next = ip + op.size
  lands : op.jumps scene ((Cursor.atStart code ip).forward 1) → !plan.isLost →
    plan.carriesOn ∧ scene.source.codeStart ≤ next ∧ next < scene.source.codeEnd

namespace Machine

/-- What is fetched is the plan of the byte that stands there. -/
theorem fetch_eq_ok {code : Array UInt8} {ip : Nat} {byte : UInt8} {reading : Reading Plan}
    {cursor : Cursor} :
    fetch code ip = .ok (byte, reading, cursor) ↔
      code[ip]? = some byte ∧ planOfByte? byte = some reading ∧
        cursor = (Cursor.atStart code ip).forward 1 := by
  unfold fetch
  cases read : (Cursor.atStart code ip).byte with
  | error error =>
      constructor
      · intro fetched
        cases fetched
      · rintro ⟨here, -, -⟩
        rw [Cursor.byte_eq_ok.mpr ⟨here, rfl⟩] at read
        cases read
  | ok found =>
      obtain ⟨first, after⟩ := found
      obtain ⟨here, rfl⟩ := Cursor.byte_eq_ok.mp read
      have here : code[ip]? = some first := here
      rw [here]
      simp only [bind, Except.bind, Option.some.injEq]
      constructor
      · intro fetched
        cases known : planOfByte? first with
        | none => rw [known] at fetched; cases fetched
        | some plan =>
            rw [known] at fetched
            cases fetched
            exact ⟨rfl, known, rfl⟩
      · rintro ⟨rfl, known, rfl⟩
        rw [known]
        rfl

/-- An instruction whose plan was worked out has the length of the table. -/
theorem worked_of_fetch {code : Array UInt8} {scene : Scene} {ip : Nat} {byte : UInt8}
    {reading : Reading Plan} {cursor after : Cursor} {plan : Plan}
    (fetched : fetch code ip = .ok (byte, reading, cursor))
    (worked : reading scene cursor = .ok (plan, after)) :
    ∃ op : Opcode, op.byte = byte ∧ op.Worked code scene ip plan after.pc := by
  obtain ⟨stands, planned, rfl⟩ := fetch_eq_ok.mp fetched
  obtain ⟨op, rfl, known⟩ := planOfByte?_eq_some.mp planned
  obtain ⟨inside, -⟩ := Array.getElem?_eq_some_iff.mp stands
  obtain ⟨operands, size, follows⟩ := op.agrees scene known
  have behind : ((Cursor.atStart code ip).forward 1).pc ≤ code.size := inside
  obtain ⟨reached, fits, passes, lands⟩ := follows.result behind worked
  have reached : ip + op.size ≤ code.size := by
    have total : ip + 1 + operands ≤ code.size := reached
    omega
  have carried : op.plan?.isSome := by
    rw [known]
    rfl
  refine ⟨op, rfl, stands, Opcode.instructionLength?_eq carried stands reached, fits, ?_, lands⟩
  intro straight
  rw [passes straight]
  simp only [Cursor.pc_forward, Cursor.atStart, size]
  omega

/-! ## Working an instruction out -/

/-- What the instruction at `ip` comes to, or the rest of it, and where the cursor stands then. -/
def workOut (code : Array UInt8) (scene : Scene) (ip : Nat) :
    Option Suspended → Except ExecError (Plan × Nat)
  | none => do
      let (_, reading, cursor) ← fetch code ip
      let (plan, after) ← reading scene cursor
      return (plan, after.pc)
  | some suspended => do
      let cursor ← (Cursor.atStart code ip).moveTo suspended.next
      let (plan, after) ← suspended.continuation.plan scene cursor
      return (plan, after.pc)

/-- A whole instruction is worked out if it can be fetched and its operands can be read. -/
theorem workOut_none_eq_ok {code : Array UInt8} {scene : Scene} {ip next : Nat} {plan : Plan} :
    workOut code scene ip none = .ok (plan, next) ↔
      ∃ byte reading cursor after, fetch code ip = .ok (byte, reading, cursor) ∧
        reading scene cursor = .ok (plan, after) ∧ after.pc = next := by
  simp only [workOut, bind, Except.bind]
  cases fetch code ip with
  | error error => simp
  | ok found =>
      obtain ⟨byte, reading, cursor⟩ := found
      cases worked : reading scene cursor with
      | error error => simp [worked]
      | ok came =>
          obtain ⟨found, after⟩ := came
          dsimp only
          rw [worked]
          constructor
          · intro same
            cases same
            exact ⟨byte, reading, cursor, after, rfl, worked, rfl⟩
          · rintro ⟨_, _, _, _, same, read, rfl⟩
            cases same
            rw [worked] at read
            cases read
            rfl

/-- A rest is worked out if the place behind the instruction lies inside the code. -/
theorem workOut_some_eq_ok {code : Array UInt8} {scene : Scene} {ip next : Nat} {plan : Plan}
    {suspended : Suspended} :
    workOut code scene ip (some suspended) = .ok (plan, next) ↔
      ∃ cursor after, (Cursor.atStart code ip).moveTo suspended.next = .ok cursor ∧
        suspended.continuation.plan scene cursor = .ok (plan, after) ∧ after.pc = next := by
  simp only [workOut, bind, Except.bind]
  cases (Cursor.atStart code ip).moveTo suspended.next with
  | error error => simp
  | ok cursor =>
      cases worked : suspended.continuation.plan scene cursor with
      | error error => simp [worked]
      | ok came =>
          obtain ⟨found, after⟩ := came
          dsimp only
          rw [worked]
          constructor
          · intro same
            cases same
            exact ⟨cursor, after, rfl, worked, rfl⟩
          · rintro ⟨_, _, same, read, rfl⟩
            cases same
            rw [worked] at read
            cases read
            rfl

variable {σ : Type}

/-- The journal is not part of the scene. -/
theorem sceneOf_note (setting : Setting σ) (machine : Machine σ) (entry : Entry) (id : EntityId)
    (priority ip : Nat) (lane : Lane) :
    (machine.note entry).sceneOf setting id priority ip lane =
      machine.sceneOf setting id priority ip lane := rfl

/-- The machine with the instruction on record that a lane begins. -/
def onRecord (setting : Setting σ) (id : EntityId) (priority ip : Nat) (lane : Lane)
    (machine : Machine σ) : Machine σ :=
  match lane.suspended?, fetch setting.source.code ip with
  | none, .ok (byte, _) => machine.note (.executing id priority ip byte)
  | _, _ => machine

/-- Only the journal tells whether an instruction is on record. -/
theorem onRecord_eq (setting : Setting σ) (machine : Machine σ) (id : EntityId)
    (priority ip : Nat) (lane : Lane) :
    machine.onRecord setting id priority ip lane = machine ∨
      ∃ byte, setting.source.code[ip]? = some byte ∧
        machine.onRecord setting id priority ip lane =
          machine.note (.executing id priority ip byte) := by
  unfold onRecord
  split
  · next fresh fetched =>
      exact .inr ⟨_, (fetch_eq_ok.mp fetched).1, rfl⟩
  · exact .inl rfl

/-- A step of an active lane puts the instruction on record, works it out, and then carries it out
or gives the lane up. -/
theorem step_eq_of_active (setting : Setting σ) {machine : Machine σ} {id : EntityId}
    {priority ip : Nat} {lane : Lane} (here : machine.world.lane? id priority = some lane)
    (active : lane.isActive) (stands : lane.ip? = some ip) :
    machine.step setting id priority =
      match workOut setting.source.code (machine.sceneOf setting id priority ip lane) ip
        lane.suspended? with
      | .error error =>
          ((machine.onRecord setting id priority ip lane).giveUp setting id priority ip error,
            .released)
      | .ok (plan, next) =>
          (machine.onRecord setting id priority ip lane).carryOut setting id priority ip next lane
            plan := by
  unfold step onRecord
  rw [here]
  obtain ⟨status, script, epoch, mainEntry⟩ := lane
  cases status with
  | active place retries suspended onStop =>
      cases stands
      cases suspended with
      | none =>
          dsimp only [Lane.suspended?]
          cases fetched : fetch setting.source.code ip with
          | error error =>
              simp only [workOut, fetched]
              rfl
          | ok found =>
              obtain ⟨byte, reading, cursor⟩ := found
              simp only [workOut, fetched, execute, sceneOf_note, bind, Except.bind]
              cases reading (machine.sceneOf setting id priority ip _) cursor <;> rfl
      | some suspended =>
          dsimp only [Lane.suspended?]
          simp only [workOut, execute, bind, Except.bind]
          cases moved : (Cursor.atStart setting.source.code ip).moveTo suspended.next with
          | error error => rfl
          | ok cursor =>
              dsimp only
              let scene := machine.sceneOf setting id priority ip
                { status := .active ip retries (some suspended) onStop, script, epoch, mainEntry }
              cases suspended.continuation.plan scene cursor <;> rfl
  | _ => cases active

/-- A step of an active lane works an instruction out, and then carries it out or gives the lane
up. -/
theorem step_eq (setting : Setting σ) {machine : Machine σ} {id : EntityId} {priority : Nat}
    {lane : Lane} (here : machine.world.lane? id priority = some lane) (active : lane.isActive) :
    ∃ ip noted, lane.ip? = some ip ∧
      (noted = machine ∨ ∃ byte, setting.source.code[ip]? = some byte ∧
        noted = machine.note (.executing id priority ip byte)) ∧
      machine.step setting id priority =
        match workOut setting.source.code (machine.sceneOf setting id priority ip lane) ip
          lane.suspended? with
        | .error error => (noted.giveUp setting id priority ip error, .released)
        | .ok (plan, next) => noted.carryOut setting id priority ip next lane plan := by
  obtain ⟨ip, stands⟩ : ∃ ip, lane.ip? = some ip := by
    unfold Lane.isActive at active
    unfold Lane.ip?
    cases status : lane.status with
    | active ip retries suspended onStop => exact ⟨ip, rfl⟩
    | _ => simp [status] at active
  exact ⟨ip, _, stands, onRecord_eq setting machine id priority ip lane,
    step_eq_of_active setting here active stands⟩

end Machine

end FieldMachine
