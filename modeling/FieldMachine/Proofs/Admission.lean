import FieldMachine.Proofs.Branch
import FieldMachine.Proofs.Polling

/-!
# Who is called

A call asks one lane of one entity to begin a script.  The byte that names both
has no room for a lane or a script that is not there, so only a lane that is
taken refuses (`Entity.admission_eq`).

A refusal touches the caller and nothing else; an admitted call touches the
caller and the lane that was free (`Machine.call_admitted_or_refused`).  The two
are never the same lane, for a lane that calls is taken itself.
-/

namespace FieldMachine

set_option autoImplicit false

/-! ## What a call asks for -/

/-- The lane that a call asks for: the top three bits of its last operand. -/
def calledLane (packed : UInt8) : Fin laneCount :=
  ⟨packed.toNat / 32, by have bound := packed.toNat_lt; unfold laneCount; omega⟩

/-- The script that a call asks for: the other five bits. -/
def calledScript (packed : UInt8) : Fin scriptCount :=
  ⟨packed.toNat % 32, Nat.mod_lt _ (by decide)⟩

theorem shiftRight_eq_calledLane (packed : UInt8) :
    (packed >>> 5).toNat = calledLane packed := by
  rw [UInt8.toNat_shiftRight]
  exact Nat.shiftRight_eq_div_pow packed.toNat 5

theorem and_eq_calledScript (packed : UInt8) :
    (packed &&& 0x1F).toNat = calledScript packed := by
  rw [UInt8.toNat_and]
  exact Nat.and_two_pow_sub_one_eq_mod packed.toNat 5

namespace Entity

/-- An entity has every lane and every script that a byte can name: it refuses only if the lane is
taken. -/
theorem admission_eq (entity : Entity) (level : Fin laneCount) (script : Fin scriptCount) :
    entity.admission level script =
      if entity.lanes[level].isBusy then
        .error (.laneBusy level entity.lanes[level].script)
      else .ok entity.entries[script] := by
  have entered : entity.entries[script.val]? = some entity.entries[script] :=
    Vector.getElem?_eq_getElem script.isLt
  have here : entity.lanes[level.val]? = some entity.lanes[level] :=
    Vector.getElem?_eq_getElem level.isLt
  simp only [admission, entered, here]

end Entity

/-- An entity that is there has all its lanes. -/
theorem World.lane?_of_known {world : World} {id : EntityId} {entity : Entity}
    (known : world.entity? id = some entity) (level : Fin laneCount) :
    world.lane? id level = some entity.lanes[level] := by
  rw [lane?, known, Option.bind_some]
  exact Vector.getElem?_eq_getElem level.isLt

namespace Opcode

/-- How insistent an opcode calls, if it calls a script of any entity. -/
def strength? : Opcode → Option CallStrength
  | .req | .preq => some .forget
  | .reqsw | .prqsw => some .retry
  | .reqew | .prqew => some .wait
  | _ => none

/-- Whether the first operand of a call names an entity: by its place of registration, or by the
party slot of the character that it plays. -/
def Names (op : Opcode) (session : Session) (world : World) (operand : UInt8)
    (target : EntityId) : Prop :=
  match op with
  | .req | .reqsw | .reqew => operand.toNat = target ∧ (world.entity? target).isSome
  | .preq | .prqsw | .prqew => Reading.partyMember session world operand = .ok target
  | _ => False

end Opcode

/-! ## Reading a call -/

namespace Control

open Section (byteAt)
open Reading

variable {scene : Scene} {cursor : Cursor} {strength : CallStrength} {target : EntityId}

theorem entityAt_of_known {index : UInt8} (known : (scene.world.entity? index.toNat).isSome) :
    entityAt index scene cursor = .ok (index.toNat, cursor) := by
  obtain ⟨entity, found⟩ := Option.isSome_iff_exists.mp known
  rw [entityAt, bind_apply]
  simp only [Reading.scene, Except.bind, found]
  rfl

theorem partyEntity_of_member {slot : UInt8}
    (member : partyMember scene.session scene.world slot = .ok target) :
    partyEntity slot scene cursor = .ok (target, cursor) := by
  rw [partyEntity, bind_apply]
  simp only [Reading.scene, Except.bind, member]
  rfl

/-- A call whose target is found, however its first operand names it. -/
theorem call_of_target {finds : UInt8 → Reading EntityId} {code : Array UInt8} {ip : Nat}
    {operand packed : UInt8} (first : code[ip + 1]? = some operand)
    (last : code[ip + 2]? = some packed)
    (found : ∀ cursor, finds operand scene cursor = .ok (target, cursor)) :
    (do
      let operand ← byte
      let (priority, script) ← callee
      call strength (← finds operand) priority script : Reading Plan) scene
        ((Cursor.atStart code ip).forward 1) =
      call strength target (calledLane packed) (calledScript packed) scene
        ((Cursor.atStart code ip).forward 3) := by
  obtain ⟨inside, -⟩ := Array.getElem?_eq_some_iff.mp last
  have operandAt : byteAt code (ip + 1) = operand := by rw [byteAt, first, Option.getD_some]
  have packedAt : byteAt code (ip + 2) = packed := by rw [byteAt, last, Option.getD_some]
  have one : byte scene ((Cursor.atStart code ip).forward 1) =
      .ok (operand, (Cursor.atStart code ip).forward 2) := by
    rw [← operandAt]
    exact byte_of_le (show ip + 1 + 1 ≤ code.size by omega)
  have two : byte scene ((Cursor.atStart code ip).forward 2) =
      .ok (packed, (Cursor.atStart code ip).forward 3) := by
    rw [← packedAt]
    exact byte_of_le (show ip + 2 + 1 ≤ code.size by omega)
  rw [bind_of_ok one, callee, bind_assoc, bind_of_ok two, pure_bind]
  dsimp only
  rw [shiftRight_eq_calledLane, and_eq_calledScript, bind_of_ok (found _)]

/-- Every opcode that calls comes to a call of the entity that its first operand names. -/
theorem plan_of_call {op : Opcode} {code : Array UInt8} {ip : Nat} {operand packed : UInt8}
    (insists : op.strength? = some strength) (first : code[ip + 1]? = some operand)
    (last : code[ip + 2]? = some packed)
    (named : op.Names scene.session scene.world operand target) :
    ∃ reading, op.plan? = some reading ∧
      reading scene ((Cursor.atStart code ip).forward 1) =
        call strength target (calledLane packed) (calledScript packed) scene
          ((Cursor.atStart code ip).forward 3) := by
  cases op with
  | req | reqsw | reqew =>
      cases insists
      obtain ⟨rfl, known⟩ := named
      exact ⟨_, rfl, call_of_target first last fun _ => entityAt_of_known known⟩
  | preq | prqsw | prqew =>
      cases insists
      exact ⟨_, rfl, call_of_target first last fun _ => partyEntity_of_member named⟩
  | _ => cases insists

/-- A call that finds the lane taken is given up or tried again. -/
theorem call_of_busy {entity : Entity} {level : Fin laneCount} (script : Fin scriptCount)
    (known : scene.world.entity? target = some entity) (busy : entity.lanes[level].isBusy) :
    call strength target level script scene cursor =
      let refusal := Entry.laneBusy level entity.lanes[level].script
      let told := Entry.called scene.entity target level script strength false
      .ok (if strength = .forget then .next [.log refusal, .log told] else .retry [refusal, told],
        cursor) := by
  rw [call, bind_apply]
  simp only [Reading.scene, Except.bind, known, entity.admission_eq, busy, if_true]
  split <;> rfl

/-- A call that finds the lane free starts the script. -/
theorem call_of_free {entity : Entity} {level : Fin laneCount} {script : Fin scriptCount}
    (known : scene.world.entity? target = some entity)
    (free : entity.lanes[level].isBusy = false) :
    call strength target level script scene cursor =
      let onStop := if strength = .wait then
        some (scene.lane.token scene.entity scene.priority) else none
      let told := Entry.called scene.entity target level script strength true
      .ok (.act [.startLane target level entity.entries[script] script onStop, .log told]
        (if strength = .wait then .pause .call else .advance), cursor) := by
  rw [call, bind_apply]
  simp only [Reading.scene, Except.bind, known, entity.admission_eq, free, Bool.false_eq_true,
    if_false]
  rfl

end Control

/-! ## What changes with some lanes -/

namespace Machine

variable {σ : Type}

/-- Whether the journal and some lanes are all that differs between two machines. -/
structure DiffersIn (lanes : EntityId → Nat → Prop) (before after : Machine σ) : Prop where
  others : ∀ id priority, ¬lanes id priority →
    after.world.lane? id priority = before.world.lane? id priority
  actors : after.world.actor? = before.world.actor?
  entries : after.world.roster.entries? = before.world.roster.entries?
  /-- The stage, the session and whatever else there is stay as they were. -/
  rest : ∃ entities journal,
    after = { before with world := { before.world with entities }, journal }

theorem differsIn_updateLane (machine : Machine σ) (id : EntityId) (priority : Nat)
    (change : Lane → Lane) (journal : List Entry) :
    machine.DiffersIn (fun other index => other = id ∧ index = priority)
      { machine with world := machine.world.updateLane id priority change, journal } where
  others other index apart := by simp [World.lane?_updateLane, apart]
  actors := World.actor?_updateLane ..
  entries := by
    funext other
    simp only [World.roster, World.updateLane, World.entity?_updateEntity]
    split
    · cases machine.world.entity? other <;> simp [World.entries_updateLane]
    · rfl
  rest := ⟨_, journal, rfl⟩

theorem DiffersIn.trans {first second : EntityId → Nat → Prop} {before between after : Machine σ}
    (differs : before.DiffersIn first between) (further : between.DiffersIn second after) :
    before.DiffersIn (fun id priority => first id priority ∨ second id priority) after where
  others id priority apart := by
    rw [not_or] at apart
    rw [further.others id priority apart.2, differs.others id priority apart.1]
  actors := further.actors.trans differs.actors
  entries := further.entries.trans differs.entries
  rest := by
    obtain ⟨entities, journal, same⟩ := differs.rest
    obtain ⟨later, written, last⟩ := further.rest
    exact ⟨later, written, by rw [last, same]⟩

end Machine

/-! ## Carrying a call out -/

namespace Machine

variable {σ : Type} {setting : Setting σ} {machine : Machine σ} {id target : EntityId}
  {priority ip : Nat} {lane : Lane} {op : Opcode} {strength : CallStrength} {packed : UInt8}

/-- A lane that is about to call an entity. -/
structure Calls (setting : Setting σ) (machine : Machine σ) (id : EntityId) (priority : Nat)
    (lane : Lane) (ip : Nat) (op : Opcode) (strength : CallStrength) (target : EntityId)
    (packed : UInt8) : Prop where
  here : machine.world.lane? id priority = some lane
  active : lane.isActive
  stands : lane.ip? = some ip
  fresh : lane.suspended? = none
  opcode : setting.source.code[ip]? = some op.byte
  insists : op.strength? = some strength
  /-- The first operand names the entity. -/
  named : ∃ operand, setting.source.code[ip + 1]? = some operand ∧
    op.Names machine.session machine.world operand target
  /-- The last operand names the lane and the script. -/
  last : setting.source.code[ip + 2]? = some packed

namespace Calls

variable (calls : machine.Calls setting id priority lane ip op strength target packed)

include calls

theorem isSome_entity? : (machine.world.entity? target).isSome := by
  obtain ⟨operand, -, named⟩ := calls.named
  have insists := calls.insists
  cases op with
  | req | reqsw | reqew => exact named.2
  | preq | prqsw | prqew => exact Reading.isSome_of_partyMember named
  | _ => cases insists

/-- The step of a lane that calls carries out what the call comes to. -/
theorem step_eq {plan : Plan}
    (worked : ∀ cursor, Control.call strength target (calledLane packed) (calledScript packed)
      (machine.sceneOf setting id priority ip lane) cursor = .ok (plan, cursor)) :
    machine.step setting id priority =
      (machine.note (.executing id priority ip op.byte)).carryOut setting id priority ip (ip + 3)
        lane plan := by
  obtain ⟨operand, first, named⟩ := calls.named
  let scene := machine.sceneOf setting id priority ip lane
  have named : op.Names scene.session scene.world operand target := named
  obtain ⟨reading, known, read⟩ := Control.plan_of_call calls.insists first calls.last named
  rw [worked] at read
  have stepped := step_of_reading calls.here calls.active calls.stands calls.fresh calls.opcode
    known read
  exact stepped

/-- A lane that calls is taken, so it is not the lane that is free. -/
theorem apart {entity : Entity} (known : machine.world.entity? target = some entity)
    (free : entity.lanes[calledLane packed].isBusy = false) :
    ¬(target = id ∧ (calledLane packed : Nat) = priority) := by
  rintro ⟨sameEntity, sameLane⟩
  have caller : machine.world.lane? target (calledLane packed) = some lane := by
    rw [sameEntity, sameLane, calls.here]
  rw [World.lane?_of_known known] at caller
  rw [Option.some.inj caller, Lane.isBusy_of_isActive calls.active] at free
  cases free

/-- A refused call is given up or tried again, and nothing else happens. -/
theorem step_of_busy {entity : Entity} (known : machine.world.entity? target = some entity)
    (busy : entity.lanes[calledLane packed].isBusy) :
    machine.step setting id priority =
      ({ machine with
        world := machine.world.updateLane id priority fun _ =>
          if strength = .forget then lane.advance (ip + 3) else lane.rewind ip none
        journal := .called id target (calledLane packed) (calledScript packed) strength false ::
          .laneBusy (calledLane packed) entity.lanes[calledLane packed].script ::
          .executing id priority ip op.byte :: machine.journal },
        if strength = .forget then .goOn else .holding) := by
  have caller : machine.world.updateLane id priority (fun lane =>
        if strength = .forget then lane.advance (ip + 3) else lane.rewind ip none) =
      machine.world.updateLane id priority fun _ =>
        if strength = .forget then lane.advance (ip + 3) else lane.rewind ip none :=
    World.updateLane_congr calls.here rfl
  rw [← caller, calls.step_eq fun _ => Control.call_of_busy _ known busy]
  by_cases forgets : strength = .forget
  · simp only [forgets, if_true]
    rfl
  · simp only [forgets, if_false]
    rfl

/-- Whatever becomes of the lane that is free, the caller is as it was. -/
theorem here_of_free {entity : Entity} (known : machine.world.entity? target = some entity)
    (free : entity.lanes[calledLane packed].isBusy = false) (change : Lane → Lane) :
    (machine.world.updateLane target (calledLane packed) change).lane? id priority = some lane := by
  have apart := calls.apart known free
  rw [World.lane?_updateLane, if_neg fun own => apart ⟨own.1.symm, own.2.symm⟩, calls.here]

/-- An admitted call starts the script, and then lets the caller go on or wait. -/
theorem step_of_free {entity : Entity} (known : machine.world.entity? target = some entity)
    (free : entity.lanes[calledLane packed].isBusy = false) :
    let level := calledLane packed
    let script := calledScript packed
    machine.step setting id priority =
      ({ machine with
        world := (machine.world.updateLane target level fun _ =>
          entity.lanes[level].start entity.entries[script] script
            (if strength = .wait then some (lane.token id priority) else none)).updateLane
          id priority fun _ =>
            if strength = .wait then lane.pause (ip + 3) .call else lane.advance (ip + 3)
        journal := (if strength = .wait then [.paused id priority .call] else []) ++
          .called id target level script strength true ::
          .executing id priority ip op.byte :: machine.journal },
        if strength = .wait then .released else .goOn) := by
  intro level script
  let onStop := if strength = .wait then some (lane.token id priority) else none
  have started : machine.world.updateLane target level
        (·.start entity.entries[script] script onStop) =
      machine.world.updateLane target level fun _ =>
        entity.lanes[level].start entity.entries[script] script onStop :=
    World.updateLane_congr (World.lane?_of_known known _) rfl
  rw [← started]
  have caller : (machine.world.updateLane target level
        (·.start entity.entries[script] script onStop)).updateLane id priority (fun lane =>
          if strength = .wait then lane.pause (ip + 3) .call else lane.advance (ip + 3)) =
      (machine.world.updateLane target level
        (·.start entity.entries[script] script onStop)).updateLane id priority fun _ =>
          if strength = .wait then lane.pause (ip + 3) .call else lane.advance (ip + 3) :=
    World.updateLane_congr (calls.here_of_free known free _) rfl
  rw [← caller, calls.step_eq fun _ => Control.call_of_free known free]
  by_cases waits : strength = .wait
  · simp only [onStop, waits, if_true]
    rfl
  · simp only [onStop, waits, if_false]
    rfl

end Calls

/-- A lane that hands over ends, and then asks a lane of its own entity. -/
theorem step_of_handOver (here : machine.world.lane? id priority = some lane)
    (active : lane.isActive) (stands : lane.ip? = some ip) (fresh : lane.suspended? = none)
    (opcode : setting.source.code[ip]? = some Opcode.retto.byte)
    (last : setting.source.code[ip + 1]? = some packed) :
    machine.step setting id priority =
      (machine.note (.executing id priority ip Opcode.retto.byte)).passOn id priority lane
        (calledLane packed) (calledScript packed) := by
  obtain ⟨inside, -⟩ := Array.getElem?_eq_some_iff.mp last
  have packedAt : Section.byteAt setting.source.code (ip + 1) = packed := by
    rw [Section.byteAt, last, Option.getD_some]
  have read : Control.handOver (machine.sceneOf setting id priority ip lane)
      ((Cursor.atStart setting.source.code ip).forward 1) =
        .ok (.act [] (.handOver (calledLane packed) (calledScript packed)),
          (Cursor.atStart setting.source.code ip).forward 2) := by
    rw [← packedAt, Control.handOver, Control.callee, bind_assoc,
      Reading.bind_of_ok
        (Reading.byte_of_le (show ip + 1 + 1 ≤ setting.source.code.size from inside)),
      pure_bind]
    dsimp only
    rw [shiftRight_eq_calledLane, and_eq_calledScript]
    rfl
  rw [step_of_reading here active stands fresh opcode rfl read]
  rfl

/-- A request to start a script on a lane that is there is refused only if the lane is taken. -/
theorem startScript_eq {entity : Entity} (known : machine.world.entity? id = some entity)
    (level : Fin laneCount) (script : Fin scriptCount) (onStop : Option ResumeToken) :
    (machine.startScript id level script onStop).1 =
      if entity.lanes[level].isBusy then
        machine.note (.laneBusy level entity.lanes[level].script)
      else machine.updateLane id level (·.start entity.entries[script] script onStop) := by
  simp only [startScript, known, entity.admission_eq]
  by_cases busy : entity.lanes[level].isBusy
  · simp only [busy, if_true]
    rfl
  · simp only [busy]
    rfl

/-- What a lane that has ended asks of its entity. -/
theorem handOver_asks (here : machine.world.lane? id priority = some lane)
    (active : lane.isActive) (stands : lane.ip? = some ip) (fresh : lane.suspended? = none)
    (opcode : setting.source.code[ip]? = some Opcode.retto.byte)
    (last : setting.source.code[ip + 1]? = some packed) :
    let level := calledLane packed
    let script := calledScript packed
    let stopped := ((machine.note (.executing id priority ip Opcode.retto.byte)).updateLane id
      priority Lane.finish).complete lane.onStop?
    ∃ entity, stopped.world.entity? id = some entity ∧
      (machine.step setting id priority).1 =
        if entity.lanes[level].isBusy then
          stopped.note (.laneBusy level entity.lanes[level].script)
        else stopped.updateLane id level (·.start entity.entries[script] script none) := by
  intro level script stopped
  let noted := machine.note (.executing id priority ip Opcode.retto.byte)
  have ended : stopped.world.roster = machine.world.roster.finish id priority lane :=
    roster_finish (show noted.world.roster = machine.world.roster from rfl) here
  have there : stopped.world.lane? id priority = some lane.finish := by
    rw [← World.lane?_roster, ended, Roster.lane?_finish_self]
  obtain ⟨entity, known, -⟩ := Option.bind_eq_some_iff.mp there
  refine ⟨entity, known, ?_⟩
  rw [step_of_handOver here active stands fresh opcode last,
    ← startScript_eq known level script none]
  rfl

/-- Who is called, and what becomes of the caller.

A call whose target is there finds the lane that it names, and that lane has the script that it
names.  If the lane is taken, be it the caller itself or another, the call is refused: nothing
changes but the caller, which goes on or stays with one more try.  If the lane is free, it begins
the script as a new invocation, and the caller, which is another lane, goes on or waits to be woken.

A lane that hands over has ended when it asks, and is then refused for the same reason only: nothing
in the bytecode can ask for a lane or a script that does not exist. -/
theorem call_admitted_or_refused (setting : Setting σ) (machine : Machine σ) (id : EntityId)
    (priority : Nat) :
    (∀ {lane : Lane} {ip : Nat} {op : Opcode} {strength : CallStrength} {target : EntityId}
      {packed : UInt8}, machine.Calls setting id priority lane ip op strength target packed →
      let level := calledLane packed
      let script := calledScript packed
      let after := (machine.step setting id priority).1
      let turnover := (machine.step setting id priority).2
      ∃ entity, machine.world.entity? target = some entity ∧
        let callee := entity.lanes[level]
        machine.world.lane? target level = some callee ∧
        (callee.isBusy →
          let caller : Lane :=
            if strength = .forget then
              { lane with status := .active (ip + 3) 0 none lane.onStop? }
            else
              { lane with
                status := .active ip
                  (if lane.retries = 0xFFFFFFFF then 0xFFFFFFFF else lane.retries + 1) none
                  lane.onStop? }
          after = { machine with
            world := machine.world.updateLane id priority fun _ => caller
            journal := .called id target level script strength false ::
              .laneBusy level callee.script :: .executing id priority ip op.byte ::
              machine.journal } ∧
          turnover = (if strength = .forget then .goOn else .holding) ∧
          after.world.lane? id priority = some caller ∧
          machine.DiffersIn (fun other index => other = id ∧ index = priority) after) ∧
        (callee.isBusy = false →
          let started : Lane :=
            { status := .active entity.entries[script] 0 none
                (if strength = .wait then some (lane.token id priority) else none)
              script
              epoch := callee.epoch + 1
              mainEntry := if callee.script = script then callee.mainEntry else none }
          let caller : Lane :=
            if strength = .wait then { lane with status := .paused (ip + 3) .call lane.onStop? }
            else { lane with status := .active (ip + 3) 0 none lane.onStop? }
          ¬(target = id ∧ (level : Nat) = priority) ∧
          after = { machine with
            world := (machine.world.updateLane target level fun _ => started).updateLane id priority
              fun _ => caller
            journal := (if strength = .wait then [.paused id priority .call] else []) ++
              .called id target level script strength true :: .executing id priority ip op.byte ::
              machine.journal } ∧
          turnover = (if strength = .wait then .released else .goOn) ∧
          after.world.lane? target level = some started ∧
          after.world.lane? id priority = some caller ∧
          machine.DiffersIn (fun other index => (other = target ∧ index = level) ∨
            (other = id ∧ index = priority)) after)) ∧
    (∀ {lane : Lane} {ip : Nat} {packed : UInt8}, machine.world.lane? id priority = some lane →
      lane.isActive → lane.ip? = some ip → lane.suspended? = none →
      setting.source.code[ip]? = some Opcode.retto.byte →
      setting.source.code[ip + 1]? = some packed →
      let level := calledLane packed
      let script := calledScript packed
      let stopped := ((machine.note (.executing id priority ip Opcode.retto.byte)).updateLane id
        priority Lane.finish).complete lane.onStop?
      ∃ entity, stopped.world.entity? id = some entity ∧
        (machine.step setting id priority).1 =
          if entity.lanes[level].isBusy then
            stopped.note (.laneBusy level entity.lanes[level].script)
          else stopped.updateLane id level (·.start entity.entries[script] script none)) ∧
    (∀ (entity : Entity) (packed : UInt8) (refusal : Refusal),
      entity.admission (calledLane packed) (calledScript packed) = .error refusal →
        refusal = .laneBusy (calledLane packed) entity.lanes[calledLane packed].script) := by
  refine ⟨fun {lane ip op strength target packed} calls => ?_,
    fun {lane ip packed} here active stands fresh opcode last => ?_,
    fun entity packed refusal refused => ?_⟩
  · intro level script after turnover
    obtain ⟨entity, known⟩ := Option.isSome_iff_exists.mp calls.isSome_entity?
    refine ⟨entity, known, World.lane?_of_known known _, fun busy => ?_, fun free => ?_⟩
    · intro caller
      have stepped := calls.step_of_busy known busy
      have same : (if strength = .forget then lane.advance (ip + 3) else lane.rewind ip none) =
          caller := by
        simp only [caller, Lane.advance, Lane.rewind_eq]
      rw [same] at stepped
      refine ⟨congrArg Prod.fst stepped, congrArg Prod.snd stepped, ?_, ?_⟩
      · simp only [after, stepped]
        simp [World.lane?_updateLane, calls.here]
      · simp only [after, stepped]
        exact differsIn_updateLane ..
    · intro started caller
      have apart := calls.apart known free
      have stepped := calls.step_of_free known free
      refine ⟨apart, congrArg Prod.fst stepped, congrArg Prod.snd stepped, ?_, ?_, ?_⟩
      · simp only [after, stepped]
        rw [World.lane?_updateLane, if_neg apart, World.lane?_updateLane, if_pos ⟨rfl, rfl⟩,
          World.lane?_of_known known]
        rfl
      · simp only [after, stepped]
        rw [World.lane?_updateLane, if_pos ⟨rfl, rfl⟩, calls.here_of_free known free]
        rfl
      · simp only [after, stepped]
        exact (differsIn_updateLane machine target level _ machine.journal).trans
          (differsIn_updateLane _ id priority _ _)
  · intro level script stopped
    exact handOver_asks here active stands fresh opcode last
  · rw [entity.admission_eq] at refused
    split at refused
    · cases refused
      rfl
    · cases refused

end Machine

/-! ## A lane that two scripts call -/

namespace Rivalry

/-- Two entities call the same script of a third one, which hands over to another lane. -/
def source : Section :=
  { bytes := #[0x03, 0x01, 0x21, 0x00, 0x00, 0x07, 0x42, 0x02, 0x01, 0x21, 0x00]
    version := 0, modelCount := 0, scale := 0, creator := "", name := "rivalry"
    entities := #[Bustle.scripts "first" 0 3, Bustle.scripts "callee" 4 5,
      Bustle.scripts "second" 7 10]
    akaoOffsets := #[], codeStart := 0, codeEnd := 11, texts := #[] }

def setting : Setting Unit := { source, config := { opsPerTick := 8 }, host := Host.accepting }

def entered : Machine Unit :=
  (Machine.enter setting (Session.fresh setting.config) (.ofSeed 0) ()).start

/-- The field after the first call. -/
def called : Machine Unit := (entered.step setting 0 0).1

/-- A lane at the beginning of a script, on which nobody waits. -/
def lane (ip : Nat) : Lane := { status := .active ip 0 none none, script := 0, epoch := 1 }

theorem first_calls : entered.Calls setting 0 0 (lane 0) 0 .reqew .wait 1 0x21 where
  here := by decide +kernel
  active := rfl
  stands := rfl
  fresh := rfl
  opcode := by decide +kernel
  insists := rfl
  named := ⟨1, by decide +kernel, rfl, by decide +kernel⟩
  last := by decide +kernel

theorem second_calls : called.Calls setting 2 0 (lane 7) 7 .reqsw .retry 1 0x21 where
  here := by decide +kernel
  active := rfl
  stands := rfl
  fresh := rfl
  opcode := by decide +kernel
  insists := rfl
  named := ⟨1, by decide +kernel, rfl, by decide +kernel⟩
  last := by decide +kernel

end Rivalry

namespace Machine

/-- The first call is admitted and the second one refused; then the callee hands over. -/
theorem rivalry_settled :
    let admitted := (Rivalry.entered.step Rivalry.setting 0 0).1
    let refused := (Rivalry.called.step Rivalry.setting 2 0).1
    let handedOver := (Rivalry.called.step Rivalry.setting 1 1).1
    (∃ entry, admitted.world.lane? 1 1 = some
      { status := .active entry 0 none (some ⟨0, 0, 1⟩), script := 1, epoch := 1 }) ∧
    admitted.world.lane? 0 0 = some { Rivalry.lane 0 with status := .paused 3 .call none } ∧
    refused.world.lane? 2 0 = some { Rivalry.lane 7 with status := .active 7 1 none none } ∧
    refused.world.lane? 1 1 = Rivalry.called.world.lane? 1 1 ∧
    refused.session = Rivalry.called.session ∧
    ∃ entry, handedOver.world.lane? 1 2 = some
      { status := .active entry 0 none none, script := 2, epoch := 1 } := by
  intro admitted refused handedOver
  obtain ⟨entity, -, free, -, admits⟩ :=
    (call_admitted_or_refused Rivalry.setting Rivalry.entered 0 0).1 Rivalry.first_calls
  obtain ⟨rival, -, taken, refuses, -⟩ :=
    (call_admitted_or_refused Rivalry.setting Rivalry.called 2 0).1 Rivalry.second_calls
  let callee : Lane :=
    { status := .active 5 0 none (some ⟨0, 0, 1⟩), script := 1, epoch := 1 }
  have calleeRuns : Rivalry.called.world.lane? 1 1 = some callee := by decide +kernel
  have opcode : Rivalry.setting.source.code[5]? = some Opcode.retto.byte := by decide +kernel
  have last : Rivalry.setting.source.code[6]? = some 0x42 := by decide +kernel
  obtain ⟨ended, known, handsOver⟩ :=
    (call_admitted_or_refused Rivalry.setting Rivalry.called 1 1).2.1 calleeRuns rfl rfl rfl opcode
      last
  have unused : Rivalry.entered.world.lane? 1 (calledLane 0x21) = some {} := by decide +kernel
  have running : (Rivalry.called.world.lane? 1 (calledLane 0x21)).any Lane.isBusy := by
    decide +kernel
  have stopped : (((Rivalry.called.note (.executing 1 1 5 Opcode.retto.byte)).updateLane 1 1
      Lane.finish).complete callee.onStop?).world.lane? 1 (calledLane 0x42) = some {} := by
    decide +kernel
  have further := lane?_updateLane_self stopped
    (·.start ended.entries[calledScript 0x42] (calledScript 0x42) none)
  rw [free] at unused
  rw [taken, Option.any_some] at running
  rw [World.lane?_of_known known] at stopped
  rw [Option.some.inj stopped] at handsOver
  obtain ⟨-, -, -, started, waits, -⟩ := admits (by rw [Option.some.inj unused]; rfl)
  obtain ⟨-, -, stays, spared⟩ := refuses running
  rw [Option.some.inj unused] at started
  obtain ⟨entities, journal, same⟩ := spared.rest
  refine ⟨⟨entity.entries[calledScript 0x21], started⟩, waits, stays,
    spared.others 1 1 (by decide), by rw [show refused = _ from same],
    ⟨ended.entries[calledScript 0x42], ?_⟩⟩
  rw [show handedOver = _ from handsOver]
  exact further

end Machine

end FieldMachine
