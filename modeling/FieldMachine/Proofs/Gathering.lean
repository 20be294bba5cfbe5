import FieldMachine.Proofs.Motion
import FieldMachine.Proofs.Operand

/-!
# The party around its leader

A character stands in the field as the first entity that plays it, in the order of
registration (`World.FirstPlays`).  The leader of a party is the character in its first
occupied slot, and an entity that takes up his part becomes the player.

Two opcodes let the party walk.  The walkers are the entities of the slots behind the
first one (`Company.followers`), and they gather around whoever stands for the first slot,
or part from there (`Company.Aim`).  The first slot is not always the leader's: if it is
empty, the lane is given up although there is a leader in the field
(`Gap.leader_is_not_found`).
-/

namespace FieldMachine

set_option autoImplicit false

open Section (byteAt wordAt)

/-! ## Who plays a character -/

namespace World

variable {world : World} {id : EntityId} {character : UInt8}

/-- An entity of the field plays a character. -/
def Plays (world : World) (id : EntityId) (character : UInt8) : Prop :=
  ∃ actor, world.actor? id = some actor ∧ actor.character = some character

/-- An entity is the first of the field to play a character. -/
def FirstPlays (world : World) (id : EntityId) (character : UInt8) : Prop :=
  world.Plays id character ∧ ∀ other < id, ¬world.Plays other character

theorem any_actor?_iff :
    ((world.actor? id).any fun actor => actor.character = some character) = true ↔
      world.Plays id character := by
  simp only [Option.any_eq_true, decide_eq_true_iff, Plays]

theorem Plays.isSome (plays : world.Plays id character) : (world.entity? id).isSome := by
  obtain ⟨actor, known, -⟩ := plays
  obtain ⟨entity, found, -⟩ := Option.map_eq_some_iff.mp known
  exact Option.isSome_iff_exists.mpr ⟨entity, found⟩

theorem Plays.lt_size (plays : world.Plays id character) : id < world.entities.size := by
  obtain ⟨entity, found⟩ := Option.isSome_iff_exists.mp plays.isSome
  exact (Array.getElem?_eq_some_iff.mp (Option.join_eq_some_iff.mp found)).1

/-- A character is looked up among all entities, in the order of registration. -/
theorem characterEntity?_eq_find? : world.characterEntity? character =
    (List.range world.entities.size).find? fun id =>
      (world.actor? id).any fun actor => actor.character = some character := by
  rw [characterEntity?, present, List.find?_filter]
  congr 1
  funext id
  by_cases plays : world.Plays id character
  · simp [any_actor?_iff.mpr plays, plays.isSome]
  · simp [Bool.eq_false_iff.mpr fun found => plays (any_actor?_iff.mp found)]

theorem characterEntity?_eq_some_iff :
    world.characterEntity? character = some id ↔ world.FirstPlays id character := by
  rw [characterEntity?_eq_find?, List.find?_range_eq_some, FirstPlays, any_actor?_iff]
  constructor
  · rintro ⟨plays, -, first⟩
    refine ⟨plays, fun other before also => ?_⟩
    simpa [any_actor?_iff.mpr also] using first other before
  · rintro ⟨plays, first⟩
    refine ⟨plays, List.mem_range.mpr plays.lt_size, fun other before => ?_⟩
    simpa [Bool.eq_false_iff, any_actor?_iff] using first other before

theorem characterEntity?_eq_none_iff :
    world.characterEntity? character = none ↔ ∀ id, ¬world.Plays id character := by
  rw [characterEntity?_eq_find?, List.find?_eq_none]
  constructor
  · intro nobody id plays
    exact nobody id (List.mem_range.mpr plays.lt_size) (any_actor?_iff.mpr plays)
  · intro nobody id _ found
    exact nobody id (any_actor?_iff.mp found)

end World

/-- The leader is in the first slot, or in the next one that is occupied. -/
theorem Party.leader_eq (party : Party) :
    party.leader = (party.slot 0).or ((party.slot 1).or (party.slot 2)) := by
  obtain ⟨⟨⟨slots⟩, long⟩, available, locked⟩ := party
  match slots, long with
  | [first, second, third], _ => cases first <;> cases second <;> cases third <;> rfl

/-! ## Operands -/

namespace Company

open Reading Arithmetic

/-- The entity that stands for a party slot. -/
def memberOf? (session : Session) (world : World) (slot : Nat) : Option EntityId :=
  (session.party.slot slot).bind world.characterEntity?

theorem memberOf?_eq_some_iff {session : Session} {world : World} {slot : Nat} {id : EntityId} :
    memberOf? session world slot = some id ↔
      ∃ character, session.party.slot slot = some character ∧ world.FirstPlays id character := by
  simp only [memberOf?, Option.bind_eq_some_iff, World.characterEntity?_eq_some_iff]

theorem toOption_partyMember (session : Session) (world : World) (slot : UInt8) :
    (partyMember session world slot).toOption = memberOf? session world slot.toNat := by
  unfold partyMember memberOf?
  cases session.party.slot slot.toNat with
  | none => rfl
  | some character =>
      cases found : world.characterEntity? character <;> simp [found, Except.toOption]

/-- The entities that stand for the slots behind the first, in the order of the slots. -/
def followers (session : Session) (world : World) : List EntityId :=
  [1, 2].filterMap (memberOf? session world)

/-- Where the one stands who stands for the first slot, or why there is nobody. -/
def centerOf (session : Session) (world : World) : Except ExecError Position := do
  let first ← partyMember session world 0
  match world.actor? first with
  | none => throw .entityGone
  | some actor => return actor.position

/-- The middle is where the entity stands that stands for the first slot. -/
theorem centerOf_eq {session : Session} {world : World} :
    (session.party.slot 0 = none → centerOf session world = .error (.emptyPartySlot 0)) ∧
    (∀ {character}, session.party.slot 0 = some character →
      ((∀ id, ¬world.Plays id character) →
        centerOf session world = .error (.noCharacterEntity character)) ∧
      (∀ {first body}, world.FirstPlays first character → world.actor? first = some body →
        centerOf session world = .ok body.position)) := by
  unfold centerOf partyMember
  rw [UInt8.toNat_zero]
  refine ⟨fun empty => ?_, fun taken => ⟨fun nobody => ?_, fun plays stands => ?_⟩⟩
  · simp only [empty]
    rfl
  · simp only [taken, World.characterEntity?_eq_none_iff.mpr nobody]
    rfl
  · simp only [taken, World.characterEntity?_eq_some_iff.mpr plays]
    show (match world.actor? _ with | none => _ | some actor => _) = _
    rw [stands]
    rfl

/-- What the walkers are told. -/
inductive Aim
  /-- To go to the one in the middle, and to disappear there. -/
  | gather
  /-- To appear there, and to go to a point each, to face a direction. -/
  | part (goals : List (Point × UInt8))

namespace Aim

/-- The walks of some entities. -/
def walks (center : Position) (walkers : List EntityId) : Aim → List Walk
  | gather => walkers.map fun entity =>
      { entity, goal := center, direction := none, visibleAfter := false }
  | part goals => (walkers.zip (goals.map fun (point, direction) =>
      (({ x := point.x, y := point.y, z := center.z } : Position), direction))).map
        fun (entity, goal, direction) =>
          { entity, goal, direction := some direction, visibleAfter := true }

/-- What happens before the walkers set out. -/
def effects (center : Position) (walkers : List EntityId) : Aim → List Effect
  | gather => []
  | part _ => walkers.flatMap fun entity =>
      [.actor entity (.lift center), .actor entity (.setFlag .visible true)]

/-- A walker who sets out. -/
def place (center : Position) (actor : Actor) : Aim → Actor
  | gather => actor
  | part _ => { actor with position := center }.setFlag .visible true

/-- There is an aim for each walker. -/
def Covers (walkers : List EntityId) : Aim → Prop
  | gather => True
  | part goals => walkers.length ≤ goals.length

theorem map_entity_walks {aim : Aim} {walkers : List EntityId} (covers : aim.Covers walkers)
    (center : Position) : (aim.walks center walkers).map Walk.entity = walkers := by
  cases aim with
  | gather =>
      simp only [walks, List.map_map]
      exact List.map_id walkers
  | part goals =>
      simp only [walks, List.map_map]
      exact List.map_fst_zip (by simpa [Covers] using covers)

theorem place_place (aim : Aim) (center : Position) (actor : Actor) :
    aim.place center (aim.place center actor) = aim.place center actor := by
  cases aim with
  | gather => rfl
  | part goals => simp [place, Actor.setFlag, UInt16.or_assoc]

end Aim

/-- The two points that a parting party is told with their directions, behind three bytes of
selectors. -/
def goalsAt (memory : Memory) (code : Array UInt8) (place : Nat) :
    Except ExecError (List (Point × UInt8)) := do
  let front : Selectors := { byte := byteAt code place }
  let middle : Selectors := { byte := byteAt code (place + 1) }
  let back : Selectors := { byte := byteAt code (place + 2) }
  let x1 ← Control.operand memory front.high (wordAt code (place + 3)).toUInt16
  let y1 ← Control.operand memory front.low (wordAt code (place + 5)).toUInt16
  let direction1 ← Control.operand memory middle.high (byteAt code (place + 7)).toUInt16
  let x2 ← Control.operand memory middle.low (wordAt code (place + 8)).toUInt16
  let y2 ← Control.operand memory back.high (wordAt code (place + 10)).toUInt16
  let direction2 ← Control.operand memory back.low (byteAt code (place + 12)).toUInt16
  return [({ x := x1.toInt16.toInt32, y := y1.toInt16.toInt32 }, direction1.toUInt8),
    ({ x := x2.toInt16.toInt32, y := y2.toInt16.toInt32 }, direction2.toUInt8)]

/-- What the walkers are told, and for how many frames they walk. -/
def marchAt (op : Opcode) (memory : Memory) (code : Array UInt8) (place : Nat) :
    Except ExecError (Aim × UInt8) :=
  match op with
  | .join => .ok (.gather, byteAt code place)
  | .split => (goalsAt memory code place).map fun goals => (.part goals, byteAt code (place + 13))
  | _ => .error (.unknownOpcode op.byte place)

/-- An instruction has an aim for each of the others. -/
theorem covers_of_marchAt {op : Opcode} {memory : Memory} {code : Array UInt8} {place : Nat}
    {aim : Aim} {frames : UInt8} (read : marchAt op memory code place = .ok (aim, frames))
    (session : Session) (world : World) : aim.Covers (followers session world) := by
  have few : (followers session world).length ≤ 2 := List.length_filterMap_le ..
  unfold marchAt at read
  split at read
  · cases read
    trivial
  · cases found : goalsAt memory code place with
    | error error =>
        rw [found] at read
        cases read
    | ok goals =>
        rw [found] at read
        cases read
        obtain ⟨x1, -, found⟩ := exists_of_bind_eq_ok found
        obtain ⟨y1, -, found⟩ := exists_of_bind_eq_ok found
        obtain ⟨direction1, -, found⟩ := exists_of_bind_eq_ok found
        obtain ⟨x2, -, found⟩ := exists_of_bind_eq_ok found
        obtain ⟨y2, -, found⟩ := exists_of_bind_eq_ok found
        obtain ⟨direction2, -, found⟩ := exists_of_bind_eq_ok found
        cases found
        exact few
  · cases read

/-- The opcodes that let the party walk. -/
def marching : List Opcode := [.join, .split]

/-- The plan of a walk of the party. -/
def marchPlan (scene : Scene) (told : (Aim × UInt8) × Position) : Plan :=
  let walkers := followers scene.session scene.world
  let walks := told.1.1.walks told.2 walkers
  let frames := told.1.2.toUInt16
  .act
    (told.1.1.effects told.2 walkers ++
      [.log (.choreographyStarted scene.entity walks.length frames),
        .choreography walks frames (scene.lane.token scene.entity scene.priority)])
    (.pause .choreography)

variable {scene : Scene} {cursor : Cursor}

theorem leaderAndOthers_eq : leaderAndOthers scene cursor =
    (partyMember scene.session scene.world 0).map fun first =>
      ((first, followers scene.session scene.world), cursor) := by
  have others : ([1, 2].filterMap fun slot : UInt8 =>
      (partyMember scene.session scene.world slot).toOption) =
        followers scene.session scene.world := by
    simp only [toOption_partyMember]
    rfl
  rw [leaderAndOthers, bind_apply, partyEntity, bind_scene]
  cases partyMember scene.session scene.world 0 with
  | error error => rfl
  | ok first =>
      rw [← others]
      rfl

/-- A reading that goes on from the place around which the party walks. -/
theorem around_eq {α : Type} (next : Position → List EntityId → Reading α) :
    (leaderAndOthers >>= fun found => actorOf found.1 >>= fun actor =>
        next actor.position found.2) scene cursor =
      (centerOf scene.session scene.world).bind fun center =>
        next center (followers scene.session scene.world) scene cursor := by
  rw [bind_apply, leaderAndOthers_eq, centerOf]
  cases partyMember scene.session scene.world 0 with
  | error error => rfl
  | ok first =>
      show (actorOf first >>= _) scene cursor = _
      rw [actorOf, bind_assoc, bind_scene]
      show _ = (match scene.world.actor? first with
        | none => (Except.error ExecError.entityGone : Except ExecError Position)
        | some actor => Except.ok actor.position).bind _
      cases scene.world.actor? first <;> rfl

/-- The walk of a party with an aim. -/
theorem march_eq (aim : Aim) (frames : UInt8) :
    (leaderAndOthers >>= fun found => actorOf found.1 >>= fun actor =>
        walkTogether (aim.effects actor.position found.2) (aim.walks actor.position found.2)
          frames.toUInt16) scene cursor =
      (centerOf scene.session scene.world).map fun center =>
        (marchPlan scene ((aim, frames), center), cursor) := by
  refine (around_eq fun center walkers => walkTogether (aim.effects center walkers)
    (aim.walks center walkers) frames.toUInt16).trans ?_
  cases centerOf scene.session scene.world <;> rfl

theorem gather_of_le (inside : cursor.pc + 1 ≤ cursor.code.size) :
    gather scene cursor = (centerOf scene.session scene.world).map fun center =>
      (marchPlan scene ((.gather, byteAt cursor.code cursor.pc), center), cursor.forward 1) := by
  rw [gather, bind_of_ok (byte_of_le inside)]
  exact march_eq .gather (byteAt cursor.code cursor.pc)

theorem part_of_le (inside : cursor.pc + 14 ≤ cursor.code.size) :
    part scene cursor =
      (goalsAt scene.session.memory cursor.code cursor.pc).bind fun goals =>
        (centerOf scene.session scene.world).map fun center =>
          (marchPlan scene ((.part goals, byteAt cursor.code (cursor.pc + 13)), center),
            cursor.forward 14) := by
  have at1 : cursor.pc + 1 ≤ cursor.code.size := by omega
  have at2 : cursor.pc + (1 + 1) ≤ cursor.code.size := by omega
  have at3 : cursor.pc + (2 + 1) ≤ cursor.code.size := by omega
  have at5 : cursor.pc + (3 + 2) ≤ cursor.code.size := by omega
  have at7 : cursor.pc + (5 + 2) ≤ cursor.code.size := by omega
  have at8 : cursor.pc + (7 + 1) ≤ cursor.code.size := by omega
  have at10 : cursor.pc + (8 + 2) ≤ cursor.code.size := by omega
  have at12 : cursor.pc + (10 + 2) ≤ cursor.code.size := by omega
  have at13 : cursor.pc + (12 + 1) ≤ cursor.code.size := by omega
  simp only [part, bind_of_ok (selectors_of_le at1), bind_of_ok (selectors_forward at2),
    bind_of_ok (selectors_forward at3), bind_of_ok (signed_forward at5),
    bind_of_ok (signed_forward at7), bind_of_ok (byte_forward at8),
    bind_of_ok (signed_forward at10), bind_of_ok (signed_forward at12),
    bind_of_ok (byte_forward at13), bind_of_ok (byte_forward inside),
    bind_of_operand (loadCoordinate_eq _ _), bind_of_operand (loadByte_eq _ _)]
  rw [goalsAt]
  refine bind_eq_bind_bind fun x1 => bind_eq_bind_bind fun y1 => bind_eq_bind_bind fun direction1 =>
    bind_eq_bind_bind fun x2 => bind_eq_bind_bind fun y2 => bind_eq_bind_bind fun direction2 =>
      march_eq (.part [({ x := x1.toInt16.toInt32, y := y1.toInt16.toInt32 }, direction1.toUInt8),
        ({ x := x2.toInt16.toInt32, y := y2.toInt16.toInt32 }, direction2.toUInt8)])
          (byteAt cursor.code (cursor.pc + 13))

theorem plans_of_marching {op : Opcode} (member : op ∈ marching) :
    op.Plans
      (fun scene code place => (marchAt op scene.session.memory code place).bind fun told =>
        (centerOf scene.session scene.world).map (told, ·)) marchPlan := by
  simp only [marching, List.mem_cons, List.not_mem_nil, or_false] at member
  rcases member with rfl | rfl
  · refine .of_works 1 rfl fun scene cursor inside => (gather_of_le inside).trans ?_
    cases centerOf scene.session scene.world <;> rfl
  · refine .of_works 14 rfl fun scene cursor inside => (part_of_le inside).trans ?_
    rw [marchAt]
    cases goalsAt scene.session.memory cursor.code cursor.pc with
    | error error => rfl
    | ok goals => cases centerOf scene.session scene.world <;> rfl

/-- Before they set out, the walkers are put where they are to appear, and nobody else is. -/
theorem performAll_effects {σ : Type} (setting : Setting σ) (machine : Machine σ) (aim : Aim)
    (center : Position) (walkers : List EntityId) :
    ∃ world : World, Effect.performAll setting machine (aim.effects center walkers) =
        ({ machine with world }, none) ∧
      world.roster = machine.world.roster ∧ world.spawned = machine.world.spawned ∧
      ∀ other, world.actor? other = if other ∈ walkers then
        (machine.world.actor? other).map (aim.place center ·) else machine.world.actor? other := by
  cases aim with
  | gather => exact ⟨machine.world, rfl, rfl, rfl, fun other => by simp [Aim.place]⟩
  | part goals =>
      induction walkers generalizing machine with
      | nil => exact ⟨machine.world, rfl, rfl, rfl, fun other => by simp⟩
      | cons walker rest ih =>
          obtain ⟨put, done, roster, spawned, actors⟩ := Effect.performAll_changes setting machine
            walker [.lift center, .setFlag .visible true]
          obtain ⟨world, further, rosters, kept, others⟩ := ih { machine with world := put }
          refine ⟨world, ?_, rosters.trans roster, kept.trans spawned, fun other => ?_⟩
          · show Effect.performAll setting machine ([.lift center, .setFlag .visible true].map
              (.actor walker) ++ (Aim.part goals).effects center rest) = _
            rw [Machine.performAll_append, done]
            exact further
          · have first : put.actor? other = if other = walker then
                (machine.world.actor? other).map ((Aim.part goals).place center ·) else
                machine.world.actor? other := actors other
            rw [others other, first]
            by_cases own : other = walker
            · -- He may walk for the next slot as well, and is put in the same place again.
              simp only [own, if_true, List.mem_cons, true_or]
              split
              · simp only [Option.map_map, Function.comp_def, Aim.place_place]
              · rfl
            · simp [own]

/-- The plan of an entity that takes up the part of a character. -/
def partPlan (leader : Option UInt8) (entity : EntityId) (character : UInt8) : Plan :=
  .next (.actor entity (.setCharacter character) ::
    if leader = some character then [.stage (.setPlayer entity)] else [])

theorem plans_pc : Opcode.pc.Plans (fun _ code place => .ok (byteAt code place))
    fun scene => partPlan scene.session.party.leader scene.entity := by
  refine .of_works 1 rfl fun scene cursor inside => ?_
  rw [Movement.playCharacter, bind_of_ok (byte_of_le inside)]
  show (if scene.session.party.leader = some (byteAt cursor.code cursor.pc) then _ else _ :
    Reading Plan) scene _ = _
  simp only [partPlan, Except.bind]
  split <;> rfl

end Company

/-! ## Steps -/

namespace Machine

open Company

variable {σ : Type} {setting : Setting σ} {machine : Machine σ} {id : EntityId}
  {priority place : Nat} {lane : Lane} {op : Opcode}

/-- The party has set out: the others walk around a place, the lane waits for them, and it has not
been given up. -/
structure Departs (machine : Machine σ) (id : EntityId) (priority next : Nat) (lane : Lane)
    (aim : Aim) (frames : UInt8) (center : Position) (after : Machine σ) : Prop where
  walks : after.world.spawned = machine.world.spawned.push (.choreography
    { walks := aim.walks center (followers machine.session machine.world)
      frames := frames.toUInt16
      token := lane.token id priority })
  waits : after.world.lane? id priority = some (lane.pause next .choreography)
  faults : after.world.faults = machine.world.faults
  bodies : ∀ other, after.world.actor? other =
    if other ∈ followers machine.session machine.world then
      (machine.world.actor? other).map (aim.place center ·) else machine.world.actor? other

variable (setting) in
theorem departs_of_march (here : machine.world.lane? id priority = some lane) (next : Nat)
    (told : (Aim × UInt8) × Position) :
    let stepped := machine.carryOut setting id priority place next lane
      (marchPlan (machine.sceneOf setting id priority place lane) told)
    stepped.2 = .released ∧
      machine.Departs id priority next lane told.1.1 told.1.2 told.2 stepped.1 := by
  obtain ⟨⟨aim, frames⟩, center⟩ := told
  obtain ⟨world, done, roster, spawned, actors⟩ := performAll_effects setting machine aim center
    (followers machine.session machine.world)
  simp only [marchPlan, sceneOf, carryOut, performAll_append, done]
  have there : world.lane? id priority = some lane := by
    rw [← World.lane?_roster, roster, World.lane?_roster, here]
  refine ⟨rfl, ?_, ?_, congrArg Roster.faults roster, fun other => ?_⟩
  · show world.spawned.push _ = _
    rw [spawned]
  · exact lane?_updateLane_self there _
  · exact (congrFun (World.actor?_updateLane world id priority _) other).trans (actors other)

/-- A step on an instruction that lets the party walk, all of whose bytes are there. -/
theorem step_of_marching (here : machine.world.lane? id priority = some lane)
    (begins : lane.Begins setting.source.code place op) (member : op ∈ marching)
    (inside : place + op.size ≤ setting.source.code.size) :
    let stepped := machine.step setting id priority
    let fails (error : ExecError) := stepped =
      ((machine.note (.executing id priority place op.byte)).giveUp setting id priority place error,
        .released)
    match marchAt op machine.session.memory setting.source.code (place + 1) with
    | .error error => fails error
    | .ok (aim, frames) =>
        (machine.session.party.slot 0 = none → fails (.emptyPartySlot 0)) ∧
        (∀ character, machine.session.party.slot 0 = some character →
          ((∀ other, ¬machine.world.Plays other character) → fails (.noCharacterEntity character)) ∧
          ∀ first body, machine.world.FirstPlays first character →
            machine.world.actor? first = some body → stepped.2 = .released ∧
              machine.Departs id priority (place + op.size) lane aim frames body.position
                stepped.1) := by
  intro stepped fails
  have same := step_of_plans (plans_of_marching member) here begins inside
  dsimp only [sceneOf] at same
  obtain ⟨empty, taken⟩ := @centerOf_eq machine.session machine.world
  split
  · next error failed =>
      rw [failed] at same
      exact same
  · next aim frames read =>
      rw [read] at same
      refine ⟨fun free => ?_, fun character held =>
        ⟨fun nobody => ?_, fun first body plays stands => ?_⟩⟩
      · rw [empty free] at same
        exact same
      · rw [(taken held).1 nobody] at same
        exact same
      · rw [(taken held).2 plays stands] at same
        have noted : (machine.note (.executing id priority place op.byte)).world.lane? id priority =
            some lane := here
        obtain ⟨ended, departs⟩ := departs_of_march setting noted (place + op.size)
          ((aim, frames), body.position)
        exact ⟨(congrArg Prod.snd same).trans ended, by
          rw [show stepped.1 = _ from congrArg Prod.fst same]
          exact ⟨departs.walks, departs.waits, departs.faults, departs.bodies⟩⟩

/-- A step on an instruction by which an entity takes up a part. -/
theorem step_of_pc (here : machine.world.lane? id priority = some lane)
    (begins : lane.Begins setting.source.code place .pc)
    (inside : place + Opcode.pc.size ≤ setting.source.code.size) :
    let stepped := machine.step setting id priority
    let character := byteAt setting.source.code (place + 1)
    stepped.2 = .goOn ∧ stepped.1.world.Plays id character ∧
      stepped.1.world.stage.player = if machine.session.party.leader = some character then some id
        else machine.world.stage.player := by
  intro stepped character
  have same : stepped = carryOut setting id priority place (place + Opcode.pc.size) lane
      (partPlan machine.session.party.leader id character)
      (machine.note (.executing id priority place Opcode.pc.byte)) :=
    step_of_plans plans_pc here begins inside
  obtain ⟨entity, known, -⟩ := Option.bind_eq_some_iff.mp here
  have named : (machine.world.updateActor id
      ((ActorChange.setCharacter character).apply ·)).Plays id character := by
    refine ⟨{ entity.actor with character := some character }, ?_, rfl⟩
    rw [World.actor?_updateActor, if_pos rfl, World.actor?, known]
    rfl
  have kept {world : World} (plays : world.Plays id character) (change : Lane → Lane) :
      (world.updateLane id priority change).Plays id character := by
    rwa [World.Plays, World.actor?_updateLane]
  rw [same]
  by_cases leads : machine.session.party.leader = some character
  · rw [partPlan, if_pos leads, if_pos leads]
    exact ⟨rfl, kept named _, rfl⟩
  · rw [partPlan, if_neg leads, if_neg leads]
    exact ⟨rfl, kept named _, rfl⟩

/-- The party walks around whoever stands for its first slot.

The leader of a party is in its first occupied slot, and an entity that takes up a part becomes the
player just if it is the leader's.  Somebody stands for a slot just if he is the first entity of the
field that plays the character in it.

An instruction that lets the party walk fails if one of its operands cannot be read, or the first
slot is empty, or nobody in the field plays the character in it.  Otherwise that character is the
leader, and those who stand for the other slots set out, in the order of the slots: to the place of
the first entity that plays the leader, or from there. -/
theorem walks_around_first_slot (setting : Setting σ) :
    (∀ party : Party, party.leader = (party.slot 0).or ((party.slot 1).or (party.slot 2))) ∧
    (∀ (session : Session) (world : World) (slot : Nat) (id : EntityId),
      memberOf? session world slot = some id ↔
        ∃ character, session.party.slot slot = some character ∧ world.FirstPlays id character) ∧
    (∀ {machine : Machine σ} {id : EntityId} {priority place : Nat} {lane : Lane},
      machine.world.lane? id priority = some lane → lane.Begins setting.source.code place .pc →
      place + Opcode.pc.size ≤ setting.source.code.size →
      let stepped := machine.step setting id priority
      let character := byteAt setting.source.code (place + 1)
      stepped.2 = .goOn ∧ stepped.1.world.Plays id character ∧
        stepped.1.world.stage.player = if machine.session.party.leader = some character then some id
          else machine.world.stage.player) ∧
    (∀ {machine : Machine σ} {id : EntityId} {priority place : Nat} {lane : Lane} {op : Opcode},
      machine.world.lane? id priority = some lane → lane.Begins setting.source.code place op →
      op ∈ marching → place + op.size ≤ setting.source.code.size →
      let stepped := machine.step setting id priority
      let party := machine.session.party
      let fails (error : ExecError) := stepped =
        ((machine.note (.executing id priority place op.byte)).giveUp setting id priority place
          error, .released)
      match marchAt op machine.session.memory setting.source.code (place + 1) with
      | .error error => fails error
      | .ok (aim, frames) =>
          (party.slot 0 = none → fails (.emptyPartySlot 0)) ∧
          ∀ character, party.slot 0 = some character → party.leader = some character ∧
            ((∀ other, ¬machine.world.Plays other character) →
              fails (.noCharacterEntity character)) ∧
            ∀ first body, machine.world.FirstPlays first character →
              machine.world.actor? first = some body →
              stepped.2 = .released ∧
              machine.Departs id priority (place + op.size) lane aim frames body.position
                stepped.1 ∧
              (aim.walks body.position (followers machine.session machine.world)).map Walk.entity =
                followers machine.session machine.world) := by
  refine ⟨Party.leader_eq, fun _ _ _ _ => memberOf?_eq_some_iff, step_of_pc, ?_⟩
  intro machine id priority place lane op here begins member inside stepped party fails
  have step := step_of_marching here begins member inside
  split
  · next error failed => simpa only [failed] using step
  · next aim frames read =>
      simp only [read] at step
      obtain ⟨empty, taken⟩ := step
      refine ⟨empty, fun character held =>
        ⟨?_, (taken character held).1, fun first body plays stands => ?_⟩⟩
      · rw [Party.leader_eq, show machine.session.party.slot 0 = some character from held]
        rfl
      · obtain ⟨released, departs⟩ := (taken character held).2 first body plays stands
        exact ⟨released, departs, Aim.map_entity_walks (covers_of_marchAt read _ _) _⟩

end Machine

/-! ## A party with a gap -/

namespace Gap

/-- An entity takes a character out of the party, takes up the part of another one, and lets the
party gather; two more entities take up parts. -/
def setting : Setting Unit :=
  .ofScripts [[0xC9, 0x09, 0xA0, 0x03, 0x08, 0x04, 0x00, 0x00], [0xA0, 0x05, 0x00, 0x00],
    [0xA0, 0x07, 0x00, 0x00]]

/-- The field of a party in which all parts have been taken up. -/
def played (slots : Vector (Option UInt8) partySize) : Machine Unit :=
  let entered := setting.entered { Session.fresh setting.config with party := { slots } }
  ((entered.afterSteps setting 1 0 1).afterSteps setting 2 0 1).afterSteps setting 0 0 2

/-- The party that is left when its first member has been taken out. -/
def gapped : Machine Unit := played #v[some 9, some 3, none]

/-- A party of three. -/
def full : Machine Unit := played #v[some 3, some 7, some 5]

/-- The leader is in the second slot, and the entity that plays him is the player, but the party
does not gather around him. -/
theorem leader_is_not_found :
    gapped.session.party.leader = some 3 ∧ gapped.world.FirstPlays 0 3 ∧
      gapped.world.stage.player = some 0 ∧ gapped.world.lane? 0 0 = some (.at 254) ∧
      setting.source.code[254]? = some Opcode.join.byte ∧ gapped.world.faults = 0 ∧
      (gapped.step setting 0 0).1.world.faults = 1 := by
  rw [← World.characterEntity?_eq_some_iff]
  decide +kernel

/-- A whole party gathers: the entities in the second and third slot set out to the leader. -/
theorem whole_party_gathers :
    full.session.party.leader = some 3 ∧ full.world.FirstPlays 0 3 ∧
      ∃ body, full.world.actor? 0 = some body ∧ (full.step setting 0 0).2 = .released ∧
        full.Departs 0 0 256 (.at 254) .gather 4 body.position (full.step setting 0 0).1 ∧
        (Company.Aim.gather.walks body.position [2, 1]).map Walk.entity = [2, 1] := by
  obtain ⟨-, -, -, march⟩ := Machine.walks_around_first_slot setting
  obtain ⟨here, held, cast, others, named, frames, inside⟩ :
      full.world.lane? 0 0 = some (.at 254) ∧ full.session.party.slot 0 = some 3 ∧
        full.world.characterEntity? 3 = some 0 ∧
        Company.followers full.session full.world = [2, 1] ∧
        setting.source.code[254]? = some Opcode.join.byte ∧ byteAt setting.source.code 255 = 4 ∧
        256 ≤ setting.source.code.size := by decide +kernel
  have behind : 254 + Opcode.join.size = 256 := by decide +kernel
  have told : Company.marchAt .join full.session.memory setting.source.code 255 =
      .ok (.gather, byteAt setting.source.code 255) := rfl
  have plays := World.characterEntity?_eq_some_iff.mp cast
  obtain ⟨body, stands, -⟩ := plays.1
  have walk := march here (Lane.begins_at named) (by decide) (behind ▸ inside)
  simp only [told, frames, behind] at walk
  obtain ⟨leads, -, gathers⟩ := walk.2 3 held
  obtain ⟨released, departs, walkers⟩ := gathers 0 body plays stands
  rw [others] at walkers
  exact ⟨leads, plays, body, stands, released, departs, walkers⟩

end Gap

end FieldMachine
