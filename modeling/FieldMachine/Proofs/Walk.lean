import FieldMachine.Proofs.Leg

/-!
# Walks and their goals

A lane is on a walk if it has come to an instruction that begins one, or is suspended
in one (`Machine.Walks`).  In a turn that does not arrive it is suspended again, with
the walker one step on or, off the walkmesh, where it was.

Such turns make up a journey (`Machine.Journey`).  To a point, the radius in which the
goal is reached is one step; to an entity, it is the sum of the two solid ranges,
however long a step is.  As long as no step is longer than the radius
(`Machine.KeepsApart`), no step is longer than the distance that is left, and a journey
to a goal that stands still leads closer with each step
(`Machine.walk_never_overshoots`).  With a longer step, a walker can jump back and forth
across an entity for ever (`Machine.chase_never_ends`).
-/

namespace FieldMachine

set_option autoImplicit false

/-! ## The turn of a walker -/

/-- Where an entity stands. -/
def World.ground? (world : World) (id : EntityId) : Option Point :=
  (world.actor? id).map (·.position.ground)

namespace Machine

variable {σ : Type} {setting : Setting σ} {machine : Machine σ} {id : EntityId} {priority : Nat}
  {goal : MoveGoal} {style : MoveStyle} {leg : Leg}

/-- A lane is on a walk: it has come to an instruction that begins one, or is suspended in one. -/
inductive Walks (setting : Setting σ) (machine : Machine σ) (id : EntityId) (priority : Nat)
    (goal : MoveGoal) (style : MoveStyle) : Prop
  | setsOut {lane : Lane} {ip : Nat} {op : Opcode} {course : Reading (MoveGoal × MoveStyle)}
      {after : Cursor} (here : machine.world.lane? id priority = some lane) (active : lane.isActive)
      (stands : lane.ip? = some ip) (fresh : lane.suspended? = none)
      (opcode : setting.source.code[ip]? = some op.byte)
      (leads : Movement.course? op = some course)
      (read : course (machine.sceneOf setting id priority ip lane)
        ((Cursor.atStart setting.source.code ip).forward 1) = .ok ((goal, style), after))
  | goesOn {lane : Lane} {ip next : Nat} (here : machine.world.lane? id priority = some lane)
      (active : lane.isActive) (stands : lane.ip? = some ip)
      (suspended : lane.suspended? = some ⟨next, .move goal style⟩)
      (inside : next ≤ setting.source.code.size)

/-- The leg that an entity has before it. -/
def leg? (setting : Setting σ) (id : EntityId) (goal : MoveGoal) (machine : Machine σ) : Option Leg :=
  Movement.leg? setting.config machine.world id goal

/-- A lane on a walk carries out what a tick of it comes to. -/
theorem Walks.step_eq (walks : machine.Walks setting id priority goal style) :
    ∃ (lane : Lane) (ip : Nat) (cursor : Cursor) (noted : Machine σ),
      machine.world.lane? id priority = some lane ∧ noted.world = machine.world ∧
      ∀ plan, Movement.walk goal style (machine.sceneOf setting id priority ip lane) cursor =
          .ok (plan, cursor) →
        cursor.pc ≤ setting.source.code.size ∧
        machine.step setting id priority =
          noted.carryOut setting id priority ip cursor.pc lane plan := by
  cases walks with
  | @setsOut lane ip op course after here active stands fresh opcode leads read =>
      refine ⟨lane, ip, after, machine.note (.executing id priority ip op.byte), here, rfl,
        fun plan worked => ?_⟩
      have known := Movement.plan?_of_course? leads
      have read : (course >>= fun course => Movement.walk course.1 course.2)
          (machine.sceneOf setting id priority ip lane)
          ((Cursor.atStart setting.source.code ip).forward 1) = .ok (plan, after) :=
        (Reading.bind_of_ok read).trans worked
      have fetched := fetch_eq_ok.mpr ⟨opcode, planOfByte?_eq_some.mpr ⟨op, rfl, known⟩, rfl⟩
      obtain ⟨same, called, does⟩ := worked_of_fetch fetched read
      cases Opcode.byte_injective called
      refine ⟨?_, step_of_reading here active stands fresh opcode known read⟩
      rw [does.passes (Movement.not_jumps_of_course? leads)]
      exact instructionLength?_le does.long
  | @goesOn lane ip next here active stands suspended inside =>
      let cursor : Cursor := { Cursor.atStart setting.source.code ip with pc := next }
      have moved : (Cursor.atStart setting.source.code ip).moveTo next = .ok cursor := if_pos inside
      refine ⟨lane, ip, cursor, machine.onRecord setting id priority ip lane, here, ?_,
        fun plan worked => ⟨inside, ?_⟩⟩
      · rcases onRecord_eq setting machine id priority ip lane with same | ⟨byte, -, same⟩ <;>
          rw [same]
        rfl
      · have done : workOut setting.source.code (machine.sceneOf setting id priority ip lane) ip
            (some ⟨next, .move goal style⟩) = .ok (plan, next) :=
          workOut_some_eq_ok.mpr ⟨cursor, cursor, moved, worked, rfl⟩
        rw [step_eq_of_active setting here active stands, suspended, done]

theorem exists_of_leg? (leads : machine.leg? setting id goal = some leg) :
    ∃ walker spot reach, Movement.walkGoal? machine.world goal = some (spot, reach) ∧
      machine.world.actor? id = some walker ∧
      leg = Movement.legOf setting.config walker goal spot reach := by
  obtain ⟨⟨spot, reach⟩, found, leads⟩ := Option.bind_eq_some_iff.mp leads
  obtain ⟨walker, body, same⟩ := Option.bind_eq_some_iff.mp leads
  exact ⟨walker, spot, reach, found, body, (Option.some.inj same).symm⟩

namespace Walks

/-- A lane that has come to an instruction that walks up to an entity is on its way there. -/
theorem of_mova {lane : Lane} {ip : Nat} {index : UInt8}
    (here : machine.world.lane? id priority = some lane) (active : lane.isActive)
    (stands : lane.ip? = some ip) (fresh : lane.suspended? = none)
    (opcode : setting.source.code[ip]? = some Opcode.mova.byte)
    (named : setting.source.code[ip + 1]? = some index)
    (present : (machine.world.entity? index.toNat).isSome) :
    machine.Walks setting id priority (.entity index.toNat) .walk :=
  .setsOut here active stands fresh opcode rfl (Movement.entityCourse_eq named present)

/-- Near enough to the goal, the lane goes on behind the walk. -/
theorem step_of_arrives (walks : machine.Walks setting id priority goal style)
    (leads : machine.leg? setting id goal = some leg) (arrives : leg.Arrives) :
    (machine.step setting id priority).2 = .goOn := by
  obtain ⟨walker, spot, reach, found, body, rfl⟩ := exists_of_leg? leads
  obtain ⟨lane, ip, cursor, noted, -, -, steps⟩ := walks.step_eq
  obtain ⟨changes, worked⟩ := @Movement.walk_of_arrives
    (machine.sceneOf setting id priority ip lane) cursor goal style walker spot reach body found arrives
  obtain ⟨world, done, -, -⟩ := Effect.performAll_changes setting noted id changes
  rw [(steps _ worked).2, Plan.next, carryOut]
  dsimp only [sceneOf]
  rw [done]
  rfl

/-- A lane that is held has a leg before it whose goal is not near enough. -/
theorem exists_leg?_of_holding (walks : machine.Walks setting id priority goal style)
    (holds : (machine.step setting id priority).2 = .holding) :
    ∃ leg, machine.leg? setting id goal = some leg ∧ ¬leg.Arrives := by
  obtain ⟨lane, ip, cursor, noted, here, -, steps⟩ := walks.step_eq
  obtain ⟨walker, body⟩ := actor?_of_lane? here
  cases found : Movement.walkGoal? machine.world goal with
  | none =>
      have ended := Movement.walk_of_nowhere
        (show Movement.walkGoal? (machine.sceneOf setting id priority ip lane).world goal = none
          from found) style cursor
      rw [(steps _ ended).2] at holds
      cases holds
  | some goes =>
      obtain ⟨spot, reach⟩ := goes
      have leads : machine.leg? setting id goal =
          some (Movement.legOf setting.config walker goal spot reach) := by
        rw [leg?, Movement.leg?, found, body]
        rfl
      refine ⟨_, leads, fun arrives => ?_⟩
      rw [walks.step_of_arrives leads arrives] at holds
      cases holds

/-- Further away, it is suspended again, with the next leg before the walker. -/
theorem step_of_not_arrives (walks : machine.Walks setting id priority goal style)
    (leads : machine.leg? setting id goal = some leg) (beyond : ¬leg.Arrives) :
    (machine.step setting id priority).2 = .holding ∧
      (machine.step setting id priority).1.Walks setting id priority goal style ∧
      ∃ walker after spot reach, machine.world.actor? id = some walker ∧
        Movement.walkGoal? machine.world goal = some (spot, reach) ∧
        leg = Movement.legOf setting.config walker goal spot reach ∧
        Movement.legOf setting.config after goal spot reach =
          leg.after (leg.triangle? (machine.senses setting)) ∧
        ∀ other, (machine.step setting id priority).1.world.actor? other =
          if other = id then some after else machine.world.actor? other := by
  obtain ⟨walker, spot, reach, found, body, rfl⟩ := exists_of_leg? leads
  obtain ⟨lane, ip, cursor, noted, here, same, steps⟩ := walks.step_eq
  obtain ⟨changes, worked, leg⟩ := @Movement.walk_of_not_arrives
    (machine.sceneOf setting id priority ip lane) cursor goal style walker spot reach body found beyond
  obtain ⟨world, done, roster, -, actors⟩ := Effect.performAll_changes setting noted id changes
  obtain ⟨inside, stepped⟩ := steps _ worked
  rw [carryOut] at stepped
  dsimp only [sceneOf] at stepped
  rw [done] at stepped
  have stepped : machine.step setting id priority =
      ({ noted with world }.updateLane id priority
        (·.rewind ip (some ⟨cursor.pc, .move goal style⟩)), .holding) := stepped
  have there : ({ noted with world } : Machine σ).world.lane? id priority = some lane := by
    rw [← World.lane?_roster, roster, same, World.lane?_roster, here]
  rw [stepped]
  refine ⟨rfl, .goesOn (lane?_updateLane_self there _) rfl rfl rfl inside, walker,
    changes.foldl ActorChange.apply walker, spot, reach, body, found, rfl, leg, fun other => ?_⟩
  show (world.updateLane ..).actor? other = _
  rw [World.actor?_updateLane, actors, same]
  split
  case isTrue own =>
    rw [own, body]
    rfl
  case isFalse other => rfl

end Walks

/-! ## The way to a goal that stands still -/

/-- Whether the next step of an entity leads onto the walkmesh. -/
def findsWay (setting : Setting σ) (id : EntityId) (goal : MoveGoal) (machine : Machine σ) : Bool :=
  ((machine.leg? setting id goal).bind (·.triangle? (machine.senses setting))).isSome

/-- Where the goal of a walk is. -/
def goal? (goal : MoveGoal) (machine : Machine σ) : Option Point :=
  (Movement.walkGoal? machine.world goal).map Prod.fst

/-- The turns of a lane on a walk, as long as it does not arrive and is held: each begins with the walker
where the one before has left it. -/
inductive Journey (setting : Setting σ) (id : EntityId) (priority : Nat) (goal : MoveGoal)
    (style : MoveStyle) : List (Machine σ) → Point → Point → Prop
  | ends (place : Point) : Journey setting id priority goal style [] place place
  | turn {machine : Machine σ} {turns : List (Machine σ)} {start place last : Point}
      (walks : machine.Walks setting id priority goal style)
      (stands : machine.world.ground? id = some start)
      (holds : (machine.step setting id priority).2 = .holding)
      (left : (machine.step setting id priority).1.world.ground? id = some place)
      (rest : Journey setting id priority goal style turns place last) :
      Journey setting id priority goal style (machine :: turns) start last

/-- Whether the solid ranges of a walker and of the entity that it walks to keep them a step apart. -/
def KeepsApart (setting : Setting σ) (id : EntityId) (goal : MoveGoal) (machine : Machine σ) : Prop :=
  match goal with
  | .point _ => True
  | .entity other =>
      ∀ walker ∈ machine.world.actor? id, ∀ target ∈ machine.world.actor? other,
        max (walker.moveSpeed.toNat / max setting.config.moveDivisor.toNat 1) 1 ≤
          walker.solidRange.toNat + target.solidRange.toNat

instance (setting : Setting σ) (id : EntityId) (goal : MoveGoal) (machine : Machine σ) :
    Decidable (machine.KeepsApart setting id goal) :=
  match goal with
  | .point _ => inferInstanceAs (Decidable True)
  | .entity other => inferInstanceAs (Decidable (∀ walker ∈ machine.world.actor? id,
      ∀ target ∈ machine.world.actor? other, _ ≤ _))

/-- Then no step is longer than the radius in which the goal is reached. -/
theorem KeepsApart.step_le_radius (apart : machine.KeepsApart setting id goal)
    (leads : machine.leg? setting id goal = some leg) :
    leg.step.toInt ≤ leg.radius.toInt ∧ leg.radius.toInt < 2 ^ 24 := by
  obtain ⟨walker, spot, reach, found, body, rfl⟩ := exists_of_leg? leads
  have stride := Movement.toInt_stepLength walker.moveSpeed setting.config.moveDivisor
  dsimp only [Movement.legOf]
  cases goal with
  | point goal =>
      have small := walker.moveSpeed.toNat_lt
      have part := Nat.div_le_self walker.moveSpeed.toNat (max setting.config.moveDivisor.toNat 1)
      dsimp only [Movement.arrivalRadius]
      omega
  | entity other =>
      obtain ⟨target, known, same⟩ := Option.map_eq_some_iff.mp found
      cases same
      have reach := Movement.toInt_add_ranges target.solidRange walker.solidRange
      have wide := apart walker body target known
      have small := walker.solidRange.toNat_lt
      have small' := target.solidRange.toNat_lt
      dsimp only [Movement.arrivalRadius]
      omega

theorem one_le_step (leads : machine.leg? setting id goal = some leg) : 1 ≤ leg.step.toInt := by
  obtain ⟨walker, spot, reach, -, -, rfl⟩ := exists_of_leg? leads
  have stride := Movement.toInt_stepLength walker.moveSpeed setting.config.moveDivisor
  dsimp only [Movement.legOf]
  omega

theorem goal?_of_leg? (leads : machine.leg? setting id goal = some leg) :
    machine.goal? goal = some leg.goal := by
  obtain ⟨walker, spot, reach, found, -, rfl⟩ := exists_of_leg? leads
  rw [Machine.goal?, found]
  rfl

theorem ground?_of_leg? (leads : machine.leg? setting id goal = some leg) :
    machine.world.ground? id = some leg.start := by
  obtain ⟨walker, spot, reach, -, body, rfl⟩ := exists_of_leg? leads
  rw [World.ground?, body]
  rfl

/-- The walker ends up one step on, or stays where it is. -/
theorem Walks.ground?_step (walks : machine.Walks setting id priority goal style)
    (leads : machine.leg? setting id goal = some leg) (beyond : ¬leg.Arrives) :
    (machine.step setting id priority).1.world.ground? id =
      some (leg.after (leg.triangle? (machine.senses setting))).start := by
  obtain ⟨-, -, walker, after, spot, reach, -, -, -, same, actors⟩ :=
    walks.step_of_not_arrives leads beyond
  rw [World.ground?, actors, if_pos rfl, Option.map_some, ← same]
  rfl

/-- Unless the walker itself is the goal, the next leg begins where this one has led. -/
theorem Walks.leg?_step (walks : machine.Walks setting id priority goal style)
    (leads : machine.leg? setting id goal = some leg) (beyond : ¬leg.Arrives)
    (foreign : goal ≠ .entity id) :
    (machine.step setting id priority).1.leg? setting id goal =
      some (leg.after (leg.triangle? (machine.senses setting))) := by
  obtain ⟨-, -, walker, after, spot, reach, -, found, -, same, actors⟩ :=
    walks.step_of_not_arrives leads beyond
  have still : Movement.walkGoal? (machine.step setting id priority).1.world goal =
      some (spot, reach) := by
    rw [← found]
    cases goal with
    | point goal => rfl
    | entity other =>
        have apart : other ≠ id := fun same => foreign (congrArg _ same)
        rw [Movement.walkGoal?, actors, if_neg apart]
        rfl
  rw [leg?, Movement.leg?, still, actors, if_pos rfl, ← same]
  rfl

/-- A walk does not overshoot its goal, as long as the walker and the entity that it walks to are kept a
step apart by their solid ranges; a walk to a point never does.

In every tick that does not arrive, the radius is no shorter than the step, so that the step is shorter
than the distance that is left.  To a goal that stands still, each step leads closer, to a place that lies
between the place before and the goal; only where there is no way on, the walker stays.  It makes at most
as many steps as the goal is units away. -/
theorem walk_never_overshoots {start last : Point} {turns : List (Machine σ)}
    (journey : Journey setting id priority goal style turns start last)
    (apart : ∀ machine ∈ turns, machine.KeepsApart setting id goal) :
    (∀ machine ∈ turns, ∃ leg, machine.leg? setting id goal = some leg ∧
      leg.step.toInt ≤ leg.radius.toInt ∧ toSingle leg.step < leg.distance) ∧
    ∀ spot, (∀ machine ∈ turns, machine.goal? goal = some spot) → start.IsNear → spot.IsNear →
      (∀ machine ∈ turns, ∃ before after, machine.world.ground? id = some before ∧
        (machine.step setting id priority).1.world.ground? id = some after ∧
        after.IsBetween before spot ∧
        (machine.findsWay setting id goal → after.gap spot < before.gap spot)) ∧
      last.IsBetween start spot ∧
      turns.countP (findsWay setting id goal) + last.gap spot ≤ start.gap spot := by
  induction journey with
  | ends place =>
      refine ⟨List.forall_mem_nil _, ?_⟩
      intro spot _ _ _
      refine ⟨List.forall_mem_nil _, Point.isBetween_start place spot, ?_⟩
      rw [List.countP_nil, Nat.zero_add]
  | @turn machine turns start place last walks stands holds left rest ih =>
      rw [List.forall_mem_cons] at apart
      obtain ⟨leg, leads, beyond⟩ := walks.exists_leg?_of_holding holds
      obtain ⟨le, small⟩ := apart.1.step_le_radius leads
      have least := one_le_step leads
      have short := Point.lt_length_of_radius leg.way (by omega) le small beyond
      obtain ⟨shorter, approaches⟩ := ih apart.2
      refine ⟨List.forall_mem_cons.mpr ⟨⟨leg, leads, le, short⟩, shorter⟩, ?_⟩
      intro spot still near near'
      rw [List.forall_mem_cons, goal?_of_leg? leads] at still
      obtain ⟨own, still⟩ := still
      have here := ground?_of_leg? leads
      rw [stands] at here
      cases own
      cases here
      -- where the step leads, and that the rest of the journey begins there
      have ground := walks.ground?_step leads beyond
      rw [left] at ground
      obtain ⟨between, closer⟩ :=
        Leg.after_closer (leg.triangle? (machine.senses setting)) least le small beyond near near'
      rw [← Option.some.inj ground] at between closer
      have way : machine.findsWay setting id goal =
          (leg.triangle? (machine.senses setting)).isSome := by
        rw [findsWay, leads]
        rfl
      rw [← way] at closer
      obtain ⟨others, onward, few⟩ := approaches leg.goal still (between.near near near') near'
      refine ⟨List.forall_mem_cons.mpr
        ⟨⟨leg.start, place, stands, left, between, closer⟩, others⟩, between.trans onward, ?_⟩
      rw [List.countP_cons]
      split
      case isTrue finds =>
        have less := closer finds
        omega
      case isFalse =>
        have less := between.gap_le
        omega

end Machine

/-! ## A small field -/

namespace Chase

/-- Two entities.  One takes its place 50 units from the origin, sets its speed and walks up to the other,
which stands at the origin and does nothing. -/
def source (speed : UInt8) : Section :=
  { bytes := #[0xA5, 0x00, 0x00, 0x32, 0x00, 0x00, 0x00, 0x00, 0x00, 0x00, 0x00, 0xB2, 0x00, 0x00, speed,
      0xAA, 0x01, 0x00]
    version := 0, modelCount := 0, scale := 0, creator := "", name := "chase"
    entities := #[Bustle.scripts "hunter" 0 17, Bustle.scripts "prey" 17 17]
    akaoOffsets := #[], codeStart := 0, codeEnd := 18, texts := #[] }

def setting (speed : UInt8) : Setting Unit :=
  { source := source speed, config := { opsPerTick := 8 }, host := Host.accepting }

/-- The field after some turns of the hunter, from the beginning of its walk on. -/
def turn (speed : UInt8) : Nat → Machine Unit
  | 0 =>
      let entered := (Machine.enter (setting speed) (Session.fresh (setting speed).config)
        (.ofSeed 0) ()).start
      ((entered.step (setting speed) 0 0).1.step (setting speed) 0 0).1
  | count + 1 => ((turn speed count).step (setting speed) 0 0).1

/-- The lane of the hunter when its walk begins. -/
def lane : Lane := { status := .active 15 0 none none, script := 0, epoch := 1 }

/-- What is before the hunter at a place. -/
def leg (x step : Int32) : Leg :=
  { start := { x, y := 0 }, goal := { x := 0, y := 0 }, step, radius := 48, hint := 0 }

/-- The hunter comes to its walk, slow or fast. -/
theorem sets_out {speed : UInt8} (among : speed ∈ [0, 25]) :
    (turn speed 0).Walks (setting speed) 0 0 (.entity 1) .walk := by
  have comes : ∀ speed ∈ [0, 25], (turn speed 0).world.lane? 0 0 = some lane ∧
      (setting speed).source.code[15]? = some Opcode.mova.byte ∧
      (setting speed).source.code[15 + 1]? = some 1 ∧
      ((turn speed 0).world.entity? (1 : UInt8).toNat).isSome := by decide +kernel
  obtain ⟨here, opcode, named, present⟩ := comes speed among
  exact .of_mova here rfl rfl rfl opcode named present

/-- With a step of one unit, it comes from 50 units away to 49, and to 48. -/
theorem journey : Machine.Journey (setting 0) 0 0 (.entity 1) .walk [turn 0 0, turn 0 1]
    { x := 50, y := 0 } { x := 48, y := 0 } := by
  have walks := @sets_out 0 (by decide)
  have first : (turn 0 0).leg? (setting 0) 0 (.entity 1) = some (leg 50 1) := by decide +kernel
  have second : (turn 0 1).leg? (setting 0) 0 (.entity 1) = some (leg 49 1) := by decide +kernel
  have beyond : ¬(leg 50 1).Arrives ∧ ¬(leg 49 1).Arrives := by decide +kernel
  have between : ((turn 0 0).step (setting 0) 0 0).1.world.ground? 0 = some { x := 49, y := 0 } ∧
      (turn 0 1).world.ground? 0 = some { x := 49, y := 0 } := by decide +kernel
  obtain ⟨holds, further, -⟩ := walks.step_of_not_arrives first beyond.1
  have holds' := (further.step_of_not_arrives second beyond.2).1
  exact .turn walks (by decide +kernel) holds between.1
    (.turn further between.2 holds' (by decide +kernel) (.ends _))

/-- With a step of 100 units, the goal is out of reach on either side. -/
theorem not_arrives (count : Nat) : ¬(leg (if count % 2 = 0 then 50 else -50) 100).Arrives := by
  split <;> decide +kernel

/-- With a step of 100 units, it is 50 units away on one side and on the other, turn by turn. -/
theorem to_and_fro (count : Nat) :
    (turn 25 count).Walks (setting 25) 0 0 (.entity 1) .walk ∧
      (turn 25 count).leg? (setting 25) 0 (.entity 1) =
        some (leg (if count % 2 = 0 then 50 else -50) 100) := by
  induction count with
  | zero => exact ⟨sets_out (by decide), by decide +kernel⟩
  | succ count ih =>
      obtain ⟨walks, leads⟩ := ih
      have across : (leg 50 100).after ((leg 50 100).triangle? {}) = leg (-50) 100 ∧
          (leg (-50) 100).after ((leg (-50) 100).triangle? {}) = leg 50 100 := by decide +kernel
      refine ⟨(walks.step_of_not_arrives leads (not_arrives count)).2.1, ?_⟩
      refine (walks.leg?_step leads (not_arrives count) (by decide)).trans (congrArg some ?_)
      rcases Nat.mod_two_eq_zero_or_one count with even | odd
      · rw [if_pos even, if_neg (by omega)]
        exact across.1
      · rw [if_neg (by omega), if_pos (by omega)]
        exact across.2

end Chase

namespace Machine

/-- Two steps of one unit, up to a goal that is 48 units wide. -/
theorem chase_comes_closer :
    (∀ machine ∈ [Chase.turn 0 0, Chase.turn 0 1],
      ∃ leg, machine.leg? (Chase.setting 0) 0 (.entity 1) = some leg ∧
        leg.step.toInt ≤ leg.radius.toInt ∧ toSingle leg.step < leg.distance) ∧
    Point.IsBetween { x := 48, y := 0 } { x := 50, y := 0 } { x := 0, y := 0 } ∧
    [Chase.turn 0 0, Chase.turn 0 1].countP (findsWay (Chase.setting 0) 0 (.entity 1)) + 48 ≤ 50 := by
  obtain ⟨short, approaches⟩ := walk_never_overshoots Chase.journey (by decide +kernel)
  obtain ⟨-, between, few⟩ := approaches { x := 0, y := 0 } (by decide +kernel)
    ⟨by decide +kernel, by decide +kernel⟩ ⟨by decide +kernel, by decide +kernel⟩
  have distances : Point.gap { x := 48, y := 0 } { x := 0, y := 0 } = 48 ∧
      Point.gap { x := 50, y := 0 } { x := 0, y := 0 } = 50 := by decide +kernel
  rw [distances.1, distances.2] at few
  exact ⟨short, between, few⟩

/-- The solid ranges come to 48 units here, and a step to 100.  So a step is longer than the radius and
than the distance that is left; the goal is passed in every turn, on the way there and on the way back,
and the walk never ends. -/
theorem chase_never_ends :
    ((Chase.turn 25 0).Walks (Chase.setting 25) 0 0 (.entity 1) .walk ∧
      ∃ leg, (Chase.turn 25 0).leg? (Chase.setting 25) 0 (.entity 1) = some leg ∧ ¬leg.Arrives ∧
        ¬leg.step ≤ leg.radius ∧ leg.distance < toSingle leg.step) ∧
    ∀ count, ((Chase.turn 25 count).step (Chase.setting 25) 0 0).2 = .holding ∧
      (Chase.turn 25 count).world.ground? 0 =
        some { x := if count % 2 = 0 then 50 else -50, y := 0 } ∧
      (Chase.turn 25 count).goal? (.entity 1) = some { x := 0, y := 0 } := by
  obtain ⟨walks, leads⟩ := Chase.to_and_fro 0
  refine ⟨⟨walks, _, leads, by decide +kernel, by decide +kernel, by decide +kernel⟩, ?_⟩
  intro count
  obtain ⟨walks, leads⟩ := Chase.to_and_fro count
  have holds := (walks.step_of_not_arrives leads (Chase.not_arrives count)).1
  exact ⟨holds, ground?_of_leg? leads, goal?_of_leg? leads⟩

end Machine

end FieldMachine
