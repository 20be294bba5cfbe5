import FieldMachine.Proofs.Admission
import FieldMachine.Proofs.Animation
import FieldMachine.Proofs.Removal
import FieldMachine.Proofs.Stride

/-!
# One tick of a walk

Five opcodes let an entity walk to a point, to another entity or to a member of the
party (`Movement.course?`).  Each tick of such a walk has a leg before it: where the
walker stands and where its goal is at the moment, how far the tick leads, and the
radius in which the goal is reached (`Leg`).  Inside the radius the walk is over
(`Movement.walk_of_arrives`); further away it leads one step on, if there is a
triangle of the walkmesh to step onto (`Movement.walk_of_not_arrives`).

A step that is not longer than the radius leads closer to the goal and not beyond it
(`Leg.after_closer`).
-/

namespace FieldMachine

set_option autoImplicit false

/-! ## Legs -/

/-- What is before a walker in one tick. -/
structure Leg where
  start : Point
  goal : Point
  step : Int32
  /-- How near to the goal is near enough. -/
  radius : Int32
  /-- The triangle from which on the next one is looked for. -/
  hint : UInt16
deriving DecidableEq

namespace Leg

variable (leg : Leg)

def way : Point := leg.goal.sub leg.start

/-- The distance that is left. -/
def distance : Float32 := leg.way.length

/-- Whether the goal is near enough. -/
def Arrives : Prop := leg.distance ≤ toSingle leg.radius

instance : Decidable leg.Arrives := inferInstanceAs (Decidable (_ ≤ _))

/-- The place that the step leads to. -/
def next : Point := leg.start.advance leg.way leg.distance leg.step

/-- Where the next place lies on the walkmesh. -/
def triangle? (senses : Senses) : Option UInt16 :=
  senses.triangleAt leg.next.x leg.next.y leg.hint

/-- The leg after the step; without a triangle to step onto, the walker stays where it is. -/
def after : Option UInt16 → Leg
  | none => leg
  | some triangle => { leg with start := leg.next, hint := triangle }

variable {leg}

/-- A step that is not longer than the radius leads closer to the goal and not beyond it. -/
theorem after_closer (triangle? : Option UInt16) (least : 1 ≤ leg.step.toInt)
    (le : leg.step.toInt ≤ leg.radius.toInt) (small : leg.radius.toInt < 2 ^ 24)
    (beyond : ¬leg.Arrives) (near : leg.start.IsNear) (near' : leg.goal.IsNear) :
    (leg.after triangle?).start.IsBetween leg.start leg.goal ∧
      (triangle?.isSome → (leg.after triangle?).start.gap leg.goal < leg.start.gap leg.goal) := by
  have short := Point.lt_length_of_radius leg.way (by omega) le small beyond
  cases triangle? with
  | none => exact ⟨Point.isBetween_start leg.start leg.goal, nofun⟩
  | some triangle =>
      obtain ⟨between, moved⟩ := Point.advance_closer near near' least (by omega) short
      exact ⟨between, fun _ => between.gap_lt moved⟩

end Leg

namespace Movement

open Reading

/-- The leg of a walker. -/
def legOf (config : Config) (walker : Actor) (goal : MoveGoal) (spot : Point) (reach : Int32) : Leg :=
  let step := stepLength walker.moveSpeed config.moveDivisor
  { start := walker.position.ground
    goal := spot
    step
    radius := arrivalRadius goal reach walker step
    hint := walker.triangle }

/-- The leg of a walk of an entity, unless its goal is gone. -/
def leg? (config : Config) (world : World) (id : EntityId) (goal : MoveGoal) : Option Leg := do
  let (spot, reach) ← walkGoal? world goal
  let walker ← world.actor? id
  return legOf config walker goal spot reach

/-! ## Courses -/

/-- The goal of an instruction that walks to a point. -/
def pointCourse (style : MoveStyle) : Reading (MoveGoal × MoveStyle) := do
  let selectors ← selectors
  let x ← signed
  let y ← signed
  let x ← loadCoordinate selectors.high x
  let y ← loadCoordinate selectors.low y
  return (.point { x, y }, style)

/-- The goal of an instruction that walks up to an entity. -/
def entityCourse : Reading (MoveGoal × MoveStyle) := do
  let index ← byte
  return (.entity (← entityAt index), .walk)

/-- The goal of an instruction that walks up to a member of the party. -/
def memberCourse : Reading (MoveGoal × MoveStyle) := do
  let slot ← byte
  return (.entity (← partyEntity slot), .walk)

/-- Where an instruction that begins a walk leads, and how. -/
def course? : Opcode → Option (Reading (MoveGoal × MoveStyle))
  | .move => some (pointCourse .walk)
  | .cmove => some (pointCourse .keepFacing)
  | .fmove => some (pointCourse .silent)
  | .mova => some entityCourse
  | .pmova => some memberCourse
  | _ => none

theorem walkToPoint_eq (style : MoveStyle) :
    walkToPoint style = pointCourse style >>= fun course => walk course.1 course.2 := by
  unfold walkToPoint pointCourse
  simp only [bind_assoc]
  rfl

theorem walkToEntity_eq :
    walkToEntity = entityCourse >>= fun course => walk course.1 course.2 := by
  unfold walkToEntity entityCourse
  simp only [bind_assoc]
  rfl

theorem walkToMember_eq :
    walkToMember = memberCourse >>= fun course => walk course.1 course.2 := by
  unfold walkToMember memberCourse
  simp only [bind_assoc]
  rfl

/-- Such an instruction begins the walk that its operands name. -/
theorem plan?_of_course? {op : Opcode} {course : Reading (MoveGoal × MoveStyle)}
    (leads : course? op = some course) :
    op.plan? = some (course >>= fun course => walk course.1 course.2) := by
  cases op with
  | move | cmove | fmove =>
      cases leads
      exact congrArg some (walkToPoint_eq _)
  | mova =>
      cases leads
      exact congrArg some walkToEntity_eq
  | pmova =>
      cases leads
      exact congrArg some walkToMember_eq
  | _ => cases leads

theorem not_jumps_of_course? {op : Opcode} {course : Reading (MoveGoal × MoveStyle)}
    (leads : course? op = some course) {scene : Scene} {cursor : Cursor} :
    ¬op.jumps scene cursor := by
  cases op with
  | move | cmove | fmove | mova | pmova => exact id
  | _ => cases leads

theorem entityCourse_eq {scene : Scene} {cursor : Cursor} {index : UInt8}
    (named : cursor.code[cursor.pc]? = some index)
    (known : (scene.world.entity? index.toNat).isSome) :
    entityCourse scene cursor = .ok ((.entity index.toNat, .walk), cursor.forward 1) := by
  rw [entityCourse, bind_of_ok (Cursor.byte_eq_ok.mpr ⟨named, rfl⟩)]
  exact bind_of_ok (Control.entityAt_of_known known)

/-- A point that a script names is near: its coordinates have 16 bits. -/
theorem pointCourse_near {scene : Scene} {cursor : Cursor} (style : MoveStyle) :
    (pointCourse style).Gives scene cursor
      fun course => ∃ spot, course = (.point spot, style) ∧ spot.IsNear := by
  have coordinate {after : Cursor} (selector : UInt8) (raw : Int16) :
      (loadCoordinate selector raw).Gives scene after fun value => |value.toInt| < 2 ^ 20 := by
    refine .past fun value => .pure ?_
    have low := value.le_toInt
    have high := value.toInt_lt
    rw [Int16.toInt_toInt32, abs_lt]
    omega
  refine .past fun selectors => .past fun x => .past fun y => ?_
  refine .bind (coordinate selectors.high x) fun x near => ?_
  refine .bind (coordinate selectors.low y) fun y near' => ?_
  exact .pure ⟨{ x, y }, rfl, near, near'⟩

/-! ## Steps and radii -/

theorem toInt_toInt32 {n : UInt32} (small : n.toNat < 2 ^ 31) : n.toInt32.toInt = n.toNat := by
  show n.toBitVec.toInt = _
  rw [BitVec.toInt_eq_toNat_bmod]
  exact Int.bmod_eq_of_le (by omega) (by show (n.toNat : ℤ) < _; omega)

theorem toInt_range (range : UInt16) : range.toUInt32.toInt32.toInt = range.toNat := by
  have small := range.toNat_lt
  rw [toInt_toInt32 (by rw [UInt16.toNat_toUInt32]; omega), UInt16.toNat_toUInt32]

theorem toInt_add_ranges (first second : UInt16) :
    (first.toUInt32.toInt32 + second.toUInt32.toInt32).toInt = first.toNat + second.toNat := by
  have small := first.toNat_lt
  have small' := second.toNat_lt
  rw [Int32.toInt_add, toInt_range, toInt_range]
  exact Int.bmod_eq_of_le (by omega) (by omega)

theorem toInt_stepLength (speed divisor : UInt16) :
    (stepLength speed divisor).toInt = max (speed.toNat / max divisor.toNat 1) 1 := by
  have small : max (speed.toNat / max divisor.toNat 1) 1 < 2 ^ 16 := by
    have part := Nat.div_le_self speed.toNat (max divisor.toNat 1)
    have bound := speed.toNat_lt
    omega
  have value : (max (speed.toNat / max divisor.toNat 1) 1).toUInt32.toNat =
      max (speed.toNat / max divisor.toNat 1) 1 :=
    UInt32.toNat_ofNat_of_lt' (by rw [UInt32.size]; omega)
  rw [stepLength, toInt_toInt32 (by omega), value]

/-! ## One tick -/

section Tick

variable {scene : Scene} {cursor : Cursor} {goal : MoveGoal} {style : MoveStyle} {walker : Actor}
  {spot : Point} {reach : Int32}

theorem scene_eq : Reading.scene scene cursor = .ok (scene, cursor) := rfl

theorem senses_eq : Reading.senses scene cursor = .ok (scene.senses, cursor) := rfl

theorem map_of_ok {α β : Type} {reading : Reading α} {value : α} {after : Cursor}
    {change : α → β} (read : reading scene cursor = .ok (value, after)) :
    (change <$> reading) scene cursor = .ok (change value, after) := by
  rw [map_eq_pure_bind, bind_of_ok read]
  rfl

/-- What a tick of a walk comes to, once it is known where the walker stands and where its goal is. -/
theorem walk_eq (known : scene.world.actor? scene.entity = some walker)
    (leads : walkGoal? scene.world goal = some (spot, reach)) :
    let leg := legOf scene.config walker goal spot reach
    walk goal style scene cursor =
      (if leg.Arrives then do return .next (← arrive goal style)
      else match leg.triangle? scene.senses with
        | none => return .act [] (.suspend (.move goal style))
        | some triangle =>
            do return .act (← walkOn style leg.way leg.next triangle) (.suspend (.move goal style)) :
        Reading Plan) scene cursor := by
  rw [walk, bind_of_ok scene_eq, leads]
  exact bind_of_ok (Acting.self_of_actor known)

/-- Where a walker is put that has come to a point. -/
def arrival (senses : Senses) (walker : Actor) (point : Point) : ActorChange :=
  let triangle := (senses.triangleAt point.x point.y walker.triangle).getD walker.triangle
  .place { x := point.x, y := point.y,
           z := (senses.heightAt triangle point.x point.y).getD walker.position.z } triangle

/-- At its goal, a walker may be put on the spot and stand still. -/
theorem arrive_eq (known : scene.world.actor? scene.entity = some walker) (goal : MoveGoal)
    (style : MoveStyle) (cursor : Cursor) :
    ∃ changes : List ActorChange,
      arrive goal style scene cursor = .ok (changes.map (.actor scene.entity), cursor) := by
  have self : Reading.self scene cursor = .ok (walker, cursor) := Acting.self_of_actor known
  have placed (point : Point) : placeAt point.x point.y none walker.triangle scene cursor =
      .ok (arrival scene.senses walker point, cursor) := by
    rw [placeAt, bind_of_ok senses_eq]
    exact bind_of_ok self
  have stands : loopedAnimation walker.idleAnimation scene cursor =
      .ok (.looped walker.idleAnimation 0 (scene.senses.lastFrame walker.model walker.idleAnimation),
        cursor) := by
    rw [loopedAnimation, bind_of_ok senses_eq, bind_of_ok self]
    rfl
  rw [arrive, bind_of_ok self]
  cases goal with
  | point point =>
      dsimp only
      rw [bind_of_ok (map_of_ok (placed point))]
      cases style with
      | walk =>
          dsimp only
          rw [bind_of_ok (map_of_ok stands)]
          exact ⟨_, rfl⟩
      | _ => exact ⟨_, rfl⟩
  | entity other =>
      dsimp only
      rw [pure_bind]
      cases style with
      | walk =>
          dsimp only
          rw [bind_of_ok (map_of_ok stands)]
          exact ⟨_, rfl⟩
      | _ => exact ⟨[], rfl⟩

/-- Near enough to its goal, a walk is over. -/
theorem walk_of_arrives (known : scene.world.actor? scene.entity = some walker)
    (leads : walkGoal? scene.world goal = some (spot, reach))
    (arrives : (legOf scene.config walker goal spot reach).Arrives) :
    ∃ changes : List ActorChange,
      walk goal style scene cursor = .ok (.next (changes.map (.actor scene.entity)), cursor) := by
  obtain ⟨changes, arrived⟩ := arrive_eq known goal style cursor
  refine ⟨changes, ?_⟩
  rw [walk_eq known leads, if_pos arrives, bind_of_ok arrived]
  rfl

/-- Further away, it makes one step and goes on, or stays where it is if there is no way on. -/
theorem walk_of_not_arrives (known : scene.world.actor? scene.entity = some walker)
    (leads : walkGoal? scene.world goal = some (spot, reach))
    (beyond : ¬(legOf scene.config walker goal spot reach).Arrives) :
    ∃ changes : List ActorChange,
      walk goal style scene cursor =
        .ok (.act (changes.map (.actor scene.entity)) (.suspend (.move goal style)), cursor) ∧
      legOf scene.config (changes.foldl ActorChange.apply walker) goal spot reach =
        (legOf scene.config walker goal spot reach).after
          ((legOf scene.config walker goal spot reach).triangle? scene.senses) := by
  rw [walk_eq known leads, if_neg beyond]
  cases found : (legOf scene.config walker goal spot reach).triangle? scene.senses with
  | none => exact ⟨[], rfl, rfl⟩
  | some triangle =>
      let leg := legOf scene.config walker goal spot reach
      let height := (scene.senses.heightAt triangle leg.next.x leg.next.y).getD walker.position.z
      let turns : List ActorChange := if walker.hasFlag .faceFixed || style = .keepFacing then []
        else [.face leg.way.heading]
      let walks : List ActorChange :=
        if style = .walk && !(walker.animation.id = walkAnimation && walker.animation.looping) then
          [.animate (.looped walkAnimation 0 (scene.senses.lastFrame walker.model walkAnimation))]
        else []
      let changes : List ActorChange :=
        [.place { x := leg.next.x, y := leg.next.y, z := height } triangle] ++ turns ++ walks
      have stepped : walkOn style leg.way leg.next triangle scene cursor =
          .ok (changes.map (.actor scene.entity), cursor) := by
        rw [walkOn, bind_of_ok (Acting.self_of_actor known)]
        exact bind_of_ok senses_eq
      refine ⟨changes, bind_of_ok stepped, ?_⟩
      -- neither turning nor walking leads anywhere
      dsimp only [changes, turns, walks]
      split <;> split <;> rfl

end Tick

end Movement

end FieldMachine
