import FieldMachine.Reading

/-!
# Placing, walking and turning

Where the running entity stands and looks.  A walk, a jump and a climb take
several ticks: each tick they move the entity on and suspend the instruction,
until the goal is reached.  The triangle and the height of a place come from the
walkmesh of the host unless the script gives them.
-/

namespace FieldMachine.Movement

set_option autoImplicit false

open Reading

/-! ## Identity -/

/-- Lets the entity play a character; the one who plays the leader becomes the player. -/
def playCharacter : Reading Plan := do
  let character ← byte
  let effects ← changeSelf [.setCharacter character]
  if (← session).party.leader = some character then
    return .next (effects ++ [.stage (.setPlayer (← scene).entity)])
  else return .next effects

/-- Sets the model. -/
def setModel : Reading Plan := do
  let model ← byte
  return .next (← changeSelf [.setModel model])

/-- Lets another entity be the player. -/
def setPlayer : Reading Plan := do
  let index ← byte
  return .next [.stage (.setPlayer (← entityAt index))]

/-- Switches a flag. -/
def setFlag (flag : ActorFlag) (read : Reading Bool) : Reading Plan := do
  let on ← read
  return .next (← changeSelf [.setFlag flag on])

/-- Gives the player control or takes it away. -/
def allowControl : Reading Plan := do
  let on ← inverseSwitch
  return .next [.stage (.setUserControl on)]

/-- Locks or unlocks a triangle of the walkmesh. -/
def lockTriangle : Reading Plan := do
  let triangle ← word
  let locked ← switch
  return .next [.lockTriangle triangle locked]

/-! ## Places -/

/-- Moves the entity to a place, looking up on the walkmesh what is not given. -/
def placeAt (x y : Int32) (z : Option Int32) (hint : UInt16) : Reading ActorChange := do
  let senses ← senses
  let triangle := (senses.triangleAt x y hint).getD hint
  let height := z.orElse fun _ => senses.heightAt triangle x y
  return .place { x, y, z := height.getD (← self).position.z } triangle

/-- Places the entity on a triangle. -/
def place : Reading Plan := do
  let front ← selectors
  let back ← selectors
  let x ← signed
  let y ← signed
  let z ← signed
  let triangle ← word
  let x ← loadCoordinate front.high x
  let y ← loadCoordinate front.low y
  let z ← loadCoordinate back.high z
  let triangle ← load back.low triangle
  return .next (← changeSelf [.place { x, y, z } triangle])

/-- Places the entity on a triangle at its height. -/
def placeOnTriangle : Reading Plan := do
  let front ← selectors
  let back ← selectors
  let x ← signed
  let y ← signed
  let triangle ← word
  let x ← loadCoordinate front.high x
  let y ← loadCoordinate front.low y
  let triangle ← load back.high triangle
  let height := ((← senses).heightAt triangle x y).getD (← self).position.z
  return .next (← changeSelf [.place { x, y, z := height } triangle])

/-- Places the entity in space and looks up its triangle. -/
def placeInSpace : Reading Plan := do
  let front ← selectors
  let back ← selectors
  let x ← signed
  let y ← signed
  let z ← signed
  let x ← loadCoordinate front.high x
  let y ← loadCoordinate front.low y
  let z ← loadCoordinate back.high z
  return .next (← changeSelf [← placeAt x y (some z) (← self).triangle])

/-- Stores the place of an entity in four cells. -/
def storePlace : Reading Plan := do
  let front ← selectors
  let back ← selectors
  let index ← byte
  let x ← byte
  let y ← byte
  let z ← byte
  let triangle ← byte
  let actor ← actorAt index
  return .next
    [.store front.high x actor.position.x.toUInt32.toUInt16,
      .store front.low y actor.position.y.toUInt32.toUInt16,
      .store back.high z actor.position.z.toUInt32.toUInt16,
      .store back.low triangle actor.triangle]

/-- Stores the place of an entity on the ground in two cells. -/
def storeGround : Reading Plan := do
  let selectors ← selectors
  let index ← byte
  let x ← byte
  let y ← byte
  let position := (← actorAt index).position
  return .next
    [.store selectors.high x position.x.toUInt32.toUInt16,
      .store selectors.low y position.y.toUInt32.toUInt16]

/-- Stores the triangle of an entity. -/
def storeTriangle : Reading Plan := do
  let selectors ← selectors
  let index ← byte
  let address ← byte
  return .next [.store selectors.high address (← actorAt index).triangle]

/-- Stores the direction of an entity. -/
def storeDirection : Reading Plan := do
  let selectors ← selectors
  let index ← byte
  let address ← byte
  return .next [.store selectors.high address (← actorAt index).direction.toUInt16]

/-! ## Walking -/

/-- The animation played while walking. -/
def walkAnimation : UInt8 := 1

/-- An animation that starts over, from its first frame to the last one of the model. -/
def loopedAnimation (id : UInt8) : Reading Animation := do
  return .looped id 0 ((← senses).lastFrame (← self).model id)

/-- Where a walk leads at the moment, and how far the goal reaches out. -/
def walkGoal? (world : World) : MoveGoal → Option (Point × Int32)
  | .point goal => some (goal, 0)
  | .entity id =>
      (world.actor? id).map fun actor =>
        (actor.position.ground, actor.solidRange.toUInt32.toInt32)

/-- How far one tick of a walk leads; never less than one unit. -/
def stepLength (speed divisor : UInt16) : Int32 :=
  (max (speed.toNat / max divisor.toNat 1) 1).toUInt32.toInt32

/-- The distance at which a walk is over: one step from a point, and touching an entity. -/
def arrivalRadius (goal : MoveGoal) (reach : Int32) (actor : Actor) (step : Int32) : Int32 :=
  match goal with
  | .point _ => step
  | .entity _ => reach + actor.solidRange.toUInt32.toInt32

/-- The end of a walk. -/
def arrive (goal : MoveGoal) (style : MoveStyle) : Reading (List Effect) := do
  let actor ← self
  let place ← match goal with
    | .point point => (fun change => [change]) <$> placeAt point.x point.y none actor.triangle
    | .entity _ => pure []
  let rest ← match style with
    | .walk => (fun animation => [.animate animation]) <$> loopedAnimation actor.idleAnimation
    | _ => pure []
  changeSelf (place ++ rest)

/-- One tick on the way to a point, onto a triangle. -/
def walkOn (style : MoveStyle) (way next : Point) (triangle : UInt16) :
    Reading (List Effect) := do
  let actor ← self
  let senses ← senses
  let height := (senses.heightAt triangle next.x next.y).getD actor.position.z
  let facingFixed := actor.hasFlag .faceFixed || style = .keepFacing
  let walking := actor.animation.id = walkAnimation && actor.animation.looping
  let last := senses.lastFrame actor.model walkAnimation
  changeSelf
    ([.place { x := next.x, y := next.y, z := height } triangle]
      ++ (if facingFixed then [] else [.face way.heading])
      ++ (if style = .walk && !walking then [.animate (.looped walkAnimation 0 last)] else []))

/-- One tick of a walk.  A walk towards an entity that is gone is over; off the walkmesh the walker
stays where it is and tries again. -/
def walk (goal : MoveGoal) (style : MoveStyle) : Reading Plan := do
  let scene ← scene
  match walkGoal? scene.world goal with
  | none => return .next []
  | some (point, reach) =>
      let actor ← self
      let start := actor.position.ground
      let step := stepLength actor.moveSpeed scene.config.moveDivisor
      let way := point.sub start
      let distance := way.length
      if distance ≤ toSingle (arrivalRadius goal reach actor step) then
        return .next (← arrive goal style)
      else
        let next := start.advance way distance step
        match scene.senses.triangleAt next.x next.y actor.triangle with
        | none => return .act [] (.suspend (.move goal style))
        | some triangle =>
            return .act (← walkOn style way next triangle) (.suspend (.move goal style))

/-- Walks to a point. -/
def walkToPoint (style : MoveStyle) : Reading Plan := do
  let selectors ← selectors
  let x ← signed
  let y ← signed
  let x ← loadCoordinate selectors.high x
  let y ← loadCoordinate selectors.low y
  walk (.point { x, y }) style

/-- Walks up to an entity. -/
def walkToEntity : Reading Plan := do
  let index ← byte
  walk (.entity (← entityAt index)) .walk

/-- Walks up to the entity that plays the character in a party slot. -/
def walkToMember : Reading Plan := do
  let slot ← byte
  walk (.entity (← partyEntity slot)) .walk

/-! ## Jumps and climbs -/

/-- The share of a jump or climb that is over. -/
def shareOf (path : Path) : Float32 :=
  if path.frames = 0 then 1.0 else path.frame.toFloat32 / path.frames.toFloat32

/-- The place on the way, with the height of a jump on top. -/
def placeOnWay (path : Path) (share : Float32) : Position :=
  let position := path.start.between path.goal share
  { position with
    z := position.z + roundToInt (4.0 * toSingle path.height * share * (1.0 - share)) }

/-- One tick of a jump or a climb. -/
def follow (path : Path) (rest : Path → Continuation) : Reading Plan := do
  let path :=
    { path with frame := if path.frame < path.frames then path.frame + 1 else path.frames }
  let share := shareOf path
  if 1.0 ≤ share then
    let changes := ActorChange.place path.goal path.triangle
      :: path.direction.toList.map ActorChange.look
    return .next (← changeSelf changes)
  else
    return .act (← changeSelf [.lift (placeOnWay path share)]) (.suspend (rest path))

/-- Jumps to a triangle. -/
def jump : Reading Plan := do
  let front ← selectors
  let back ← selectors
  let x ← signed
  let y ← signed
  let triangle ← word
  let height ← signed
  let x ← loadCoordinate front.high x
  let y ← loadCoordinate front.low y
  let triangle ← load back.high triangle
  let height ← loadCoordinate back.low height
  let start := (← self).position
  let landing := ((← senses).heightAt triangle x y).getD start.z
  follow
    { start
      goal := { x, y, z := landing }
      triangle
      height := height * 4
      frame := 0
      frames := (if height < 1 then 1 else height).toUInt32.toUInt16
      direction := none }
    .jump

/-- The number of frames that a climb takes, at least one. -/
def climbFrames (distance : Float32) (speed : UInt8) : UInt16 :=
  let frames := (distance / (max speed 1).toFloat32).ceil
  (if frames < 1.0 then 1.0 else frames).toUInt16

/-- Climbs a ladder. -/
def climb : Reading Plan := do
  let front ← selectors
  let back ← selectors
  let x ← signed
  let y ← signed
  let z ← signed
  let triangle ← word
  let _ ← byte
  let animation ← byte
  let direction ← byte
  let speed ← byte
  let x ← loadCoordinate front.high x
  let y ← loadCoordinate front.low y
  let z ← loadCoordinate back.high z
  let triangle ← load back.low triangle
  let start := (← self).position
  let goal : Position := { x, y, z }
  let climbing ← changeSelf [.animate (← loopedAnimation animation)]
  let plan ← follow
    { start
      goal
      triangle
      height := 0
      frame := 0
      frames := climbFrames (start.distance goal) speed
      direction := some direction }
    .ladder
  match plan with
  | .act effects ending => return .act (climbing ++ effects) ending
  | .retry entries => return .retry entries

/-! ## Turning -/

/-- Turns to a direction; without steps the turn is made at once. -/
def turnTo (goal : UInt8) (rotation : Rotation) (steps : UInt8) (smooth : Bool) :
    Reading Plan := do
  if steps = 0 then return .next (← changeSelf [.face goal])
  else
    let start := (← self).direction
    return .next (← changeSelf
      [.startTurn { start, delta := rotation.steps start goal, step := 0, steps := steps.toUInt16,
                    smooth }])

/-- The direction from the running entity to another. -/
def directionTo (id : EntityId) : Reading UInt8 := do
  let goal := (← actorOf id).position.ground
  let start := (← self).position.ground
  return (goal.sub start).heading

/-- Turns to an entity. -/
def turnToEntity : Reading Plan := do
  let index ← byte
  let rotation ← byte
  let steps ← byte
  let goal ← directionTo (← entityAt index)
  turnTo goal (Rotation.ofByte rotation) steps false

/-- Turns to the entity that plays the character in a party slot. -/
def turnToMember : Reading Plan := do
  let slot ← byte
  let steps ← byte
  let rotation ← byte
  let goal ← directionTo (← partyEntity slot)
  turnTo goal (Rotation.ofByte rotation) steps false

/-- Faces a direction. -/
def face : Reading Plan := do
  let selectors ← selectors
  let direction ← byte
  let direction ← loadByte selectors.high direction
  turnTo direction .closest 0 false

/-- Faces an entity. -/
def faceEntity : Reading Plan := do
  let index ← byte
  turnTo (← directionTo (← entityAt index)) .closest 0 false

/-- Faces the entity that plays the character in a party slot. -/
def faceMember : Reading Plan := do
  let slot ← byte
  turnTo (← directionTo (← partyEntity slot)) .closest 0 false

/-- Turns to a direction over some steps. -/
def turn : Reading Plan := do
  let selectors ← selectors
  let goal ← byte
  let rotation ← byte
  let steps ← byte
  let easing ← byte
  let goal ← loadByte selectors.high goal
  turnTo goal (Rotation.ofByte rotation) steps (Easing.ofByte easing = .smooth)

/-- Waits for the end of a turn. -/
def awaitTurn : Reading Plan := do
  if (← self).turn.isSome then return .retry [] else return .next []

/-! ## Speeds and ranges -/

/-- Reads an operand of two bytes with a selector. -/
def loadedWord : Reading UInt16 := do
  let selectors ← selectors
  let raw ← word
  load selectors.high raw

/-- Reads an operand of one byte with a selector. -/
def loadedByte : Reading UInt16 := do
  let selectors ← selectors
  let raw ← byte
  return (← loadByte selectors.high raw).toUInt16

/-- Sets a number of the running entity. -/
def setNumber (read : Reading UInt16) (change : UInt16 → ActorChange) : Reading Plan := do
  let value ← read
  return .next (← changeSelf [change value])

/-! ## Offsets -/

/-- Moves the picture of the entity away from its place. -/
def shift : Reading Plan := do
  let front ← selectors
  let back ← selectors
  let easing ← byte
  let x ← signed
  let y ← signed
  let z ← signed
  let frames ← word
  let x ← loadSigned front.high x
  let y ← loadSigned front.low y
  let z ← loadSigned back.high z
  let frames ← load back.low frames
  let goal : Displacement := { x := x.toFloat32, y := y.toFloat32, z := z.toFloat32 }
  return .next [.shift (← scene).entity goal frames (Easing.ofByte easing)]

/-- Waits for the end of a shift. -/
def awaitShift : Reading Plan := do
  if (← self).offsetMoving then return .retry [] else return .next []

end FieldMachine.Movement
