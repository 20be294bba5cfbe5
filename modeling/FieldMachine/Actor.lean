import FieldMachine.Geometry

/-!
# Actors

The body of a field entity: its model and place, the animation it plays, the
turn it makes, and the flags and ranges that scripts set.  Scripts change an
actor by an `ActorChange`, one per kind of instruction, so that what a change
leaves alone can be read off its clause in `ActorChange.apply`.
-/

namespace FieldMachine

set_option autoImplicit false

/-- What can be switched on and off for an actor. -/
inductive ActorFlag
  | visible
  | solid
  | talkable
  | blink
  | lineEnabled
  /-- Keeps facing the same way while moving. -/
  | faceFixed
deriving DecidableEq

/-- The bit of a flag. -/
def ActorFlag.bit : ActorFlag → UInt16
  | .visible => 0x01
  | .solid => 0x02
  | .talkable => 0x04
  | .blink => 0x08
  | .lineEnabled => 0x10
  | .faceFixed => 0x20

/-! ## Animations -/

/-- An animation and the frame it has reached. -/
structure Animation where
  id : UInt8 := 0
  first : UInt16 := 0
  last : UInt16 := 0
  frame : UInt16 := 0
  looping : Bool := false
  /-- Goes on with the idle animation when it ends. -/
  returnToIdle : Bool := false
  playing : Bool := false
deriving DecidableEq

namespace Animation

/-- An animation that starts over when it ends. -/
def looped (id : UInt8) (first last : UInt16) : Animation :=
  { id, first, last, frame := first, looping := true, returnToIdle := false, playing := true }

/-- An animation that plays once. -/
def once (id : UInt8) (first last : UInt16) (returnToIdle : Bool) : Animation :=
  { id, first, last, frame := first, looping := false, returnToIdle, playing := true }

/-- Whether an animation that plays once is still playing. -/
def isBusy (animation : Animation) : Bool := animation.playing && !animation.looping

end Animation

/-! ## Actors -/

/-- The body of a field entity. -/
structure Actor where
  name : String
  index : Nat
  model : Option UInt8 := none
  /-- The party character that the entity plays. -/
  character : Option UInt8 := none
  position : Position := {}
  triangle : UInt16 := 0
  direction : UInt8 := 0
  flags : UInt16 := ActorFlag.solid.bit ||| ActorFlag.talkable.bit
  talkRange : UInt16 := 48
  solidRange : UInt16 := 24
  moveSpeed : UInt16 := 512
  animationSpeed : UInt16 := 16
  idleAnimation : UInt8 := 0
  animation : Animation := {}
  turn : Option Turn := none
  offset : Displacement := {}
  offsetMoving : Bool := false
  /-- Counts the offset movements, so that an old one knows when it is superseded. -/
  offsetSerial : UInt32 := 0

namespace Actor

/-- Whether a flag is on. -/
def hasFlag (actor : Actor) (flag : ActorFlag) : Bool := actor.flags &&& flag.bit ≠ 0

/-- Switches a flag on or off. -/
def setFlag (actor : Actor) (flag : ActorFlag) (on : Bool) : Actor :=
  { actor with
    flags := if on then actor.flags ||| flag.bit else actor.flags &&& ~~~flag.bit }

/-- Carries a running turn on by one step and drops it when it is complete. -/
def advanceTurn (actor : Actor) : Actor :=
  match actor.turn with
  | none => actor
  | some turn =>
      let step := if turn.step < turn.steps then turn.step + 1 else turn.steps
      let turn := { turn with step }
      { actor with
        direction := turn.direction
        turn := if step < turn.steps then some turn else none }

/-- Carries the animation on by one frame; `idleLast` tells the last frame of an idle animation. -/
def advanceAnimation (actor : Actor) (idleLast : UInt8 → UInt16) : Actor :=
  let animation := actor.animation
  if !animation.playing then actor
  else if animation.frame < animation.last then
    { actor with animation := { animation with frame := animation.frame + 1 } }
  else if animation.looping then
    { actor with animation := { animation with frame := animation.first } }
  else if animation.returnToIdle then
    { actor with
      animation := .looped actor.idleAnimation 0 (idleLast actor.idleAnimation) }
  else
    { actor with animation := { animation with playing := false } }

/-- One tick of the body: first the turn, then the animation. -/
def advance (actor : Actor) (idleLast : UInt8 → UInt16) : Actor :=
  actor.advanceTurn.advanceAnimation idleLast

end Actor

/-! ## Changes -/

/-- What an instruction does to an actor. -/
inductive ActorChange
  | setModel (model : UInt8)
  | setCharacter (character : UInt8)
  | setFlag (flag : ActorFlag) (on : Bool)
  /-- Moves the actor to a place of the walkmesh. -/
  | place (position : Position) (triangle : UInt16)
  /-- Moves the actor and leaves its triangle alone. -/
  | lift (position : Position)
  /-- Faces a direction and drops any turn in progress. -/
  | face (direction : UInt8)
  /-- Faces a direction and leaves a turn in progress alone. -/
  | look (direction : UInt8)
  | startTurn (turn : Turn)
  | setMoveSpeed (speed : UInt16)
  | setAnimationSpeed (speed : UInt16)
  | setIdleAnimation (id : UInt8)
  | animate (animation : Animation)
  | stopAnimation
  | setTalkRange (range : UInt16)
  | setSolidRange (range : UInt16)

/-- The actor after a change. -/
def ActorChange.apply (actor : Actor) : ActorChange → Actor
  | .setModel model => { actor with model := some model }
  | .setCharacter character => { actor with character := some character }
  | .setFlag flag on => actor.setFlag flag on
  | .place position triangle => { actor with position, triangle }
  | .lift position => { actor with position }
  | .face direction => { actor with direction, turn := none }
  | .look direction => { actor with direction }
  | .startTurn turn => { actor with turn := some turn }
  | .setMoveSpeed speed => { actor with moveSpeed := speed }
  | .setAnimationSpeed speed => { actor with animationSpeed := speed }
  | .setIdleAnimation id => { actor with idleAnimation := id }
  | .animate animation => { actor with animation }
  | .stopAnimation => { actor with animation := { actor.animation with playing := false } }
  | .setTalkRange range => { actor with talkRange := range }
  | .setSolidRange range => { actor with solidRange := range }

end FieldMachine
