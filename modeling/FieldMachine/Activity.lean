import FieldMachine.Stage
import FieldMachine.Actor

/-!
# Background activities

Movements that go on beside the lanes, one step per frame: camera scrolls, fades
of the screen, offsets of an entity's picture, choreographies of the party, and
countdowns that the host starts.  An activity names entities and never holds them,
so that one whose entity is gone simply ends.
-/

namespace FieldMachine

set_option autoImplicit false

/-- Where a scroll leads. -/
inductive ScrollTarget
  | point (goal : Point)
  /-- The place of an entity, wherever it goes meanwhile. -/
  | entity (target : EntityId)
deriving DecidableEq

/-- A scroll of the camera. -/
structure Scroll where
  target : ScrollTarget
  frames : UInt16
  easing : Easing
  serial : UInt32
  /-- Where the camera stood at the first step. -/
  start : Option Point := none
  step : UInt32 := 0
deriving DecidableEq

/-- A fade of the screen towards an amount. -/
structure Fading where
  target : UInt16
  /-- The change per frame; at least one is made. -/
  step : UInt16
  serial : UInt32
deriving DecidableEq

/-- A movement of the offset of an entity's picture. -/
structure Shift where
  entity : EntityId
  goal : Displacement
  frames : UInt16
  easing : Easing
  serial : UInt32
  /-- The offset at the first step. -/
  start : Option Displacement := none
  step : UInt32 := 0

/-- One walker of a choreography. -/
structure Walk where
  entity : EntityId
  goal : Position
  /-- The direction faced on arrival. -/
  direction : Option UInt8
  /-- Whether the walker can be seen after its arrival. -/
  visibleAfter : Bool
  /-- Where the walker stood at the first step. -/
  start : Option Position := none
deriving DecidableEq

/-- Several walkers who set out together, and the lane that waits for all of them. -/
structure Choreography where
  walks : List Walk
  frames : UInt16
  token : ResumeToken
  step : UInt32 := 0
deriving DecidableEq

/-- A countdown of the host, which is told of every frame; its end can wake a lane. -/
structure Countdown where
  id : Int64
  frames : Nat
  wake : Option ResumeToken
deriving DecidableEq

/-- A background activity. -/
inductive Activity
  | scroll (scroll : Scroll)
  | fade (fading : Fading)
  | shift (shift : Shift)
  | choreography (choreography : Choreography)
  | countdown (countdown : Countdown)

end FieldMachine
