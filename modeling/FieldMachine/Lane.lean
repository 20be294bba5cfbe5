import FieldMachine.Geometry

/-!
# Lanes

An entity runs its scripts on eight lanes, one per priority.  A lane is idle
until it is first started; then it is active, or paused until something outside
wakes it, or stopped.  What only makes sense in one of these states is stored
with that state: an active lane has a position and may hold a continuation, a
paused one has a reason, and a lane that is neither holds no completion.

Every start of a lane gives it a new epoch.  A `ResumeToken` names one epoch of
one lane of one entity, so a token that outlives its invocation wakes nothing.
-/

namespace FieldMachine

set_option autoImplicit false

/-- The number of lanes of an entity. -/
def laneCount : Nat := 8

/-- The number of script entries of an entity. -/
def scriptCount : Nat := 32

/-- The name of an entity: its place in the order of registration, which is never given out again. -/
abbrev EntityId := Nat

/-- Why a lane waits to be woken. -/
inductive PauseReason
  /-- A called script has to return. -/
  | call
  | message (window : UInt8)
  /-- A question, with the cell that takes the answer. -/
  | ask (window bank address : UInt8)
  | menu
  | movie
  | battle
  | minigame
  | tutorial
  | discChange
  | fieldJump
  /-- The party walks together or apart. -/
  | choreography
deriving DecidableEq

/-- The text of a reason. -/
def PauseReason.describe : PauseReason → String
  | .call => "Call"
  | .message window => s!"Message \x7b window: {window} \x7d"
  | .ask window bank address =>
      s!"Ask \x7b window: {window}, bank: {bank}, address: {address} \x7d"
  | .menu => "Menu"
  | .movie => "Movie"
  | .battle => "Battle"
  | .minigame => "Minigame"
  | .tutorial => "Tutorial"
  | .discChange => "DiscChange"
  | .fieldJump => "FieldJump"
  | .choreography => "Choreography"

/-- The text of an entity's name. -/
def describeEntity (entity : EntityId) : String := s!"{entity}v1"

/-- Names one invocation of one lane. -/
structure ResumeToken where
  entity : EntityId
  priority : Nat
  epoch : UInt32
deriving DecidableEq

/-- The text of a token. -/
def ResumeToken.describe (token : ResumeToken) : String :=
  s!"ResumeToken \x7b entity: {describeEntity token.entity}, priority: {token.priority}, epoch: {token.epoch} \x7d"

/-! ## Instructions that last -/

/-- How a walk looks. -/
inductive MoveStyle
  /-- Plays the walk animation and faces the way it goes. -/
  | walk
  /-- Keeps facing the same way. -/
  | keepFacing
  /-- Plays no animation. -/
  | silent
deriving DecidableEq

/-- Where a walk leads. -/
inductive MoveGoal
  | point (goal : Point)
  /-- Up to another entity. -/
  | entity (target : EntityId)
deriving DecidableEq

/-- A jump or a climb in progress. -/
structure Path where
  start : Position
  goal : Position
  triangle : UInt16
  /-- The height added at the middle of the way. -/
  height : Int32
  frame : UInt16
  frames : UInt16
  /-- The direction faced on arrival. -/
  direction : Option UInt8
deriving DecidableEq

/-- What is left of an instruction that takes several ticks. -/
inductive Continuation
  | move (goal : MoveGoal) (style : MoveStyle)
  | jump (path : Path)
  | ladder (path : Path)
  /-- Waits until the animation that plays once has ended. -/
  | animation
deriving DecidableEq

/-- A continuation with the place where the lane goes on after it. -/
structure Suspended where
  next : Nat
  continuation : Continuation
deriving DecidableEq

/-! ## Lanes -/

/-- The state of a lane, with what belongs to that state. -/
inductive LaneStatus
  /-- Never started. -/
  | idle
  | active (ip : Nat) (retries : UInt32) (suspended : Option Suspended)
      (onStop : Option ResumeToken)
  | paused (ip : Nat) (reason : PauseReason) (onStop : Option ResumeToken)
  /-- Finished, or given up after a fault at `ip`. -/
  | stopped (ip : Option Nat) (retries : UInt32)
deriving DecidableEq

/-- The text of a state. -/
def LaneStatus.describe : LaneStatus → String
  | .idle => "Idle"
  | .active .. => "Active"
  | .paused .. => "Paused"
  | .stopped .. => "Stopped"

/-- One of the eight lanes of an entity. -/
structure Lane where
  status : LaneStatus := .idle
  script : Nat := 0
  epoch : UInt32 := 0
  /-- Where the main loop of the base lane begins, once its first section has returned. -/
  mainEntry : Option Nat := none
deriving DecidableEq

namespace Lane

/-- Whether the lane can run. -/
def isActive (lane : Lane) : Bool := match lane.status with
  | .active .. => true
  | _ => false

/-- Whether the lane is taken: active or paused. -/
def isBusy (lane : Lane) : Bool := match lane.status with
  | .active .. | .paused .. => true
  | _ => false

/-- Whether the lane was ever started. -/
def isIdle (lane : Lane) : Bool := match lane.status with
  | .idle => true
  | _ => false

/-- Where the lane stands. -/
def ip? (lane : Lane) : Option Nat := match lane.status with
  | .idle => none
  | .active ip .. => some ip
  | .paused ip .. => some ip
  | .stopped ip _ => ip

/-- How often the lane has stayed on its instruction. -/
def retries (lane : Lane) : UInt32 := match lane.status with
  | .active _ retries .. => retries
  | .stopped _ retries => retries
  | _ => 0

/-- Why the lane is paused. -/
def pauseReason? (lane : Lane) : Option PauseReason := match lane.status with
  | .paused _ reason _ => some reason
  | _ => none

/-- What the lane is in the middle of. -/
def suspended? (lane : Lane) : Option Suspended := match lane.status with
  | .active _ _ suspended _ => suspended
  | _ => none

/-- Who waits for the lane to finish. -/
def onStop? (lane : Lane) : Option ResumeToken := match lane.status with
  | .active _ _ _ onStop => onStop
  | .paused _ _ onStop => onStop
  | _ => none

/-- Starts a script at its entry.  The main entry belongs to one script and is lost with it. -/
def start (lane : Lane) (entry script : Nat) (onStop : Option ResumeToken) : Lane :=
  { status := .active entry 0 none onStop
    script
    epoch := lane.epoch + 1
    mainEntry := if lane.script = script then lane.mainEntry else none }

/-- Ends the invocation. -/
def finish (lane : Lane) : Lane := { lane with status := .stopped none 0 }

/-- Gives the invocation up at `ip`; whoever waited for it is not told. -/
def abort (lane : Lane) (ip : Nat) : Lane :=
  { lane with status := .stopped (some ip) lane.retries }

/-- Goes on to another instruction. -/
def advance (lane : Lane) (next : Nat) : Lane :=
  { lane with status := .active next 0 none lane.onStop? }

/-- Stays on the instruction at `ip`, and counts that. -/
def rewind (lane : Lane) (ip : Nat) (suspended : Option Suspended) : Lane :=
  let retries := if lane.retries = 0xFFFFFFFF then lane.retries else lane.retries + 1
  { lane with status := .active ip retries suspended lane.onStop? }

/-- Waits at `next` until it is woken. -/
def pause (lane : Lane) (next : Nat) (reason : PauseReason) : Lane :=
  { lane with status := .paused next reason lane.onStop? }

/-- The lane woken, with the reason for which it was paused; only a paused lane can be woken, and
only with its own epoch. -/
def wake? (lane : Lane) (epoch : UInt32) : Option (Lane × PauseReason) :=
  match lane.status with
  | .paused ip reason onStop =>
      if lane.epoch = epoch then
        some ({ lane with status := .active ip 0 none onStop }, reason)
      else none
  | _ => none

end Lane

end FieldMachine
