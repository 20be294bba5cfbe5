import FieldMachine.Activity
import FieldMachine.Section
import FieldMachine.Journal

/-!
# The world of a field

Everything in a running field that changes: its entities with their lanes, the
stage, the background activities, the buttons, and the counters.  Entities are
found by the place at which they were registered.  A removed entity leaves a
hole, so that no later entity ever answers to its name.
-/

namespace FieldMachine

set_option autoImplicit false

/-- An entity of a field: its body, its script entries and its lanes. -/
structure Entity where
  actor : Actor
  entries : Vector Nat scriptCount
  lanes : Vector Lane laneCount := Vector.replicate laneCount {}

/-- Why a script is not started. -/
inductive Refusal
  | noSuchScript (script : Nat)
  | noSuchLane (priority : Nat)
  /-- The lane is taken by another invocation. -/
  | laneBusy (priority script : Nat)
deriving DecidableEq

/-- The journal entry of a refusal. -/
def Refusal.entry : Refusal → Entry
  | .noSuchScript script => .noSuchScript script
  | .noSuchLane priority => .noSuchLane priority
  | .laneBusy priority script => .laneBusy priority script

namespace Entity

/-- The entry of a script that may be started on a lane, or why it may not. -/
def admission (entity : Entity) (priority script : Nat) : Except Refusal Nat :=
  match entity.entries[script]? with
  | none => .error (.noSuchScript script)
  | some entry =>
    match entity.lanes[priority]? with
    | none => .error (.noSuchLane priority)
    | some lane =>
        if lane.isBusy then .error (.laneBusy priority lane.script) else .ok entry

/-- Changes one lane. -/
def updateLane (entity : Entity) (priority : Nat) (change : Lane → Lane) : Entity :=
  match entity.lanes[priority]? with
  | none => entity
  | some lane => { entity with lanes := entity.lanes.setIfInBounds priority (change lane) }

/-- Changes the body. -/
def updateActor (entity : Entity) (change : Actor → Actor) : Entity :=
  { entity with actor := change entity.actor }

/-- The completions that wait for lanes of the entity, from the lowest priority on. -/
def completions (entity : Entity) : List ResumeToken :=
  entity.lanes.toList.filterMap Lane.onStop?

end Entity

/-- Everything in a running field that changes. -/
structure World where
  /-- The entities by their place of registration; a removed one leaves a hole. -/
  entities : Array (Option Entity)
  stage : Stage := {}
  /-- The activities that take a step every frame, in the order in which they were queued. -/
  activities : List Activity := []
  /-- The activities that were queued in this frame and take their first step in the next one. -/
  spawned : Array Activity := #[]
  frame : Nat := 0
  keys : Keys := {}
  /-- How many lanes were given up. -/
  faults : Nat := 0
  /-- How often a lane used up its budget. -/
  starved : Nat := 0
  /-- What the host has given back since the last tick, with an answer or without. -/
  pending : List (ResumeToken × Option UInt16) := []

namespace World

/-- The world of a section that has not been entered yet. -/
def ofSection (source : Section) : World :=
  { entities := source.entities.mapIdx fun index scripts =>
      some { actor := { name := scripts.name, index }, entries := scripts.entries } }

/-- The entity with a name, unless it was removed. -/
def entity? (world : World) (id : EntityId) : Option Entity := world.entities[id]?.join

/-- The names of the entities that are present, in the order of registration. -/
def present (world : World) : List EntityId :=
  (List.range world.entities.size).filter fun id => (world.entity? id).isSome

/-- The body of an entity. -/
def actor? (world : World) (id : EntityId) : Option Actor := (world.entity? id).map Entity.actor

/-- A lane of an entity. -/
def lane? (world : World) (id : EntityId) (priority : Nat) : Option Lane :=
  (world.entity? id).bind fun entity => entity.lanes[priority]?

/-- Changes an entity that is present. -/
def updateEntity (world : World) (id : EntityId) (change : Entity → Entity) : World :=
  { world with entities := world.entities.modify id (Option.map change) }

/-- Changes the body of an entity that is present. -/
def updateActor (world : World) (id : EntityId) (change : Actor → Actor) : World :=
  world.updateEntity id (·.updateActor change)

/-- Changes a lane of an entity that is present. -/
def updateLane (world : World) (id : EntityId) (priority : Nat) (change : Lane → Lane) : World :=
  world.updateEntity id (·.updateLane priority change)

/-- Changes the stage. -/
def updateStage (world : World) (change : Stage → Stage) : World :=
  { world with stage := change world.stage }

/-- The first entity that plays a character. -/
def characterEntity? (world : World) (character : UInt8) : Option EntityId :=
  world.present.find? fun id =>
    (world.actor? id).any fun actor => actor.character = some character

/-- Wakes the lane that a token names, and tells why it was paused.  A token whose entity is gone
or whose invocation is over wakes nothing. -/
def wake (world : World) (token : ResumeToken) : World × Option PauseReason :=
  match (world.lane? token.entity token.priority).bind (·.wake? token.epoch) with
  | none => (world, none)
  | some (woken, reason) =>
      (world.updateLane token.entity token.priority fun _ => woken, some reason)

/-- Queues an activity; it takes its first step in the next frame. -/
def spawn (world : World) (activity : Activity) : World :=
  { world with spawned := world.spawned.push activity }

/-- Whether a lane can run. -/
def laneActive (world : World) (id : EntityId) (priority : Nat) : Bool :=
  (world.lane? id priority).any Lane.isActive

/-- How many activities there are. -/
def activityCount (world : World) : Nat := world.activities.length + world.spawned.size

end World

end FieldMachine
