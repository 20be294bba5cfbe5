import FieldMachine.Scheduler

/-!
# Snapshots

A report of all lanes that were ever started, in the order of entities and
priorities, under a line with the counters of the field.
-/

namespace FieldMachine

set_option autoImplicit false

/-- A lane that was started. -/
structure LaneReport where
  entity : EntityId
  priority : Nat
  lane : Lane
deriving DecidableEq

/-- The state of a field at one time. -/
structure Snapshot where
  frame : Nat
  lanes : List LaneReport
  activities : Nat
  faults : Nat
  starved : Nat
deriving DecidableEq

namespace Snapshot

/-- The lanes of a world that were ever started. -/
def startedLanes (world : World) : List LaneReport :=
  world.present.flatMap fun entity =>
    (List.range laneCount).filterMap fun priority =>
      match world.lane? entity priority with
      | none => none
      | some lane => if lane.isIdle then none else some { entity, priority, lane }

/-- The snapshot of a world. -/
def ofWorld (world : World) : Snapshot :=
  { frame := world.frame
    lanes := startedLanes world
    activities := world.activityCount
    faults := world.faults
    starved := world.starved }

/-- How many of the lanes have a status. -/
def count (snapshot : Snapshot) (test : LaneStatus → Bool) : Nat :=
  snapshot.lanes.countP fun report => test report.lane.status

/-- How many lanes are active. -/
def activeCount (snapshot : Snapshot) : Nat :=
  snapshot.count fun status => match status with | .active .. => true | _ => false

/-- How many lanes are paused. -/
def pausedCount (snapshot : Snapshot) : Nat :=
  snapshot.count fun status => match status with | .paused .. => true | _ => false

/-- How many lanes have stopped. -/
def stoppedCount (snapshot : Snapshot) : Nat :=
  snapshot.count fun status => match status with | .stopped .. => true | _ => false

/-- The line of one lane. -/
def describeLane (report : LaneReport) : String :=
  let lane := report.lane
  let place := match lane.ip? with
    | some ip => " @0x" ++ Numeral.hexUpper 4 ip
    | none => ""
  let retries := if lane.retries = 0 then "" else s!" retries={lane.retries}"
  let reason := match lane.pauseReason? with
    | some reason => s!" ({reason.describe})"
    | none => ""
  "  [" ++ Numeral.padLeft 3 ' ' (toString report.entity) ++
    s!":{report.priority}] {lane.status.describe} script {lane.script}" ++ place ++ retries ++ reason
    ++ "\n"

/-- The text of a snapshot. -/
def describe (snapshot : Snapshot) : String :=
  s!"frame={snapshot.frame}  active={snapshot.activeCount}  paused={snapshot.pausedCount}  " ++
    s!"stopped={snapshot.stoppedCount}  processes={snapshot.activities}  " ++
    s!"faults={snapshot.faults}  starved={snapshot.starved}\n" ++
    String.join (snapshot.lanes.map describeLane)

end Snapshot

end FieldMachine
