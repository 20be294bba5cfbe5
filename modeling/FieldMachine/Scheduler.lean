import FieldMachine.Instruction
import FieldMachine.Activity.Step

/-!
# The scheduler

Lanes take turns.  In every tick each entity runs its highest active lane; when
that lane pauses or ends, the next lower active one follows, and a lane that
stays active keeps the lower ones waiting until the next tick.  A lane carries
out instructions until one of them ends its turn or its budget is used up.

An instruction that fails stops its own lane and nothing else: the lane stays on
the instruction, the fault is counted and reported, and the scan goes on.
-/

namespace FieldMachine

set_option autoImplicit false

/-- How the turn of a lane goes on after an instruction. -/
inductive Turnover
  /-- The lane carries on with the next instruction. -/
  | goOn
  /-- The turn is over and the lane still active: lower lanes wait for the next tick. -/
  | holding
  /-- The turn is over and the lane not active: lower lanes may run. -/
  | released
deriving DecidableEq

namespace Machine

variable {σ : Type}

/-! ## One instruction -/

/-- Changes a lane. -/
def updateLane (machine : Machine σ) (id : EntityId) (priority : Nat) (change : Lane → Lane) :
    Machine σ :=
  machine.updateWorld (·.updateLane id priority change)

/-- Gives a lane up that failed at `ip`, and reports it. -/
def giveUp (setting : Setting σ) (id : EntityId) (priority ip : Nat) (error : ExecError)
    (machine : Machine σ) : Machine σ :=
  let machine := machine.updateLane id priority (·.abort ip)
  let machine := machine.updateWorld fun world => { world with faults := world.faults + 1 }
  let name := ((machine.world.actor? id).map Actor.name).getD ""
  let fault : Fault := { entity := id, name, priority, ip, error }
  (machine.note (.faulted fault)).notify setting (.fault fault)

/-- Lets a lane wait at `next`. -/
def pauseLane (id : EntityId) (priority next : Nat) (reason : PauseReason)
    (machine : Machine σ) : Machine σ :=
  (machine.updateLane id priority (·.pause next reason)).note (.paused id priority reason)

/-- What the answer to a request does when it comes at once. -/
def settle (setting : Setting σ) (reason : PauseReason) (value : Option UInt16)
    (machine : Machine σ) : Machine σ × Option ExecError :=
  match reason, value with
  | .ask _ bank address, some choice => machine.store setting bank address choice
  | .battle, some result =>
      (machine.updateSession fun session =>
        { session with battle := { session.battle with lastResult := result } }, none)
  | _, _ => (machine, none)

/-- The window that a lane waits at. -/
def awaitedWindow? : PauseReason → Option UInt8
  | .message window => some window
  | .ask window _ _ => some window
  | _ => none

/-- Opens or closes the window that a lane waits at. -/
def setAwaitedWindow (reason : PauseReason) (isOpen : Bool) (machine : Machine σ) : Machine σ :=
  match awaitedWindow? reason with
  | none => machine
  | some window =>
      machine.updateWorld (·.updateStage (·.changeWindow window.toNat (.setOpen isOpen)))

/-- Makes the request of an instruction. -/
def makeRequest (setting : Setting σ) (id : EntityId) (priority ip next : Nat) (lane : Lane)
    (request : Request) (reason : PauseReason) (machine : Machine σ) : Machine σ × Turnover :=
  let token : ResumeToken := { entity := id, priority, epoch := lane.epoch }
  match machine.request setting request token with
  | (.deferred, machine) =>
      ((machine.setAwaitedWindow reason true).pauseLane id priority next reason, .released)
  | (.immediate value, machine) =>
      match (machine.setAwaitedWindow reason false).settle setting reason value with
      | (machine, none) => (machine.updateLane id priority (·.advance next), .goOn)
      | (machine, some error) => (machine.giveUp setting id priority ip error, .released)

/-- Ends the invocation of a lane and begins another script of the entity. -/
def passOn (id : EntityId) (priority : Nat) (lane : Lane) (nextPriority script : Nat)
    (machine : Machine σ) : Machine σ × Turnover :=
  let machine := (machine.updateLane id priority Lane.finish).complete lane.onStop?
  let machine := (machine.startScript id nextPriority script none).1
  (machine, if machine.world.laneActive id priority then .holding else .released)

/-- Lets a lane go on as an instruction at `ip` ends; `next` is the place behind it. -/
def conclude (setting : Setting σ) (id : EntityId) (priority ip next : Nat) (lane : Lane)
    (ending : Ending) (machine : Machine σ) : Machine σ × Turnover :=
  match ending with
  | .advance => (machine.updateLane id priority (·.advance next), .goOn)
  | .yield => (machine.updateLane id priority (·.advance next), .holding)
  | .suspend continuation =>
      (machine.updateLane id priority (·.rewind ip (some { next, continuation })), .holding)
  | .pause reason => (machine.pauseLane id priority next reason, .released)
  | .stop => ((machine.updateLane id priority Lane.finish).complete lane.onStop?, .released)
  | .handOver nextPriority script => machine.passOn id priority lane nextPriority script
  | .request request reason =>
      machine.makeRequest setting id priority ip next lane request reason
  | .fault error => (machine.giveUp setting id priority ip error, .released)

/-- Carries out a plan. -/
def carryOut (setting : Setting σ) (id : EntityId) (priority ip next : Nat) (lane : Lane)
    (plan : Plan) (machine : Machine σ) : Machine σ × Turnover :=
  match plan with
  | .retry entries =>
      let machine := entries.foldl note machine
      (machine.updateLane id priority (·.rewind ip none), .holding)
  | .act effects ending =>
      match Effect.performAll setting machine effects with
      | (machine, none) => machine.conclude setting id priority ip next lane ending
      | (machine, some error) => (machine.giveUp setting id priority ip error, .released)

/-- What an instruction of a lane can look at. -/
def sceneOf (setting : Setting σ) (id : EntityId) (priority ip : Nat) (lane : Lane)
    (machine : Machine σ) : Scene :=
  { source := setting.source
    config := setting.config
    world := machine.world
    session := machine.session
    senses := machine.senses setting
    entity := id
    priority
    lane
    opcode := (setting.source.code[ip]?).getD 0 }

/-- The instruction at `ip`, with the cursor behind its first byte. -/
def fetch (code : Array UInt8) (ip : Nat) :
    Except ExecError (UInt8 × Reading Plan × Cursor) := do
  let (byte, cursor) ← (Cursor.atStart code ip).byte
  match planOfByte? byte with
  | none => throw (.unknownOpcode byte ip)
  | some plan => return (byte, plan, cursor)

/-- Works an instruction out and carries out what it comes to. -/
def execute (setting : Setting σ) (id : EntityId) (priority ip : Nat) (lane : Lane)
    (reading : Reading Plan) (cursor : Cursor) (machine : Machine σ) :
    Machine σ × Turnover :=
  match reading (machine.sceneOf setting id priority ip lane) cursor with
  | .error error => (machine.giveUp setting id priority ip error, .released)
  | .ok (plan, cursor) => machine.carryOut setting id priority ip cursor.pc lane plan

/-- Carries out the instruction that a lane stands on, or the rest of it. -/
def step (setting : Setting σ) (id : EntityId) (priority : Nat) (machine : Machine σ) :
    Machine σ × Turnover :=
  match machine.world.lane? id priority with
  | none => (machine, .released)
  | some lane =>
    match lane.status with
    | .active ip _ none _ =>
        match fetch setting.source.code ip with
        | .error error => (machine.giveUp setting id priority ip error, .released)
        | .ok (byte, reading, cursor) =>
            (machine.note (.executing id priority ip byte)).execute setting id priority ip lane
              reading cursor
    | .active ip _ (some suspended) _ =>
        match (Cursor.atStart setting.source.code ip).moveTo suspended.next with
        | .error error => (machine.giveUp setting id priority ip error, .released)
        | .ok cursor =>
            machine.execute setting id priority ip lane suspended.continuation.plan cursor
    | _ => (machine, .released)

/-! ## The turn of a lane -/

/-- The turn of a lane with a budget of instructions. -/
def runLane (setting : Setting σ) (id : EntityId) (priority : Nat) :
    Nat → Machine σ → Machine σ × Turnover
  | 0, machine =>
      let machine := machine.updateWorld fun world => { world with starved := world.starved + 1 }
      (machine.note (.starved id priority setting.config.opsPerTick), .holding)
  | budget + 1, machine =>
      match machine.step setting id priority with
      | (machine, .goOn) => runLane setting id priority budget machine
      | ended => ended

/-- The turns of the active ones among some lanes of an entity, up to one that stays active. -/
def runLanes (setting : Setting σ) (id : EntityId) : List Nat → Machine σ → Machine σ
  | [], machine => machine
  | priority :: rest, machine =>
      if machine.world.laneActive id priority then
        match machine.runLane setting id priority setting.config.opsPerTick with
        | (machine, .released) => runLanes setting id rest machine
        | (machine, _) => machine
      else runLanes setting id rest machine

/-- The lanes of an entity in the order in which they get their turns. -/
def turnOrder : List Nat := (List.range laneCount).reverse

/-- The turn of an entity; a removed one has none. -/
def runEntity (setting : Setting σ) (id : EntityId) (machine : Machine σ) : Machine σ :=
  match machine.world.entity? id with
  | none => machine
  | some _ => machine.runLanes setting id turnOrder

/-! ## The tick -/

/-- Gives a token back that the host had, with an answer or without. -/
def applyResume (setting : Setting σ) (token : ResumeToken) (answer : Option UInt16)
    (machine : Machine σ) : Machine σ :=
  match machine.wake token with
  | (machine, none) => machine.note (.staleResume token)
  | (machine, some reason) =>
      let machine := machine.setAwaitedWindow reason false
      match reason, answer with
      | .ask _ bank address, some value =>
          match machine.writeCell setting bank address value with
          | (machine, none) => machine
          | (machine, some error) => machine.note (.answerDropped token error)
      | .battle, some result =>
          machine.updateSession fun session =>
            { session with battle := { session.battle with lastResult := result } }
      | _, _ => machine

/-- Lets time pass on the countdown and takes note of the buttons. -/
def beginTick (setting : Setting σ) (elapsed : UInt64) (machine : Machine σ) : Machine σ :=
  let held := (machine.senses setting).buttons
  { machine with
    session := machine.session.advanceTimer elapsed
    world := { machine.world with keys := Keys.ofButtons machine.world.keys.held held } }

/-- Gives all tokens back that the host has returned since the last tick. -/
def applyPending (setting : Setting σ) (machine : Machine σ) : Machine σ :=
  let pending := machine.world.pending
  pending.foldl (fun machine (token, answer) => machine.applyResume setting token answer)
    (machine.updateWorld fun world => { world with pending := [] })

/-- The turns of all entities. -/
def runEntities (setting : Setting σ) (machine : Machine σ) : Machine σ :=
  (List.range machine.world.entities.size).foldl
    (fun machine id => machine.runEntity setting id) machine

/-- Carries the animations and turns of all entities on. -/
def advanceActors (setting : Setting σ) (machine : Machine σ) : Machine σ :=
  let senses := machine.senses setting
  machine.updateWorld fun world =>
    { world with
      entities := world.entities.map (Option.map (·.updateActor fun actor =>
        actor.advance (senses.lastFrame actor.model))) }

/-- One frame of some activities: the machine after it, and what is left of them. -/
def runActivities (setting : Setting σ) (frame : Nat) :
    List Activity → Machine σ → Machine σ × List Activity
  | [], machine => (machine, [])
  | activity :: rest, machine =>
      let (machine, left) := activity.run setting frame machine
      let (machine, others) := runActivities setting frame rest machine
      (machine, left.toList ++ others)

/-- One frame of the background activities; the ones queued meanwhile join them at its end. -/
def finishTick (setting : Setting σ) (machine : Machine σ) : Machine σ :=
  let (machine, left) :=
    runActivities setting machine.world.frame machine.world.activities machine
  machine.updateWorld fun world =>
    { world with
      activities := left ++ world.spawned.toList
      spawned := #[]
      frame := world.frame + 1 }

/-- One frame of the field, in which `elapsed` milliseconds pass. -/
def tick (setting : Setting σ) (elapsed : UInt64) (machine : Machine σ) : Machine σ :=
  ((((machine.beginTick setting elapsed).applyPending setting).runEntities setting).advanceActors
    setting).finishTick setting

/-! ## Operations of the host -/

/-- The machine of a field that is about to be entered. -/
def enter (setting : Setting σ) (session : Session) (random : Random) (host : σ) : Machine σ :=
  { world := World.ofSection setting.source
    session
    random
    host
    journal := [.entered setting.source.name setting.source.entities.size
      setting.config.opsPerTick] }

/-- Enters the field: the scratch bank is emptied, and every entity begins its first script. -/
def start (machine : Machine σ) : Machine σ :=
  machine.world.present.foldl (fun machine id => (machine.startScript id 0 0 none).1)
    (machine.updateSession fun session => { session with memory := session.memory.resetScratch })

/-- Starts a script on behalf of the host. -/
def invoke (machine : Machine σ) (index priority script : Nat) : Machine σ × Bool :=
  machine.startScript index priority script none

/-- Takes a token back; it is applied at the beginning of the next tick. -/
def giveBack (machine : Machine σ) (token : ResumeToken) (answer : Option UInt16) : Machine σ :=
  machine.updateWorld fun world => { world with pending := world.pending ++ [(token, answer)] }

/-- Removes an entity.  Its lanes are gone, and those who waited for one of them are woken. -/
def remove (machine : Machine σ) (index : Nat) : Machine σ × Bool :=
  match machine.world.entity? index with
  | none => (machine, false)
  | some entity =>
      let machine := machine.updateWorld fun world =>
        { world with
          entities := world.entities.setIfInBounds index none
          stage := { world.stage with
            player := if world.stage.player = some index then none else world.stage.player } }
      (entity.completions.foldl (fun machine token => (machine.wake token).1) machine, true)

/-- Queues a background activity on behalf of the host. -/
def spawn (machine : Machine σ) (activity : Activity) : Machine σ :=
  machine.updateWorld (·.spawn activity)

/-- Puts a palette into use. -/
def loadPalette (machine : Machine σ) (id : UInt8) (palette : Palette) : Machine σ :=
  machine.updateWorld fun world => world.updateStage fun stage =>
    { stage with palettes := stage.palettes.put .live id palette }

end Machine

end FieldMachine
