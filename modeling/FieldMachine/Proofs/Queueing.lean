import FieldMachine.Proofs.Calm
import FieldMachine.Proofs.Observer
import FieldMachine.Proofs.Train

/-!
# Who queues activities

Between two steps of the activities, nothing becomes of those there are but that some
more are queued behind the others (`World.Queues`): an instruction queues what its
effects begin, the host queues one activity at a time, and nothing else queues any.
So the activities that were queued in a frame stand in the order in which they were
queued, whoever did it (`Machine.queues_beforeActivities`).
-/

namespace FieldMachine

set_option autoImplicit false

namespace World

/-- From a world to a later one of the same frame, nothing becomes of the activities but that some
more are queued behind the others. -/
structure Queues (before : World) (queued : List Activity) (after : World) : Prop where
  frame : after.frame = before.frame
  activities : after.activities = before.activities
  spawned : after.spawned.toList = before.spawned.toList ++ queued

/-- The activities that were queued from a world to a later one of the same frame. -/
def queuedUntil (before after : World) : List Activity :=
  after.spawned.toList.drop before.spawned.size

/-- Nothing becomes of the activities but that some more may be queued. -/
def OnlyQueues (before after : World) : Prop := before.Queues (before.queuedUntil after) after

namespace Queues

variable {world before after later : World} {queued more : List Activity}

theorem of_agenda (same : after.agenda = before.agenda) : before.Queues [] after where
  frame := congrArg Prod.fst same
  activities := congrArg (fun agenda => agenda.2.1) same
  spawned := by
    rw [List.append_nil]
    exact congrArg (fun agenda => agenda.2.2.toList) same

theorem refl : world.Queues [] world := of_agenda rfl

theorem trans (first : before.Queues queued after) (second : after.Queues more later) :
    before.Queues (queued ++ more) later where
  frame := second.frame.trans first.frame
  activities := second.activities.trans first.activities
  spawned := by rw [second.spawned, first.spawned, List.append_assoc]

theorem spawn (activity : Activity) : world.Queues [activity] (world.spawn activity) :=
  ⟨rfl, rfl, Array.toList_push⟩

/-- What was queued can be told from the two worlds. -/
theorem queuedUntil_eq (queues : before.Queues queued after) :
    before.queuedUntil after = queued := by
  rw [queuedUntil, queues.spawned, ← Array.length_toList, List.drop_left]

theorem onlyQueues (queues : before.Queues queued after) : before.OnlyQueues after := by
  rw [OnlyQueues, queues.queuedUntil_eq]
  exact queues

end Queues

theorem OnlyQueues.trans {before after later : World} (first : before.OnlyQueues after)
    (second : after.OnlyQueues later) : before.OnlyQueues later :=
  (Queues.trans first second).onlyQueues

/-- The agenda shows nothing of lanes and windows. -/
theorem calm_agenda : Calm agenda := ⟨fun _ _ _ _ => rfl, fun _ _ _ => rfl, fun _ _ _ _ _ => rfl⟩

/-! ## Effects -/

variable (world : World)

theorem onlyQueues_of_agenda {after : World} (same : after.agenda = world.agenda) :
    world.OnlyQueues after := (Queues.of_agenda same).onlyQueues

/-- What is begun together with the activity that carries it on. -/
theorem onlyQueues_begin {begun : World} (agenda : begun.agenda = world.agenda)
    (activity : Activity) : world.OnlyQueues (begun.spawn activity) :=
  ((Queues.of_agenda agenda).trans (.spawn activity)).onlyQueues

theorem onlyQueues_beginFade (color : FadeColor) (start target step : UInt16)
    (subtractive : Bool) :
    world.OnlyQueues (world.beginFade color start target step subtractive) := by
  unfold beginFade
  dsimp only
  split
  · exact world.onlyQueues_begin (by rfl) _
  · exact world.onlyQueues_of_agenda rfl

theorem onlyQueues_beginScroll (target : ScrollTarget) (frames : UInt16) (easing : Easing) :
    world.OnlyQueues (world.beginScroll target frames easing) := by
  unfold beginScroll
  dsimp only
  split
  · exact world.onlyQueues_of_agenda rfl
  · exact world.onlyQueues_begin (by rfl) _

theorem onlyQueues_beginShift (id : EntityId) (goal : Displacement) (frames : UInt16)
    (easing : Easing) : world.OnlyQueues (world.beginShift id goal frames easing) := by
  unfold beginShift
  cases world.actor? id with
  | none => exact world.onlyQueues_of_agenda rfl
  | some actor =>
      dsimp only
      split
      · exact world.onlyQueues_of_agenda rfl
      · exact world.onlyQueues_begin (by rfl) _

end World

namespace Effect

variable {σ : Type} (setting : Setting σ)

theorem onlyQueues_perform (machine : Machine σ) (effect : Effect) :
    machine.world.OnlyQueues (effect.perform setting machine).1.world := by
  have aside {after : World} (same : after.agenda = machine.world.agenda) :
      machine.world.OnlyQueues after := machine.world.onlyQueues_of_agenda same
  cases effect with
  | fade color start target step subtractive =>
      exact machine.world.onlyQueues_beginFade color start target step subtractive
  | scroll target frames easing =>
      exact machine.world.onlyQueues_beginScroll target frames easing
  | shift id goal frames easing => exact machine.world.onlyQueues_beginShift id goal frames easing
  | choreography walks frames token => exact (World.Queues.spawn _).onlyQueues
  | store selector address value => exact aside (by simp [perform])
  | drawByte selector address => exact aside (by simp [perform])
  | reseed seed =>
      -- The kernel must not be made to grow the random numbers here.
      have same := machine.world_withRandom (.ofSeed seed)
      simp only [perform, same]
      exact aside rfl
  | party change => exact aside (by simp [perform])
  | background area mask => exact aside (by simp [perform]; rfl)
  | livePalette id palette => exact aside (by simp [perform]; rfl)
  | lockTriangle triangle locked => exact aside (by simp [perform]; rfl)
  | notify notice => exact aside (by simp [perform])
  | _ => exact aside rfl

theorem onlyQueues_performAll (machine : Machine σ) (effects : List Effect) :
    machine.world.OnlyQueues (performAll setting machine effects).1.world := by
  induction effects generalizing machine with
  | nil => exact machine.world.onlyQueues_of_agenda rfl
  | cons effect rest ih =>
      have first := onlyQueues_perform setting machine effect
      unfold performAll
      split
      · next next performed =>
          rw [performed] at first
          exact first.trans (ih next)
      · next next error performed => simpa only [performed] using first

end Effect

/-- The activities that the instruction of a moment queues. -/
def Moment.queued {σ : Type} (setting : Setting σ) (moment : Moment σ) : List Activity :=
  moment.machine.world.queuedUntil (moment.after setting).world

namespace Machine

variable {σ : Type} (setting : Setting σ)

/-! ## Instructions -/

theorem onlyQueues_carryOut (machine : Machine σ) (id : EntityId) (priority ip next : Nat)
    (lane : Lane) (plan : Plan) :
    machine.world.OnlyQueues
      (machine.carryOut setting id priority ip next lane plan).1.world := by
  cases plan with
  | retry entries =>
      have noted := congrArg World.agenda (world_noteAll machine entries)
      exact machine.world.onlyQueues_of_agenda noted
  | act effects ending =>
      have performed := Effect.onlyQueues_performAll setting machine effects
      simp only [carryOut]
      split
      · next done taken =>
          rw [taken] at performed
          exact performed.trans (done.world.onlyQueues_of_agenda
            (calm_conclude World.calm_agenda done id priority ip next lane ending))
      · next done error taken =>
          rw [taken] at performed
          exact performed.trans (done.world.onlyQueues_of_agenda
            (calm_giveUp World.calm_agenda done id priority ip error))

/-- Instructions queue activities, and do nothing else to them. -/
theorem onlyQueues_step (machine : Machine σ) (id : EntityId) (priority : Nat) :
    machine.world.OnlyQueues (machine.step setting id priority).1.world := by
  cases active : machine.world.laneActive id priority with
  | false =>
      rw [step_of_inactive setting active]
      exact machine.world.onlyQueues_of_agenda rfl
  | true =>
      obtain ⟨lane, here, runs⟩ := (Option.any_eq_true _ _).mp active
      obtain ⟨ip, noted, stands, journal, same⟩ := step_eq setting here runs
      have spared : noted.world = machine.world := by
        rcases journal with rfl | ⟨byte, -, rfl⟩ <;> rfl
      rw [same, ← spared]
      split
      · next error failed =>
          exact noted.world.onlyQueues_of_agenda
            (calm_giveUp World.calm_agenda noted id priority ip error)
      · exact onlyQueues_carryOut setting noted id priority ip _ lane _

variable {setting} in
/-- Moments that lead from one machine to another queue one after the other. -/
theorem Train.queues {moments : List (Moment σ)} {first last : Machine σ}
    (train : Train setting moments first last) :
    first.world.Queues (moments.flatMap (Moment.queued setting)) last.world := by
  induction train with
  | done machine => exact .refl
  | moment moment rest ih =>
      have queued := onlyQueues_step setting moment.machine moment.id moment.priority
      exact World.Queues.trans queued ih
  | starve machine starved entry rest ih =>
      have counted : machine.world.Queues [] { machine.world with starved } := .of_agenda rfl
      exact counted.trans ih

/-! ## Ticks -/

/-- A tick up to where the activities take their steps. -/
def beforeActivities (elapsed : UInt64) (machine : Machine σ) : Machine σ :=
  (((machine.beginTick setting elapsed).applyPending setting).runEntities setting).advanceActors
    setting

/-- What a tick queues before the activities take their steps is what its instructions queue, in
their order. -/
theorem queues_beforeActivities (elapsed : UInt64) (machine : Machine σ) :
    machine.world.Queues ((machine.tickMoments setting elapsed).flatMap (Moment.queued setting))
      (machine.beforeActivities setting elapsed).world := by
  have resumed : machine.world.Queues []
      (machine.duringResumes setting elapsed machine.world.pending.length).world :=
    .of_agenda (calm_duringResumes World.calm_agenda machine elapsed _)
  have turns := resumed.trans (train_tick setting machine elapsed).queues
  rw [beforeActivities, applyPending_beginTick]
  exact ⟨turns.frame, turns.activities, turns.spawned⟩

/-! ## Operations of the host -/

/-- Whether a move is an operation of the host between two ticks that queues nothing. -/
def Move.sparesQueue : Move → Bool
  | .start | .invoke .. | .giveBack .. | .remove _ | .loadPalette .. => true
  | .tick _ | .spawn _ | .begin .. | .step .. => false

variable {setting} in
/-- The host queues activities by queueing them, and by nothing else that it does between two
ticks. -/
theorem agenda_make {move : Move} (spares : move.sparesQueue = true) (machine : Machine σ) :
    (machine.make setting move).world.agenda = machine.world.agenda := by
  cases move with
  | start => exact calm_start World.calm_agenda machine
  | invoke index priority script =>
      exact calm_startScript World.calm_agenda machine index priority script none
  | giveBack token answer => rfl
  | remove index =>
      simp only [make, remove]
      split
      · rfl
      · exact calm_wakeAll World.calm_agenda _ _
  | loadPalette id palette => rfl
  | tick elapsed => cases spares
  | spawn activity => cases spares
  | begin elapsed entities lanes => cases spares
  | step id priority => cases spares

end Machine

end FieldMachine
