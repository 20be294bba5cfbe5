import FieldMachine.Proofs.Calm
import FieldMachine.Proofs.Train
import Mathlib.Tactic.SplitIfs

/-!
# What an actor plays

Of the body of an entity, its model, its idle animation and the animation that it
plays are its pose.  At the end of every tick the animation of each pose goes on by
one frame (`Pose.advance`, `Machine.pose?_tick`).  Apart from that, a pose is changed by
instructions only: the activities of the background and the answers that are given back
leave it alone.
-/

namespace FieldMachine

set_option autoImplicit false

/-! ## Poses -/

/-- The animation of an actor, and what it goes on with. -/
structure Pose where
  model : Option UInt8
  idle : UInt8
  animation : Animation
deriving DecidableEq

/-- An animation one frame later; the idle one takes its place where it is to follow. -/
def Animation.advance (animation idle : Animation) : Animation :=
  if !animation.playing then animation
  else if animation.frame < animation.last then { animation with frame := animation.frame + 1 }
  else if animation.looping then { animation with frame := animation.first }
  else if animation.returnToIdle then idle
  else { animation with playing := false }

/-- A pose one frame later. -/
def Pose.advance (lastFrame : Option UInt8 → UInt8 → UInt16) (pose : Pose) : Pose :=
  { pose with
    animation := pose.animation.advance (.looped pose.idle 0 (lastFrame pose.model pose.idle)) }

/-- The pose of an actor. -/
def Actor.pose (actor : Actor) : Pose :=
  { model := actor.model, idle := actor.idleAnimation, animation := actor.animation }

theorem Actor.pose_advanceTurn (actor : Actor) : actor.advanceTurn.pose = actor.pose := by
  unfold advanceTurn
  split <;> rfl

theorem Actor.pose_advanceAnimation (actor : Actor) (idleLast : UInt8 → UInt16) :
    (actor.advanceAnimation idleLast).pose =
      { actor.pose with
        animation := actor.animation.advance
          (.looped actor.idleAnimation 0 (idleLast actor.idleAnimation)) } := by
  unfold advanceAnimation Animation.advance
  dsimp only
  split_ifs <;> rfl

/-- A tick of the body leads its pose one frame on. -/
theorem Actor.pose_advance (actor : Actor) (lastFrame : Option UInt8 → UInt8 → UInt16) :
    (actor.advance (lastFrame actor.model)).pose = actor.pose.advance lastFrame := by
  rw [advance, pose_advanceAnimation]
  have turned (shown : Pose) (same : shown = actor.pose) :
      { shown with
        animation := shown.animation.advance
          (.looped shown.idle 0 (lastFrame actor.model shown.idle)) } =
      actor.pose.advance lastFrame := by
    subst same
    rfl
  exact turned _ actor.pose_advanceTurn

namespace World

variable (world : World) (id : EntityId)

/-- The pose of an entity. -/
def pose? : Option Pose := (world.actor? id).map Actor.pose

/-- Lanes and windows have nothing to do with a pose. -/
theorem pose?_calm : Calm (pose? · id) where
  lane _ _ _ _ := by simp only [pose?, actor?_updateLane]
  window _ _ _ := rfl
  aside _ _ _ _ _ := rfl

/-- A change of a body that leaves its pose alone does not show. -/
theorem pose?_updateActor (owner : EntityId) {change : Actor → Actor}
    (same : ∀ actor, (change actor).pose = actor.pose) :
    (world.updateActor owner change).pose? id = world.pose? id := by
  simp only [pose?, actor?_updateActor]
  split
  · rw [Option.map_map]
    exact congrArg (Option.map · _) (funext same)
  · rfl

end World

/-! ## Activities -/

theorem Shift.pose?_run (shift : Shift) (world : World) (id : EntityId) :
    (shift.run world).1.pose? id = world.pose? id := by
  unfold run
  split
  · rfl
  · split
    · rfl
    · dsimp only
      split <;> exact world.pose?_updateActor id _ fun _ => rfl

theorem Walk.pose?_run (walk : Walk) (share : Float32) (world : World) (id : EntityId) :
    (walk.run share world).1.pose? id = world.pose? id := by
  unfold run
  split
  · rfl
  · dsimp only
    split <;> exact world.pose?_updateActor id _ fun _ => rfl

theorem Walk.pose?_runAll (walks : List Walk) (share : Float32) (world : World) (id : EntityId) :
    (Walk.runAll share walks world).1.pose? id = world.pose? id := by
  induction walks generalizing world with
  | nil => rfl
  | cons walk rest ih =>
      unfold Walk.runAll
      exact (ih _).trans (walk.pose?_run share world id)

namespace Machine

variable {σ : Type} (setting : Setting σ) (machine : Machine σ) (id : EntityId)

theorem pose?_run (frame : Nat) (activity : Activity) :
    (activity.run setting frame machine).1.world.pose? id = machine.world.pose? id := by
  cases activity with
  | scroll moving =>
      obtain ⟨camera, same⟩ := moving.world_run frame machine.world
      rw [Activity.world_scroll, same]
      rfl
  | fade fading =>
      obtain ⟨fade, same⟩ := fading.world_run frame machine.world
      rw [Activity.world_fade, same]
      rfl
  | shift moving => exact moving.pose?_run machine.world id
  | choreography dance =>
      have walked := Walk.pose?_runAll dance.walks (elapsedShare (dance.step + 1) dance.frames)
        machine.world id
      simp only [Activity.run]
      split
      · exact (calm_wake (World.pose?_calm id) _ _).trans walked
      · exact walked
  | countdown timer =>
      simp only [Activity.run]
      split
      · cases timer.wake with
        | none => rw [world_notify]
        | some token =>
            simp only [world_notify]
            exact (calm_wake (World.pose?_calm id) _ _).trans (by rw [world_notify])
      · rw [world_notify]

theorem pose?_runActivities (frame : Nat) (activities : List Activity) :
    (machine.runActivities setting frame activities).1.world.pose? id = machine.world.pose? id := by
  induction activities generalizing machine with
  | nil => rfl
  | cons activity rest ih => exact (ih _).trans (pose?_run setting machine id frame activity)

/-! ## Ticks -/

/-- At the end of a tick every animation goes on by one frame. -/
theorem pose?_advanceActors :
    (machine.advanceActors setting).world.pose? id =
      (machine.world.pose? id).map (Pose.advance (machine.senses setting).lastFrame) := by
  have entity : (machine.advanceActors setting).world.entity? id = (machine.world.entity? id).map
      (·.updateActor fun actor => actor.advance ((machine.senses setting).lastFrame actor.model)) := by
    simp only [advanceActors, updateWorld, World.entity?, Array.getElem?_map]
    cases machine.world.entities[id]? <;> simp
  simp only [World.pose?, World.actor?, entity]
  cases machine.world.entity? id with
  | none => rfl
  | some entity => exact congrArg some (entity.actor.pose_advance _)

/-- The machine of a tick after the turns of all entities. -/
def afterTurns (elapsed : UInt64) : Machine σ :=
  (machine.duringResumes setting elapsed machine.world.pending.length).runEntities setting

/-- What a tick does after the turns. -/
theorem tick_eq (elapsed : UInt64) :
    machine.tick setting elapsed =
      ((machine.afterTurns setting elapsed).advanceActors setting).finishTick setting := by
  unfold tick
  rw [applyPending_beginTick]
  rfl

/-- A tick leads from the poses after all turns one frame on. -/
theorem pose?_tick (elapsed : UInt64) :
    (machine.tick setting elapsed).world.pose? id =
      ((machine.afterTurns setting elapsed).world.pose? id).map
        (Pose.advance ((machine.afterTurns setting elapsed).senses setting).lastFrame) := by
  rw [tick_eq, ← pose?_advanceActors]
  exact pose?_runActivities setting _ id _ _

/-- The removal of an entity is none of another one's pose. -/
theorem pose?_remove {index : Nat} (apart : index ≠ id) :
    (machine.remove index).1.world.pose? id = machine.world.pose? id := by
  unfold remove
  split
  · rfl
  · refine (calm_wakeAll (World.pose?_calm id) _ _).trans ?_
    simp [World.pose?, World.actor?, World.entity?, updateWorld, apart]

end Machine

end FieldMachine
