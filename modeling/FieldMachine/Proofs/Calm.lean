import FieldMachine.Proofs.Moment
import FieldMachine.Proofs.Motion

/-!
# What lanes do not concern

Much of a world has nothing to do with its lanes, its windows and its counts.  What shows
nothing of them (`World.Calm`) is still the same when a script was started, when a
token was given back, and when an instruction has come to its end, however it ends.
-/

namespace FieldMachine

set_option autoImplicit false

/-- Whether something that can be seen of a world shows nothing of its lanes and windows, nor of the
buttons, the tokens that were given back and the counts. -/
structure World.Calm {α : Type} (sight : World → α) : Prop where
  lane : ∀ world id priority change,
    sight (World.updateLane world id priority change) = sight world
  window : ∀ (world : World) id change,
    sight (world.updateStage (·.changeWindow id change)) = sight world
  aside : ∀ (world : World) keys pending faults starved,
    sight { world with keys, pending, faults, starved } = sight world

variable {α : Type} {sight : World → α}

theorem World.Calm.wake (calm : World.Calm sight) (world : World) (token : ResumeToken) :
    sight (world.wake token).1 = sight world := by
  unfold World.wake
  split
  · rfl
  · exact calm.lane ..

namespace Machine

variable {σ : Type} {setting : Setting σ} (calm : World.Calm sight)
include calm

theorem calm_wake (machine : Machine σ) (token : ResumeToken) :
    sight (machine.wake token).1.world = sight machine.world :=
  (congrArg sight (machine.world_wake token)).trans (calm.wake machine.world token)

theorem calm_wakeAll (tokens : List ResumeToken) (machine : Machine σ) :
    sight (tokens.foldl (fun machine token => (machine.wake token).1) machine).world =
      sight machine.world := by
  induction tokens generalizing machine with
  | nil => rfl
  | cons token rest ih => exact (ih _).trans (calm_wake calm machine token)

theorem calm_complete (machine : Machine σ) (onStop : Option ResumeToken) :
    sight (machine.complete onStop).world = sight machine.world := by
  cases onStop with
  | none => rfl
  | some token => exact calm_wake calm machine token

theorem calm_giveUp (machine : Machine σ) (id : EntityId) (priority ip : Nat) (error : ExecError) :
    sight (machine.giveUp setting id priority ip error).world = sight machine.world := by
  simp only [giveUp, world_notify, world_note]
  exact (calm.aside (machine.world.updateLane id priority (·.abort ip)) ..).trans (calm.lane ..)

theorem calm_startScript (machine : Machine σ) (id : EntityId) (priority script : Nat)
    (onStop : Option ResumeToken) :
    sight (machine.startScript id priority script onStop).1.world = sight machine.world := by
  unfold startScript
  split
  · rfl
  · split
    · rfl
    · exact calm.lane ..

theorem calm_setAwaitedWindow (machine : Machine σ) (reason : PauseReason) (isOpen : Bool) :
    sight (machine.setAwaitedWindow reason isOpen).world = sight machine.world := by
  unfold setAwaitedWindow
  split
  · rfl
  · exact calm.window ..

/-! ## Ends of an instruction -/

theorem calm_makeRequest (machine : Machine σ) (id : EntityId) (priority ip next : Nat)
    (lane : Lane) (request : Request) (reason : PauseReason) :
    sight (machine.makeRequest setting id priority ip next lane request reason).1.world =
      sight machine.world := by
  have asked := congrArg sight (world_request setting machine request (lane.token id priority))
  unfold Lane.token at asked
  unfold makeRequest
  dsimp only
  split
  · next answered made =>
      rw [made] at asked
      exact (calm.lane ..).trans ((calm_setAwaitedWindow calm answered reason true).trans asked)
  · next value answered made =>
      rw [made] at asked
      have settled : ((answered.setAwaitedWindow reason false).settle setting reason
          value).1.world = (answered.setAwaitedWindow reason false).world :=
        world_settle reason value
      have closed := (congrArg sight settled).trans
        ((calm_setAwaitedWindow calm answered reason false).trans asked)
      split
      · next done taken =>
          rw [taken] at closed
          exact (calm.lane ..).trans closed
      · next done error taken =>
          rw [taken] at closed
          exact (calm_giveUp calm done id priority ip error).trans closed

/-- However an instruction ends, its end does not show. -/
theorem calm_conclude (machine : Machine σ) (id : EntityId) (priority ip next : Nat)
    (lane : Lane) (ending : Ending) :
    sight (machine.conclude setting id priority ip next lane ending).1.world =
      sight machine.world := by
  have finished := (calm_complete calm (machine.updateLane id priority Lane.finish)
    lane.onStop?).trans (calm.lane ..)
  cases ending with
  | stop => exact finished
  | handOver level script => exact (calm_startScript calm _ id level script none).trans finished
  | request request reason =>
      exact calm_makeRequest calm machine id priority ip next lane request reason
  | fault error => exact calm_giveUp calm machine id priority ip error
  | _ => exact calm.lane ..

/-! ## The rest of a tick, and the host -/

theorem calm_applyResume (machine : Machine σ) (token : ResumeToken) (answer : Option UInt16) :
    sight (machine.applyResume setting token answer).world = sight machine.world := by
  have woken := calm_wake calm machine token
  unfold applyResume
  split
  · next waked taken =>
      rw [taken] at woken
      exact woken
  · next waked reason taken =>
      rw [taken] at woken
      have closed := (calm_setAwaitedWindow calm waked reason false).trans woken
      dsimp only
      split
      · next window bank address value =>
          have written := world_writeCell setting
            (waked.setAwaitedWindow (.ask window bank address) false) bank address value
          split
          · next done wrote =>
              rw [wrote] at written
              exact (congrArg sight written).trans closed
          · next done error wrote =>
              rw [wrote] at written
              exact (congrArg sight written).trans closed
      · exact closed
      · exact closed

/-- The answers that are given back do not show. -/
theorem calm_duringResumes (machine : Machine σ) (elapsed : UInt64) (count : Nat) :
    sight (machine.duringResumes setting elapsed count).world = sight machine.world := by
  have each (given : List (ResumeToken × Option UInt16)) (machine : Machine σ) :
      sight (given.foldl (fun machine back => machine.applyResume setting back.1 back.2)
        machine).world = sight machine.world := by
    induction given generalizing machine with
    | nil => rfl
    | cons first rest ih => exact (ih _).trans (calm_applyResume calm machine first.1 first.2)
  unfold duringResumes
  exact (each _ _).trans (calm.aside machine.world ..)

theorem calm_start (machine : Machine σ) : sight machine.start.world = sight machine.world := by
  have each (ids : List EntityId) (machine : Machine σ) :
      sight (ids.foldl (fun machine id => (machine.startScript id 0 0 none).1) machine).world =
        sight machine.world := by
    induction ids generalizing machine with
    | nil => rfl
    | cons id rest ih => exact (ih _).trans (calm_startScript calm machine id 0 0 none)
  exact each machine.world.present _

end Machine

end FieldMachine
