import FieldMachine.Proofs.Turn

/-!
# Everything that happens in a field

A field changes by events, one after the other: a lane carries out an
instruction, a background activity takes a step, the host gives a token back,
starts a script or removes an entity (`Event`, `Machine.Occurs`).  Whatever else
happens leaves the roster alone.

`Roster.Step` says what each event can do to the roster, and every operation of
a machine is a run of events (`Machine.Runs`).
-/

namespace FieldMachine

set_option autoImplicit false

/-- What can happen in a field. -/
inductive Event
  /-- A lane carries out an instruction, or the rest of one. -/
  | run (id : EntityId) (priority : Nat)
  /-- An activity takes a step, at whose end it may wake the lane that a token names. -/
  | work (token : Option ResumeToken)
  /-- The host has given a token back. -/
  | resume (token : ResumeToken)
  /-- A script is started on behalf of the host. -/
  | invoke (id : EntityId) (priority script : Nat)
  | remove (id : EntityId)
  /-- Something that leaves the roster alone. -/
  | other
deriving DecidableEq

/-- Whether an event belongs to a frame of the field, and not to the host. -/
def Event.isInner : Event → Bool
  | .invoke .. | .remove _ => false
  | _ => true

/-- Whether an event belongs neither to a lane nor to an operation of the host. -/
def Event.isBackground : Event → Bool
  | .work _ | .resume _ | .other => true
  | _ => false

theorem Event.isInner_of_isBackground {event : Event} (background : event.isBackground) :
    event.isInner := by
  cases event with
  | invoke id priority script => cases background
  | remove id => cases background
  | _ => rfl

/-- Whether an event is an instruction of one of some lanes, if it concerns lanes at all. -/
def Event.IsTurn (lanes : EntityId → Nat → Prop) : Event → Prop
  | .run id priority => lanes id priority
  | .other => True
  | _ => False

theorem Event.IsTurn.mono {lanes more : EntityId → Nat → Prop} {event : Event}
    (turn : event.IsTurn lanes) (weaker : ∀ id priority, lanes id priority → more id priority) :
    event.IsTurn more := by
  cases event with
  | run id priority => exact weaker id priority turn
  | other => trivial
  | _ => exact turn.elim

theorem Event.IsTurn.isInner {lanes : EntityId → Nat → Prop} {event : Event}
    (turn : event.IsTurn lanes) : event.isInner := by
  cases event with
  | invoke id priority script => exact turn.elim
  | remove id => exact turn.elim
  | _ => rfl

/-- The tokens that an event may fire. -/
def Event.Fires (roster : Roster) (token : ResumeToken) : Event → Prop
  | .run id priority =>
      ∃ lane, roster.lane? id priority = some lane ∧ lane.onStop? = some token
  | .work fired => fired = some token
  | .resume fired => fired = token
  | .remove id => ∃ priority lane,
      roster.lane? id priority = some lane ∧ lane.onStop? = some token
  | .invoke .. | .other => False

/-- What an event can do to the roster. -/
inductive Roster.Step (source : Section) (before : Roster) : Event → Roster → Prop
  | keep {event : Event} : Step source before event before
  | turn {id : EntityId} {priority : Nat} {lane : Lane} {jumps : Opcode → Prop} {after : Roster}
      (here : before.lane? id priority = some lane) (active : lane.isActive)
      (turn : before.Turn source jumps id priority lane after) :
      Step source before (.run id priority) after
  | work {token : ResumeToken} : Step source before (.work (some token)) (before.wake token)
  | resume {token : ResumeToken} : Step source before (.resume token) (before.wake token)
  | invoke {id : EntityId} {priority script : Nat} {after : Roster}
      (begins : before.Begins id priority script after) :
      Step source before (.invoke id priority script) after
  /-- The lanes of an entity are gone, and those who waited for them are woken. -/
  | remove {id : EntityId} {tokens : List ResumeToken}
      (all : ∀ token, token ∈ tokens ↔ (Event.remove id).Fires before token) :
      Step source before (.remove id) (tokens.foldl wake (before.erase id))

/-! ## Background activities -/

/-- The token that an activity may fire at its end. -/
def Activity.wakes? : Activity → Option ResumeToken
  | .choreography dance => some dance.token
  | .countdown timer => timer.wake
  | _ => none

/-- All that a scroll changes is the camera. -/
theorem Scroll.world_run (scroll : Scroll) (frame : Nat) (world : World) :
    ∃ camera, (scroll.run frame world).1 =
      world.updateStage fun stage => { stage with camera } := by
  unfold Scroll.run
  dsimp only
  split
  · exact ⟨world.stage.camera, rfl⟩
  · split
    · exact ⟨_, rfl⟩
    · split <;> exact ⟨_, rfl⟩

/-- All that a fade changes is the fade of the screen. -/
theorem Fading.world_run (fading : Fading) (frame : Nat) (world : World) :
    ∃ fade, (fading.run frame world).1 = world.updateStage fun stage => { stage with fade } := by
  unfold Fading.run
  dsimp only
  split
  · exact ⟨world.stage.fade, rfl⟩
  · split <;> exact ⟨_, rfl⟩

/-- All that a shift changes is the body of its entity. -/
theorem Shift.world_run (shift : Shift) (world : World) :
    (shift.run world).1 = world ∨
      ∃ change, (shift.run world).1 = world.updateActor shift.entity change := by
  unfold Shift.run
  split
  · exact .inl rfl
  · split
    · exact .inl rfl
    · dsimp only
      split <;> exact .inr ⟨_, rfl⟩

/-- All that a walker changes is the body of its entity. -/
theorem Walk.world_run (walk : Walk) (share : Float32) (world : World) :
    (walk.run share world).1 = world ∨
      ∃ change, (walk.run share world).1 = world.updateActor walk.entity change := by
  unfold Walk.run
  split
  · exact .inl rfl
  · dsimp only
    split <;> exact .inr ⟨_, rfl⟩

theorem Scroll.roster_run (scroll : Scroll) (frame : Nat) (world : World) :
    (scroll.run frame world).1.roster = world.roster := by
  obtain ⟨camera, same⟩ := scroll.world_run frame world
  rw [same, World.roster_updateStage]

theorem Fading.roster_run (fading : Fading) (frame : Nat) (world : World) :
    (fading.run frame world).1.roster = world.roster := by
  obtain ⟨fade, same⟩ := fading.world_run frame world
  rw [same, World.roster_updateStage]

theorem Shift.roster_run (shift : Shift) (world : World) :
    (shift.run world).1.roster = world.roster := by
  rcases shift.world_run world with same | ⟨change, same⟩
  · rw [same]
  · rw [same, World.roster_updateActor]

theorem Walk.roster_run (walk : Walk) (share : Float32) (world : World) :
    (walk.run share world).1.roster = world.roster := by
  rcases walk.world_run share world with same | ⟨change, same⟩
  · rw [same]
  · rw [same, World.roster_updateActor]

theorem Walk.roster_runAll (share : Float32) (walks : List Walk) (world : World) :
    (Walk.runAll share walks world).1.roster = world.roster := by
  induction walks generalizing world with
  | nil => rfl
  | cons walk rest ih =>
      unfold Walk.runAll
      dsimp only
      rw [ih, walk.roster_run]

namespace Activity

variable {σ : Type}

/-- A step of an activity leaves the roster alone, or fires the token of the activity. -/
theorem run_step (setting : Setting σ) (frame : Nat) (activity : Activity)
    (machine : Machine σ) :
    machine.world.roster.Step setting.source (.work activity.wakes?)
      (activity.run setting frame machine).1.world.roster := by
  cases activity with
  | scroll moving =>
      have spared : ((Activity.scroll moving).run setting frame machine).1.world.roster =
          machine.world.roster := by
        rw [← moving.roster_run frame machine.world]
        unfold run
        dsimp only
        cases (moving.run frame machine.world).2.2 <;> rfl
      exact spared ▸ .keep
  | fade fading =>
      have spared : ((Activity.fade fading).run setting frame machine).1.world.roster =
          machine.world.roster := by
        rw [← fading.roster_run frame machine.world]
        unfold run
        dsimp only
        cases (fading.run frame machine.world).2.2 <;> rfl
      exact spared ▸ .keep
  | shift moving =>
      have spared : ((Activity.shift moving).run setting frame machine).1.world.roster =
          machine.world.roster := moving.roster_run machine.world
      exact spared ▸ .keep
  | choreography dance =>
      have walked := Walk.roster_runAll (elapsedShare (dance.step + 1) dance.frames) dance.walks
        machine.world
      unfold run
      dsimp only
      split
      · rw [Machine.roster_wake, Machine.world_note, walked]
        exact .work
      · rw [walked]
        exact .keep
  | countdown timer =>
      unfold run
      dsimp only
      split
      · cases fired : timer.wake with
        | none =>
            simp only [Machine.world_notify]
            exact .keep
        | some token =>
            simp only [Machine.world_notify, Machine.roster_wake, wakes?, fired]
            exact .work
      · rw [Machine.world_notify]
        exact .keep

end Activity

/-! ## Events of a machine -/

namespace Machine

variable {σ : Type} (setting : Setting σ)

/-- An event that leads from one machine to another. -/
inductive Occurs : Event → Machine σ → Machine σ → Prop
  | run (machine : Machine σ) (id : EntityId) (priority : Nat) :
      Occurs (.run id priority) machine (machine.step setting id priority).1
  | work (machine : Machine σ) (frame : Nat) (activity : Activity) :
      Occurs (.work activity.wakes?) machine (activity.run setting frame machine).1
  | resume (machine : Machine σ) (token : ResumeToken) (answer : Option UInt16) :
      Occurs (.resume token) machine (machine.applyResume setting token answer)
  | invoke (machine : Machine σ) (id : EntityId) (priority script : Nat) :
      Occurs (.invoke id priority script) machine (machine.startScript id priority script none).1
  | remove (machine : Machine σ) (id : EntityId) :
      Occurs (.remove id) machine (machine.remove id).1
  | other {machine after : Machine σ} (same : after.world.roster = machine.world.roster) :
      Occurs .other machine after

theorem roster_applyResume (machine : Machine σ) (token : ResumeToken) (answer : Option UInt16) :
    (machine.applyResume setting token answer).world.roster = machine.world.roster.wake token := by
  have woken := machine.roster_wake token
  unfold applyResume
  split
  · next waked unknown => 
      rw [unknown] at woken
      exact woken
  · next waked reason known =>
      rw [known] at woken
      have closed := (waked.roster_setAwaitedWindow reason false).trans woken
      dsimp only
      split
      · next window bank address value =>
          have written := world_writeCell setting
            (waked.setAwaitedWindow (.ask window bank address) false) bank address value
          split
          · next done taken =>
              rw [taken] at written
              exact (congrArg World.roster written).trans closed
          · next done error taken =>
              rw [taken] at written
              exact (congrArg World.roster written).trans closed
      · exact closed
      · exact closed

/-- Taking an entity out of the world leaves the others there. -/
theorem entity?_erase (world : World) (id : EntityId) (stage : Stage) (other : EntityId) :
    World.entity? { world with entities := world.entities.setIfInBounds id none, stage } other =
      if other = id then none else world.entity? other := by
  by_cases same : other = id
  · subst same
    by_cases inside : other < world.entities.size <;> simp [World.entity?, inside]
  · simp [World.entity?, same, Ne.symm same]

/-- Taking an entity out of the world takes it out of the roster. -/
theorem roster_erase (world : World) (id : EntityId) (stage : Stage) :
    { world with entities := world.entities.setIfInBounds id none, stage }.roster =
      world.roster.erase id := by
  ext other priority lane
  · simp only [World.lane?_roster, World.lane?, entity?_erase, Roster.erase]
    split <;> simp
  · simp only [World.roster, entity?_erase, Roster.erase]
    split <;> simp
  · rfl

theorem roster_wakeAll (machine : Machine σ) (tokens : List ResumeToken) :
    (tokens.foldl (fun machine token => (machine.wake token).1) machine).world.roster =
      tokens.foldl Roster.wake machine.world.roster := by
  induction tokens generalizing machine with
  | nil => rfl
  | cons token rest ih => rw [List.foldl_cons, ih, roster_wake, List.foldl_cons]

theorem roster_remove (machine : Machine σ) {id : EntityId} {entity : Entity}
    (known : machine.world.entity? id = some entity) :
    (machine.remove id).1.world.roster =
      entity.completions.foldl Roster.wake (machine.world.roster.erase id) := by
  simp only [remove, known]
  rw [roster_wakeAll]
  exact congrArg (entity.completions.foldl Roster.wake) (roster_erase machine.world id _)

/-- The completions of an entity belong to its lanes. -/
theorem mem_completions {world : World} {id : EntityId} {entity : Entity} {token : ResumeToken}
    (known : world.entity? id = some entity) :
    token ∈ entity.completions ↔ (Event.remove id).Fires world.roster token := by
  simp only [Entity.completions, List.mem_filterMap, Event.Fires, World.lane?_roster, World.lane?,
    known, Option.bind_some]
  constructor
  · rintro ⟨lane, member, told⟩
    obtain ⟨priority, here⟩ := List.mem_iff_getElem?.mp member
    exact ⟨priority, lane, by simpa using here, told⟩
  · rintro ⟨priority, lane, here, told⟩
    exact ⟨lane, List.mem_iff_getElem?.mpr ⟨priority, by simpa using here⟩, told⟩

variable {setting}

/-- Every event is a step of the roster. -/
theorem Occurs.step {event : Event} {machine after : Machine σ}
    (occurs : Occurs setting event machine after) :
    machine.world.roster.Step setting.source event after.world.roster := by
  cases occurs with
  | run _ id priority =>
      cases active : machine.world.laneActive id priority with
      | false =>
          rw [step_of_inactive setting active]
          exact .keep
      | true =>
          obtain ⟨lane, here, runs⟩ := (Option.any_eq_true _ _).mp active
          obtain ⟨ip, -, turn⟩ := step_turn setting here runs
          exact .turn here runs turn
  | work _ frame activity => exact activity.run_step setting frame machine
  | resume _ token answer =>
      rw [roster_applyResume]
      exact .resume
  | invoke _ id priority script => exact .invoke (machine.startScript_begins id priority script)
  | remove _ id =>
      cases known : machine.world.entity? id with
      | none =>
          simp only [Machine.remove, known]
          exact .keep
      | some entity =>
          rw [machine.roster_remove known]
          exact .remove fun token => mem_completions known
  | other same => rw [same]; exact .keep

end Machine

end FieldMachine
