import FieldMachine.Proofs.Moment
import FieldMachine.Proofs.Stage

/-!
# Entities that are there

Whatever runs belongs to an entity that is registered, and an entity is looked up
in the same instruction that needs it.  So no instruction, and no rest of one,
ever finds an entity gone (`Machine.failure?_ne_entityGone`).

Whoever is the player is registered, too: an instruction names nobody else, and
removing the player leaves the field without one (`Machine.Visited.player_present`).
-/

namespace FieldMachine

set_option autoImplicit false

/-! ## Errors of instructions -/

namespace Machine

variable {σ : Type} {setting : Setting σ} {machine reached : Machine σ} {id : EntityId}
  {priority ip : Nat} {lane : Lane} {error : ExecError}

theorem fetch_ne_entityGone (code : Array UInt8) (ip : Nat) :
    fetch code ip ≠ .error .entityGone := by
  unfold fetch Cursor.byte
  cases moved : (Cursor.atStart code ip).skip 1 with
  | error error =>
      rintro ⟨⟩
      exact (Cursor.atStart code ip).skip_ne_entityGone 1 moved
  | ok after =>
      simp only [bind, Except.bind, pure, Except.pure]
      split <;> nofun

/-- An entity that runs is never found gone while its instruction is worked out. -/
theorem workOut_ne_entityGone {code : Array UInt8} {scene : Scene} (populated : scene.IsPopulated)
    (suspended? : Option Suspended) : workOut code scene ip suspended? ≠ .error .entityGone := by
  cases suspended? with
  | none =>
      simp only [workOut, bind, Except.bind]
      cases fetched : fetch code ip with
      | error error =>
          rintro ⟨⟩
          exact fetch_ne_entityGone code ip fetched
      | ok found =>
          obtain ⟨byte, reading, cursor⟩ := found
          obtain ⟨stands, planned, rfl⟩ := fetch_eq_ok.mp fetched
          obtain ⟨op, rfl, known⟩ := planOfByte?_eq_some.mp planned
          obtain ⟨operands, -, follows⟩ := op.agrees scene known
          obtain ⟨inside, -⟩ := Array.getElem?_eq_some_iff.mp stands
          have behind : ((Cursor.atStart code ip).forward 1).pc ≤ code.size := inside
          have spares := follows.spares populated behind
          dsimp only
          cases read : reading scene ((Cursor.atStart code ip).forward 1) with
          | error error =>
              rw [read] at spares
              rintro ⟨⟩
              exact spares rfl
          | ok came => rintro ⟨⟩
  | some suspended =>
      simp only [workOut, bind, Except.bind]
      cases moved : (Cursor.atStart code ip).moveTo suspended.next with
      | error error =>
          rintro ⟨⟩
          exact (Cursor.atStart code ip).moveTo_ne_entityGone _ moved
      | ok cursor =>
          obtain ⟨inside, rfl⟩ := Cursor.moveTo_eq_ok.mp moved
          let cursor : Cursor := { Cursor.atStart code ip with pc := suspended.next }
          have behind : cursor.pc ≤ cursor.code.size := inside
          have spares := suspended.continuation.plan_takes.spares populated behind
          show (suspended.continuation.plan scene cursor).bind _ ≠ _
          cases read : suspended.continuation.plan scene cursor with
          | error error =>
              rw [read] at spares
              rintro ⟨⟩
              exact spares rfl
          | ok came => rintro ⟨⟩

/-- What a write is refused for. -/
theorem store_ne_entityGone (setting : Setting σ) (machine : Machine σ)
    (selector address : UInt8) (value : UInt16) :
    (machine.store setting selector address value).2 ≠ some .entityGone := by
  unfold store
  split
  · nofun
  · cases (machine.writeCell setting selector address value).2 <;> simp

theorem perform_ne_entityGone (setting : Setting σ) (machine : Machine σ) (effect : Effect) :
    (effect.perform setting machine).2 ≠ some .entityGone := by
  cases effect with
  | store selector address value => exact store_ne_entityGone setting machine selector address value
  | drawByte selector address => exact store_ne_entityGone setting _ selector address _
  | _ => nofun

theorem performAll_ne_entityGone (setting : Setting σ) (machine : Machine σ)
    (effects : List Effect) :
    (Effect.performAll setting machine effects).2 ≠ some .entityGone := by
  induction effects generalizing machine with
  | nil => nofun
  | cons effect rest ih =>
      have first := perform_ne_entityGone setting machine effect
      unfold Effect.performAll
      split
      · next done performed => exact ih done
      · next done error performed =>
          rw [performed] at first
          exact first

theorem settle_ne_entityGone (setting : Setting σ) (machine : Machine σ) (reason : PauseReason)
    (value : Option UInt16) :
    (machine.settle setting reason value).2 ≠ some .entityGone := by
  unfold settle
  split
  · exact store_ne_entityGone setting machine _ _ _
  · nofun
  · nofun

/-- An ending fails for another reason. -/
theorem endingFailure?_ne_entityGone {token : ResumeToken} {ending : Ending}
    (lost : ∀ error, ending = .fault error → error ≠ .entityGone)
    (failed : machine.endingFailure? setting token ending = some (reached, error)) :
    error ≠ .entityGone := by
  cases ending with
  | fault told =>
      cases failed
      exact lost _ rfl
  | request request reason =>
      simp only [endingFailure?] at failed
      split at failed
      · cases failed
      · next value answered made =>
          have put := settle_ne_entityGone setting
            (answered.setAwaitedWindow reason false) reason value
          split at failed
          · cases failed
          · next settled refused taken =>
              cases failed
              rw [taken] at put
              exact fun gone => put (congrArg some gone)
  | _ => cases failed

/-- No lane fails because an entity is gone. -/
theorem failure?_ne_entityGone (here : machine.world.lane? id priority = some lane)
    (stands : lane.ip? = some ip)
    (failed : machine.failure? setting id priority ip lane = some (reached, error)) :
    error ≠ .entityGone := by
  unfold failure? at failed
  dsimp only at failed
  split at failed
  · next told worked =>
      cases failed
      rintro rfl
      exact workOut_ne_entityGone (World.isSome_entity?_of_lane? here) _ worked
  · cases failed
  · next effects ending next worked =>
      split at failed
      · next carried refused performed =>
          cases failed
          have refused := performAll_ne_entityGone setting
            (machine.onRecord setting id priority ip lane) effects
          rw [performed] at refused
          exact fun gone => refused (congrArg some gone)
      · next done performed =>
          refine endingFailure?_ne_entityGone ?_ failed
          rintro told rfl
          have fits : (Plan.act effects (.fault told)).Fits
              (machine.sceneOf setting id priority ip lane)
              ((machine.sceneOf setting id priority ip lane).HoldsUp ip next) :=
            (Scene.comesTo_of_workOut worked).fits stands
          cases fits with
          | plain plain => exact plain.2.elim
          | lost entry strays =>
              rintro rfl
              exact Reading.jumpError?_ne_entityGone strays

variable (setting) in
/-- A step of a lane counts no fault, or gives the lane up for another reason than that an entity is
gone. -/
theorem step_reports (machine : Machine σ) (id : EntityId) (priority : Nat) :
    (machine.step setting id priority).1.world.faults = machine.world.faults ∨
    ∃ (ip : Nat) (reached : Machine σ) (error : ExecError), error ≠ .entityGone ∧
      machine.step setting id priority =
        (reached.giveUp setting id priority ip error, .released) := by
  cases active : machine.world.laneActive id priority with
  | false =>
      rw [step_of_inactive setting active]
      exact .inl rfl
  | true =>
      obtain ⟨lane, here, runs⟩ := (Option.any_eq_true _ _).mp active
      obtain ⟨ip, -, stands, -⟩ := step_eq setting here runs
      cases failed : machine.failure? setting id priority ip lane with
      | none => exact .inl (faults_of_failure?_eq_none here runs stands failed)
      | some failure =>
          exact .inr ⟨ip, failure.1, failure.2, failure?_ne_entityGone here stands failed,
            step_of_failure? here runs stands failed⟩

end Machine

/-- A script that begins takes no entity out, and brings none in. -/
theorem Roster.Begins.entries? {roster after : Roster} {id : EntityId} {priority script : Nat}
    (begins : roster.Begins id priority script after) : after.entries? = roster.entries? := by
  cases begins <;> rfl

/-! ## What every event keeps -/

namespace Machine

variable {σ : Type} {setting : Setting σ} {holds : Machine σ → Prop} {machine : Machine σ}

variable (setting holds) in
/-- What every event keeps, and everything else that concerns neither a lane nor the player nor a
window. -/
structure Lasting : Prop where
  run {machine : Machine σ} (id : EntityId) (priority : Nat) (held : holds machine) :
    holds (machine.step setting id priority).1
  work {machine : Machine σ} (frame : Nat) (activity : Activity) (held : holds machine) :
    holds (activity.run setting frame machine).1
  resume {machine : Machine σ} (token : ResumeToken) (answer : Option UInt16)
    (held : holds machine) : holds (machine.applyResume setting token answer)
  invoke {machine : Machine σ} (id : EntityId) (priority script : Nat) (held : holds machine) :
    holds (machine.startScript id priority script none).1
  remove {machine : Machine σ} (id : EntityId) (held : holds machine) :
    holds (machine.remove id).1
  other {machine after : Machine σ} (held : holds machine)
    (roster : after.world.roster = machine.world.roster)
    (player : after.world.stage.player = machine.world.stage.player)
    (windows : after.world.stage.windows = machine.world.stage.windows) : holds after

namespace Lasting

theorem foldl {α : Type} {change : Machine σ → α → Machine σ}
    (each : ∀ machine item, holds machine → holds (change machine item)) (items : List α)
    (held : holds machine) : holds (items.foldl change machine) :=
  List.foldlRecOn items change held fun reached held item _ => each reached item held

theorem runLanes (lasting : Lasting setting holds) (id : EntityId) (priorities : List Nat)
    (held : holds machine) : holds (machine.runLanes setting id priorities) :=
  runLanes_invariant (fun _ _ _ held => lasting.other held rfl rfl rfl)
    (fun moment _ held => lasting.run moment.id moment.priority held) held

theorem runEntity (lasting : Lasting setting holds) (id : EntityId) (held : holds machine) :
    holds (machine.runEntity setting id) := by
  unfold Machine.runEntity
  split
  · exact held
  · exact lasting.runLanes id turnOrder held

theorem runActivities (lasting : Lasting setting holds) (frame : Nat) (activities : List Activity)
    (held : holds machine) : holds (machine.runActivities setting frame activities).1 := by
  induction activities generalizing machine with
  | nil => exact held
  | cons activity rest ih => exact ih (lasting.work frame activity held)

/-- The tokens that the host gave back are applied first. -/
theorem begun (lasting : Lasting setting holds) (elapsed : UInt64) (held : holds machine) :
    holds ((machine.beginTick setting elapsed).applyPending setting) := by
  have emptied : holds ((machine.beginTick setting elapsed).updateWorld fun world =>
      { world with pending := [] }) := lasting.other held rfl rfl rfl
  unfold applyPending
  dsimp only
  refine foldl ?_ _ emptied
  intro machine given held
  exact lasting.resume given.1 given.2 held

theorem tick (lasting : Lasting setting holds) (elapsed : UInt64) (held : holds machine) :
    holds (machine.tick setting elapsed) := by
  let begun := (machine.beginTick setting elapsed).applyPending setting
  have ran : holds (begun.runEntities setting) :=
    foldl (fun _ id held => lasting.runEntity id held) _ (lasting.begun elapsed held)
  have advanced : holds ((begun.runEntities setting).advanceActors setting) :=
    lasting.other ran (roster_advanceActors setting _) rfl rfl
  exact lasting.other (lasting.runActivities _ _ advanced) rfl rfl rfl

theorem duringTick (lasting : Lasting setting holds) (elapsed : UInt64) (entities lanes : Nat)
    (held : holds machine) : holds (machine.duringTick setting elapsed entities lanes) :=
  lasting.runLanes _ _
    (foldl (fun _ id held => lasting.runEntity id held) _ (lasting.begun elapsed held))

theorem start (lasting : Lasting setting holds) (held : holds machine) : holds machine.start := by
  have emptied : holds (machine.updateSession fun session =>
      { session with memory := session.memory.resetScratch }) := lasting.other held rfl rfl rfl
  exact foldl (fun _ id held => lasting.invoke id 0 0 held) machine.world.present emptied

theorem reachable (lasting : Lasting setting holds)
    (initially : ∀ session random host, holds (enter setting session random host))
    (reachable : Reachable setting machine) : holds machine := by
  induction reachable with
  | enter session random host => exact initially session random host
  | start _ held => exact lasting.start held
  | tick _ elapsed held => exact lasting.tick elapsed held
  | invoke _ index priority script held => exact lasting.invoke index priority script held
  | remove _ index held => exact lasting.remove index held
  | outside _ same held =>
      exact lasting.other held (congrArg World.roster same) (congrArg (·.stage.player) same)
        (congrArg (·.stage.windows) same)
  | giveBack _ token answer held => exact lasting.other held rfl rfl rfl
  | spawn _ activity held => exact lasting.other held rfl rfl rfl
  | loadPalette _ id palette held => exact lasting.other held rfl rfl rfl

/-- What holds of a field that is entered, and lasts, holds in every state that it can be seen in. -/
theorem visited (lasting : Lasting setting holds)
    (initially : ∀ session random host, holds (enter setting session random host))
    (visited : Visited setting machine) : holds machine := by
  induction visited with
  | between reachable => exact lasting.reachable initially reachable
  | during reachable elapsed entities lanes =>
      exact lasting.duringTick elapsed entities lanes (lasting.reachable initially reachable)
  | within _ id priority held => exact lasting.run id priority held

end Lasting

/-! ## The player -/

/-- The player is an entity that is there. -/
def PlayerPresent (machine : Machine σ) : Prop :=
  ∀ id, machine.world.stage.player = some id → (machine.world.entity? id).isSome

namespace PlayerPresent

variable {after : Machine σ}

/-- Where nobody comes or goes, nobody becomes the player but who is there. -/
theorem retains (present : machine.PlayerPresent)
    (retains : machine.world.stage.Retains (fun id => (machine.world.entity? id).isSome)
      (fun _ => True) after.world.stage)
    (same : after.world.roster.entries? = machine.world.roster.entries?) :
    after.PlayerPresent := by
  intro id leads
  rw [World.isSome_entity?, same, ← World.isSome_entity?]
  rcases retains.player id leads with before | known
  · exact present id before
  · exact known

theorem wake (present : machine.PlayerPresent) (token : ResumeToken) :
    (machine.wake token).1.PlayerPresent := by
  refine present.retains ?_ (by rw [roster_wake]; rfl)
  rw [world_wake, World.stage_wake]
  exact .refl

/-- Who is removed is the player no more. -/
theorem erase (present : machine.PlayerPresent) (index : EntityId) :
    ({ machine with
      world := { machine.world with
        entities := machine.world.entities.setIfInBounds index none
        stage := { machine.world.stage with
          player :=
            if machine.world.stage.player = some index then none
            else machine.world.stage.player } } } : Machine σ).PlayerPresent := by
  intro id leads
  rw [World.isSome_entity?, roster_erase]
  simp only at leads
  split at leads
  · cases leads
  · next other =>
      have apart : id ≠ index := by
        rintro rfl
        exact other leads
      have known := present id leads
      rw [World.isSome_entity?] at known
      simpa [Roster.erase, apart] using known

end PlayerPresent

theorem lasting_playerPresent : Lasting setting PlayerPresent where
  run {machine} id priority present :=
    present.retains ((conducts_step setting machine id priority).mono fun _ _ => trivial)
      ((Occurs.run machine id priority : Occurs setting _ _ _).step.entries? rfl)
  work {machine} frame activity present :=
    present.retains (retains_runActivity frame activity machine)
      ((Occurs.work machine frame activity).step.entries? rfl)
  resume {machine} token answer present :=
    present.retains (retains_applyResume machine token answer)
      ((Occurs.resume machine token answer).step.entries? rfl)
  invoke {machine} id priority script present :=
    present.retains (machine.retains_startScript id priority script none)
      (machine.startScript_begins id priority script).entries?
  remove {machine} index present := by
    unfold remove
    split
    · exact present
    · next entity known =>
        exact Lasting.foldl (fun _ token present => present.wake token) entity.completions
          (present.erase index)
  other {machine after} present roster player windows :=
    present.retains (.of_eq player windows) (congrArg Roster.entries? roster)

/-- In every state that a field can be seen in, the player is an entity that is there. -/
theorem Visited.player_present (visited : Visited setting machine) : machine.PlayerPresent :=
  lasting_playerPresent.visited (fun _ _ _ _ => nofun) visited

end Machine

end FieldMachine
