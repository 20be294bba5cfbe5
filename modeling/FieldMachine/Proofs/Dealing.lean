import FieldMachine.Proofs.Attendance
import FieldMachine.Proofs.Failure
import Mathlib.Logic.Relation

/-!
# What becomes of a session

A field does few things to its session (`Session.Step`): an instruction makes a change
of it or of its party, a cell is written, the countdown runs, and entering the field
empties the scratch bank.  Scripts, walks, windows and whatever the host hears do not
concern it.  So whatever lanes and activities do, a session is only ever led on by
such steps (`Machine.follow_deals`), and what each of them keeps up, a field keeps up.
-/

namespace FieldMachine

set_option autoImplicit false

namespace Session

/-- One thing that a field does to its session. -/
inductive Step (before : Session) : Session → Prop
  | change (change : SessionChange) : Step before (change.apply before)
  | party (change : PartyChange) :
      Step before { before with party := change.apply before.party }
  | cell (bank : UInt8) (address value : UInt16) : Step before (before.putCell bank address value)
  | time (elapsed : UInt64) : Step before (before.advanceTimer elapsed)
  | enter : Step before { before with memory := before.memory.resetScratch }

/-- A change of one character concerns the characters alone. -/
theorem updateCharacter_eq (session : Session) (id : UInt8) (change : Character → Character) :
    ∃ characters, session.updateCharacter id change = { session with characters } := by
  unfold updateCharacter
  split <;> exact ⟨_, rfl⟩

/-- Restoring those in the party concerns the characters alone. -/
theorem restoreParty_eq (session : Session) :
    ∃ characters, session.restoreParty = { session with characters } := by
  unfold restoreParty
  generalize session.party.slots.toList = held
  induction held generalizing session with
  | nil => exact ⟨_, rfl⟩
  | cons slot rest ih =>
      cases slot with
      | none => exact ih session
      | some id =>
          obtain ⟨characters, same⟩ := session.updateCharacter_eq id Character.restore
          rw [List.foldl_cons]
          dsimp only
          rw [same]
          exact ih _

/-- Steps of a session, one after the other. -/
def Steps : Session → Session → Prop := Relation.ReflTransGen Step

theorem Step.steps {before after : Session} (step : before.Step after) : before.Steps after :=
  .single step

/-- What one step keeps up, all of them keep up. -/
theorem Steps.invariant {motive : Session → Prop}
    (kept : ∀ before after : Session, before.Step after → motive before → motive after)
    {before after : Session} (steps : before.Steps after) (holds : motive before) :
    motive after := by
  induction steps with
  | refl => exact holds
  | tail _ step ih => exact kept _ _ step ih

end Session

namespace Machine

variable {σ : Type}

/-- Steps of its session lead from one machine to another. -/
def Deals (before after : Machine σ) : Prop := before.session.Steps after.session

namespace Deals

variable {first second third : Machine σ}

theorem of_eq (same : second.session = first.session) : Deals first second := by
  unfold Deals
  rw [same]
  exact .refl

theorem of_step (step : first.session.Step second.session) : Deals first second := step.steps

theorem trans (deals : Deals first second) (further : Deals second third) : Deals first third :=
  Relation.ReflTransGen.trans deals further

/-- What follows does not concern the session. -/
theorem before (deals : Deals first second) (same : third.session = second.session) :
    Deals first third := deals.trans (.of_eq same)

theorem foldl {α : Type} {change : Machine σ → α → Machine σ}
    (each : ∀ machine item, Deals machine (change machine item)) (items : List α)
    (machine : Machine σ) : Deals machine (items.foldl change machine) :=
  List.foldlRecOn items change (.of_eq rfl) fun reached deals item _ =>
    deals.trans (each reached item)

end Deals

/-! ## What does not concern the session -/

section Aside

variable (setting : Setting σ) (machine : Machine σ)

theorem session_foldl {α : Type} {change : Machine σ → α → Machine σ}
    (each : ∀ machine item, (change machine item).session = machine.session) (items : List α) :
    (items.foldl change machine).session = machine.session :=
  List.foldlRecOn (motive := fun reached => reached.session = machine.session) items change rfl
    fun reached same item _ => (each reached item).trans same

theorem session_noteAll (entries : List Entry) :
    (entries.foldl note machine).session = machine.session := by
  have each : ∀ (machine : Machine σ) (entry : Entry),
      (machine.note entry).session = machine.session := fun _ _ => rfl
  exact machine.session_foldl each entries

theorem session_withRandom (random : Random) :
    ({ machine with random } : Machine σ).session = machine.session := rfl

theorem session_request (request : Request) (token : ResumeToken) :
    (machine.request setting request token).2.session = machine.session := by
  obtain ⟨host, journal, same⟩ := request_eq setting machine request token
  rw [same]

theorem session_complete (onStop : Option ResumeToken) :
    (machine.complete onStop).session = machine.session := by
  cases onStop with
  | none => rfl
  | some token => exact machine.session_wake token

theorem session_startScript (id : EntityId) (priority script : Nat)
    (onStop : Option ResumeToken) :
    (machine.startScript id priority script onStop).1.session = machine.session := by
  unfold startScript
  split
  · rfl
  · split <;> rfl

theorem session_giveUp (id : EntityId) (priority ip : Nat) (error : ExecError) :
    (machine.giveUp setting id priority ip error).session = machine.session := by
  obtain ⟨host, journal, same⟩ := giveUp_eq setting machine id priority ip error
  rw [same]

theorem session_passOn (id : EntityId) (priority : Nat) (lane : Lane) (level script : Nat) :
    (machine.passOn id priority lane level script).1.session = machine.session := by
  unfold passOn
  dsimp only
  rw [session_startScript, session_complete]
  rfl

theorem session_noteAny (entry : Option Entry) :
    (entry.elim machine machine.note).session = machine.session := by
  cases entry <;> rfl

/-- Activities do not concern the session. -/
theorem session_runActivity (frame : Nat) (activity : Activity) :
    (activity.run setting frame machine).1.session = machine.session := by
  cases activity with
  | scroll moving => exact session_noteAny _ _
  | fade fading => exact session_noteAny _ _
  | shift moving => rfl
  | choreography dance =>
      simp only [Activity.run]
      split
      · exact session_wake _ dance.token
      · rfl
  | countdown timer =>
      simp only [Activity.run]
      split
      · cases timer.wake with
        | none => exact session_notify ..
        | some token =>
            dsimp only
            rw [session_notify, session_wake, session_notify]
      · exact session_notify ..

theorem session_runActivities (frame : Nat) (activities : List Activity) :
    (machine.runActivities setting frame activities).1.session = machine.session := by
  induction activities generalizing machine with
  | nil => rfl
  | cons activity rest ih =>
      unfold runActivities
      exact (ih _).trans (session_runActivity setting machine frame activity)

theorem session_finishTick : (machine.finishTick setting).session = machine.session :=
  session_runActivities setting machine machine.world.frame machine.world.activities

theorem session_remove (index : Nat) : (machine.remove index).1.session = machine.session := by
  unfold remove
  split
  · rfl
  · exact session_foldl _ (fun machine token => machine.session_wake token) _

end Aside

/-! ## Effects and ends of an instruction -/

section Instructions

variable (setting : Setting σ) (machine : Machine σ)

theorem writeCell_deals (bank address : UInt8) (value : UInt16) :
    Deals machine (machine.writeCell setting bank address value).1 := by
  unfold writeCell
  split
  · exact .of_eq rfl
  · refine .of_step ?_
    rw [session_putCell]
    exact .cell bank address.toUInt16 value

theorem store_deals (selector address : UInt8) (value : UInt16) :
    Deals machine (machine.store setting selector address value).1 := by
  unfold store
  split
  · exact .of_eq rfl
  · exact machine.writeCell_deals setting selector address value

theorem settle_deals (reason : PauseReason) (value : Option UInt16) :
    Deals machine (machine.settle setting reason value).1 := by
  unfold settle
  split
  · exact machine.store_deals setting ..
  · next result => exact .of_step (.change (.setBattleResult result))
  · exact .of_eq rfl

theorem perform_deals (effect : Effect) : Deals machine (effect.perform setting machine).1 := by
  cases effect with
  | store selector address value => exact machine.store_deals setting ..
  | drawByte selector address =>
      simp only [Effect.perform]
      generalize machine.random.nextByte = drawn
      exact store_deals setting { machine with random := drawn.1 } ..
  | session change => exact .of_step (.change change)
  | party change =>
      refine .of_step ?_
      simp only [Effect.perform, session_notify]
      exact .party change
  | background | livePalette | lockTriangle =>
      simp only [Effect.perform]
      exact .of_eq (session_notify ..)
  | notify notice => exact .of_eq (session_notify ..)
  | reseed seed => exact .of_eq (machine.session_withRandom (.ofSeed seed))
  | _ => exact .of_eq rfl

theorem performAll_deals (effects : List Effect) :
    Deals machine (Effect.performAll setting machine effects).1 := by
  induction effects generalizing machine with
  | nil => exact .of_eq rfl
  | cons effect rest ih =>
      have first := machine.perform_deals setting effect
      unfold Effect.performAll
      split
      · next next performed =>
          rw [performed] at first
          exact first.trans (ih next)
      · next next error performed =>
          rw [performed] at first
          exact first

theorem makeRequest_deals (id : EntityId) (priority ip next : Nat) (lane : Lane)
    (request : Request) (reason : PauseReason) :
    Deals machine (machine.makeRequest setting id priority ip next lane request reason).1 := by
  have asked := session_request setting machine request (lane.token id priority)
  unfold Lane.token at asked
  unfold makeRequest
  dsimp only
  split
  · next answered made =>
      rw [made] at asked
      exact .of_eq ((answered.session_setAwaitedWindow reason true).trans asked)
  · next value answered made =>
      rw [made] at asked
      have closed : Deals machine (answered.setAwaitedWindow reason false) :=
        .of_eq ((answered.session_setAwaitedWindow reason false).trans asked)
      have settled := closed.trans (settle_deals setting _ reason value)
      split
      · next done taken =>
          rw [taken] at settled
          exact settled.before rfl
      · next done error taken =>
          rw [taken] at settled
          exact settled.before (session_giveUp setting done id priority ip error)

theorem conclude_deals (id : EntityId) (priority ip next : Nat) (lane : Lane) (ending : Ending) :
    Deals machine (machine.conclude setting id priority ip next lane ending).1 := by
  cases ending with
  | stop =>
      exact .of_eq (session_complete (machine.updateLane id priority Lane.finish) lane.onStop?)
  | handOver level script => exact .of_eq (machine.session_passOn id priority lane level script)
  | request request reason => exact machine.makeRequest_deals setting ..
  | fault error => exact .of_eq (session_giveUp setting machine id priority ip error)
  | _ => exact .of_eq rfl

theorem carryOut_deals (id : EntityId) (priority ip next : Nat) (lane : Lane) (plan : Plan) :
    Deals machine (machine.carryOut setting id priority ip next lane plan).1 := by
  cases plan with
  | retry entries =>
      exact .of_eq (machine.session_noteAll entries)
  | act effects ending =>
      have performed := machine.performAll_deals setting effects
      simp only [carryOut]
      split
      · next done taken =>
          rw [taken] at performed
          exact performed.trans (done.conclude_deals setting ..)
      · next done error taken =>
          rw [taken] at performed
          exact performed.before (session_giveUp setting done id priority ip error)

/-- What an instruction does to the session. -/
theorem step_deals (id : EntityId) (priority : Nat) :
    Deals machine (machine.step setting id priority).1 := by
  cases active : machine.world.laneActive id priority with
  | false => exact .of_eq (congrArg session (step_of_inactive setting active))
  | true =>
      obtain ⟨lane, here, active⟩ := (Option.any_eq_true _ _).mp active
      obtain ⟨ip, noted, stands, journal, same⟩ := step_eq setting here active
      have unchanged : noted.session = machine.session := by
        rcases journal with rfl | ⟨byte, -, rfl⟩ <;> rfl
      rw [same]
      split
      · exact .of_eq ((session_giveUp setting noted id priority ip _).trans unchanged)
      · next plan next worked =>
          exact (Deals.of_eq unchanged).trans
            (noted.carryOut_deals setting id priority ip next lane plan)

end Instructions

/-! ## Ticks and moves -/

section Moves

variable (setting : Setting σ) (machine : Machine σ)

theorem runLanes_deals (id : EntityId) (priorities : List Nat) :
    Deals machine (machine.runLanes setting id priorities) := by
  let invariant (after : Machine σ) : Prop := Deals machine after
  have kept : invariant (machine.runLanes setting id priorities) := by
    refine runLanes_invariant ?_ ?_ (Deals.of_eq rfl)
    · exact fun after starved entry deals => Deals.before deals rfl
    · exact fun moment _ deals => Deals.trans deals
        (moment.machine.step_deals setting moment.id moment.priority)
  exact kept

theorem runEntity_deals (id : EntityId) : Deals machine (machine.runEntity setting id) := by
  unfold runEntity
  split
  · exact .of_eq rfl
  · exact machine.runLanes_deals setting id turnOrder

/-- What an answer that was given back does to the session. -/
theorem applyResume_deals (token : ResumeToken) (answer : Option UInt16) :
    Deals machine (machine.applyResume setting token answer) := by
  have unchanged := machine.session_wake token
  unfold applyResume
  split
  · next woken taken =>
      rw [taken] at unchanged
      exact .of_eq unchanged
  · next woken reason taken =>
      rw [taken] at unchanged
      have closed : Deals machine (woken.setAwaitedWindow reason false) :=
        .of_eq ((woken.session_setAwaitedWindow reason false).trans unchanged)
      dsimp only
      split
      · next window bank address value =>
          have written := closed.trans (writeCell_deals setting _ bank address value)
          split
          · next done taken =>
              rw [taken] at written
              exact written
          · next done error taken =>
              rw [taken] at written
              exact written.before rfl
      · next result => exact closed.trans (.of_step (.change (.setBattleResult result)))
      · exact closed

/-- Time passes on the countdown, and then the answers are applied. -/
theorem begin_deals (elapsed : UInt64) :
    Deals machine ((machine.beginTick setting elapsed).applyPending setting) := by
  have passed : Deals machine (machine.beginTick setting elapsed) := .of_step (.time elapsed)
  have emptied : Deals machine ((machine.beginTick setting elapsed).updateWorld
      fun world => { world with pending := [] }) := passed.before rfl
  have each : ∀ (machine : Machine σ) (given : ResumeToken × Option UInt16),
      Deals machine (machine.applyResume setting given.1 given.2) :=
    fun machine given => machine.applyResume_deals setting given.1 given.2
  exact emptied.trans (.foldl each _ _)

theorem runEntities_deals : Deals machine (machine.runEntities setting) :=
  .foldl (fun machine id => machine.runEntity_deals setting id) _ machine

theorem tick_deals (elapsed : UInt64) : Deals machine (machine.tick setting elapsed) := by
  have turns := (machine.begin_deals setting elapsed).trans (runEntities_deals setting _)
  exact turns.before (session_finishTick setting _)

theorem duringTick_deals (elapsed : UInt64) (entities lanes : Nat) :
    Deals machine (machine.duringTick setting elapsed entities lanes) := by
  have turns := (machine.begin_deals setting elapsed).trans
    (.foldl (runEntity_deals setting) (List.range entities) _)
  exact turns.trans (runLanes_deals setting _ entities (turnOrder.take lanes))

theorem start_deals : Deals machine machine.start := by
  have emptied : Deals machine (machine.updateSession fun session =>
      { session with memory := session.memory.resetScratch }) := .of_step .enter
  exact emptied.before
    (session_foldl _ (fun machine id => machine.session_startScript id 0 0 none) _)

theorem make_deals (move : Move) : Deals machine (machine.make setting move) := by
  cases move with
  | start => exact machine.start_deals
  | tick elapsed => exact machine.tick_deals setting elapsed
  | invoke index priority script =>
      exact .of_eq (machine.session_startScript index priority script none)
  | giveBack token answer => exact .of_eq rfl
  | remove index => exact .of_eq (machine.session_remove index)
  | spawn activity => exact .of_eq rfl
  | loadPalette id palette => exact .of_eq rfl
  | begin elapsed entities lanes => exact machine.duringTick_deals setting elapsed entities lanes
  | step id priority => exact machine.step_deals setting id priority

/-- Whatever moves are made, the session is led on by its steps. -/
theorem follow_deals (moves : List Move) : Deals machine (machine.follow setting moves) :=
  .foldl (fun machine move => machine.make_deals setting move) moves machine

end Moves

end Machine

end FieldMachine
