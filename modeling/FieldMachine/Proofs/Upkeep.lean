import FieldMachine.Proofs.Moment
import FieldMachine.Proofs.Motion

/-!
# Every motion is carried on

In every state that a field can be seen in, whatever is under way is carried on
by an activity (`Machine.Visited.attended`).  An instruction lets its lane wait for
a walk of the party only together with the choreography that bears its token;
nothing else but an activity ever takes something out of the queue, and then its
motion is over.
-/

namespace FieldMachine

set_option autoImplicit false

/-! ## Instructions -/

namespace World

/-- Nothing is under way before a field is entered. -/
theorem attended_ofSection (source : Section) : (ofSection source).Attended := by
  intro motion serial moves
  cases motion with
  | shift id =>
      obtain ⟨actor, known, moves⟩ := Option.bind_eq_some_iff.mp moves
      obtain ⟨entity, found, rfl⟩ := Option.map_eq_some_iff.mp known
      simp only [entity?, ofSection, Array.getElem?_mapIdx] at found
      cases named : source.entities[id]? with
      | none => simp [named] at found
      | some scripts =>
          simp only [named, Option.map_some, Option.join_some, Option.some.injEq] at found
          subst found
          cases moves
  | dance id priority =>
      obtain ⟨lane, here, moves⟩ := Option.bind_eq_some_iff.mp moves
      rw [lane?_ofSection here] at moves
      cases moves
  | _ => cases moves

/-- Nothing of an entity that is gone is under way. -/
theorem continues_erase (world : World) (id : EntityId) (player : Option EntityId) :
    world.Continues { world with
      entities := world.entities.setIfInBounds id none
      stage := { world.stage with player } } := by
  refine .of_subsides rfl fun motion serial moves => ?_
  cases motion with
  | shift other =>
      obtain ⟨actor, known, moves⟩ := Option.bind_eq_some_iff.mp moves
      obtain ⟨entity, found, rfl⟩ := Option.map_eq_some_iff.mp known
      by_cases gone : id = other
      · subst gone
        simp only [entity?, Array.getElem?_setIfInBounds_self] at found
        split at found <;> cases found
      · simp only [entity?, Array.getElem?_setIfInBounds_ne gone] at found
        simp [underWay?, actor?, entity?, found, moves]
  | dance other priority =>
      obtain ⟨lane, here, moves⟩ := Option.bind_eq_some_iff.mp moves
      have erased := congrArg Roster.lane? (Machine.roster_erase world id { world.stage with player })
      rw [lane?_roster] at erased
      rw [erased] at here
      simp only [Roster.erase, lane?_roster] at here
      split at here
      · cases here
      · simp [underWay?, here, moves]
  | _ => exact moves

end World

namespace Machine

variable {σ : Type} {setting : Setting σ} {machine : Machine σ} {id : EntityId} {priority : Nat}
  {lane : Lane}

theorem continues_updateLane (machine : Machine σ) (id : EntityId) (priority : Nat)
    {change : Lane → Lane}
    (kept : ∀ lane, (change lane).underWay? = none ∨ (change lane).underWay? = lane.underWay?) :
    machine.world.Continues (machine.updateLane id priority change).world :=
  machine.world.continues_updateLane id priority kept

theorem continues_giveUp (machine : Machine σ) (id : EntityId) (priority ip : Nat)
    (error : ExecError) :
    machine.world.Continues (machine.giveUp setting id priority ip error).world := by
  have stopped : machine.world.Continues (machine.updateLane id priority (·.abort ip)).world :=
    machine.continues_updateLane id priority fun _ => .inl rfl
  simp only [giveUp, world_notify, world_note]
  exact stopped.trans (.of_eq rfl (by funext motion; cases motion <;> rfl))

theorem continues_complete (machine : Machine σ) (onStop : Option ResumeToken) :
    machine.world.Continues (machine.complete onStop).world := by
  cases onStop with
  | none => exact .refl
  | some token =>
      rw [complete, world_wake]
      exact machine.world.continues_wake token

theorem continues_startScript (machine : Machine σ) (id : EntityId) (priority script : Nat)
    (onStop : Option ResumeToken) :
    machine.world.Continues (machine.startScript id priority script onStop).1.world := by
  unfold startScript
  split
  · exact .refl
  · split
    · exact .refl
    · exact machine.continues_updateLane id priority fun _ => .inl rfl

theorem continues_setAwaitedWindow (machine : Machine σ) (reason : PauseReason) (isOpen : Bool) :
    machine.world.Continues (machine.setAwaitedWindow reason isOpen).world := by
  unfold setAwaitedWindow
  split
  · exact .refl
  · exact machine.world.continues_changeWindow _ _

/-- A lane may wait for anything but a walk of the party. -/
theorem continues_pauseLane (machine : Machine σ) (id : EntityId) (priority next : Nat)
    {reason : PauseReason} (other : reason ≠ .choreography) :
    machine.world.Continues (machine.pauseLane id priority next reason).world :=
  machine.continues_updateLane id priority fun _ =>
    .inl (if_neg (by simpa [Lane.pause, Lane.pauseReason?] using other))

theorem continues_makeRequest (machine : Machine σ) (id : EntityId) (priority ip next : Nat)
    (lane : Lane) (request : Request) {reason : PauseReason} (other : reason ≠ .choreography) :
    machine.world.Continues
      (machine.makeRequest setting id priority ip next lane request reason).1.world := by
  have asked := world_request setting machine request (lane.token id priority)
  unfold Lane.token at asked
  unfold makeRequest
  dsimp only
  split
  · next answered made =>
      rw [made] at asked
      have asked : answered.world = machine.world := asked
      rw [← asked]
      exact (answered.continues_setAwaitedWindow reason true).trans
        (continues_pauseLane _ id priority next other)
  · next value answered made =>
      rw [made] at asked
      have asked : answered.world = machine.world := asked
      have settled : ((answered.setAwaitedWindow reason false).settle setting reason
          value).1.world = (answered.setAwaitedWindow reason false).world :=
        world_settle reason value
      have closed := answered.continues_setAwaitedWindow reason false
      rw [asked, ← settled] at closed
      split
      · next done taken =>
          rw [taken] at closed
          exact closed.trans (done.continues_updateLane id priority fun _ => .inl rfl)
      · next done error taken =>
          rw [taken] at closed
          exact closed.trans (done.continues_giveUp id priority ip error)

/-- The end of an invocation wakes whoever waited for it, and begins nothing. -/
theorem continues_finish (machine : Machine σ) (id : EntityId) (priority : Nat) (lane : Lane) :
    machine.world.Continues
      ((machine.updateLane id priority Lane.finish).complete lane.onStop?).world := by
  have ended : machine.world.Continues (machine.updateLane id priority Lane.finish).world :=
    machine.continues_updateLane id priority fun _ => .inl rfl
  exact ended.trans (continues_complete _ lane.onStop?)

theorem continues_passOn (machine : Machine σ) (id : EntityId) (priority : Nat) (lane : Lane)
    (level script : Nat) :
    machine.world.Continues (machine.passOn id priority lane level script).1.world :=
  (machine.continues_finish id priority lane).trans (continues_startScript _ id level script none)

/-- However an instruction ends, it begins no motion, unless its lane waits for a walk. -/
theorem continues_conclude (machine : Machine σ) (id : EntityId) (priority ip next : Nat)
    (lane : Lane) {ending : Ending}
    (paused : ∀ reason, ending = .pause reason → reason ≠ .choreography)
    (asked : ∀ request reason, ending = .request request reason → reason ≠ .choreography) :
    machine.world.Continues
      (machine.conclude setting id priority ip next lane ending).1.world := by
  cases ending with
  | advance => exact machine.continues_updateLane id priority fun _ => .inl rfl
  | yield => exact machine.continues_updateLane id priority fun _ => .inl rfl
  | suspend continuation => exact machine.continues_updateLane id priority fun _ => .inl rfl
  | pause reason => exact machine.continues_pauseLane id priority next (paused reason rfl)
  | stop => exact machine.continues_finish id priority lane
  | handOver level script => exact machine.continues_passOn id priority lane level script
  | request request reason =>
      exact machine.continues_makeRequest id priority ip next lane request (asked request reason rfl)
  | fault error => exact machine.continues_giveUp id priority ip error

/-- A lane that waits for a walk of the party leaves the choreography in the queue. -/
theorem continues_dance (machine : Machine σ) {id : EntityId} {priority : Nat} {lane : Lane}
    (here : machine.world.lane? id priority = some lane) (next : Nat) (walks : List Walk)
    (frames : UInt16) :
    machine.world.Continues
      (((machine.updateWorld (·.spawn (.choreography
        { walks, frames, token := lane.token id priority }))).pauseLane id priority next
          .choreography).world) := by
  let dance : Activity := .choreography { walks, frames, token := lane.token id priority }
  let waits := machine.world.updateLane id priority (·.pause next .choreography)
  have begun : machine.world.Continues (waits.spawn dance) := by
    have carried : dance.carries? = some (.dance id priority, lane.epoch) := rfl
    refine machine.world.continues_begin rfl carried ?_ ?_
    · simp only [waits, World.underWay?_updateLane, here]
      rfl
    · intro motion apart
      simp only [waits, World.underWay?_updateLane, if_neg apart]
  exact begun

/-- Effects begin nothing that is not carried on, and neither does what follows them. -/
theorem continues_act (machine : Machine σ) (id : EntityId) (priority ip next : Nat) (lane : Lane)
    (effects : List Effect) {ending : Ending}
    (paused : ∀ reason, ending = .pause reason → reason ≠ .choreography)
    (asked : ∀ request reason, ending = .request request reason → reason ≠ .choreography) :
    machine.world.Continues
      (machine.carryOut setting id priority ip next lane (.act effects ending)).1.world := by
  have performed := Effect.continues_performAll setting machine effects
  simp only [carryOut]
  split
  · next done taken =>
      rw [taken] at performed
      exact performed.trans (done.continues_conclude id priority ip next lane paused asked)
  · next done error taken =>
      rw [taken] at performed
      exact performed.trans (done.continues_giveUp id priority ip error)

/-- Whatever an instruction comes to, what it begins is carried on. -/
theorem continues_carryOut {scene : Scene} {ip next : Nat} {plan : Plan}
    (comesTo : scene.ComesTo ip plan next) (same : machine.world = scene.world)
    (here : scene.world.lane? scene.entity scene.priority = some scene.lane)
    (stands : scene.lane.ip? = some ip) :
    machine.world.Continues
      (machine.carryOut setting scene.entity scene.priority ip next scene.lane
        plan).1.world := by
  cases comesTo.fits stands with
  | @plain plan plain =>
      cases plan with
      | retry entries =>
          have noted := world_noteAll machine entries
          rw [← noted]
          exact (entries.foldl note machine).continues_updateLane scene.entity scene.priority
            fun _ => .inl rfl
      | act effects ending =>
          refine machine.continues_act _ _ ip next _ effects ?_ ?_
          · rintro reason rfl rfl
            cases plain.2
          · rintro request reason rfl rfl
            obtain ⟨-, op, -, asks⟩ := plain.2
            cases asks
  | call known admitted => exact machine.continues_act _ _ ip next _ _ (by simp) (by simp)
  | await known admitted => exact machine.continues_act _ _ ip next _ _ (by simp) (by simp)
  | @dance effects walks frames spared =>
      have performed := Effect.continues_performAll setting machine effects
      have kept := Effect.roster_performAll setting machine fun effect member =>
        Effect.sparesLanes_of_isPlain (spared effect member)
      simp only [carryOut, performAll_append]
      cases taken : Effect.performAll setting machine effects with
      | mk done error =>
          rw [taken, same] at kept
          rw [taken] at performed
          have there : done.world.lane? scene.entity scene.priority = some scene.lane := by
            rw [← World.lane?_roster, kept]
            exact here
          cases error with
          | none => exact performed.trans (done.continues_dance there next walks frames)
          | some error => exact performed.trans (done.continues_giveUp _ _ ip error)
  | handOver level script => exact machine.continues_act _ _ ip next _ _ (by simp) (by simp)
  | home entry => exact machine.continues_act _ _ ip next _ _ (by simp) (by simp)
  | lost entry strays => exact machine.continues_act _ _ ip next _ _ (by simp) (by simp)
  | lead spared known => exact machine.continues_act _ _ ip next _ _ (by simp) (by simp)

variable (setting)

/-- Every instruction keeps up that motions are carried on. -/
theorem continues_step (machine : Machine σ) (id : EntityId) (priority : Nat) :
    machine.world.Continues (machine.step setting id priority).1.world := by
  cases active : machine.world.laneActive id priority with
  | false =>
      rw [step_of_inactive setting active]
      exact .refl
  | true =>
      obtain ⟨lane, here, runs⟩ := (Option.any_eq_true _ _).mp active
      obtain ⟨ip, noted, stands, journal, same⟩ := step_eq setting here runs
      have spared : noted.world = machine.world := by
        rcases journal with rfl | ⟨byte, -, rfl⟩ <;> rfl
      rw [same, ← spared]
      split
      · next error failed => exact noted.continues_giveUp id priority ip error
      · next plan next worked =>
          have comesTo : (machine.sceneOf setting id priority ip lane).ComesTo ip plan next :=
            Scene.comesTo_of_workOut worked
          exact continues_carryOut comesTo spared here stands

/-! ## The parts of a tick -/

/-- Turns keep up whatever instructions and spent budgets do. -/
theorem continues_runLanes (machine : Machine σ) (id : EntityId) (priorities : List Nat) :
    machine.world.Continues (machine.runLanes setting id priorities).world := by
  let invariant (after : Machine σ) : Prop := machine.world.Continues after.world
  have kept : invariant (machine.runLanes setting id priorities) := by
    refine runLanes_invariant ?_ ?_ .refl
    · intro after starved entry continues
      exact continues.trans (.of_eq rfl (by funext motion; cases motion <;> rfl))
    · intro moment among continues
      exact continues.trans (continues_step setting moment.machine moment.id moment.priority)
  exact kept

theorem continues_runEntity (machine : Machine σ) (id : EntityId) :
    machine.world.Continues (machine.runEntity setting id).world := by
  unfold runEntity
  split
  · exact .refl
  · exact machine.continues_runLanes setting id turnOrder

theorem continues_foldl {α : Type} {change : Machine σ → α → Machine σ}
    (each : ∀ (machine : Machine σ) item, machine.world.Continues (change machine item).world)
    (items : List α) (machine : Machine σ) :
    machine.world.Continues (items.foldl change machine).world :=
  List.foldlRecOn (motive := fun reached => machine.world.Continues reached.world) items change
    .refl fun reached continues item _ => continues.trans (each reached item)

theorem continues_applyResume (machine : Machine σ) (token : ResumeToken)
    (answer : Option UInt16) :
    machine.world.Continues (machine.applyResume setting token answer).world := by
  have woken := machine.world.continues_wake token
  rw [← world_wake] at woken
  unfold applyResume
  split
  · next waked taken =>
      rw [taken] at woken
      exact woken
  · next waked reason taken =>
      rw [taken] at woken
      have closed := woken.trans (waked.continues_setAwaitedWindow reason false)
      dsimp only
      split
      · next window bank address value =>
          have written := world_writeCell setting
            (waked.setAwaitedWindow (.ask window bank address) false) bank address value
          split
          · next done wrote =>
              rw [wrote] at written
              exact written ▸ closed
          · next done error wrote =>
              rw [wrote] at written
              exact written ▸ closed
      · exact closed
      · exact closed

theorem continues_beginTick (machine : Machine σ) (elapsed : UInt64) :
    machine.world.Continues (machine.beginTick setting elapsed).world :=
  .of_eq rfl (by funext motion; cases motion <;> rfl)

theorem continues_applyPending (machine : Machine σ) :
    machine.world.Continues (machine.applyPending setting).world := by
  have emptied : machine.world.Continues
      (machine.updateWorld fun world => { world with pending := [] }).world :=
    .of_eq rfl (by funext motion; cases motion <;> rfl)
  refine emptied.trans (continues_foldl ?_ _ _)
  intro machine given
  exact machine.continues_applyResume setting given.1 given.2

theorem continues_advanceActors (machine : Machine σ) :
    machine.world.Continues (machine.advanceActors setting).world := by
  refine .of_eq rfl (funext fun motion => ?_)
  cases motion with
  | shift id =>
      have actor : (machine.advanceActors setting).world.actor? id =
          (machine.world.actor? id).map fun actor =>
            actor.advance ((machine.senses setting).lastFrame actor.model) := by
        simp only [advanceActors, updateWorld, World.actor?, World.entity?, Array.getElem?_map]
        cases machine.world.entities[id]? with
        | none => rfl
        | some entity => cases entity <;> rfl
      simp only [World.underWay?, actor]
      cases machine.world.actor? id with
      | none => rfl
      | some actor => exact actor.underWay?_advance _
  | dance id priority =>
      have lanes := congrArg Roster.lane? (roster_advanceActors setting machine)
      simp only [World.lane?_roster] at lanes
      simp only [World.underWay?, lanes]
  | _ => rfl

/-- All of a tick but the steps of the activities. -/
theorem continues_beforeActivities (machine : Machine σ) (elapsed : UInt64) :
    machine.world.Continues
      ((((machine.beginTick setting elapsed).applyPending setting).runEntities
        setting).advanceActors setting).world :=
  (((machine.continues_beginTick setting elapsed).trans (continues_applyPending setting _)).trans
    (continues_foldl (continues_runEntity setting) _ _)).trans (continues_advanceActors setting _)

theorem continues_duringTick (machine : Machine σ) (elapsed : UInt64) (entities lanes : Nat) :
    machine.world.Continues (machine.duringTick setting elapsed entities lanes).world :=
  (((machine.continues_beginTick setting elapsed).trans (continues_applyPending setting _)).trans
    (continues_foldl (continues_runEntity setting) _ _)).trans
      (continues_runLanes setting _ entities _)

/-! ## The steps of the activities -/

theorem agenda_runActivities (frame : Nat) (activities : List Activity) (machine : Machine σ) :
    (machine.runActivities setting frame activities).1.world.agenda = machine.world.agenda := by
  induction activities generalizing machine with
  | nil => rfl
  | cons activity rest ih =>
      unfold runActivities
      dsimp only
      rw [ih, activity.agenda_run]

/-- The steps of some activities: as long as all motions were carried on by one of them or by one of
the others, they are carried on by what is left of them or by one of the others. -/
theorem carried_runActivities (frame : Nat) (activities others : List Activity)
    (machine : Machine σ)
    (carried : ∀ motion serial, machine.world.underWay? motion = some serial →
      ∃ activity ∈ activities ++ others, activity.carries? = some (motion, serial))
    (motion : Motion) (serial : UInt32)
    (moves : (machine.runActivities setting frame activities).1.world.underWay? motion =
      some serial) :
    ∃ activity ∈ (machine.runActivities setting frame activities).2 ++ others,
      activity.carries? = some (motion, serial) := by
  induction activities generalizing machine others with
  | nil => exact carried motion serial moves
  | cons activity rest ih =>
      unfold runActivities at moves ⊢
      dsimp only at moves ⊢
      have step (motion : Motion) (serial : UInt32)
          (moves : (activity.run setting frame machine).1.world.underWay? motion = some serial) :
          ∃ found ∈ rest ++ ((activity.run setting frame machine).2.toList ++ others),
            found.carries? = some (motion, serial) := by
        obtain ⟨before, goesOn⟩ := activity.underWay?_of_run setting frame machine moves
        obtain ⟨found, among, bears⟩ := carried motion serial before
        rw [List.cons_append, List.mem_cons, List.mem_append] at among
        rcases among with rfl | inRest | inOthers
        · obtain ⟨left, kept, bears⟩ := goesOn bears
          exact ⟨left, by simp [kept], bears⟩
        · exact ⟨found, by simp [inRest], bears⟩
        · exact ⟨found, by simp [inOthers], bears⟩
      obtain ⟨found, among, bears⟩ := ih _ _ step moves
      refine ⟨found, ?_, bears⟩
      simp only [List.mem_append] at among ⊢
      grind

theorem attended_finishTick {machine : Machine σ} (attended : machine.world.Attended) :
    (machine.finishTick setting).world.Attended := by
  intro motion serial moves
  have agenda := agenda_runActivities setting machine.world.frame machine.world.activities machine
  have spawned : (machine.runActivities setting machine.world.frame
      machine.world.activities).1.world.spawned = machine.world.spawned :=
    congrArg (fun agenda => agenda.2.2) agenda
  have moved : (machine.runActivities setting machine.world.frame
      machine.world.activities).1.world.underWay? motion = some serial := by
    rw [← moves]
    cases motion <;> rfl
  obtain ⟨activity, among, bears⟩ := carried_runActivities setting machine.world.frame
    machine.world.activities machine.world.spawned.toList machine attended motion serial moved
  refine ⟨activity, ?_, bears⟩
  simpa [World.queue, finishTick, updateWorld, spawned] using among

theorem attended_tick {machine : Machine σ} (attended : machine.world.Attended)
    (elapsed : UInt64) : (machine.tick setting elapsed).world.Attended :=
  attended_finishTick setting
    (attended.continues (machine.continues_beforeActivities setting elapsed))

/-- A tick comes to its end, whatever happens in it. -/
theorem frame_tick (machine : Machine σ) (elapsed : UInt64) :
    (machine.tick setting elapsed).world.frame = machine.world.frame + 1 := by
  let before := (((machine.beginTick setting elapsed).applyPending setting).runEntities
    setting).advanceActors setting
  have stays : before.world.frame = machine.world.frame :=
    (continues_beforeActivities setting machine elapsed).frame
  have agenda := agenda_runActivities setting before.world.frame before.world.activities before
  exact congrArg (· + 1) ((congrArg Prod.fst agenda).trans stays)

/-! ## Operations of the host -/

theorem continues_remove (machine : Machine σ) (index : Nat) :
    machine.world.Continues (machine.remove index).1.world := by
  unfold remove
  split
  · exact .refl
  · next entity known =>
      refine World.Continues.trans ?_ (continues_foldl ?_ entity.completions _)
      · exact machine.world.continues_erase index _
      · intro machine token
        rw [world_wake]
        exact machine.world.continues_wake token

variable {setting}

theorem Reachable.attended {machine : Machine σ} (reachable : Reachable setting machine) :
    machine.world.Attended := by
  induction reachable with
  | enter session random host =>
      exact World.attended_ofSection setting.source
  | @start machine reachable ih =>
      have emptied : machine.world.Continues (machine.updateSession fun session =>
          { session with memory := session.memory.resetScratch }).world := .refl
      exact ih.continues (emptied.trans (continues_foldl
        (fun machine id => machine.continues_startScript id 0 0 none) _ _))
  | tick reachable elapsed ih => exact attended_tick setting ih elapsed
  | @invoke machine reachable index priority script ih =>
      exact ih.continues (machine.continues_startScript index priority script none)
  | giveBack reachable token answer ih =>
      exact ih.continues (.of_eq rfl (by funext motion; cases motion <;> rfl))
  | @remove machine reachable index ih => exact ih.continues (machine.continues_remove index)
  | @spawn machine reachable activity ih =>
      exact ih.continues (machine.world.continues_spawn activity)
  | @loadPalette machine reachable id palette ih =>
      exact ih.continues (machine.world.continues_updateStage
        (fun stage => { stage with palettes := stage.palettes.put .live id palette }) rfl rfl)
  | outside reachable same ih => exact same ▸ ih

/-- In every state that a field can be seen in, all that is under way is carried on. -/
theorem Visited.attended {machine : Machine σ} (visited : Visited setting machine) :
    machine.world.Attended := by
  induction visited with
  | between reachable => exact reachable.attended
  | @during machine reachable elapsed entities lanes =>
      exact reachable.attended.continues (continues_duringTick setting machine elapsed entities lanes)
  | @within machine visited id priority ih =>
      exact ih.continues (continues_step setting machine id priority)

end Machine

end FieldMachine
