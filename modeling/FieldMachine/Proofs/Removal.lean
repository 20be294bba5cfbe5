import FieldMachine.Proofs.Lookup
import FieldMachine.Proofs.Presence

/-!
# Entities that are gone

An entity that is removed may still be named by whatever was under way at that
moment: by a token that the host has, by the end of a script that it called, by
a scroll, a shift or a walk, by a lane that walks up to it, and by operands.
Each of these looks it up anew when its time comes, and then it finds nothing
(`Machine.Gone`).  Nothing ever brings the entity back, so this holds from its
removal on (`Machine.Runs.gone`).

Together with `Presence`, nothing that a field refers to is ever missing
(`Machine.Visited.no_dangling`).
-/

namespace FieldMachine

set_option autoImplicit false

/-! ## Activities -/

section Activities

variable {world : World} {index : EntityId}

theorem World.actor?_of_absent (absent : world.entity? index = none) :
    world.actor? index = none := by
  rw [actor?, absent]
  rfl

theorem World.lane?_of_absent (absent : world.entity? index = none) (priority : Nat) :
    world.lane? index priority = none := by
  rw [lane?, absent]
  rfl

/-- A scroll to an entity that is gone is over, and the camera stays where it is. -/
theorem Scroll.run_of_absent {scroll : Scroll} (absent : world.entity? index = none)
    (target : scroll.target = .entity index) (frame : Nat) :
    ∃ scrolling, scroll.run frame world =
      (world.updateStage fun stage => { stage with camera := { stage.camera with scrolling } },
        none, none) := by
  unfold run
  dsimp only
  split
  · exact ⟨world.stage.camera.scrolling, rfl⟩
  · simp only [target, World.actor?_of_absent absent]
    exact ⟨false, rfl⟩

theorem Shift.run_of_absent {shift : Shift} (absent : world.entity? shift.entity = none) :
    shift.run world = (world, none) := by
  rw [run, World.actor?_of_absent absent]

theorem Walk.run_of_absent {walk : Walk} (absent : world.entity? walk.entity = none)
    (share : Float32) : walk.run share world = (world, none) := by
  rw [run, World.actor?_of_absent absent]

/-- A walk of the party goes on without the walker who is gone. -/
theorem Walk.runAll_of_absent (absent : world.entity? index = none) (share : Float32)
    (walks : List Walk) :
    runAll share walks world = runAll share (walks.filter (·.entity ≠ index)) world := by
  induction walks generalizing world with
  | nil => rfl
  | cons walk rest ih =>
      by_cases own : walk.entity = index
      · have gone : world.entity? walk.entity = none := own ▸ absent
        rw [List.filter_cons_of_neg (by simpa using own), ← ih absent, runAll,
          run_of_absent gone]
        rfl
      · have still : (walk.run share world).1.entity? index = none := by
          rcases walk.world_run share world with same | ⟨change, same⟩
          · rw [same]
            exact absent
          · rw [same, World.updateActor, World.entity?_updateEntity, absent]
            simp
        rw [List.filter_cons_of_pos (by simpa using own)]
        dsimp only [runAll]
        rw [ih still]

end Activities

/-- A walk whose goal is gone is over. -/
theorem Movement.walk_of_nowhere {scene : Scene} {goal : MoveGoal}
    (nowhere : walkGoal? scene.world goal = none) (style : MoveStyle) (cursor : Cursor) :
    walk goal style scene cursor = .ok (.next [], cursor) := by
  rw [walk, Reading.bind_apply]
  simp only [Reading.scene, Except.bind, nowhere]
  rfl

/-- A walk up to an entity that is gone is over. -/
theorem Movement.walk_of_absent {scene : Scene} {index : EntityId}
    (absent : scene.world.entity? index = none) (style : MoveStyle) (cursor : Cursor) :
    walk (.entity index) style scene cursor = .ok (.next [], cursor) := by
  refine walk_of_nowhere ?_ style cursor
  rw [walkGoal?, World.actor?_of_absent absent]
  rfl

/-! ## What is left of an entity -/

namespace Machine

variable {σ : Type} {setting : Setting σ} {machine : Machine σ} {index : Nat}

/-- Of an entity that is gone nothing is found any more, whoever looks for it. -/
structure Gone (setting : Setting σ) (machine : Machine σ) (index : Nat) : Prop where
  absent : machine.world.entity? index = none
  /-- The host starts none of its scripts. -/
  invoke (priority script : Nat) : machine.invoke index priority script = (machine, false)
  /-- An instruction that looks it up finds nobody there. -/
  lookup {scene : Scene} {operand : UInt8} (here : scene.world = machine.world)
    (same : operand.toNat = index) (cursor : Cursor) :
    Reading.entityAt operand scene cursor = .error (.noSuchEntity index) ∧
      Reading.actorAt operand scene cursor = .error (.noSuchEntity index)
  /-- A whole instruction that names it fails, and has done nothing by then. -/
  names {id : EntityId} {priority ip : Nat} {lane : Lane} {op : Opcode} {offset : Nat}
    {operand : UInt8} (has : op.entityOperand? = some offset) (fresh : lane.suspended? = none)
    (stands : setting.source.code[ip]? = some op.byte)
    (whole : ip + op.size ≤ setting.source.code.size)
    (named : setting.source.code[ip + 1 + offset]? = some operand)
    (same : operand.toNat = index) :
    ∃ error, op.MissesEntity index error ∧
      machine.failure? setting id priority ip lane =
        some (machine.onRecord setting id priority ip lane, error)
  /-- No slot of the party leads to it. -/
  member (session : Session) (slot : UInt8) :
    Reading.partyMember session machine.world slot ≠ .ok index
  /-- A lane on its way to it has arrived. -/
  walksUp {id : EntityId} {priority next : Nat} {lane : Lane} {style : MoveStyle}
    (here : machine.world.lane? id priority = some lane) (active : lane.isActive)
    (left : lane.suspended? = some { next, continuation := .move (.entity index) style })
    (inside : next ≤ setting.source.code.size) :
    machine.step setting id priority = (machine.updateLane id priority (·.advance next), .goOn)
  /-- Its tokens wake nothing, whether a script or a walk has ended or the host gives one back. -/
  token {token : ResumeToken} (own : token.entity = index) :
    machine.wake token = (machine, none) ∧ machine.complete (some token) = machine ∧
      ∀ answer, machine.applyResume setting token answer = machine.note (.staleResume token)
  /-- A scroll to it is over. -/
  scroll {moving : Scroll} (target : moving.target = .entity index) (frame : Nat) :
    ∃ scrolling, (Activity.scroll moving).run setting frame machine =
      (machine.updateWorld (·.updateStage fun stage =>
        { stage with camera := { stage.camera with scrolling } }), none)
  /-- A shift of its picture is over. -/
  shift {moving : Shift} (own : moving.entity = index) (frame : Nat) :
    (Activity.shift moving).run setting frame machine = (machine, none)
  /-- A walk of the party goes on as if it had never set out. -/
  dance (dance : Choreography) (frame : Nat) :
    (Activity.choreography dance).run setting frame machine =
      (Activity.choreography { dance with
        walks := dance.walks.filter (·.entity ≠ index) }).run setting frame machine

/-- A token of an entity that is gone wakes nothing. -/
theorem wake_of_absent {token : ResumeToken} (absent : machine.world.entity? token.entity = none) :
    machine.wake token = (machine, none) := by
  rw [wake, World.lane?_of_absent absent]

/-- The rest of a walk up to an entity that is gone does nothing. -/
theorem step_of_absent_goal {id : EntityId} {priority next : Nat} {lane : Lane} {style : MoveStyle}
    (absent : machine.world.entity? index = none)
    (here : machine.world.lane? id priority = some lane) (active : lane.isActive)
    (left : lane.suspended? = some { next, continuation := .move (.entity index) style })
    (inside : next ≤ setting.source.code.size) :
    machine.step setting id priority =
      (machine.updateLane id priority (·.advance next), .goOn) := by
  obtain ⟨ip, -, stands, -⟩ := step_eq setting here active
  have worked : workOut setting.source.code (machine.sceneOf setting id priority ip lane) ip
      lane.suspended? = .ok (.next [], next) := by
    let cursor : Cursor := { Cursor.atStart setting.source.code ip with pc := next }
    rw [left, workOut_some_eq_ok]
    exact ⟨cursor, cursor, Cursor.moveTo_eq_ok.mpr ⟨inside, rfl⟩,
      Movement.walk_of_absent absent style cursor, rfl⟩
  rw [step_eq_of_active setting here active stands, worked]
  have unrecorded : machine.onRecord setting id priority ip lane = machine := by
    unfold onRecord
    rw [left]
  rw [unrecorded]
  rfl

theorem gone_of_absent (absent : machine.world.entity? index = none) :
    machine.Gone setting index where
  absent := absent
  invoke priority script := by rw [Machine.invoke, startScript, absent]
  lookup here same cursor := by
    subst same
    rw [← here] at absent
    exact ⟨Reading.entityAt_of_absent absent cursor, Reading.actorAt_of_absent absent cursor⟩
  names has fresh stands whole named same := by
    subst same
    exact failure?_of_absent has fresh stands whole named absent
  member session slot found := by
    have known := Reading.isSome_of_partyMember found
    rw [absent] at known
    cases known
  walksUp := step_of_absent_goal absent
  token own := by
    subst own
    have deaf := wake_of_absent absent
    exact ⟨deaf, by rw [complete, deaf], fun answer => by rw [applyResume, deaf]⟩
  scroll target frame := by
    obtain ⟨scrolling, ended⟩ := Scroll.run_of_absent absent target frame
    exact ⟨scrolling, by rw [Activity.run, ended]; rfl⟩
  shift own frame := by
    subst own
    rw [Activity.run, Shift.run_of_absent absent]
    rfl
  dance dance frame := by
    rw [Activity.run, Activity.run, Walk.runAll_of_absent absent]

end Machine

/-! ## From the removal on -/

theorem Roster.entries?_wakeAll (roster : Roster) (tokens : List ResumeToken) :
    (tokens.foldl wake roster).entries? = roster.entries? := by
  induction tokens generalizing roster with
  | nil => rfl
  | cons token rest ih => exact ih (roster.wake token)

/-- Nothing that happens brings an entity back. -/
theorem Roster.Step.absent {source : Section} {event : Event} {before after : Roster}
    {index : EntityId} (step : before.Step source event after)
    (absent : before.entries? index = none) : after.entries? index = none := by
  cases event with
  | invoke id priority script =>
      cases step with
      | keep => exact absent
      | invoke begins => rw [begins.entries?, absent]
  | remove id =>
      cases step with
      | keep => exact absent
      | remove all =>
          rw [Roster.entries?_wakeAll]
          simp [Roster.erase, absent]
  | _ => rw [step.entries? rfl, absent]

theorem World.entries?_eq_none {world : World} {index : EntityId} :
    world.roster.entries? index = none ↔ world.entity? index = none := by
  rw [World.roster, Option.map_eq_none_iff]

namespace Machine

variable {σ : Type} {setting : Setting σ} {machine : Machine σ} {index : Nat}

theorem entity?_remove_self (machine : Machine σ) (index : Nat) :
    (machine.remove index).1.world.entity? index = none := by
  cases known : machine.world.entity? index with
  | none => simp [remove, known]
  | some entity =>
      rw [← World.entries?_eq_none, machine.roster_remove known, Roster.entries?_wakeAll]
      simp [Roster.erase]

/-- An entity that is removed is gone from then on. -/
theorem Runs.gone {events : List Event} {later : Machine σ}
    (runs : Runs setting events (machine.remove index).1 later) : later.Gone setting index := by
  refine gone_of_absent (World.entries?_eq_none.mp ?_)
  exact runs.roster_induction (fun _ _ _ step => step.absent)
    (World.entries?_eq_none.mpr (machine.entity?_remove_self index))

/-- Nothing that a field refers to is missing.

Every entity that is present has a body and all its lanes, and the player is one of them.  No
instruction and no rest of one finds an entity gone, and no lane is given up for that.  An entity
that is removed is gone for good, whatever happens then, and everything that still names it finds
nothing and leaves all others alone. -/
theorem Visited.no_dangling (visited : Visited setting machine) :
    (∀ id ∈ machine.world.present, (machine.world.actor? id).isSome ∧
      ∀ priority < laneCount, (machine.world.lane? id priority).isSome) ∧
    (∀ id, machine.world.stage.player = some id → id ∈ machine.world.present) ∧
    (∀ id priority ip lane, machine.world.lane? id priority = some lane →
      workOut setting.source.code (machine.sceneOf setting id priority ip lane) ip
        lane.suspended? ≠ .error .entityGone) ∧
    (∀ id priority,
      (machine.step setting id priority).1.world.faults = machine.world.faults ∨
      ∃ (ip : Nat) (reached : Machine σ) (error : ExecError), error ≠ .entityGone ∧
        machine.step setting id priority =
          (reached.giveUp setting id priority ip error, .released)) ∧
    (∀ index, (machine.remove index).2 = true → ∀ events later,
      Runs setting events (machine.remove index).1 later → later.Gone setting index) := by
  refine ⟨fun id present => ?_, fun id leads => ?_, ?_, step_reports setting machine,
    fun index _ events later runs => runs.gone⟩
  · obtain ⟨entity, known⟩ := Option.isSome_iff_exists.mp (World.mem_present.mp present)
    refine ⟨by simp [World.actor?, known], fun priority below => ?_⟩
    simp [World.lane?, known, below]
  · exact World.mem_present.mpr (visited.player_present id leads)
  · intro id priority ip lane here
    exact workOut_ne_entityGone (World.isSome_entity?_of_lane? here) lane.suspended?

/-- In the small field, the entity is removed whose script the other one waits for.  The caller goes
on, and after the next tick the entity is still gone. -/
theorem sample_callee_gone :
    let removed := (Sample.waiting.remove 1).1
    (Sample.waiting.remove 1).2 = true ∧ removed.world.laneActive 0 0 ∧
      (removed.tick Sample.setting 0).Gone Sample.setting 1 := by
  obtain ⟨-, -, -, -, gone⟩ := Sample.visited_waiting.no_dangling
  have known : (Sample.waiting.remove 1).2 = true := by decide +kernel
  obtain ⟨events, -, runs⟩ := tick_inner Sample.setting (Sample.waiting.remove 1).1 0
  exact ⟨known, by decide +kernel, gone 1 known events _ runs⟩

end Machine

end FieldMachine
