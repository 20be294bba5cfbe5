import FieldMachine.Proofs.Branch
import FieldMachine.Proofs.Ownership
import FieldMachine.Proofs.Polling

/-!
# How long a lane waits

A wait is tried again until it has been tried as often as its operand says.  The
tries are counted by the lane, and a lane that newly arrives somewhere has none:
whatever led it there, only staying is counted (`Roster.Step.arrivals`).

What becomes of a lane is a `Course`: its own runs, and between them whatever
else happens.  A lane that arrives at a wait of `n` is held by it for `n` of its
runs, however long it has to wait for them, and the next one goes on behind it
(`Machine.wait_holds_lane`).
-/

namespace FieldMachine

set_option autoImplicit false

/-! ## Arriving somewhere -/

/-- Whether a lane is at the beginning of its instruction and has not tried it yet. -/
def Lane.IsNew (lane : Lane) : Prop := lane.retries = 0 ∧ lane.suspended? = none

/-- A lane that is carried on is new where it goes, or stays where it is, or pauses. -/
theorem Lane.Carries.isNew {source : Section} {jumps : Opcode → Prop} {lane after : Lane}
    (carries : lane.Carries source jumps after) :
    after.IsNew ∨ after.ip? = lane.ip? := by
  cases carries with
  | advance goesOn => exact .inl ⟨rfl, rfl⟩
  | home entry goesOn => exact .inl ⟨rfl, rfl⟩
  | pause passes awaited => exact .inl ⟨rfl, rfl⟩
  | retry here => exact .inr here.symm
  | suspend here fresh stands long owned => exact .inr here.symm
  | linger here left inside owned => exact .inr here.symm

/-- A lane that hears a token is as it was, or newly awake. -/
theorem Lane.isNew_hear (lane : Lane) (id : EntityId) (priority : Nat) (token : ResumeToken) :
    (lane.hear id priority token).IsNew ∨ lane.hear id priority token = lane := by
  by_cases named : token = lane.token id priority
  · rw [named, hear_named]
    obtain ⟨status, script, epoch, mainEntry⟩ := lane
    cases status with
    | paused ip reason onStop => exact .inl ⟨rfl, rfl⟩
    | _ => exact .inr rfl
  · exact .inr (hear_other named)

namespace Roster

/-- Whether every active lane is new where it stands, or was active there before. -/
def Arrivals (before after : Roster) : Prop :=
  ∀ id priority lane, after.lane? id priority = some lane → lane.isActive →
    lane.IsNew ∨ ∃ old, before.lane? id priority = some old ∧ old.isActive ∧ old.ip? = lane.ip?

variable {before after : Roster} {id : EntityId} {priority : Nat}

theorem Arrivals.refl (roster : Roster) : roster.Arrivals roster :=
  fun _ _ lane here active => .inr ⟨lane, here, active, rfl⟩

theorem Arrivals.put {lane : Lane} (arrivals : before.Arrivals after)
    (settled : lane.isActive → lane.IsNew ∨
      ∃ old, before.lane? id priority = some old ∧ old.isActive ∧ old.ip? = lane.ip?) :
    before.Arrivals (after.put id priority lane) := by
  intro other index found here active
  rw [lane?_put] at here
  split at here
  · next own =>
      obtain ⟨rfl, rfl⟩ := own
      cases here
      exact settled active
  · exact arrivals other index found here active

theorem Arrivals.wake (arrivals : before.Arrivals after) (token : ResumeToken) :
    before.Arrivals (after.wake token) := by
  intro other index found here active
  obtain ⟨lane, there, rfl⟩ := Option.map_eq_some_iff.mp here
  rcases lane.isNew_hear other index token with woken | same
  · exact .inl woken
  · rw [same] at active ⊢
    exact arrivals other index lane there active

theorem Arrivals.wakeAll (arrivals : before.Arrivals after) (tokens : List ResumeToken) :
    before.Arrivals (tokens.foldl Roster.wake after) := by
  induction tokens generalizing after with
  | nil => exact arrivals
  | cons token rest ih => exact ih (arrivals.wake token)

theorem Arrivals.complete (arrivals : before.Arrivals after) (onStop : Option ResumeToken) :
    before.Arrivals (after.complete onStop) := by
  cases onStop with
  | none => exact arrivals
  | some token => exact arrivals.wake token

theorem Arrivals.begins {script : Nat} {started : Roster} (arrivals : before.Arrivals after)
    (begins : after.Begins id priority script started) : before.Arrivals started := by
  cases begins with
  | refused => exact arrivals
  | started admits => exact arrivals.put fun _ => .inl ⟨rfl, rfl⟩

theorem Arrivals.finish (arrivals : before.Arrivals after) (lane : Lane) :
    before.Arrivals (after.finish id priority lane) :=
  Arrivals.complete (arrivals.put fun active : lane.finish.isActive => by cases active) lane.onStop?

/-- An instruction leads lanes to places where they are new. -/
theorem Turn.arrivals {source : Section} {jumps : Opcode → Prop} {lane : Lane}
    (here : before.lane? id priority = some lane) (active : lane.isActive)
    (turn : before.Turn source jumps id priority lane after) : before.Arrivals after := by
  have still := Arrivals.refl before
  cases turn with
  | carry carries =>
      refine still.put fun _ => carries.isNew.imp_right fun same => ?_
      exact ⟨lane, here, active, same.symm⟩
  | call admits goesOn => exact (still.put fun _ => .inl ⟨rfl, rfl⟩).put fun _ => .inl ⟨rfl, rfl⟩
  | await admits passes => exact (still.put fun _ => .inl ⟨rfl, rfl⟩).put fun _ => .inl ⟨rfl, rfl⟩
  | stop => exact still.finish lane
  | handOver begins => exact (still.finish lane).begins begins
  | abort stands mainEntry => exact still.put (by intro running; cases running)

/-- Whatever happens, an active lane that has tried its instruction was active there before. -/
theorem Step.arrivals {source : Section} {event : Event} (step : before.Step source event after) :
    before.Arrivals after := by
  have still := Arrivals.refl before
  cases step with
  | keep => exact still
  | turn here active turn => exact turn.arrivals here active
  | work => exact still.wake _
  | resume => exact still.wake _
  | invoke begins => exact still.begins begins
  | @remove id tokens all =>
      refine Arrivals.wakeAll ?_ tokens
      intro other index lane here active
      have there : before.lane? other index = some lane := by
        simp only [erase, Option.ite_none_left_eq_some] at here
        exact here.2
      exact still other index lane there active

end Roster

/-! ## Carrying out a wait -/

/-- The lane at a place where it has tried its instruction a number of times. -/
def Lane.held (lane : Lane) (ip tries : Nat) : Lane :=
  { lane with status := .active ip tries.toUInt32 none lane.onStop? }

/-- An active lane that is new where it stands has tried nothing. -/
theorem Lane.held_of_isNew {lane : Lane} {ip : Nat} (active : lane.isActive)
    (stands : lane.ip? = some ip) (new : lane.IsNew) : lane = lane.held ip 0 := by
  obtain ⟨status, script, epoch, mainEntry⟩ := lane
  cases status with
  | active place retries suspended onStop =>
      obtain ⟨untried, fresh⟩ := new
      cases stands
      cases untried
      cases fresh
      rfl
  | _ => cases active

/-- Staying where it is, a lane counts one more try. -/
theorem Lane.rewind_held (lane : Lane) (ip : Nat) {tries : Nat} (few : tries < 65536) :
    (lane.held ip tries).rewind ip none = lane.held ip (tries + 1) := by
  have counted : tries.toUInt32.toNat = tries :=
    UInt32.toNat_ofNat_of_lt' (by show tries < 4294967296; omega)
  have below : tries.toUInt32 ≠ 0xFFFFFFFF := by
    intro full
    rw [full] at counted
    simp at counted
    omega
  have next : tries.toUInt32 + 1 = (tries + 1).toUInt32 := by
    apply UInt32.toNat_inj.mp
    rw [UInt32.toNat_add, counted, Nat.toUInt32, UInt32.toNat_ofNat']
    rfl
  rw [Lane.rewind_eq]
  show { lane with status := .active ip (if tries.toUInt32 = 0xFFFFFFFF then _ else _) none _ } = _
  rw [if_neg below]
  show { lane with status := .active ip (tries.toUInt32 + 1) none _ } = _
  rw [next]
  rfl

namespace Control

open Reading

/-- A wait is tried again until it has been tried as often as its operand says. -/
theorem wait_of_le {scene : Scene} {cursor : Cursor}
    (inside : cursor.pc + 2 ≤ cursor.code.size) :
    wait scene cursor =
      .ok (if Section.wordAt cursor.code cursor.pc ≤ scene.lane.retries.toNat then .next []
        else .retry [], cursor.forward 2) := by
  have read : (Section.wordAt cursor.code cursor.pc).toUInt16.toUInt32.toNat =
      Section.wordAt cursor.code cursor.pc := by
    rw [UInt16.toNat_toUInt32]
    exact UInt16.toNat_ofNat_of_lt' (wordAt_lt _ _)
  rw [wait, bind_of_ok (word_of_le inside), bind_apply]
  simp only [Reading.scene, Except.bind, UInt32.le_iff_toNat_le, read]
  split <;> rfl

end Control

namespace Machine

variable {σ : Type} {setting : Setting σ} {machine first second last : Machine σ} {id : EntityId}
  {priority ip tries : Nat} {lane : Lane}

/-- The step of a lane on a wait. -/
theorem step_of_wait (here : machine.world.lane? id priority = some (lane.held ip tries))
    (few : tries < 65536) (waits : setting.source.code[ip]? = some Opcode.wait.byte)
    (whole : ip + 3 ≤ setting.source.code.size) :
    machine.step setting id priority =
      (machine.note (.executing id priority ip Opcode.wait.byte)).carryOut setting id priority ip
        (ip + 3) (lane.held ip tries)
        (if Section.wordAt setting.source.code (ip + 1) ≤ tries then .next [] else .retry []) := by
  have counted : (lane.held ip tries).retries.toNat = tries :=
    UInt32.toNat_ofNat_of_lt' (by show tries < 4294967296; omega)
  let frames := Section.wordAt setting.source.code (ip + 1)
  have read : Control.wait (machine.sceneOf setting id priority ip (lane.held ip tries))
      ((Cursor.atStart setting.source.code ip).forward 1) =
        .ok (if frames ≤ tries then .next [] else .retry [],
          (Cursor.atStart setting.source.code ip).forward 3) := by
    rw [Control.wait_of_le whole]
    show Except.ok (if frames ≤ (lane.held ip tries).retries.toNat then _ else _, _) = _
    rw [counted]
    rfl
  have stepped := step_of_reading here rfl rfl rfl waits rfl read
  exact stepped

/-- A lane that has not waited long enough stays where it is, and its turn is over. -/
theorem step_of_wait_on (here : machine.world.lane? id priority = some (lane.held ip tries))
    (waits : setting.source.code[ip]? = some Opcode.wait.byte)
    (whole : ip + 3 ≤ setting.source.code.size)
    (early : tries < Section.wordAt setting.source.code (ip + 1)) :
    (machine.step setting id priority).2 = .holding ∧
    (machine.step setting id priority).1.world.lane? id priority =
      some (lane.held ip (tries + 1)) := by
  have few : tries < 65536 := Nat.lt_trans early (wordAt_lt _ _)
  rw [step_of_wait here few waits whole, if_neg (Nat.not_le.mpr early)]
  refine ⟨rfl, ?_⟩
  rw [← lane.rewind_held ip few]
  exact lane?_updateLane_self here (·.rewind ip none)

/-- A lane that has waited long enough goes on behind the wait. -/
theorem step_of_wait_over (here : machine.world.lane? id priority = some (lane.held ip tries))
    (waits : setting.source.code[ip]? = some Opcode.wait.byte)
    (whole : ip + 3 ≤ setting.source.code.size)
    (enough : tries = Section.wordAt setting.source.code (ip + 1)) :
    (machine.step setting id priority).2 = .goOn ∧
    (machine.step setting id priority).1.world.lane? id priority =
      some (lane.advance (ip + 3)) := by
  have few : tries < 65536 := enough ▸ wordAt_lt _ _
  rw [step_of_wait here few waits whole, if_pos (Nat.le_of_eq enough.symm)]
  exact ⟨rfl, lane?_updateLane_self here (·.advance (ip + 3))⟩

/-! ## The course of a lane -/

/-- A run of a lane, or what is left of one: where it begins, and how many instructions the lane may
carry out. -/
structure Stint (σ : Type) where
  before : Machine σ
  budget : Nat

/-- Where a run of a lane leads, and how it ends. -/
def Stint.outcome (setting : Setting σ) (id : EntityId) (priority : Nat) (stint : Stint σ) :
    Machine σ × Turnover :=
  stint.before.runLane setting id priority stint.budget

/-- The runs of a lane from one machine to another, as long as its entity is there, with whatever
else happens between them. -/
inductive Course (setting : Setting σ) (id : EntityId) (priority : Nat) :
    Machine σ → List (Stint σ) → Machine σ → Prop
  | done (machine : Machine σ) : Course setting id priority machine [] machine
  | aside {event : Event} {first second last : Machine σ} {runs : List (Stint σ)}
      (occurs : Occurs setting event first second) (foreign : event ≠ .run id priority)
      (stays : event ≠ .remove id) (rest : Course setting id priority second runs last) :
      Course setting id priority first runs last
  | run (stint : Stint σ) {last : Machine σ} {runs : List (Stint σ)} (able : 0 < stint.budget)
      (rest : Course setting id priority (stint.outcome setting id priority).1 runs last) :
      Course setting id priority stint.before (stint :: runs) last

namespace Course

variable {runs more : List (Stint σ)}

theorem append (course : Course setting id priority first runs second)
    (further : Course setting id priority second more last) :
    Course setting id priority first (runs ++ more) last := by
  induction course with
  | done machine => exact further
  | aside occurs foreign stays rest ih => exact .aside occurs foreign stays (ih further)
  | run stint able rest ih => exact .run stint able (ih further)

/-- Events that are not the lane's own are no runs of it. -/
theorem of_runs {events : List Event} (happens : Runs setting events first last)
    (foreign : ∀ event ∈ events, event ≠ .run id priority ∧ event ≠ .remove id) :
    Course setting id priority first [] last := by
  induction happens with
  | nil machine => exact .done machine
  | cons occurs rest ih =>
      obtain ⟨⟨notOwn, stays⟩, others⟩ := List.forall_mem_cons.mp foreign
      exact .aside occurs notOwn stays (ih others)

theorem of_runOf {allowed : Event → Prop} (happens : RunOf setting allowed first last)
    (foreign : ∀ event, allowed event → event ≠ .run id priority ∧ event ≠ .remove id) :
    Course setting id priority first [] last := by
  obtain ⟨events, fit, happens⟩ := happens
  exact of_runs happens fun event among => foreign event (fit event among)

/-- The course goes on where a run has led. -/
theorem rest {stint : Stint σ} (course : Course setting id priority first (stint :: runs) last) :
    0 < stint.budget ∧ Course setting id priority (stint.outcome setting id priority).1 runs last :=
  by
  generalize told : stint :: runs = all at course
  induction course with
  | done machine => cases told
  | aside occurs foreign stays rest ih => exact ih told
  | run stint able rest ih =>
      cases told
      exact ⟨able, rest⟩

/-- What a run has left after an instruction belongs to the course from there. -/
theorem of_step {start : Machine σ} {budget : Nat}
    (course : Course setting id priority start (⟨first, budget + 1⟩ :: runs) last)
    (goesOn : first.step setting id priority = (second, .goOn)) :
    Course setting id priority second (if budget = 0 then runs else ⟨second, budget⟩ :: runs)
      last := by
  have ended : (Stint.mk first (budget + 1)).outcome setting id priority =
      second.runLane setting id priority budget := by
    rw [Stint.outcome, runLane, goesOn]
  have onward := course.rest.2
  rw [ended] at onward
  split
  · next spent =>
      subst spent
      have starved : Occurs setting .other second (second.runLane setting id priority 0).1 :=
        .other rfl
      exact .aside starved (by simp) (by simp) onward
  · next left => exact .run ⟨second, budget⟩ (Nat.pos_of_ne_zero left) onward

end Course

/-! ## Ticks -/

/-- A course in which the lane has at most one run, and the whole budget for it. -/
def OneTurn (setting : Setting σ) (id : EntityId) (priority : Nat) (first last : Machine σ) :
    Prop :=
  ∃ runs, Course setting id priority first runs last ∧ runs.length ≤ 1 ∧
    ∀ stint ∈ runs, stint.budget = setting.config.opsPerTick

namespace OneTurn

theorem of_runOf {allowed : Event → Prop} (happens : RunOf setting allowed first last)
    (foreign : ∀ event, allowed event → event ≠ .run id priority ∧ event ≠ .remove id) :
    OneTurn setting id priority first last :=
  ⟨[], .of_runOf happens foreign, by simp, by simp⟩

theorem after {allowed : Event → Prop} (happens : RunOf setting allowed first second)
    (foreign : ∀ event, allowed event → event ≠ .run id priority ∧ event ≠ .remove id)
    (turn : OneTurn setting id priority second last) : OneTurn setting id priority first last := by
  obtain ⟨runs, course, once, whole⟩ := turn
  exact ⟨runs, (Course.of_runOf happens foreign).append course, once, whole⟩

theorem before {allowed : Event → Prop} (turn : OneTurn setting id priority first second)
    (happens : RunOf setting allowed second last)
    (foreign : ∀ event, allowed event → event ≠ .run id priority ∧ event ≠ .remove id) :
    OneTurn setting id priority first last := by
  obtain ⟨runs, course, once, whole⟩ := turn
  refine ⟨runs, ?_, once, whole⟩
  have ended := course.append (Course.of_runOf happens foreign)
  rwa [List.append_nil] at ended

end OneTurn

/-- Turns of other lanes are foreign to a lane. -/
theorem foreign_of_isTurn {lanes : EntityId → Nat → Prop} {event : Event}
    (apart : ¬lanes id priority) (turn : event.IsTurn lanes) :
    event ≠ .run id priority ∧ event ≠ .remove id := by
  constructor
  · rintro rfl
    exact apart turn
  · rintro rfl
    exact turn

section Ticks

variable (setting : Setting σ) (id : EntityId) (priority : Nat)

/-- Among different lanes of its entity, a lane has at most one turn. -/
theorem runLanes_oneTurn (able : 0 < setting.config.opsPerTick) {priorities : List Nat}
    (once : priorities.Nodup) (machine : Machine σ) :
    OneTurn setting id priority machine (machine.runLanes setting id priorities) := by
  induction priorities generalizing machine with
  | nil => exact ⟨[], .done machine, by simp, by simp⟩
  | cons level rest ih =>
      obtain ⟨apart, others⟩ := List.nodup_cons.mp once
      have turn := runLane_turn setting machine id level setting.config.opsPerTick
      by_cases own : level = priority
      · subst own
        -- the lower lanes have their turns after it, and none of them is the lane again
        have later (next : Machine σ) : Course setting id level next []
            (next.runLanes setting id rest) :=
          .of_runOf (runLanes_turn setting next id rest) fun _ turn =>
            foreign_of_isTurn (fun own => apart own.2) turn
        let stint : Stint σ := ⟨machine, setting.config.opsPerTick⟩
        unfold runLanes
        split
        · refine ⟨[stint], .run stint able ?_, by simp, by simp [stint]⟩
          rw [Stint.outcome]
          split
          · next next released =>
              rw [released]
              exact later next
          · next next turnover kept ended =>
              rw [ended]
              exact .done next
        · exact ⟨[], later machine, by simp, by simp⟩
      · have foreign (event : Event)
            (turn : event.IsTurn fun other index => other = id ∧ index = level) :
            event ≠ .run id priority ∧ event ≠ .remove id :=
          foreign_of_isTurn (fun same => own same.2.symm) turn
        unfold runLanes
        split
        · split
          · next next released =>
              rw [released] at turn
              exact (ih others next).after turn foreign
          · next next turnover kept ended =>
              rw [ended] at turn
              exact .of_runOf turn foreign
        · exact ih others machine

theorem runEntity_oneTurn (able : 0 < setting.config.opsPerTick) (machine : Machine σ) :
    OneTurn setting id priority machine (machine.runEntity setting id) := by
  unfold runEntity
  split
  · exact ⟨[], .done machine, by simp, by simp⟩
  · exact runLanes_oneTurn setting id priority able (by decide) machine

/-- The turns of some entities consist of instructions of their lanes. -/
theorem foldl_turn (ids : List EntityId) (machine : Machine σ) :
    RunOf setting (·.IsTurn fun other _ => other ∈ ids) machine
      (ids.foldl (fun machine other => machine.runEntity setting other) machine) := by
  induction ids generalizing machine with
  | nil => exact .refl machine
  | cons id rest ih =>
      have first := (runEntity_turn setting machine id).mono fun event turn =>
        turn.mono fun other _ own => (own ▸ List.mem_cons_self : other ∈ id :: rest)
      have others := (ih (machine.runEntity setting id)).mono fun event turn =>
        turn.mono fun other _ among => (List.mem_cons_of_mem id among : other ∈ id :: rest)
      exact first.trans others

/-- Among different entities, a lane has at most one turn. -/
theorem foldl_oneTurn (able : 0 < setting.config.opsPerTick) {ids : List EntityId}
    (once : ids.Nodup) (machine : Machine σ) :
    OneTurn setting id priority machine
      (ids.foldl (fun machine other => machine.runEntity setting other) machine) := by
  induction ids generalizing machine with
  | nil => exact ⟨[], .done machine, by simp, by simp⟩
  | cons other rest ih =>
      obtain ⟨apart, others⟩ := List.nodup_cons.mp once
      rw [List.foldl_cons]
      by_cases own : other = id
      · subst own
        refine (runEntity_oneTurn setting other priority able machine).before
          (foldl_turn setting rest _) fun event turn => ?_
        exact foreign_of_isTurn apart turn
      · refine (ih others _).after (runEntity_turn setting machine other) fun event turn => ?_
        exact foreign_of_isTurn (fun same => own same.symm) turn

/-- In a tick, a lane has at most one turn. -/
theorem tick_oneTurn (able : 0 < setting.config.opsPerTick) (machine : Machine σ)
    (elapsed : UInt64) : OneTurn setting id priority machine (machine.tick setting elapsed) := by
  have foreign (event : Event) (background : event.isBackground) :
      event ≠ .run id priority ∧ event ≠ .remove id := by
    constructor <;> rintro rfl <;> cases background
  let begun := (machine.beginTick setting elapsed).applyPending setting
  have begins : RunOf setting (·.isBackground) machine begun :=
    (beginTick_background setting machine elapsed).trans (applyPending_background setting _)
  have turns : OneTurn setting id priority begun (begun.runEntities setting) :=
    foldl_oneTurn setting id priority able List.nodup_range begun
  have ends := (advanceActors_background setting (begun.runEntities setting)).trans
    (finishTick_background setting _)
  exact (turns.after begins foreign).before ends foreign

end Ticks

/-! ## Operations of the host -/

/-- A whole operation of the host that does not remove an entity. -/
def Move.Spares (id : EntityId) : Move → Prop
  | .remove index => index ≠ id
  | .begin .. | .step .. => False
  | _ => True

/-- In every operation of the host, a lane has at most one turn. -/
theorem make_oneTurn (able : 0 < setting.config.opsPerTick) (machine : Machine σ) {move : Move}
    (spares : move.Spares id) :
    OneTurn setting id priority machine (machine.make setting move) := by
  have single {event : Event} {after : Machine σ} (occurs : Occurs setting event machine after)
      (foreign : event ≠ .run id priority) (stays : event ≠ .remove id) :
      OneTurn setting id priority machine after :=
    ⟨[], .aside occurs foreign stays (.done after), by simp, by simp⟩
  cases move with
  | start =>
      obtain ⟨events, silent, runs⟩ := start_runs setting machine
      refine ⟨[], .of_runs runs fun event among => ?_, by simp, by simp⟩
      rcases silent event among with rfl | ⟨other, rfl⟩ <;> simp
  | tick elapsed => exact tick_oneTurn setting id priority able machine elapsed
  | invoke index level script =>
      exact single (.invoke machine index level script) (by simp) (by simp)
  | giveBack token answer => exact single (.other rfl) (by simp) (by simp)
  | remove index =>
      refine single (.remove machine index) (by simp) ?_
      rintro ⟨⟩
      exact spares rfl
  | spawn activity => exact single (.other rfl) (by simp) (by simp)
  | loadPalette palette colors => exact single (.other rfl) (by simp) (by simp)
  | begin elapsed entities lanes => exact spares.elim
  | step other level => exact spares.elim

/-- The operations of the host, one after the other, are a course with at most one run each. -/
theorem follow_course (able : 0 < setting.config.opsPerTick) {moves : List Move}
    (spares : ∀ move ∈ moves, move.Spares id) (machine : Machine σ) :
    ∃ runs, Course setting id priority machine runs (machine.follow setting moves) ∧
      runs.length ≤ moves.length ∧ ∀ stint ∈ runs, stint.budget = setting.config.opsPerTick := by
  induction moves generalizing machine with
  | nil => exact ⟨[], .done machine, by simp, by simp⟩
  | cons move rest ih =>
      obtain ⟨spared, others⟩ := List.forall_mem_cons.mp spares
      obtain ⟨runs, course, once, whole⟩ := make_oneTurn able machine spared
      obtain ⟨more, further, few, wholeToo⟩ := ih others (machine.make setting move)
      refine ⟨runs ++ more, course.append further, ?_, ?_⟩
      · rw [List.length_append, List.length_cons]
        omega
      · rw [List.forall_mem_append]
        exact ⟨whole, wholeToo⟩

/-! ## The runs of a lane that waits -/

/-- A lane newly arrives at a place: it is active there, and just before it was not. -/
structure Arrives (first second : Machine σ) (id : EntityId) (priority ip : Nat) (lane : Lane) :
    Prop where
  there : second.world.lane? id priority = some lane
  active : lane.isActive
  stands : lane.ip? = some ip
  newly : ∀ old, first.world.lane? id priority = some old → old.isActive → old.ip? ≠ some ip

/-- A run in which the lane does nothing but try its instruction once more. -/
structure Stint.Holds (setting : Setting σ) (id : EntityId) (priority : Nat) (lane : Lane)
    (ip tries : Nat) (stint : Stint σ) : Prop where
  begins : stint.before.world.lane? id priority = some (lane.held ip tries)
  single : stint.outcome setting id priority = stint.before.step setting id priority
  holding : (stint.outcome setting id priority).2 = .holding
  ends : (stint.outcome setting id priority).1.world.lane? id priority =
    some (lane.held ip (tries + 1))

/-- A run whose first instruction lets the lane go on at another place. -/
structure Stint.GoesOn (setting : Setting σ) (id : EntityId) (priority : Nat) (lane : Lane)
    (ip tries next : Nat) (stint : Stint σ) : Prop where
  begins : stint.before.world.lane? id priority = some (lane.held ip tries)
  behind : (stint.before.step setting id priority).1.world.lane? id priority =
    some (lane.advance next)
  onward : stint.outcome setting id priority =
    (stint.before.step setting id priority).1.runLane setting id priority (stint.budget - 1)

/-- Whatever has led a lane to a place, it has tried nothing there. -/
theorem Arrives.eq_held {event : Event} (arrives : Arrives first second id priority ip lane)
    (occurs : Occurs setting event first second) : lane = lane.held ip 0 := by
  rcases occurs.step.arrivals id priority lane arrives.there arrives.active with
    new | ⟨old, here, active, same⟩
  · exact Lane.held_of_isNew arrives.active arrives.stands new
  · exact absurd (same.trans arrives.stands) (arrives.newly old here active)

section Waits

variable (opcode : setting.source.code[ip]? = some Opcode.wait.byte)
  (whole : ip + 3 ≤ setting.source.code.size) {stint : Stint σ}

include opcode whole

/-- A run of a lane that has not waited long enough. -/
theorem Stint.holds_of_lt (able : 0 < stint.budget)
    (here : stint.before.world.lane? id priority = some (lane.held ip tries))
    (early : tries < Section.wordAt setting.source.code (ip + 1)) :
    stint.Holds setting id priority lane ip tries := by
  obtain ⟨holding, stays⟩ := step_of_wait_on here opcode whole early
  obtain ⟨before, budget⟩ := stint
  obtain ⟨budget, rfl⟩ := Nat.exists_eq_add_one.mpr able
  have single : (Stint.mk before (budget + 1)).outcome setting id priority =
      before.step setting id priority := by
    rw [outcome, runLane]
    split
    · next next goesOn =>
        rw [goesOn] at holding
        cases holding
    · rfl
  exact ⟨here, single, single ▸ holding, single ▸ stays⟩

/-- A run of a lane that has waited long enough. -/
theorem Stint.goesOn_of_eq (able : 0 < stint.budget)
    (here : stint.before.world.lane? id priority = some (lane.held ip tries))
    (enough : tries = Section.wordAt setting.source.code (ip + 1)) :
    stint.GoesOn setting id priority lane ip tries (ip + 3) := by
  obtain ⟨goesOn, behind⟩ := step_of_wait_over here opcode whole enough
  refine ⟨here, behind, ?_⟩
  obtain ⟨before, budget⟩ := stint
  obtain ⟨budget, rfl⟩ := Nat.exists_eq_add_one.mpr able
  rw [outcome, runLane, show before.step setting id priority = (_, .goOn) from Prod.ext rfl goesOn]
  rfl

/-- A lane at a wait stays there for as many runs as it has not waited yet. -/
theorem Course.waits {runs : List (Stint σ)} (course : Course setting id priority first runs last)
    (here : first.world.lane? id priority = some (lane.held ip tries))
    (early : tries ≤ Section.wordAt setting.source.code (ip + 1)) :
    let frames := Section.wordAt setting.source.code (ip + 1)
    (∀ count stint, runs[count]? = some stint →
      (tries + count < frames → stint.Holds setting id priority lane ip (tries + count)) ∧
      (tries + count = frames →
        stint.GoesOn setting id priority lane ip (tries + count) (ip + 3))) ∧
    (tries + runs.length ≤ frames →
      last.world.lane? id priority = some (lane.held ip (tries + runs.length))) := by
  intro frames
  induction course generalizing tries with
  | done machine => exact ⟨by simp, fun _ => here⟩
  | aside occurs foreign stays rest ih =>
      rcases occurs.step.keeps foreign stays here rfl with same | ⟨-, woken⟩
      · exact ih same early
      · exact ih woken early
  | run stint able rest ih =>
      rcases Nat.lt_or_eq_of_le early with few | enough
      · have holds := Stint.holds_of_lt opcode whole able here few
        obtain ⟨later, left⟩ := ih holds.ends few
        constructor
        · intro count next found
          cases count with
          | zero =>
              cases found
              exact ⟨fun _ => holds, fun enough => absurd enough (Nat.ne_of_lt few)⟩
          | succ count =>
              rw [← Nat.succ_add_eq_add_succ]
              exact later count next found
        · rw [List.length_cons, ← Nat.succ_add_eq_add_succ]
          exact left
      · have goesOn := Stint.goesOn_of_eq opcode whole able here enough
        constructor
        · intro count next found
          cases count with
          | zero =>
              cases found
              exact ⟨fun few => absurd enough (Nat.ne_of_lt few), fun _ => goesOn⟩
          | succ count =>
              constructor <;> intro bound <;> omega
        · intro bound
          rw [List.length_cons] at bound
          omega

end Waits

/-- A wait of `n` holds a lane for `n` of its runs.

A lane that newly arrives at a wait, by whatever event, has not tried it yet.  From there on, in
whatever way the field goes on and as long as the entity is there, the first `n` runs in which the
lane gets to carry out an instruction do nothing but try the wait once more, and end with the lane
still on it and one more try counted; before and after each of them nothing touches the lane.  The
next run begins with going on behind the wait.

The operations of the host give the lane at most one run each, with the whole budget, and none if
the lane does not get its turn.  If the lane has arrived in the middle of a run, what is left of
that run comes first. -/
theorem wait_holds_lane {event : Event} (occurs : Occurs setting event first second)
    (arrives : Arrives first second id priority ip lane)
    (opcode : setting.source.code[ip]? = some Opcode.wait.byte)
    (whole : ip + 3 ≤ setting.source.code.size) :
    let frames := Section.wordAt setting.source.code (ip + 1)
    lane = lane.held ip 0 ∧
    (∀ runs last, Course setting id priority second runs last →
      (∀ count stint, runs[count]? = some stint →
        (count < frames → stint.Holds setting id priority lane ip count) ∧
        (count = frames → stint.GoesOn setting id priority lane ip count (ip + 3))) ∧
      (runs.length ≤ frames →
        last.world.lane? id priority = some (lane.held ip runs.length))) ∧
    (0 < setting.config.opsPerTick → ∀ moves : List Move, (∀ move ∈ moves, move.Spares id) →
      ∃ runs, Course setting id priority second runs (second.follow setting moves) ∧
        runs.length ≤ moves.length ∧ ∀ stint ∈ runs, stint.budget = setting.config.opsPerTick) ∧
    ∀ start last budget runs,
      Course setting id priority start (⟨first, budget + 1⟩ :: runs) last →
      first.step setting id priority = (second, .goOn) →
      Course setting id priority second (if budget = 0 then runs else ⟨second, budget⟩ :: runs)
        last := by
  intro frames
  have held := arrives.eq_held occurs
  have here : second.world.lane? id priority = some (lane.held ip 0) := held ▸ arrives.there
  refine ⟨held, fun runs last course => ?_, ?_, ?_⟩
  · have waited := course.waits opcode whole here (Nat.zero_le frames)
    simpa only [Nat.zero_add] using waited
  · intro able moves spares
    exact follow_course able spares second
  · intro start last budget runs course goesOn
    exact course.of_step goesOn

end Machine

/-! ## A small field -/

namespace Vigil

/-- One script: it does nothing, and then waits twice. -/
def source : Section :=
  { bytes := #[0x5F, 0x24, 0x02, 0x00, 0x5F, 0x00]
    version := 0, modelCount := 0, scale := 0, creator := "", name := "vigil"
    entities := #[Bustle.scripts "guard" 0 5]
    akaoOffsets := #[], codeStart := 0, codeEnd := 6, texts := #[] }

def setting : Setting Unit := { source, config := { opsPerTick := 8 }, host := Host.accepting }

def entered : Machine Unit :=
  (Machine.enter setting (Session.fresh setting.config) (.ofSeed 0) ()).start

/-- The field in the middle of its first turn, when the lane stands at the wait. -/
def arrived : Machine Unit := (entered.step setting 0 0).1

/-- The run that follows on another one. -/
def again (stint : Machine.Stint Unit) : Machine.Stint Unit := ⟨(stint.outcome setting 0 0).1, 8⟩

theorem course_again (machine : Machine Unit) (budget : Nat) :
    let first : Machine.Stint Unit := ⟨machine, budget + 1⟩
    Machine.Course setting 0 0 machine [first, again first, again (again first)]
      ((again (again first)).outcome setting 0 0).1 := by
  intro first
  have able : 0 < 8 := by decide
  exact .run first (Nat.succ_pos budget)
    (.run (again first) able (.run (again (again first)) able (.done _)))

def guard : Lane := { status := .active 1 0 none none, script := 0, epoch := 1 }

theorem guard_arrives : Machine.Arrives entered arrived 0 0 1 guard where
  there := by decide +kernel
  active := rfl
  stands := rfl
  newly := by
    have stood : entered.world.lane? 0 0 =
        some { status := .active 0 0 none none, script := 0, epoch := 1 } := by decide +kernel
    intro old here
    rw [stood] at here
    cases here
    decide

end Vigil

namespace Machine

/-- What is left of the first run and the second one try the wait, and the third one goes on behind
it; after any tick, the lane has tried at most once more. -/
theorem vigil_kept :
    let first : Stint Unit := ⟨Vigil.arrived, 7⟩
    let second := Vigil.again first
    let third := Vigil.again second
    first.Holds Vigil.setting 0 0 Vigil.guard 1 0 ∧ second.Holds Vigil.setting 0 0 Vigil.guard 1 1 ∧
    third.GoesOn Vigil.setting 0 0 Vigil.guard 1 2 4 ∧
    ∀ elapsed, ∃ tries ≤ 1, (Vigil.arrived.tick Vigil.setting elapsed).world.lane? 0 0 =
      some (Vigil.guard.held 1 tries) := by
  intro first second third
  have steps : Occurs Vigil.setting (.run 0 0) Vigil.entered Vigil.arrived := .run Vigil.entered 0 0
  have opcode : Vigil.setting.source.code[1]? = some Opcode.wait.byte := by decide +kernel
  have whole : 1 + 3 ≤ Vigil.setting.source.code.size := by decide +kernel
  obtain ⟨-, held, ticks, -⟩ := wait_holds_lane steps Vigil.guard_arrives opcode whole
  have two : Section.wordAt Vigil.setting.source.code 2 = 2 := by decide +kernel
  rw [two] at held
  obtain ⟨runs, -⟩ := held _ _ (Vigil.course_again Vigil.arrived 6)
  refine ⟨(runs 0 first rfl).1 (by decide), (runs 1 second rfl).1 (by decide),
    (runs 2 third rfl).2 rfl, fun elapsed => ?_⟩
  obtain ⟨runs, course, few, -⟩ := ticks (by decide) [.tick elapsed] (by simp [Move.Spares])
  have once : runs.length ≤ 1 := few
  simp only [follow, List.foldl_cons, List.foldl_nil, make] at course
  exact ⟨runs.length, once, (held _ _ course).2 (by omega)⟩

end Machine

end FieldMachine
