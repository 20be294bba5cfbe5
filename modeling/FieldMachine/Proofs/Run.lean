import FieldMachine.Proofs.Event

/-!
# Operations as runs of events

Every operation of a machine is a run of events: a tick runs lanes, wakes the
ones the host has answered and lets activities take a step, and nothing else
ever touches a lane.  What every event preserves therefore holds in every state
that a field can be seen in (`Machine.Visited.roster_induction`).
-/

namespace FieldMachine

set_option autoImplicit false

namespace Machine

variable {σ : Type} (setting : Setting σ)

/-! ## Runs -/

/-- Events that lead from one machine to another, one after the other. -/
inductive Runs : List Event → Machine σ → Machine σ → Prop
  | nil (machine : Machine σ) : Runs [] machine machine
  | cons {event : Event} {events : List Event} {first second third : Machine σ}
      (occurs : Occurs setting event first second) (rest : Runs events second third) :
      Runs (event :: events) first third

variable {setting}

theorem Runs.append {events more : List Event} {first second third : Machine σ}
    (runs : Runs setting events first second) (further : Runs setting more second third) :
    Runs setting (events ++ more) first third := by
  induction runs with
  | nil => exact further
  | cons occurs rest ih => exact .cons occurs (ih further)

variable (setting) in
/-- A machine that allowed events lead to. -/
def RunOf (allowed : Event → Prop) (first second : Machine σ) : Prop :=
  ∃ events, (∀ event ∈ events, allowed event) ∧ Runs setting events first second

namespace RunOf

variable {allowed : Event → Prop}

theorem refl (machine : Machine σ) : RunOf setting allowed machine machine :=
  ⟨[], by simp, .nil machine⟩

theorem trans {first second third : Machine σ} (runs : RunOf setting allowed first second)
    (further : RunOf setting allowed second third) : RunOf setting allowed first third := by
  obtain ⟨events, fit, runs⟩ := runs
  obtain ⟨more, fitToo, further⟩ := further
  refine ⟨events ++ more, ?_, runs.append further⟩
  rw [List.forall_mem_append]
  exact ⟨fit, fitToo⟩

theorem single {event : Event} {first second : Machine σ} (fits : allowed event)
    (occurs : Occurs setting event first second) : RunOf setting allowed first second :=
  ⟨[event], by simpa using fits, .cons occurs (.nil second)⟩

theorem quiet {first second : Machine σ} (fits : allowed .other)
    (same : second.world.roster = first.world.roster) : RunOf setting allowed first second :=
  single fits (.other same)

theorem mono {more : Event → Prop} {first second : Machine σ}
    (runs : RunOf setting allowed first second) (weaker : ∀ event, allowed event → more event) :
    RunOf setting more first second := by
  obtain ⟨events, fit, runs⟩ := runs
  exact ⟨events, fun event among => weaker event (fit event among), runs⟩

/-- One after the other for all items of a list. -/
theorem foldl {α : Type} {change : Machine σ → α → Machine σ}
    (each : ∀ machine item, RunOf setting allowed machine (change machine item)) (items : List α)
    (machine : Machine σ) : RunOf setting allowed machine (items.foldl change machine) :=
  List.foldlRecOn items change (refl machine) fun reached runs item _ =>
    runs.trans (each reached item)

end RunOf

variable (setting) in
/-- A machine that inner events lead to. -/
def InnerRun (first second : Machine σ) : Prop := RunOf setting (·.isInner) first second

/-! ## Turns -/

section Turns

variable (setting) (machine : Machine σ)

/-- The turn of a lane consists of its instructions. -/
theorem runLane_turn (id : EntityId) (priority budget : Nat) :
    RunOf setting (·.IsTurn fun other level => other = id ∧ level = priority) machine
      (machine.runLane setting id priority budget).1 := by
  induction budget generalizing machine with
  | zero => exact .quiet trivial rfl
  | succ budget ih =>
      have own : (Event.run id priority).IsTurn fun other level =>
          other = id ∧ level = priority := ⟨rfl, rfl⟩
      have first : RunOf setting (·.IsTurn fun other level => other = id ∧ level = priority)
          machine (machine.step setting id priority).1 := .single own (.run machine id priority)
      unfold runLane
      split
      · next next goesOn =>
          rw [goesOn] at first
          exact first.trans (ih next)
      · exact first

/-- The turns of some lanes of an entity consist of their instructions. -/
theorem runLanes_turn (id : EntityId) (priorities : List Nat) :
    RunOf setting (·.IsTurn fun other level => other = id ∧ level ∈ priorities) machine
      (machine.runLanes setting id priorities) := by
  induction priorities generalizing machine with
  | nil => exact .refl machine
  | cons priority rest ih =>
      have first : RunOf setting
          (·.IsTurn fun other level => other = id ∧ level ∈ priority :: rest) machine
          (machine.runLane setting id priority setting.config.opsPerTick).1 := by
        refine (runLane_turn setting machine id priority _).mono fun event turn => turn.mono ?_
        rintro other level ⟨rfl, rfl⟩
        exact ⟨rfl, by simp⟩
      have others (machine : Machine σ) : RunOf setting
          (·.IsTurn fun other level => other = id ∧ level ∈ priority :: rest) machine
          (machine.runLanes setting id rest) := by
        refine (ih machine).mono fun event turn => turn.mono ?_
        rintro other level ⟨rfl, among⟩
        exact ⟨rfl, by simp [among]⟩
      unfold runLanes
      split
      · split
        · next next released =>
            rw [released] at first
            exact first.trans (others next)
        · next next turnover _ ended =>
            rw [ended] at first
            exact first
      · exact others machine

/-- The turn of an entity consists of instructions of its lanes. -/
theorem runEntity_turn (id : EntityId) :
    RunOf setting (·.IsTurn fun other _ => other = id) machine
      (machine.runEntity setting id) := by
  unfold runEntity
  split
  · exact .refl machine
  · exact (runLanes_turn setting machine id turnOrder).mono fun event turn =>
      turn.mono fun other level own => own.1

end Turns

/-! ## The parts of a tick -/

section Parts

variable (setting) (machine : Machine σ)

theorem runLanes_inner (id : EntityId) (priorities : List Nat) :
    InnerRun setting machine (machine.runLanes setting id priorities) :=
  (runLanes_turn setting machine id priorities).mono fun _ turn => turn.isInner

theorem runEntity_inner (id : EntityId) :
    InnerRun setting machine (machine.runEntity setting id) :=
  (runEntity_turn setting machine id).mono fun _ turn => turn.isInner

theorem runEntities_inner : InnerRun setting machine (machine.runEntities setting) :=
  .foldl (runEntity_inner setting) _ machine

theorem beginTick_background (elapsed : UInt64) :
    RunOf setting (·.isBackground) machine (machine.beginTick setting elapsed) := .quiet rfl rfl

theorem beginTick_inner (elapsed : UInt64) :
    InnerRun setting machine (machine.beginTick setting elapsed) :=
  (beginTick_background setting machine elapsed).mono fun _ => Event.isInner_of_isBackground

theorem applyPending_background :
    RunOf setting (·.isBackground) machine (machine.applyPending setting) := by
  have emptied : RunOf setting (·.isBackground) machine
      (machine.updateWorld fun world => { world with pending := [] }) := .quiet rfl rfl
  refine emptied.trans (.foldl ?_ _ _)
  intro machine given
  exact .single rfl (.resume machine given.1 given.2)

theorem applyPending_inner : InnerRun setting machine (machine.applyPending setting) :=
  (applyPending_background setting machine).mono fun _ => Event.isInner_of_isBackground

theorem roster_advanceActors :
    (machine.advanceActors setting).world.roster = machine.world.roster := by
  have entity (id : EntityId) :
      (machine.advanceActors setting).world.entity? id = (machine.world.entity? id).map
        (·.updateActor fun actor =>
          actor.advance ((machine.senses setting).lastFrame actor.model)) := by
    simp only [advanceActors, updateWorld, World.entity?, Array.getElem?_map]
    cases machine.world.entities[id]? <;> simp
  ext id priority lane
  · simp only [World.lane?_roster, World.lane?, entity]
    cases machine.world.entity? id <;> simp [Entity.updateActor]
  · simp only [World.roster, entity]
    cases machine.world.entity? id <;> simp [Entity.updateActor]
  · rfl

theorem advanceActors_background :
    RunOf setting (·.isBackground) machine (machine.advanceActors setting) :=
  .quiet rfl (roster_advanceActors setting machine)

theorem advanceActors_inner : InnerRun setting machine (machine.advanceActors setting) :=
  (advanceActors_background setting machine).mono fun _ => Event.isInner_of_isBackground

theorem runActivities_background (frame : Nat) (activities : List Activity) :
    RunOf setting (·.isBackground) machine
      (machine.runActivities setting frame activities).1 := by
  induction activities generalizing machine with
  | nil => exact .refl machine
  | cons activity rest ih =>
      have first : RunOf setting (·.isBackground) machine
          (activity.run setting frame machine).1 := .single rfl (.work machine frame activity)
      exact first.trans (ih _)

theorem finishTick_background :
    RunOf setting (·.isBackground) machine (machine.finishTick setting) := by
  have worked :=
    runActivities_background setting machine machine.world.frame machine.world.activities
  exact worked.trans (.quiet rfl rfl)

theorem finishTick_inner : InnerRun setting machine (machine.finishTick setting) :=
  (finishTick_background setting machine).mono fun _ => Event.isInner_of_isBackground

/-- A tick is a run of inner events. -/
theorem tick_inner (elapsed : UInt64) :
    InnerRun setting machine (machine.tick setting elapsed) := by
  have begun := (beginTick_inner setting machine elapsed).trans (applyPending_inner setting _)
  have turns := begun.trans (runEntities_inner setting _)
  exact (turns.trans (advanceActors_inner setting _)).trans (finishTick_inner setting _)

/-- A tick between two turns: the first `entities` entities have had theirs, and so have the first
`lanes` lanes of the next one. -/
def duringTick (elapsed : UInt64) (entities lanes : Nat) : Machine σ :=
  let begun := (machine.beginTick setting elapsed).applyPending setting
  let reached := (List.range entities).foldl (fun machine id => machine.runEntity setting id) begun
  reached.runLanes setting entities (turnOrder.take lanes)

theorem duringTick_inner (elapsed : UInt64) (entities lanes : Nat) :
    InnerRun setting machine (machine.duringTick setting elapsed entities lanes) := by
  have begun := (beginTick_inner setting machine elapsed).trans (applyPending_inner setting _)
  exact (begun.trans (.foldl (runEntity_inner setting) _ _)).trans
    (runLanes_inner setting _ entities _)

end Parts

/-! ## The states that a field can be seen in -/

/-- The machines that operations of the host lead to.  Between two of them the host may do whatever
it likes to itself and to the session. -/
inductive Reachable (setting : Setting σ) : Machine σ → Prop
  | enter (session : Session) (random : Random) (host : σ) :
      Reachable setting (enter setting session random host)
  | start {machine : Machine σ} (reachable : Reachable setting machine) :
      Reachable setting machine.start
  | tick {machine : Machine σ} (reachable : Reachable setting machine) (elapsed : UInt64) :
      Reachable setting (machine.tick setting elapsed)
  | invoke {machine : Machine σ} (reachable : Reachable setting machine)
      (index priority script : Nat) :
      Reachable setting (machine.invoke index priority script).1
  | giveBack {machine : Machine σ} (reachable : Reachable setting machine) (token : ResumeToken)
      (answer : Option UInt16) :
      Reachable setting (machine.giveBack token answer)
  | remove {machine : Machine σ} (reachable : Reachable setting machine) (index : Nat) :
      Reachable setting (machine.remove index).1
  | spawn {machine : Machine σ} (reachable : Reachable setting machine) (activity : Activity) :
      Reachable setting (machine.spawn activity)
  | loadPalette {machine : Machine σ} (reachable : Reachable setting machine) (id : UInt8)
      (palette : Palette) :
      Reachable setting (machine.loadPalette id palette)
  | outside {machine after : Machine σ} (reachable : Reachable setting machine)
      (same : after.world = machine.world) :
      Reachable setting after

/-- The machines that can be seen between two operations, between two turns of a tick, or between
two instructions of a turn.  Lanes may carry out their instructions in any order here, so nothing
depends on whose turn it is. -/
inductive Visited (setting : Setting σ) : Machine σ → Prop
  | between {machine : Machine σ} (reachable : Reachable setting machine) :
      Visited setting machine
  | during {machine : Machine σ} (reachable : Reachable setting machine) (elapsed : UInt64)
      (entities lanes : Nat) :
      Visited setting (machine.duringTick setting elapsed entities lanes)
  | within {machine : Machine σ} (visited : Visited setting machine) (id : EntityId)
      (priority : Nat) :
      Visited setting (machine.step setting id priority).1

variable (setting) in
/-- A machine that events lead to from the entry of the field. -/
def Arises (machine : Machine σ) : Prop :=
  ∃ session random host events,
    Runs setting events (enter setting session random host) machine

theorem Arises.runs {machine after : Machine σ} {events : List Event}
    (arises : Arises setting machine) (runs : Runs setting events machine after) :
    Arises setting after := by
  obtain ⟨session, random, host, before, entered⟩ := arises
  exact ⟨session, random, host, before ++ events, entered.append runs⟩

theorem Arises.inner {machine after : Machine σ} (arises : Arises setting machine)
    (inner : InnerRun setting machine after) : Arises setting after := by
  obtain ⟨events, -, runs⟩ := inner
  exact arises.runs runs

theorem Arises.event {machine after : Machine σ} {event : Event}
    (arises : Arises setting machine) (occurs : Occurs setting event machine after) :
    Arises setting after := arises.runs (.cons occurs (.nil after))

variable (setting) in
/-- Entering the field starts the first script of every entity. -/
theorem start_runs (machine : Machine σ) :
    ∃ events, (∀ event ∈ events, event = .other ∨ ∃ id, event = .invoke id 0 0) ∧
      Runs setting events machine machine.start := by
  have each (ids : List EntityId) (machine : Machine σ) :
      Runs setting (ids.map (.invoke · 0 0)) machine
        (ids.foldl (fun machine id => (machine.startScript id 0 0 none).1) machine) := by
    induction ids generalizing machine with
    | nil => exact .nil machine
    | cons id rest ih => exact .cons (.invoke machine id 0 0) (ih _)
  have emptied : Occurs setting .other machine (machine.updateSession fun session =>
      { session with memory := session.memory.resetScratch }) := .other rfl
  refine ⟨.other :: machine.world.present.map (.invoke · 0 0), by simp, .cons emptied ?_⟩
  exact each machine.world.present _

/-- Every reachable machine arises by events. -/
theorem Reachable.arises {machine : Machine σ} (reachable : Reachable setting machine) :
    Arises setting machine := by
  induction reachable with
  | enter session random host => exact ⟨session, random, host, [], .nil _⟩
  | @start machine reachable ih =>
      obtain ⟨events, -, runs⟩ := start_runs setting machine
      exact ih.runs runs
  | @tick machine reachable elapsed ih => exact ih.inner (tick_inner setting machine elapsed)
  | @invoke machine reachable index priority script ih =>
      exact ih.event (.invoke machine index priority script)
  | giveBack reachable token answer ih => exact ih.event (.other rfl)
  | @remove machine reachable index ih => exact ih.event (.remove machine index)
  | spawn reachable activity ih => exact ih.event (.other rfl)
  | loadPalette reachable id palette ih => exact ih.event (.other rfl)
  | outside reachable same ih => exact ih.event (.other (congrArg World.roster same))

theorem Visited.arises {machine : Machine σ} (visited : Visited setting machine) :
    Arises setting machine := by
  induction visited with
  | between reachable => exact reachable.arises
  | @during machine reachable elapsed entities lanes =>
      exact reachable.arises.inner (duringTick_inner setting machine elapsed entities lanes)
  | @within machine visited id priority ih => exact ih.event (.run machine id priority)

theorem Runs.roster_induction {invariant : Roster → Prop}
    (preserved : ∀ event before after, Roster.Step setting.source before event after →
      invariant before → invariant after)
    {events : List Event} {machine after : Machine σ} (runs : Runs setting events machine after)
    (holds : invariant machine.world.roster) : invariant after.world.roster := by
  induction runs with
  | nil => exact holds
  | cons occurs rest ih => exact ih (preserved _ _ _ occurs.step holds)

/-- What holds of an unentered field, and is preserved by every event, holds in every state. -/
theorem Visited.roster_induction (invariant : Roster → Prop)
    (initially : invariant (World.ofSection setting.source).roster)
    (preserved : ∀ event before after, Roster.Step setting.source before event after →
      invariant before → invariant after)
    {machine : Machine σ} (visited : Visited setting machine) :
    invariant machine.world.roster := by
  obtain ⟨session, random, host, events, runs⟩ := visited.arises
  exact runs.roster_induction preserved initially

end Machine

/-! ## A small field -/

/-!
Two entities: the first script of the first one calls a script of the second one and waits for it,
while that script plays an animation and waits for its end.
-/

namespace Sample

/-- The header, two names without a character, two script tables and nine bytes of code. -/
def bytes : Array UInt8 :=
  (([2, 5, 2, 0, 185, 0, 0, 0, 0, 2] ++ List.replicate 22 0 ++ List.replicate 16 0
    ++ [176, 0] ++ (List.replicate 31 [179, 0]).flatten
    ++ [180, 0, 181, 0] ++ (List.replicate 30 [180, 0]).flatten
    ++ [0x03, 0x01, 0x21, 0x00, 0x00, 0xA3, 0x05, 0x01, 0x00] : List UInt8)).toArray

def source : Section :=
  match Section.read bytes with
  | .ok source => source
  | .error _ =>
      { bytes := #[], version := 0, modelCount := 0, scale := 0, creator := "", name := ""
        entities := #[], akaoOffsets := #[], codeStart := 0, codeEnd := 0, texts := #[] }

def setting : Setting Unit :=
  { source, config := { opsPerTick := 8 }, host := Host.accepting }

theorem read_bytes : Section.read bytes = .ok setting.source := by
  have accepted : (Section.read bytes).isOk := by decide +kernel
  unfold setting source
  cases read : Section.read bytes with
  | ok source => rfl
  | error error => simp [read, Except.isOk, Except.toBool] at accepted

def entered : Machine Unit :=
  (Machine.enter setting (Session.fresh setting.config) (.ofSeed 0) ()).start

/-- The field in its first tick, when both entities have had their turns. -/
def waiting : Machine Unit := entered.duringTick setting 0 1 8

theorem visited_waiting : Machine.Visited setting waiting :=
  .during (.start (.enter _ _ _)) 0 1 8

theorem caller_waits : waiting.world.lane? 0 0 =
    some { status := .paused 179 .call none, script := 0, epoch := 1 } := by
  decide +kernel

theorem callee_runs : waiting.world.lane? 1 1 =
    some
      { status := .active 181 1 (some ⟨184, .animation⟩) (some ⟨0, 0, 1⟩), script := 1, epoch := 1 }
    := by
  decide +kernel

end Sample

end FieldMachine
