import FieldMachine.Proofs.Roster
import FieldMachine.Scheduler

/-!
# The moments of a tick

A tick first gives back what the host has returned, one answer after the other
(`Machine.duringResumes`), and then the lanes carry out their instructions.  The
moments at which they do are put on record in their order
(`Machine.tickMoments`), so that it can be told when something happened.

What the instruction of every recorded moment keeps up, all turns keep up
(`Machine.runEntities_invariant`).  And where an instruction ends the turn of its
lane, the tick goes on with the lower lanes of the entity, and then with the
entities behind it (`Machine.tick_of_moment`).
-/

namespace FieldMachine

set_option autoImplicit false

/-- A lane whose instruction is next. -/
structure Moment (σ : Type) where
  machine : Machine σ
  id : EntityId
  priority : Nat

/-- The machine after that instruction. -/
def Moment.after {σ : Type} (setting : Setting σ) (moment : Moment σ) : Machine σ :=
  (moment.machine.step setting moment.id moment.priority).1

namespace Machine

variable {σ : Type} (setting : Setting σ)

/-! ## Answers that are given back -/

/-- A tick in which so many of the answers were given back that it began with. -/
def duringResumes (elapsed : UInt64) (count : Nat) (machine : Machine σ) : Machine σ :=
  let begun := machine.beginTick setting elapsed
  (begun.world.pending.take count).foldl
    (fun machine (token, answer) => machine.applyResume setting token answer)
    (begun.updateWorld fun world => { world with pending := [] })

/-- One answer more. -/
theorem duringResumes_succ {machine : Machine σ} {count : Nat} {token : ResumeToken}
    {answer : Option UInt16} (next : machine.world.pending[count]? = some (token, answer))
    (elapsed : UInt64) :
    machine.duringResumes setting elapsed (count + 1) =
      (machine.duringResumes setting elapsed count).applyResume setting token answer := by
  have whole : (machine.beginTick setting elapsed).world.pending = machine.world.pending := rfl
  unfold duringResumes
  dsimp only
  rw [whole, List.take_add_one, next, List.foldl_append]
  rfl

/-- At the beginning of a tick all answers are given back. -/
theorem applyPending_beginTick (machine : Machine σ) (elapsed : UInt64) :
    (machine.beginTick setting elapsed).applyPending setting =
      machine.duringResumes setting elapsed machine.world.pending.length := by
  have whole : (machine.beginTick setting elapsed).world.pending = machine.world.pending := rfl
  unfold duringResumes applyPending
  dsimp only
  rw [whole, List.take_length]

theorem size_wake (machine : Machine σ) (token : ResumeToken) :
    (machine.wake token).1.world.entities.size = machine.world.entities.size := by
  have woken : (machine.world.wake token).1.entities.size = machine.world.entities.size := by
    unfold World.wake
    split
    · rfl
    · simp [World.updateLane, World.updateEntity]
  unfold wake
  split
  · rfl
  · exact woken

/-- While answers are given back, the entities keep their places. -/
theorem size_applyResume (machine : Machine σ) (token : ResumeToken) (answer : Option UInt16) :
    (machine.applyResume setting token answer).world.entities.size =
      machine.world.entities.size := by
  have woken := size_wake machine token
  have closed (reason : PauseReason) (machine : Machine σ) :
      (machine.setAwaitedWindow reason false).world.entities = machine.world.entities := by
    unfold setAwaitedWindow
    split <;> rfl
  unfold applyResume
  split
  · next after same =>
      rw [same] at woken
      exact woken
  · next after reason same =>
      rw [same, ← closed reason after] at woken
      dsimp only
      split
      · next window bank address value =>
          have written := world_writeCell setting
            (after.setAwaitedWindow (.ask window bank address) false) bank address value
          rw [← written] at woken
          split
          · next done taken =>
              rw [taken] at woken
              exact woken
          · next done error taken =>
              rw [taken] at woken
              exact woken
      · exact woken
      · exact woken

theorem size_duringResumes (machine : Machine σ) (elapsed : UInt64) (count : Nat) :
    (machine.duringResumes setting elapsed count).world.entities.size =
      machine.world.entities.size := by
  unfold duringResumes
  dsimp only
  have each (given : List (ResumeToken × Option UInt16)) (machine : Machine σ) :
      (given.foldl (fun machine (token, answer) => machine.applyResume setting token answer)
        machine).world.entities.size = machine.world.entities.size := by
    induction given generalizing machine with
    | nil => rfl
    | cons first rest ih => exact (ih _).trans (size_applyResume setting machine first.1 first.2)
  exact each _ _

/-! ## Instructions that are carried out -/

/-- The instructions in the turn of a lane. -/
def laneMoments (id : EntityId) (priority : Nat) : Nat → Machine σ → List (Moment σ)
  | 0, _ => []
  | budget + 1, machine =>
      { machine, id, priority } ::
        match machine.step setting id priority with
        | (next, .goOn) => laneMoments id priority budget next
        | _ => []

/-- The instructions in the turns of some lanes of an entity. -/
def lanesMoments (id : EntityId) : List Nat → Machine σ → List (Moment σ)
  | [], _ => []
  | priority :: rest, machine =>
      if machine.world.laneActive id priority then
        machine.laneMoments setting id priority setting.config.opsPerTick ++
          match machine.runLane setting id priority setting.config.opsPerTick with
          | (next, .released) => lanesMoments id rest next
          | _ => []
      else lanesMoments id rest machine

/-- The instructions in the turn of an entity. -/
def entityMoments (id : EntityId) (machine : Machine σ) : List (Moment σ) :=
  match machine.world.entity? id with
  | none => []
  | some _ => machine.lanesMoments setting id turnOrder

/-- The instructions in the turns of some entities. -/
def entitiesMoments : List EntityId → Machine σ → List (Moment σ)
  | [], _ => []
  | id :: rest, machine =>
      machine.entityMoments setting id ++ entitiesMoments rest (machine.runEntity setting id)

/-- All instructions in a tick, in the order in which they are carried out. -/
def tickMoments (elapsed : UInt64) (machine : Machine σ) : List (Moment σ) :=
  let resumed := machine.duringResumes setting elapsed machine.world.pending.length
  resumed.entitiesMoments setting (List.range resumed.world.entities.size)

/-! ## What all turns keep up -/

section Turns

variable {setting : Setting σ} {invariant : Machine σ → Prop}
  (starves : ∀ machine starved entry, invariant machine →
    invariant ({ machine with world := { machine.world with starved } }.note entry))
include starves

theorem runLane_invariant {machine : Machine σ} {id : EntityId} {priority budget : Nat}
    (steps : ∀ moment ∈ machine.laneMoments setting id priority budget,
      invariant moment.machine → invariant (moment.after setting))
    (holds : invariant machine) : invariant (machine.runLane setting id priority budget).1 := by
  induction budget generalizing machine with
  | zero => exact starves machine _ _ holds
  | succ budget ih =>
      rw [laneMoments, List.forall_mem_cons] at steps
      have first : invariant (machine.step setting id priority).1 := steps.1 holds
      unfold runLane
      split
      · next next goesOn =>
          rw [goesOn] at first steps
          exact ih steps.2 first
      · exact first

theorem runLanes_invariant {machine : Machine σ} {id : EntityId} {priorities : List Nat}
    (steps : ∀ moment ∈ machine.lanesMoments setting id priorities,
      invariant moment.machine → invariant (moment.after setting))
    (holds : invariant machine) : invariant (machine.runLanes setting id priorities) := by
  induction priorities generalizing machine with
  | nil => exact holds
  | cons priority rest ih =>
      unfold runLanes
      rw [lanesMoments] at steps
      split
      · next active =>
          rw [if_pos active, List.forall_mem_append] at steps
          have first := runLane_invariant starves steps.1 holds
          split
          · next next released =>
              rw [released] at first steps
              exact ih steps.2 first
          · next next turnover _ ended =>
              rw [ended] at first
              exact first
      · next idle =>
          rw [if_neg idle] at steps
          exact ih steps holds

theorem runEntity_invariant {machine : Machine σ} {id : EntityId}
    (steps : ∀ moment ∈ machine.entityMoments setting id,
      invariant moment.machine → invariant (moment.after setting))
    (holds : invariant machine) : invariant (machine.runEntity setting id) := by
  unfold runEntity
  unfold entityMoments at steps
  cases known : machine.world.entity? id with
  | none => exact holds
  | some entity =>
      rw [known] at steps
      exact runLanes_invariant starves steps holds

/-- What the instruction of every moment keeps up, and every lane that runs out of its budget, the
turns of all entities keep up. -/
theorem runEntities_invariant {machine : Machine σ}
    (steps : ∀ moment ∈ machine.entitiesMoments setting (List.range machine.world.entities.size),
      invariant moment.machine → invariant (moment.after setting))
    (holds : invariant machine) : invariant (machine.runEntities setting) := by
  unfold runEntities
  generalize List.range machine.world.entities.size = ids at steps ⊢
  induction ids generalizing machine with
  | nil => exact holds
  | cons id rest ih =>
      rw [entitiesMoments, List.forall_mem_append] at steps
      exact ih (runEntity_invariant starves steps.1 holds) steps.2

end Turns

/-! ## What follows a moment -/

section After

variable {setting : Setting σ} {machine next : Machine σ} {id owner : EntityId} {priority : Nat}

/-- The turn of a lane ends where an instruction ends it. -/
theorem runLane_of_moment {start : Machine σ} {level budget : Nat}
    (moment : ⟨machine, id, priority⟩ ∈ start.laneMoments setting owner level budget)
    (released : machine.step setting id priority = (next, .released)) :
    id = owner ∧ priority = level ∧
      start.runLane setting owner level budget = (next, .released) := by
  induction budget generalizing start with
  | zero => cases moment
  | succ budget ih =>
      rw [laneMoments] at moment
      unfold runLane
      rcases List.mem_cons.mp moment with first | later
      · cases first
        rw [released]
        exact ⟨rfl, rfl, rfl⟩
      · revert later
        cases start.step setting owner level with
        | mk after turnover =>
            cases turnover with
            | goOn => exact ih
            | holding => exact fun later => (List.not_mem_nil later).elim
            | released => exact fun later => (List.not_mem_nil later).elim

/-- Behind a lane that was released, the lanes behind it have their turns. -/
theorem runLanes_of_moment {start : Machine σ} {priorities : List Nat}
    (moment : ⟨machine, id, priority⟩ ∈ start.lanesMoments setting owner priorities)
    (released : machine.step setting id priority = (next, .released)) :
    id = owner ∧ ∃ before rest, priorities = before ++ priority :: rest ∧
      start.runLanes setting owner priorities = next.runLanes setting owner rest := by
  induction priorities generalizing start with
  | nil => cases moment
  | cons level rest ih =>
      rw [lanesMoments] at moment
      rw [runLanes]
      split at moment
      · next active =>
          rw [if_pos active]
          rcases List.mem_append.mp moment with own | later
          · obtain ⟨rfl, rfl, ended⟩ := runLane_of_moment own released
            rw [ended]
            exact ⟨rfl, [], rest, rfl, rfl⟩
          · revert later
            cases start.runLane setting owner level setting.config.opsPerTick with
            | mk after turnover =>
                cases turnover with
                | released =>
                    intro later
                    obtain ⟨same, before, behind, split, run⟩ := ih later
                    exact ⟨same, level :: before, behind, by rw [split]; rfl, run⟩
                | goOn => exact fun later => (List.not_mem_nil later).elim
                | holding => exact fun later => (List.not_mem_nil later).elim
      · next idle =>
          rw [if_neg idle]
          obtain ⟨same, before, behind, split, run⟩ := ih moment
          exact ⟨same, level :: before, behind, by rw [split]; rfl, run⟩

/-- What comes before and behind a number that is counted up to. -/
theorem range_split {count : Nat} {before rest : List Nat}
    (split : List.range count = before ++ priority :: rest) :
    before = List.range priority ∧ rest = (List.range count).drop (priority + 1) := by
  have inside : before.length < count := by
    have length := congrArg List.length split
    simp only [List.length_range, List.length_append, List.length_cons] at length
    omega
  have place : before.length = priority := by
    have here := congrArg (·[before.length]?) split
    simpa [List.getElem?_range inside] using here
  subst place
  constructor
  · have taken := congrArg (List.take before.length) split
    rw [List.take_left, List.take_range, Nat.min_eq_left (Nat.le_of_lt inside)] at taken
    exact taken.symm
  · have dropped := congrArg (List.drop (before.length + 1)) split
    rw [List.drop_append, List.drop_eq_nil_of_le (Nat.le_succ _)] at dropped
    simpa using dropped.symm

/-- Of the lanes in their order, those behind one are the lower ones. -/
theorem turnOrder_split {before rest : List Nat} (split : turnOrder = before ++ priority :: rest) :
    rest = (List.range priority).reverse := by
  have whole : List.range laneCount = rest.reverse ++ priority :: before.reverse := by
    rw [← List.reverse_reverse (List.range laneCount)]
    show turnOrder.reverse = _
    rw [split]
    simp
  rw [← (range_split whole).1, List.reverse_reverse]

/-- Behind an entity of which a lane was released, its lower lanes and the entities behind it have
their turns. -/
theorem foldl_runEntity_of_moment {start : Machine σ} {ids : List EntityId}
    (moment : ⟨machine, id, priority⟩ ∈ start.entitiesMoments setting ids)
    (released : machine.step setting id priority = (next, .released)) :
    ∃ before rest, ids = before ++ id :: rest ∧
      ids.foldl (fun machine id => machine.runEntity setting id) start =
        rest.foldl (fun machine id => machine.runEntity setting id)
          (next.runLanes setting id (List.range priority).reverse) := by
  induction ids generalizing start with
  | nil => cases moment
  | cons first rest ih =>
      rw [entitiesMoments] at moment
      rcases List.mem_append.mp moment with own | later
      · unfold entityMoments at own
        cases known : start.world.entity? first with
        | none => simp [known] at own
        | some entity =>
            rw [known] at own
            obtain ⟨rfl, before, lower, split, run⟩ := runLanes_of_moment own released
            have turn : start.runEntity setting id =
                next.runLanes setting id (List.range priority).reverse := by
              rw [runEntity, known, ← turnOrder_split split]
              exact run
            exact ⟨[], rest, rfl, by rw [List.foldl_cons, turn]⟩
      · obtain ⟨before, behind, split, run⟩ := ih later
        exact ⟨first :: before, behind, by rw [split]; rfl, run⟩

/-- A tick goes on behind an instruction that ended the turn of its lane: with the lower lanes of the
entity, and then with the entities behind it. -/
theorem tick_of_moment {start : Machine σ} {elapsed : UInt64}
    (moment : ⟨machine, id, priority⟩ ∈ start.tickMoments setting elapsed)
    (released : machine.step setting id priority = (next, .released)) :
    start.tick setting elapsed =
      ((((List.range start.world.entities.size).drop (id + 1)).foldl
        (fun machine id => machine.runEntity setting id)
        (next.runLanes setting id (List.range priority).reverse)).advanceActors
          setting).finishTick setting := by
  obtain ⟨before, rest, split, run⟩ := foldl_runEntity_of_moment moment released
  rw [size_duringResumes] at split run
  have behind := (range_split split).2
  unfold tick
  rw [applyPending_beginTick, runEntities, size_duringResumes, run, behind]

end After

/-! ## Where a moment is found -/

theorem entitiesMoments_append (machine : Machine σ) (first second : List EntityId) :
    machine.entitiesMoments setting (first ++ second) =
      machine.entitiesMoments setting first ++
        (first.foldl (fun machine id => machine.runEntity setting id) machine).entitiesMoments
          setting second := by
  induction first generalizing machine with
  | nil => rfl
  | cons id rest ih =>
      rw [List.cons_append, entitiesMoments, entitiesMoments, ih, List.append_assoc]
      rfl

/-- Of some lanes, the first active one has its turn at once. -/
theorem mem_lanesMoments {machine : Machine σ} {id : EntityId} {priority : Nat}
    {before rest : List Nat} (idle : ∀ index ∈ before, machine.world.laneActive id index = false)
    (active : machine.world.laneActive id priority) (budget : 0 < setting.config.opsPerTick) :
    ⟨machine, id, priority⟩ ∈ machine.lanesMoments setting id (before ++ priority :: rest) := by
  induction before with
  | nil =>
      rw [List.nil_append, lanesMoments, if_pos active, ← Nat.succ_pred_eq_of_pos budget, laneMoments]
      simp
  | cons first others ih =>
      rw [List.forall_mem_cons] at idle
      rw [List.cons_append, lanesMoments, if_neg (by simp [idle.1])]
      exact ih idle.2

/-- A lane that can run is a lane of an entity that is present. -/
theorem of_laneActive {machine : Machine σ} {id : EntityId} {priority : Nat}
    (active : machine.world.laneActive id priority) :
    (∃ entity, machine.world.entity? id = some entity) ∧ priority < laneCount := by
  unfold World.laneActive World.lane? at active
  cases known : machine.world.entity? id with
  | none => simp [known] at active
  | some entity =>
      refine ⟨⟨entity, rfl⟩, ?_⟩
      rcases Nat.lt_or_ge priority laneCount with below | outside
      · exact below
      · simp [known, Vector.getElem?_eq_none outside] at active

/-- The highest active lane of an entity has its turn at once. -/
theorem mem_entityMoments {machine : Machine σ} {id : EntityId} {priority : Nat}
    (active : machine.world.laneActive id priority)
    (highest : ∀ index, priority < index → machine.world.laneActive id index = false)
    (budget : 0 < setting.config.opsPerTick) :
    ⟨machine, id, priority⟩ ∈ machine.entityMoments setting id := by
  obtain ⟨⟨entity, known⟩, below⟩ := of_laneActive active
  have ordered : turnOrder.Pairwise (· > ·) := List.pairwise_reverse.mpr List.pairwise_lt_range
  obtain ⟨before, rest, split⟩ :=
    List.append_of_mem (List.mem_reverse.mpr (List.mem_range.mpr below))
  rw [entityMoments, known]
  dsimp only
  rw [turnOrder, split] at ordered ⊢
  refine mem_lanesMoments setting (fun index among => highest index ?_) active budget
  exact (List.pairwise_append.mp ordered).2.2 index among priority (by simp)

/-- When the entities before it have had their turns, the highest active lane of an entity has its
own. -/
theorem mem_tickMoments {start machine : Machine σ} {elapsed : UInt64} {id : EntityId}
    {priority : Nat}
    (reached : (List.range id).foldl (fun machine id => machine.runEntity setting id)
      (start.duringResumes setting elapsed start.world.pending.length) = machine)
    (inside : id < start.world.entities.size) (active : machine.world.laneActive id priority)
    (highest : ∀ index, priority < index → machine.world.laneActive id index = false)
    (budget : 0 < setting.config.opsPerTick) :
    ⟨machine, id, priority⟩ ∈ start.tickMoments setting elapsed := by
  obtain ⟨before, rest, split⟩ := List.append_of_mem (List.mem_range.mpr inside)
  unfold tickMoments
  dsimp only
  rw [size_duringResumes, split, (range_split split).1, entitiesMoments_append, reached,
    entitiesMoments]
  exact List.mem_append_right _
    (List.mem_append_left _ (mem_entityMoments setting active highest budget))

end Machine

end FieldMachine
