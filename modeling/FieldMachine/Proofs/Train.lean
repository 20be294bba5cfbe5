import FieldMachine.Proofs.Moment
import Mathlib.Data.Nat.Find

/-!
# The train of a tick

The moments of a tick lead from one machine to the next: each begins where the one
before has led, and between two of them nothing happens but that a lane whose budget
is used up is counted (`Machine.Train`).  What the instructions of a tick do one
after the other is told by an induction on this train, whichever lanes, entities and
budgets it runs through.
-/

namespace FieldMachine

set_option autoImplicit false

namespace Machine

variable {σ : Type}

/-- Moments that lead from one machine to another. -/
inductive Train (setting : Setting σ) : List (Moment σ) → Machine σ → Machine σ → Prop
  | done (machine : Machine σ) : Train setting [] machine machine
  | moment {moments : List (Moment σ)} {last : Machine σ} (moment : Moment σ)
      (rest : Train setting moments (moment.after setting) last) :
      Train setting (moment :: moments) moment.machine last
  /-- A lane has used its budget up. -/
  | starve {moments : List (Moment σ)} {last : Machine σ} (machine : Machine σ) (starved : Nat)
      (entry : Entry)
      (rest : Train setting moments
        ({ machine with world := { machine.world with starved } }.note entry) last) :
      Train setting moments machine last

namespace Train

variable {setting : Setting σ} {moments more : List (Moment σ)} {first second last : Machine σ}

theorem append (train : Train setting moments first second)
    (further : Train setting more second last) : Train setting (moments ++ more) first last := by
  induction train with
  | done machine => exact further
  | moment moment rest ih => exact .moment moment (ih further)
  | starve machine starved entry rest ih => exact .starve machine starved entry (ih further)

/-- A train arrives at each of its moments, and goes on behind it. -/
theorem split {before rest : List (Moment σ)} {moment : Moment σ}
    (train : Train setting (before ++ moment :: rest) first last) :
    Train setting before first moment.machine ∧
      Train setting rest (moment.after setting) last := by
  generalize whole : before ++ moment :: rest = moments at train
  induction train generalizing before with
  | done machine => simp at whole
  | moment found others ih =>
      cases before with
      | nil =>
          obtain ⟨rfl, rfl⟩ := List.cons.inj whole
          exact ⟨.done _, others⟩
      | cons head tail =>
          obtain ⟨rfl, split⟩ := List.cons.inj whole
          obtain ⟨arrives, goesOn⟩ := ih split
          exact ⟨.moment head arrives, goesOn⟩
  | starve machine starved entry others ih =>
      obtain ⟨arrives, goesOn⟩ := ih whole
      exact ⟨.starve machine starved entry arrives, goesOn⟩

end Train

/-! ## Turns -/

section Turns

variable (setting : Setting σ) (machine : Machine σ)

/-- The turn of a lane is a train of its moments. -/
theorem train_runLane (id : EntityId) (priority budget : Nat) :
    Train setting (machine.laneMoments setting id priority budget) machine
      (machine.runLane setting id priority budget).1 := by
  induction budget generalizing machine with
  | zero => exact .starve machine _ _ (.done _)
  | succ budget ih =>
      unfold runLane laneMoments
      refine .moment ⟨machine, id, priority⟩ ?_
      rw [Moment.after]
      obtain ⟨next, turnover⟩ := machine.step setting id priority
      cases turnover with
      | goOn => exact ih next
      | holding => exact .done next
      | released => exact .done next

theorem train_runLanes (id : EntityId) (priorities : List Nat) :
    Train setting (machine.lanesMoments setting id priorities) machine
      (machine.runLanes setting id priorities) := by
  induction priorities generalizing machine with
  | nil => exact .done machine
  | cons priority rest ih =>
      unfold runLanes lanesMoments
      split
      · refine (train_runLane setting machine id priority setting.config.opsPerTick).append ?_
        obtain ⟨next, turnover⟩ := machine.runLane setting id priority setting.config.opsPerTick
        cases turnover with
        | released => exact ih next
        | goOn => exact .done next
        | holding => exact .done next
      · exact ih machine

theorem train_runEntity (id : EntityId) :
    Train setting (machine.entityMoments setting id) machine (machine.runEntity setting id) := by
  unfold runEntity entityMoments
  cases machine.world.entity? id with
  | none => exact .done machine
  | some entity => exact train_runLanes setting machine id turnOrder

theorem train_foldl_runEntity (ids : List EntityId) :
    Train setting (machine.entitiesMoments setting ids) machine
      (ids.foldl (fun machine id => machine.runEntity setting id) machine) := by
  induction ids generalizing machine with
  | nil => exact .done machine
  | cons id rest ih => exact (train_runEntity setting machine id).append (ih _)

/-- The turns of a tick are the train of its moments, from where all answers have been given back. -/
theorem train_tick (elapsed : UInt64) :
    let resumed := machine.duringResumes setting elapsed machine.world.pending.length
    Train setting (machine.tickMoments setting elapsed) resumed (resumed.runEntities setting) :=
  train_foldl_runEntity setting _ _

end Turns

/-! ## Whose moments there are -/

section Places

variable {setting : Setting σ} {machine : Machine σ} {moment : Moment σ} {id : EntityId}
  {priority : Nat}

theorem of_mem_laneMoments {budget : Nat}
    (among : moment ∈ machine.laneMoments setting id priority budget) :
    moment.id = id ∧ moment.priority = priority := by
  induction budget generalizing machine with
  | zero => cases among
  | succ budget ih =>
      rw [laneMoments] at among
      rcases List.mem_cons.mp among with rfl | later
      · exact ⟨rfl, rfl⟩
      · split at later
        · exact ih later
        · cases later

theorem of_mem_lanesMoments {priorities : List Nat}
    (among : moment ∈ machine.lanesMoments setting id priorities) : moment.id = id := by
  induction priorities generalizing machine with
  | nil => cases among
  | cons priority rest ih =>
      rw [lanesMoments] at among
      split at among
      · rcases List.mem_append.mp among with own | later
        · exact (of_mem_laneMoments own).1
        · split at later
          · exact ih later
          · cases later
      · exact ih among

theorem of_mem_entitiesMoments {ids : List EntityId}
    (among : moment ∈ machine.entitiesMoments setting ids) : moment.id ∈ ids := by
  induction ids generalizing machine with
  | nil => cases among
  | cons first rest ih =>
      rw [entitiesMoments] at among
      rcases List.mem_append.mp among with own | later
      · unfold entityMoments at own
        split at own
        · cases own
        · exact of_mem_lanesMoments own ▸ List.mem_cons_self
      · exact List.mem_cons_of_mem first (ih later)

/-- A lane belongs to an entity that is counted. -/
theorem lt_size_of_lane? {lane : Lane} (here : machine.world.lane? id priority = some lane) :
    id < machine.world.entities.size := by
  obtain ⟨entity, known, -⟩ := Option.bind_eq_some_iff.mp here
  have known : machine.world.entities[id]?.join = some entity := known
  by_contra outside
  rw [Array.getElem?_eq_none (Nat.le_of_not_lt outside)] at known
  cases known

/-- Where a lane is active, one is the highest. -/
theorem exists_highest (active : machine.world.laneActive id priority) :
    ∃ top, priority ≤ top ∧ machine.world.laneActive id top ∧
      ∀ index, top < index → machine.world.laneActive id index = false := by
  let runs (index : Nat) : Prop := machine.world.laneActive id index
  have inside (index : Nat) (active : runs index) : index ≤ laneCount :=
    Nat.le_of_lt (of_laneActive active).2
  have highest : runs (Nat.findGreatest runs laneCount) :=
    Nat.findGreatest_spec (inside priority active) active
  refine ⟨_, Nat.le_findGreatest (inside priority active) active, highest, fun index above => ?_⟩
  by_contra higher
  have higher : runs index := by simpa using higher
  exact Nat.findGreatest_is_greatest above (inside index higher) higher

/-- The moments of an entity begin with its highest active lane. -/
theorem entityMoments_of_highest (active : machine.world.laneActive id priority)
    (highest : ∀ index, priority < index → machine.world.laneActive id index = false)
    (able : 0 < setting.config.opsPerTick) :
    ∃ rest, machine.entityMoments setting id = ⟨machine, id, priority⟩ :: rest := by
  obtain ⟨⟨entity, known⟩, below⟩ := of_laneActive active
  have ordered : turnOrder.Pairwise (· > ·) := List.pairwise_reverse.mpr List.pairwise_lt_range
  obtain ⟨before, rest, split⟩ :=
    List.append_of_mem (List.mem_reverse.mpr (List.mem_range.mpr below))
  rw [entityMoments, known]
  dsimp only
  rw [turnOrder, split] at ordered ⊢
  have idle : ∀ index ∈ before, machine.world.laneActive id index = false := fun index among =>
    highest index ((List.pairwise_append.mp ordered).2.2 index among priority (by simp))
  clear split ordered
  induction before with
  | nil =>
      rw [List.nil_append, lanesMoments, if_pos active, ← Nat.succ_pred_eq_of_pos able, laneMoments]
      exact ⟨_, rfl⟩
  | cons first others ih =>
      rw [List.forall_mem_cons] at idle
      rw [List.cons_append, lanesMoments, if_neg (by simp [idle.1])]
      exact ih idle.2

/-- In a tick, the moments of an entity come behind those of other entities, and begin with the lane
that is the highest active one then. -/
theorem tickMoments_of_highest {start : Machine σ} {elapsed : UInt64}
    (reached : (List.range id).foldl (fun machine id => machine.runEntity setting id)
      (start.duringResumes setting elapsed start.world.pending.length) = machine)
    (inside : id < start.world.entities.size) (active : machine.world.laneActive id priority)
    (highest : ∀ index, priority < index → machine.world.laneActive id index = false)
    (able : 0 < setting.config.opsPerTick) :
    ∃ before rest, start.tickMoments setting elapsed = before ++ ⟨machine, id, priority⟩ :: rest ∧
      ∀ moment ∈ before, moment.id ≠ id := by
  obtain ⟨first, last, split⟩ := List.append_of_mem (List.mem_range.mpr inside)
  obtain ⟨own, begins⟩ := entityMoments_of_highest active highest able
  obtain rfl := (range_split split).1
  unfold tickMoments
  dsimp only
  rw [size_duringResumes, split, entitiesMoments_append, reached, entitiesMoments, begins]
  refine ⟨_, own ++ _, rfl, fun moment among same => ?_⟩
  have before := List.mem_range.mp (of_mem_entitiesMoments among)
  exact Nat.lt_irrefl id (same ▸ before)

end Places

end Machine

end FieldMachine
