import Mathlib.Data.List.Sort
import FieldMachine.Proofs.Run

/-!
# The order of turns

In a tick every entity that is present has one turn, in the order of
registration.  Within it the lanes have theirs from the highest active one down,
and a lane that is still active when its turn is over keeps the lower ones
waiting until the next tick (`Machine.EntityTurn.Orderly`).

While one lane runs, others of its entity may be started, woken or ended, above
it and below, so which lane comes next is only settled when a turn is over.  What
an instruction reports about its own lane is true all the same: its turn has
released the entity exactly if the lane is not active any more (`step_turnover`).
-/

namespace FieldMachine

set_option autoImplicit false

/-- Whether a lane is still active after an instruction. -/
def Turnover.keepsActive : Turnover → Bool
  | .released => false
  | _ => true

/-- Effects neither bring lanes in nor take them out. -/
theorem Effect.isSome_lane?_perform {σ : Type} (setting : Setting σ) (machine : Machine σ)
    (effect : Effect) (id : EntityId) (priority : Nat) :
    ((effect.perform setting machine).1.world.lane? id priority).isSome =
      (machine.world.lane? id priority).isSome := by
  have changed (target : EntityId) (level : Nat) (change : Lane → Lane) :
      ((machine.world.updateLane target level change).lane? id priority).isSome =
        (machine.world.lane? id priority).isSome := by
    rw [World.lane?_updateLane]
    split <;> simp
  cases effect with
  | startLane target level entry script onStop => exact changed target level _
  | recordMain target level entry => exact changed target level _
  | notify notice => simp only [perform, Machine.world_notify]
  | _ =>
      refine congrArg (fun roster : Roster => (roster.lane? id priority).isSome)
        (roster_perform setting machine ?_)
      rfl

theorem Effect.isSome_lane?_performAll {σ : Type} (setting : Setting σ) (machine : Machine σ)
    (effects : List Effect) (id : EntityId) (priority : Nat) :
    ((performAll setting machine effects).1.world.lane? id priority).isSome =
      (machine.world.lane? id priority).isSome := by
  induction effects generalizing machine with
  | nil => rfl
  | cons effect rest ih =>
      have first := isSome_lane?_perform setting machine effect id priority
      unfold performAll
      split
      · next next performed =>
          rw [performed] at first
          rw [ih next, first]
      · next next error performed => simpa only [performed] using first

/-! ## Who is present -/

/-- What goes on within a field takes no entity out, and brings none in. -/
theorem Roster.Step.entries? {source : Section} {event : Event} {before after : Roster}
    (step : before.Step source event after) (inner : event.isInner) :
    after.entries? = before.entries? := by
  have completed (roster : Roster) (onStop : Option ResumeToken) :
      (roster.complete onStop).entries? = roster.entries? := by
    cases onStop <;> rfl
  cases step with
  | keep => rfl
  | @turn id priority lane jumps after here active turn =>
      cases turn with
      | carry carries => rfl
      | call admits goesOn => rfl
      | await admits passes => rfl
      | stop => exact completed _ lane.onStop?
      | handOver begins =>
          have ended := completed (before.put id priority lane.finish) lane.onStop?
          cases begins with
          | refused => exact ended
          | started admits => exact ended
      | abort stands mainEntry => rfl
  | work => rfl
  | resume => rfl
  | invoke begins => cases inner
  | remove all => cases inner

theorem World.isSome_entity? (world : World) (id : EntityId) :
    (world.entity? id).isSome = (world.roster.entries? id).isSome := by
  rw [roster, Option.isSome_map]

theorem World.mem_present {world : World} {id : EntityId} :
    id ∈ world.present ↔ (world.entity? id).isSome := by
  rw [present, List.mem_filter, List.mem_range, and_iff_right_iff_imp]
  intro known
  apply Nat.lt_of_not_ge
  intro outside
  simp [entity?, Array.getElem?_eq_none outside] at known

theorem World.pairwise_present (world : World) : world.present.Pairwise (· < ·) :=
  List.pairwise_lt_range.filter _

theorem World.present_congr {first second : World}
    (same : ∀ id, (second.entity? id).isSome = (first.entity? id).isSome) :
    second.present = first.present := by
  refine second.pairwise_present.eq_of_mem_iff first.pairwise_present fun id => ?_
  rw [mem_present, mem_present, same]

theorem Machine.InnerRun.isSome_entity? {σ : Type} {setting : Setting σ}
    {first second : Machine σ} (inner : InnerRun setting first second) (id : EntityId) :
    (second.world.entity? id).isSome = (first.world.entity? id).isSome := by
  obtain ⟨events, fit, runs⟩ := inner
  rw [World.isSome_entity?, World.isSome_entity?]
  induction runs with
  | nil => rfl
  | cons occurs rest ih =>
      rw [List.forall_mem_cons] at fit
      rw [ih fit.2, occurs.step.entries? fit.1]

namespace Machine

variable {σ : Type} {setting : Setting σ} {machine : Machine σ} {id : EntityId} {priority : Nat}
  {lane : Lane}

/-! ## One instruction -/

theorem laneActive_updateLane (here : machine.world.lane? id priority = some lane)
    (change : Lane → Lane) :
    (machine.updateLane id priority change).world.laneActive id priority =
      (change lane).isActive := by
  simp [World.laneActive, updateLane, updateWorld, World.lane?_updateLane, here]

theorem lane?_of_roster {first second : Machine σ}
    (same : second.world.roster = first.world.roster)
    (here : first.world.lane? id priority = some lane) :
    second.world.lane? id priority = some lane := by
  rw [← World.lane?_roster, same, World.lane?_roster, here]

/-- A lane that was given up is not active. -/
theorem laneActive_giveUp (setting : Setting σ) (here : machine.world.lane? id priority = some lane)
    (ip : Nat) (error : ExecError) :
    (machine.giveUp setting id priority ip error).world.laneActive id priority = false := by
  simp only [giveUp, world_notify, world_note]
  exact laneActive_updateLane here (·.abort ip)

/-- A completion wakes no lane that has ended. -/
theorem laneActive_finish (here : machine.world.lane? id priority = some lane)
    (onStop : Option ResumeToken) :
    ((machine.updateLane id priority Lane.finish).complete onStop).world.laneActive id priority =
      false := by
  have ended : (machine.updateLane id priority Lane.finish).world.lane? id priority =
      some lane.finish := by
    simp [updateLane, updateWorld, World.lane?_updateLane, here]
  cases onStop with
  | none => rw [complete, World.laneActive, ended]; rfl
  | some token =>
      have woken := roster_complete (machine.updateLane id priority Lane.finish) (some token)
      rw [World.laneActive, ← World.lane?_roster, woken, Roster.complete, Roster.lane?_wake,
        World.lane?_roster, ended, Option.map_some, Lane.hear_of_not_paused rfl]
      rfl

theorem makeRequest_turnover (here : machine.world.lane? id priority = some lane)
    (ip next : Nat) (asking : Lane) (request : Request) (reason : PauseReason) :
    (machine.makeRequest setting id priority ip next asking request
      reason).1.world.laneActive id priority =
    (machine.makeRequest setting id priority ip next asking request reason).2.keepsActive := by
  have asked := world_request setting machine request (asking.token id priority)
  unfold Lane.token at asked
  unfold makeRequest
  dsimp only
  split
  · next answered made =>
      rw [made] at asked
      have opened : (answered.setAwaitedWindow reason true).world.roster =
          machine.world.roster := by
        rw [roster_setAwaitedWindow]
        exact congrArg World.roster asked
      exact laneActive_updateLane (lane?_of_roster opened here) (·.pause next reason)
  · next value answered made =>
      rw [made] at asked
      have settled : ((answered.setAwaitedWindow reason false).settle setting reason
          value).1.world.roster = machine.world.roster := by
        rw [world_settle, roster_setAwaitedWindow]
        exact congrArg World.roster asked
      split
      · next done taken =>
          rw [taken] at settled
          exact laneActive_updateLane (lane?_of_roster settled here) (·.advance next)
      · next done error taken =>
          rw [taken] at settled
          exact laneActive_giveUp setting (lane?_of_roster settled here) ip error

theorem conclude_turnover (here : machine.world.lane? id priority = some lane)
    (ip next : Nat) (running : Lane) (ending : Ending) :
    (machine.conclude setting id priority ip next running ending).1.world.laneActive id priority =
      (machine.conclude setting id priority ip next running ending).2.keepsActive := by
  cases ending with
  | advance => exact laneActive_updateLane here (·.advance next)
  | yield => exact laneActive_updateLane here (·.advance next)
  | suspend continuation =>
      exact laneActive_updateLane here (·.rewind ip (some { next, continuation }))
  | pause reason => exact laneActive_updateLane here (·.pause next reason)
  | stop => exact laneActive_finish here running.onStop?
  | handOver level script =>
      simp only [conclude, passOn]
      split
      · next active => exact active
      · next inactive => exact Bool.eq_false_iff.mpr inactive
  | request request reason => exact makeRequest_turnover here ip next running request reason
  | fault error => exact laneActive_giveUp setting here ip error

theorem carryOut_turnover (here : machine.world.lane? id priority = some lane)
    (ip next : Nat) (running : Lane) (plan : Plan) :
    (machine.carryOut setting id priority ip next running plan).1.world.laneActive id priority =
      (machine.carryOut setting id priority ip next running plan).2.keepsActive := by
  cases plan with
  | retry entries =>
      have noted : (entries.foldl note machine).world.lane? id priority = some lane := by
        rw [world_noteAll, here]
      exact laneActive_updateLane noted (·.rewind ip none)
  | act effects ending =>
      have kept := Effect.isSome_lane?_performAll setting machine effects id priority
      rw [here] at kept
      obtain ⟨left, there⟩ := Option.isSome_iff_exists.mp kept
      simp only [carryOut]
      split
      · next done taken =>
          rw [taken] at there
          exact conclude_turnover there ip next running ending
      · next done error taken =>
          rw [taken] at there
          exact laneActive_giveUp setting there ip error

/-- An instruction releases the entity exactly if its lane is not active after it. -/
theorem step_turnover (setting : Setting σ) (machine : Machine σ) (id : EntityId)
    (priority : Nat) :
    (machine.step setting id priority).1.world.laneActive id priority =
      (machine.step setting id priority).2.keepsActive := by
  cases here : machine.world.lane? id priority with
  | none =>
      have gone : machine.step setting id priority = (machine, .released) := by simp [step, here]
      simp [gone, World.laneActive, here, Turnover.keepsActive]
  | some lane =>
      by_cases active : lane.isActive
      · obtain ⟨ip, noted, -, journal, same⟩ := step_eq setting here active
        have there : noted.world.lane? id priority = some lane := by
          rcases journal with rfl | ⟨byte, -, rfl⟩ <;> exact here
        rw [same]
        split
        · next error failed => exact laneActive_giveUp setting there ip error
        · next plan next worked => exact carryOut_turnover there ip next lane plan
      · have idle : machine.step setting id priority = (machine, .released) := by
          unfold step
          rw [here]
          dsimp only
          split
          · next status => simp [Lane.isActive, status] at active
          · next status => simp [Lane.isActive, status] at active
          · rfl
        simp [idle, World.laneActive, here, active, Turnover.keepsActive]

/-! ## The turn of a lane -/

/-- The turn of a lane with a budget, with the number of instructions that it carries out: up to
one that does not let the lane go on, or as many as the budget allows. -/
inductive Works (setting : Setting σ) (id : EntityId) (priority : Nat) :
    Nat → Machine σ → Nat → Machine σ → Prop
  | starved (machine : Machine σ) :
      Works setting id priority 0 machine 0 (machine.runLane setting id priority 0).1
  | ended {budget : Nat} {machine after : Machine σ} {turnover : Turnover}
      (active : machine.world.laneActive id priority)
      (step : machine.step setting id priority = (after, turnover)) (stops : turnover ≠ .goOn) :
      Works setting id priority (budget + 1) machine 1 after
  | goOn {budget count : Nat} {machine next after : Machine σ}
      (active : machine.world.laneActive id priority)
      (step : machine.step setting id priority = (next, .goOn))
      (rest : Works setting id priority budget next count after) :
      Works setting id priority (budget + 1) machine (count + 1) after

/-- A turn does not go beyond its budget. -/
theorem Works.count_le {budget count : Nat} {machine after : Machine σ}
    (works : Works setting id priority budget machine count after) : count ≤ budget := by
  induction works with
  | starved machine => exact Nat.le_refl 0
  | ended active step stops => omega
  | goOn active step rest ih => omega

/-- The turn of an active lane, and what it reports about the lane. -/
theorem runLane_works (setting : Setting σ) (active : machine.world.laneActive id priority)
    (budget : Nat) :
    (∃ count, Works setting id priority budget machine count
      (machine.runLane setting id priority budget).1) ∧
    (machine.runLane setting id priority budget).1.world.laneActive id priority =
      (machine.runLane setting id priority budget).2.keepsActive := by
  induction budget generalizing machine with
  | zero => exact ⟨⟨0, .starved machine⟩, active⟩
  | succ budget ih =>
      have reported := step_turnover setting machine id priority
      unfold runLane
      split
      · next next goesOn =>
          rw [goesOn] at reported
          obtain ⟨⟨count, works⟩, kept⟩ := ih reported
          exact ⟨⟨count + 1, .goOn active goesOn works⟩, kept⟩
      · next stops =>
          refine ⟨⟨1, .ended active rfl ?_⟩, reported⟩
          intro goesOn
          exact stops _ (Prod.ext rfl goesOn)

/-! ## The turn of an entity -/

/-- The turn of a lane in a tick. -/
structure LaneTurn (σ : Type) where
  priority : Nat
  before : Machine σ
  /-- How many instructions the lane carries out. -/
  count : Nat
  after : Machine σ

/-- The turn of the highest active lane of an entity below a priority. -/
structure LaneTurn.IsNext (setting : Setting σ) (id : EntityId) (bound : Nat)
    (turn : LaneTurn σ) : Prop where
  below : turn.priority < bound
  active : turn.before.world.laneActive id turn.priority
  highest : ∀ level, turn.priority < level → level < bound →
    turn.before.world.laneActive id level = false
  works : Works setting id turn.priority setting.config.opsPerTick turn.before turn.count turn.after

/-- The turns of the lanes of an entity below a priority, one after the other. -/
inductive Scan (setting : Setting σ) (id : EntityId) :
    Nat → Machine σ → List (LaneTurn σ) → Machine σ → Prop
  /-- No lane is left that could run. -/
  | idle {bound : Nat} {machine : Machine σ}
      (none : ∀ level < bound, machine.world.laneActive id level = false) :
      Scan setting id bound machine [] machine
  /-- The last turn leaves its lane active. -/
  | held {bound : Nat} {turn : LaneTurn σ} (next : turn.IsNext setting id bound)
      (active : turn.after.world.laneActive id turn.priority) :
      Scan setting id bound turn.before [turn] turn.after
  | released {bound : Nat} {turn : LaneTurn σ} {rest : List (LaneTurn σ)} {last : Machine σ}
      (next : turn.IsNext setting id bound)
      (gone : turn.after.world.laneActive id turn.priority = false)
      (scan : Scan setting id turn.priority turn.after rest last) :
      Scan setting id bound turn.before (turn :: rest) last

/-- An inactive lane is passed over. -/
theorem Scan.skip {bound : Nat} {last : Machine σ} {turns : List (LaneTurn σ)}
    (scan : Scan setting id bound machine turns last)
    (inactive : machine.world.laneActive id bound = false) :
    Scan setting id (bound + 1) machine turns last := by
  have widened {turn : LaneTurn σ} (next : turn.IsNext setting id bound)
      (inactive : turn.before.world.laneActive id bound = false) :
      turn.IsNext setting id (bound + 1) := by
    refine ⟨Nat.lt_succ_of_lt next.below, next.active, ?_, next.works⟩
    intro level above below
    rcases Nat.lt_succ_iff_lt_or_eq.mp below with under | rfl
    · exact next.highest level above under
    · exact inactive
  cases scan with
  | idle none =>
      refine .idle fun level below => ?_
      rcases Nat.lt_succ_iff_lt_or_eq.mp below with under | rfl
      · exact none level under
      · exact inactive
  | held next active => exact .held (widened next inactive) active
  | released next gone rest => exact .released (widened next inactive) gone rest

/-- The lanes below a priority have their turns from the highest active one down. -/
theorem runLanes_scan (setting : Setting σ) (machine : Machine σ) (id : EntityId) (bound : Nat) :
    ∃ turns, Scan setting id bound machine turns
      (machine.runLanes setting id (List.range bound).reverse) := by
  induction bound generalizing machine with
  | zero => exact ⟨[], .idle (by simp)⟩
  | succ bound ih =>
      rw [List.range_succ, List.reverse_append, List.reverse_singleton, List.singleton_append]
      unfold runLanes
      split
      · next active =>
          obtain ⟨⟨count, works⟩, reported⟩ := runLane_works setting active setting.config.opsPerTick
          let turn : LaneTurn σ :=
            { priority := bound, before := machine, count
              after := (machine.runLane setting id bound setting.config.opsPerTick).1 }
          have next : turn.IsNext setting id (bound + 1) :=
            ⟨Nat.lt_succ_self bound, active,
              fun level above below => absurd (Nat.lt_succ_iff.mp below) (Nat.not_le.mpr above),
              works⟩
          split
          · next after ended =>
              have left : turn.after = after := congrArg Prod.fst ended
              rw [ended] at reported
              obtain ⟨rest, scan⟩ := ih after
              exact ⟨turn :: rest, .released next (left ▸ reported) (left ▸ scan)⟩
          · next after turnover kept ended =>
              have left : turn.after = after := congrArg Prod.fst ended
              have active : after.world.laneActive id bound := by
                rw [ended] at reported
                cases turnover with
                | released => exact absurd rfl kept
                | _ => exact reported
              exact ⟨[turn], left ▸ .held next (left ▸ active)⟩
      · next inactive =>
          obtain ⟨turns, scan⟩ := ih machine
          exact ⟨turns, scan.skip (Bool.eq_false_iff.mpr inactive)⟩

/-- Items that lead from one machine to another, each from where the one before it has led. -/
inductive Linked {α : Type} (before after : α → Machine σ) :
    Machine σ → List α → Machine σ → Prop
  | nil (machine : Machine σ) : Linked before after machine [] machine
  | cons {item : α} {rest : List α} {last : Machine σ}
      (linked : Linked before after (after item) rest last) :
      Linked before after (before item) (item :: rest) last

/-- The turn of an entity in a tick, with the turns of its lanes. -/
structure EntityTurn (σ : Type) where
  id : EntityId
  before : Machine σ
  lanes : List (LaneTurn σ)
  after : Machine σ

/-- The order in which the lanes of an entity have their turns. -/
structure EntityTurn.Orderly (setting : Setting σ) (turn : EntityTurn σ) : Prop where
  linked : Linked LaneTurn.before LaneTurn.after turn.before turn.lanes turn.after
  works : ∀ lane ∈ turn.lanes, Works setting turn.id lane.priority setting.config.opsPerTick
    lane.before lane.count lane.after
  within : ∀ lane ∈ turn.lanes, lane.count ≤ setting.config.opsPerTick
  descends : turn.lanes.Pairwise fun earlier later => later.priority < earlier.priority
  /-- Each lane is the highest one that is active then, below those that have had their turn. -/
  highest : ∀ earlier lane later, turn.lanes = earlier ++ lane :: later →
    lane.before.world.laneActive turn.id lane.priority ∧
    ∀ level, lane.priority < level → (∀ above ∈ earlier, level < above.priority) →
      lane.before.world.laneActive turn.id level = false
  /-- A lane has its turn only if those above have all ended theirs inactive. -/
  released : turn.lanes.Pairwise fun earlier _ =>
    earlier.after.world.laneActive turn.id earlier.priority = false
  /-- The entity has had its turn when the last lane stays active, or no lane is left. -/
  finished : (∃ lane, turn.lanes.getLast? = some lane ∧
      lane.after.world.laneActive turn.id lane.priority) ∨
    ∀ level, (∀ lane ∈ turn.lanes, level < lane.priority) →
      turn.after.world.laneActive turn.id level = false

namespace Scan

variable {bound : Nat} {last : Machine σ} {turns : List (LaneTurn σ)}

theorem linked (scan : Scan setting id bound machine turns last) :
    Linked LaneTurn.before LaneTurn.after machine turns last := by
  induction scan with
  | idle none => exact .nil _
  | held next active => exact .cons (.nil _)
  | released next gone scan ih => exact .cons ih

theorem forall_below (scan : Scan setting id bound machine turns last) :
    ∀ turn ∈ turns, turn.priority < bound := by
  induction scan with
  | idle none => simp
  | held next active => simpa using next.below
  | released next gone scan ih =>
      rw [List.forall_mem_cons]
      exact ⟨next.below, fun turn among => Nat.lt_trans (ih turn among) next.below⟩

theorem works (scan : Scan setting id bound machine turns last) :
    ∀ turn ∈ turns, Works setting id turn.priority setting.config.opsPerTick turn.before
      turn.count turn.after := by
  induction scan with
  | idle none => simp
  | held next active => simpa using next.works
  | released next gone scan ih =>
      rw [List.forall_mem_cons]
      exact ⟨next.works, ih⟩

theorem descends (scan : Scan setting id bound machine turns last) :
    turns.Pairwise fun earlier later => later.priority < earlier.priority := by
  induction scan with
  | idle none => exact .nil
  | held next active => simp
  | released next gone scan ih => exact .cons scan.forall_below ih

theorem highest (scan : Scan setting id bound machine turns last) (earlier : List (LaneTurn σ))
    (turn : LaneTurn σ) (later : List (LaneTurn σ)) (placed : turns = earlier ++ turn :: later) :
    turn.before.world.laneActive id turn.priority ∧
    ∀ level, turn.priority < level → level < bound → (∀ above ∈ earlier, level < above.priority) →
      turn.before.world.laneActive id level = false := by
  induction scan generalizing earlier with
  | idle none => simp at placed
  | held next active =>
      cases earlier with
      | nil =>
          cases placed
          exact ⟨next.active, fun level above below _ => next.highest level above below⟩
      | cons first rest => simp at placed
  | released next gone scan ih =>
      cases earlier with
      | nil =>
          cases placed
          exact ⟨next.active, fun level above below _ => next.highest level above below⟩
      | cons first rest =>
          obtain ⟨rfl, onward⟩ := List.cons_eq_cons.mp placed
          obtain ⟨active, highest⟩ := ih rest onward
          refine ⟨active, fun level above _ below => ?_⟩
          rw [List.forall_mem_cons] at below
          exact highest level above below.1 below.2

theorem released_all (scan : Scan setting id bound machine turns last) :
    turns.Pairwise fun earlier _ =>
      earlier.after.world.laneActive id earlier.priority = false := by
  induction scan with
  | idle none => exact .nil
  | held next active => simp
  | released next gone scan ih => exact .cons (fun _ _ => gone) ih

theorem finished (scan : Scan setting id bound machine turns last) :
    (∃ turn, turns.getLast? = some turn ∧ turn.after.world.laneActive id turn.priority) ∨
    ∀ level < bound, (∀ turn ∈ turns, level < turn.priority) →
      last.world.laneActive id level = false := by
  induction scan with
  | idle none => exact .inr fun level below _ => none level below
  | @held bound turn next active => exact .inl ⟨turn, rfl, active⟩
  | @released bound turn rest last next gone scan ih =>
      rcases ih with ⟨final, atEnd, active⟩ | none
      · exact .inl ⟨final, by rw [List.getLast?_cons, atEnd, Option.getD_some], active⟩
      · refine .inr fun level _ below => ?_
        rw [List.forall_mem_cons] at below
        exact none level below.1 below.2

end Scan

/-- There are no lanes above the highest priority. -/
theorem laneActive_of_le (machine : Machine σ) (id : EntityId) {level : Nat}
    (above : laneCount ≤ level) : machine.world.laneActive id level = false := by
  unfold World.laneActive World.lane?
  cases machine.world.entity? id with
  | none => rfl
  | some entity =>
      have outside : entity.lanes[level]? = none := Vector.getElem?_eq_none above
      rw [Option.bind_some, outside]
      rfl

/-- A scan of all lanes is an orderly turn of the entity. -/
theorem Scan.orderly {last : Machine σ} {turns : List (LaneTurn σ)}
    (scan : Scan setting id laneCount machine turns last) :
    EntityTurn.Orderly setting { id, before := machine, lanes := turns, after := last } where
  linked := scan.linked
  works := scan.works
  within := fun turn among => (scan.works turn among).count_le
  descends := scan.descends
  highest := by
    intro earlier turn later placed
    obtain ⟨active, highest⟩ := scan.highest earlier turn later placed
    refine ⟨active, fun level above below => ?_⟩
    rcases Nat.lt_or_ge level laneCount with inside | outside
    · exact highest level above inside below
    · exact laneActive_of_le _ id outside
  released := scan.released_all
  finished := by
    refine scan.finished.imp_right fun none level below => ?_
    rcases Nat.lt_or_ge level laneCount with inside | outside
    · exact none level inside below
    · exact laneActive_of_le _ id outside

/-- An entity that is present has an orderly turn. -/
theorem runEntity_orderly (setting : Setting σ) (machine : Machine σ) {id : EntityId}
    (known : (machine.world.entity? id).isSome) :
    ∃ turn : EntityTurn σ, turn.id = id ∧ turn.before = machine ∧
      turn.after = machine.runEntity setting id ∧ turn.Orderly setting := by
  obtain ⟨entity, found⟩ := Option.isSome_iff_exists.mp known
  obtain ⟨turns, scan⟩ := runLanes_scan setting machine id laneCount
  refine ⟨_, rfl, rfl, ?_, scan.orderly⟩
  simp only [runEntity, found, turnOrder]

/-! ## The turns of a tick -/

/-- Every entity that is present has its turn, one after the other. -/
theorem foldl_runEntity_turns (setting : Setting σ) (ids : List EntityId) (machine : Machine σ) :
    ∃ turns : List (EntityTurn σ),
      turns.map EntityTurn.id = ids.filter (fun id => (machine.world.entity? id).isSome) ∧
      Linked EntityTurn.before EntityTurn.after machine turns
        (ids.foldl (fun machine id => machine.runEntity setting id) machine) ∧
      ∀ turn ∈ turns, turn.Orderly setting := by
  induction ids generalizing machine with
  | nil => exact ⟨[], rfl, .nil machine, by simp⟩
  | cons id rest ih =>
      have present (other : EntityId) :=
        (runEntity_inner setting machine id).isSome_entity? other
      obtain ⟨turns, named, linked, orderly⟩ := ih (machine.runEntity setting id)
      simp only [present] at named
      cases known : machine.world.entity? id with
      | none =>
          have passed : machine.runEntity setting id = machine := by simp only [runEntity, known]
          rw [passed] at linked
          refine ⟨turns, ?_, ?_, orderly⟩
          · rw [named, List.filter_cons, known, Option.isSome_none, if_neg Bool.false_ne_true]
          · rw [List.foldl_cons, passed]
            exact linked
      | some entity =>
          obtain ⟨turn, rfl, rfl, left, own⟩ :=
            runEntity_orderly setting machine (Option.isSome_of_eq_some known)
          refine ⟨turn :: turns, ?_, ?_, ?_⟩
          · rw [List.map_cons, named, List.filter_cons, known, Option.isSome_some, if_pos rfl]
          · rw [← left] at linked
            rw [List.foldl_cons, ← left]
            exact .cons linked
          · rw [List.forall_mem_cons]
            exact ⟨own, orderly⟩

/-- Lanes have their turns by priority.

In every tick, each entity that is present has one turn, in the order of registration.  Its lanes
have theirs one after the other: each is the highest lane that is active at that moment below those
that have had their turn, a lane has its turn only if those above it were not active any more when
theirs were over, and none carries out more instructions than its budget.  The turn of the entity is
over when its last lane stays active, or no lower one is. -/
theorem lanes_take_turns (setting : Setting σ) (machine : Machine σ) (elapsed : UInt64) :
    machine.world.present.Pairwise (· < ·) ∧
    (∀ id, id ∈ machine.world.present ↔ (machine.world.entity? id).isSome) ∧
    ∃ (turns : List (EntityTurn σ)) (last : Machine σ),
      turns.map EntityTurn.id = machine.world.present ∧
      Linked EntityTurn.before EntityTurn.after
        ((machine.beginTick setting elapsed).applyPending setting) turns last ∧
      (∀ turn ∈ turns, turn.Orderly setting) ∧
      machine.tick setting elapsed = (last.advanceActors setting).finishTick setting := by
  refine ⟨machine.world.pairwise_present, fun id => World.mem_present, ?_⟩
  let begun := (machine.beginTick setting elapsed).applyPending setting
  have begins : InnerRun setting machine begun :=
    (beginTick_inner setting machine elapsed).trans (applyPending_inner setting _)
  obtain ⟨turns, named, linked, orderly⟩ :=
    foldl_runEntity_turns setting (List.range begun.world.entities.size) begun
  have present : begun.world.present = machine.world.present :=
    World.present_congr begins.isSome_entity?
  exact ⟨turns, begun.runEntities setting, named.trans present, linked, orderly, rfl⟩

end Machine

end FieldMachine
