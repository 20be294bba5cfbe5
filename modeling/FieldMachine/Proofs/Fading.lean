import FieldMachine.Proofs.Failure
import FieldMachine.Proofs.Observer
import FieldMachine.Proofs.Polling
import FieldMachine.Proofs.Shade
import Mathlib.Algebra.Order.Floor.Div

/-!
# How long a fade takes

In every run the amount of a fade comes nearer to its target by the step of its
activity, or gets there.  So all that becomes of a fade that nothing else writes is
told by the number of runs (`Fading.course`), and so is the run in which the activity
ends (`Fading.frames`).

A later change of the fade gives it another serial, and then the activity has nothing
left to do.  It takes `2 ^ 32` of them until the serial is the old one again.
-/

namespace FieldMachine

set_option autoImplicit false

/-! ## The course of a fade -/

namespace Fading

variable (fading : Fading) (fade : Fade)

/-- How far the amount goes in a run, unless the target is nearer. -/
def pace : Nat := max fading.step.toNat 1

/-- How far the amount is from the target. -/
def distance : Nat :=
  (fading.target.toNat - fade.amount.toNat) + (fade.amount.toNat - fading.target.toNat)

/-- In which run the activity ends. -/
def frames : Nat := max 1 (fading.distance fade ⌈/⌉ fading.pace)

/-- The amount after some runs. -/
def amountAfter (runs : Nat) : Nat :=
  let start := fade.amount.toNat
  let target := fading.target.toNat
  if start < target then start + min (runs * fading.pace) (target - start)
  else start - min (runs * fading.pace) (start - target)

/-- A fade after some runs of the activity that carries it on. -/
def course (runs : Nat) : Fade :=
  { fade with amount := (fading.amountAfter fade runs).toUInt16, active := runs < fading.frames fade }

theorem pace_pos : 0 < fading.pace := Nat.lt_of_lt_of_le Nat.one_pos (Nat.le_max_right _ _)

theorem toNat_max_step : (max fading.step 1).toNat = fading.pace := by
  show (if fading.step ≤ 1 then 1 else fading.step).toNat = max fading.step.toNat 1
  simp only [UInt16.le_iff_toNat_le]
  split
  · next less => exact (Nat.max_eq_right less).symm
  · next more => exact (Nat.max_eq_left (Nat.le_of_not_le more)).symm

/-- The amount stays between where it begins and the target. -/
theorem amountAfter_between (runs : Nat) :
    min fade.amount.toNat fading.target.toNat ≤ fading.amountAfter fade runs ∧
      fading.amountAfter fade runs ≤ max fade.amount.toNat fading.target.toNat := by
  unfold amountAfter
  dsimp only
  split <;> omega

/-- The target is reached when the runs cover the distance. -/
theorem amountAfter_eq_target_iff (runs : Nat) :
    fading.amountAfter fade runs = fading.target.toNat ↔
      fading.distance fade ≤ runs * fading.pace := by
  unfold amountAfter distance
  dsimp only
  split <;> omega

/-- From the first run on, the activity goes on just as long as the target is not reached. -/
theorem lt_frames_iff {runs : Nat} (some : 0 < runs) :
    runs < fading.frames fade ↔ fading.amountAfter fade runs ≠ fading.target.toNat := by
  rw [Ne, amountAfter_eq_target_iff, Nat.mul_comm, ← ceilDiv_le_iff_le_mul fading.pace_pos, frames]
  omega

/-- A step of the amount towards a target, as numbers. -/
theorem toNat_fadeToward {amount target step : UInt16} (low : amount.toNat ≤ 256)
    (inside : target.toNat ≤ 256) :
    (fadeToward amount target step).toNat =
      if amount.toNat < target.toNat then min (amount.toNat + step.toNat) target.toNat
      else max (amount.toNat - step.toNat) target.toNat := by
  unfold fadeToward
  simp only [UInt16.lt_iff_toNat_lt]
  split
  · exact UInt16.toNat_ofNat_of_lt' (by show _ < 65536; omega)
  · exact UInt16.toNat_ofNat_of_lt' (by show _ < 65536; omega)

/-- Before the first run nothing has happened. -/
theorem course_zero (active : fade.active) : fading.course fade 0 = fade := by
  have start : fading.amountAfter fade 0 = fade.amount.toNat := by simp [amountAfter]
  have begun : 0 < fading.frames fade := Nat.lt_of_lt_of_le Nat.one_pos (Nat.le_max_left _ _)
  unfold course
  rw [start, decide_eq_true begun]
  obtain ⟨red, green, blue, amount, subtractive, active, serial⟩ := fade
  cases active
  simp

section Bounded

variable {fading fade} (inside : fading.target ≤ fadeFull) (low : fade.amount ≤ fadeFull)
include inside low

theorem toNat_course (runs : Nat) :
    (fading.course fade runs).amount.toNat = fading.amountAfter fade runs := by
  have below : fade.amount.toNat ≤ 256 := UInt16.le_iff_toNat_le.mp low
  have goal : fading.target.toNat ≤ 256 := UInt16.le_iff_toNat_le.mp inside
  have between := fading.amountAfter_between fade runs
  exact UInt16.toNat_ofNat_of_lt' (by show _ < 65536; omega)

/-- A run of the activity takes the fade one step further on its course. -/
theorem advance_course (own : fade.serial = fading.serial) (runs : Nat) :
    fading.advance (fading.course fade runs) = fading.course fade (runs + 1) := by
  have below : fade.amount.toNat ≤ 256 := UInt16.le_iff_toNat_le.mp low
  have goal : fading.target.toNat ≤ 256 := UInt16.le_iff_toNat_le.mp inside
  have target : min fading.target fadeFull = fading.target := if_pos inside
  have between := fading.amountAfter_between fade runs
  have amount := toNat_course inside low runs
  by_cases active : runs < fading.frames fade
  · have carries : fading.Carries (fading.course fade runs) := ⟨own, decide_eq_true active⟩
    have next : (fadeToward (fading.course fade runs).amount fading.target
        (max fading.step 1)).toNat = fading.amountAfter fade (runs + 1) := by
      rw [toNat_fadeToward (by omega) goal, amount, toNat_max_step]
      unfold amountAfter
      rw [Nat.succ_mul]
      dsimp only
      split <;> split <;> omega
    have reached : fadeToward (fading.course fade runs).amount fading.target (max fading.step 1) =
        (fading.amountAfter fade (runs + 1)).toUInt16 := by
      rw [← next]
      exact UInt16.ofNat_toNat.symm
    have lasts : fadeToward (fading.course fade runs).amount fading.target (max fading.step 1) ≠
        fading.target ↔ runs + 1 < fading.frames fade := by
      rw [fading.lt_frames_iff fade (Nat.succ_pos runs), ← next, Ne, ← UInt16.toNat_inj]
    unfold advance
    rw [if_pos carries, target]
    dsimp only
    rw [decide_eq_decide.mpr lasts, reached]
    rfl
  · have idle : ¬fading.Carries (fading.course fade runs) := fun carries =>
      active (of_decide_eq_true carries.2)
    have begun : 0 < fading.frames fade := Nat.lt_of_lt_of_le Nat.one_pos (Nat.le_max_left _ _)
    have arrived : fading.amountAfter fade runs = fading.target.toNat := by
      have passed := mt (fading.lt_frames_iff fade (by omega)).mpr active
      exact not_not.mp passed
    have stays : fading.amountAfter fade (runs + 1) = fading.target.toNat := by
      have passed := mt (fading.lt_frames_iff fade (Nat.succ_pos runs)).mpr (by omega)
      exact not_not.mp passed
    have later : ¬runs + 1 < fading.frames fade := by omega
    rw [advance, if_neg idle]
    unfold course
    rw [arrived, stays, decide_eq_false active, decide_eq_false later]

/-- What is left of the activity after its next run. -/
theorem rest_course (own : fade.serial = fading.serial) (runs : Nat) :
    fading.rest (fading.course fade runs) =
      if runs + 1 < fading.frames fade then some fading else none := by
  unfold rest
  rw [advance_course inside low own]
  refine if_congr ?_ rfl rfl
  constructor
  · exact fun lasts => of_decide_eq_true lasts.2
  · intro lasts
    exact ⟨⟨own, decide_eq_true (Nat.lt_of_succ_lt lasts)⟩, decide_eq_true lasts⟩

end Bounded

/-! ## Fades of another serial -/

variable {fading fade}

/-- A fade of another serial is left alone. -/
theorem advance_of_superseded (other : fade.serial ≠ fading.serial) :
    fading.advance fade = fade := if_neg fun carries => other carries.1

theorem rest_of_superseded (other : fade.serial ≠ fading.serial) : fading.rest fade = none :=
  if_neg fun lasts => other lasts.1.1

/-- On a fade of another serial, the activity ends at once and does nothing. -/
theorem run_of_superseded {frame : Nat} {world : World}
    (other : world.stage.fade.serial ≠ fading.serial) :
    fading.run frame world = (world, none, none) := if_pos (by simp [other])

theorem serial_advance : (fading.advance fade).serial = fade.serial := by
  unfold advance
  split <;> rfl

/-- Among activities of other serials nothing happens. -/
theorem runAll_of_superseded {others : List Fading}
    (superseded : others.filter (·.serial = fade.serial) = []) :
    runAll others fade = (fade, []) := by
  induction others with
  | nil => rfl
  | cons first rest ih =>
      rw [List.filter_cons] at superseded
      split at superseded
      · cases superseded
      · next other =>
          have other : fade.serial ≠ first.serial := fun same => other (decide_eq_true same.symm)
          rw [runAll, advance_of_superseded other, rest_of_superseded other, ih superseded]
          rfl

/-- Among activities of other serials, only the one takes a step that bears the serial of the fade. -/
theorem runAll_of_single {others : List Fading}
    (single : others.filter (·.serial = fade.serial) = [fading]) :
    runAll others fade = (fading.advance fade, (fading.rest fade).toList) := by
  induction others with
  | nil => cases single
  | cons first rest ih =>
      rw [List.filter_cons] at single
      split at single
      · next own =>
          obtain ⟨rfl, none⟩ := List.cons.inj single
          have idle : rest.filter (·.serial = (first.advance fade).serial) = [] := by
            rw [serial_advance]
            exact none
          simp [runAll, runAll_of_superseded idle]
      · next other =>
          have other : fade.serial ≠ first.serial := fun same => other (decide_eq_true same.symm)
          rw [runAll, advance_of_superseded other, rest_of_superseded other, ih single]
          rfl

end Fading

/-! ## What happens to a fade -/

/-- What can happen to the fade of the screen: a change, or a run of an activity. -/
inductive FadeEvent
  /-- An instruction changes it. -/
  | instruction (change : FadeChange)
  /-- An activity takes a step. -/
  | run (fading : Fading)
deriving DecidableEq

namespace FadeEvent

/-- The fade after an event. -/
def apply (fade : Fade) : FadeEvent → Fade
  | instruction change => change.apply fade
  | run fading => fading.advance fade

/-- Whether an event is an instruction. -/
def isInstruction : FadeEvent → Bool
  | instruction _ => true
  | run _ => false

/-- Each instruction gives the fade the next serial, and nothing else does. -/
theorem serial_foldl (events : List FadeEvent) (fade : Fade) :
    (events.foldl apply fade).serial = fade.serial + UInt32.ofNat (events.countP isInstruction) := by
  induction events generalizing fade with
  | nil => simp
  | cons event rest ih =>
      rw [List.foldl_cons, ih, List.countP_cons]
      cases event with
      | instruction change =>
          have counted : UInt32.ofNat (rest.countP isInstruction + 1) =
              UInt32.ofNat (rest.countP isInstruction) + 1 := UInt32.ofNat_add _ _
          rw [apply, FadeChange.serial_apply, isInstruction, if_pos rfl, counted, UInt32.add_assoc,
            UInt32.add_comm 1]
      | run fading =>
          rw [apply, Fading.serial_advance]
          rfl

end FadeEvent

/-- Whether nothing but an activity writes the fade that it carries on: there are no changes, and all
other activities bear other serials. -/
def Fading.Alone (fading : Fading) (events : List FadeEvent) : Prop :=
  ∀ event ∈ events, event = .run fading ∨ ∃ other, event = .run other ∧ other.serial ≠ fading.serial

/-- By itself, an activity takes the fade along its course, one step with each of its runs. -/
theorem Fading.Alone.foldl_course {fading : Fading} {fade : Fade} {events : List FadeEvent}
    (alone : fading.Alone events) (inside : fading.target ≤ fadeFull)
    (low : fade.amount ≤ fadeFull) (own : fade.serial = fading.serial) (runs : Nat) :
    events.foldl FadeEvent.apply (fading.course fade runs) =
      fading.course fade (runs + events.count (.run fading)) := by
  induction events generalizing runs with
  | nil => rfl
  | cons event rest ih =>
      obtain ⟨first, others⟩ := List.forall_mem_cons.mp alone
      rcases first with rfl | ⟨other, rfl, apart⟩
      · rw [List.foldl_cons, FadeEvent.apply, advance_course inside low own, ih others,
          List.count_cons_self, Nat.add_right_comm, Nat.add_assoc]
      · have different : FadeEvent.run other ≠ .run fading := fun same =>
          apart (congrArg Fading.serial (FadeEvent.run.inj same))
        have serial : (fading.course fade runs).serial = fade.serial := rfl
        rw [List.foldl_cons, FadeEvent.apply,
          advance_of_superseded (serial.trans_ne (own.trans_ne apart.symm)), ih others,
          List.count_cons_of_ne different]

namespace Machine

variable {σ : Type}

/-- What happens to the fade on the way from one machine to another: lanes carry out instructions,
activities take steps, and whatever else there is leaves the fade alone. -/
inductive FadeHistory (setting : Setting σ) : List FadeEvent → Machine σ → Machine σ → Prop
  | done (machine : Machine σ) : FadeHistory setting [] machine machine
  | turn {events : List FadeEvent} {machine last : Machine σ} (id : EntityId) (priority : Nat)
      (rest : FadeHistory setting events (machine.step setting id priority).1 last) :
      FadeHistory setting
        ((machine.fadeChanges setting id priority).map .instruction ++ events) machine last
  | work {events : List FadeEvent} {machine last : Machine σ} (frame : Nat) (activity : Activity)
      (rest : FadeHistory setting events (activity.run setting frame machine).1 last) :
      FadeHistory setting (activity.fading?.toList.map .run ++ events) machine last
  | aside {events : List FadeEvent} {machine next last : Machine σ}
      (same : next.world.stage.fade = machine.world.stage.fade)
      (rest : FadeHistory setting events next last) : FadeHistory setting events machine last

variable {setting : Setting σ} {machine last : Machine σ} {events : List FadeEvent}

/-- The fade after all that happened to it. -/
theorem FadeHistory.fade_eq (history : FadeHistory setting events machine last) :
    last.world.stage.fade = events.foldl FadeEvent.apply machine.world.stage.fade := by
  induction history with
  | done machine => rfl
  | @turn events machine last id priority rest ih =>
      have stepped := congrArg Shade.fade (shade_step setting machine id priority)
      rw [Shade.fade_foldl_change] at stepped
      rw [List.foldl_append, List.foldl_map, ih]
      exact congrArg (events.foldl FadeEvent.apply) stepped
  | @work events machine last frame activity rest ih =>
      have ran := congrArg Shade.fade (shade_run setting machine frame activity).1
      rw [List.foldl_append, List.foldl_map, ih]
      refine congrArg (events.foldl FadeEvent.apply) (ran.trans ?_)
      cases activity.fading? <;> rfl
  | aside same rest ih => rw [ih, same]

/-- After less than `2 ^ 32` instructions that change the fade, it is not that of an earlier activity
any more. -/
theorem FadeHistory.superseded {fading : Fading}
    (history : FadeHistory setting events machine last)
    (own : machine.world.stage.fade.serial = fading.serial)
    (later : 0 < events.countP FadeEvent.isInstruction)
    (few : events.countP FadeEvent.isInstruction < 2 ^ 32) :
    last.world.stage.fade.serial ≠ fading.serial := by
  rw [history.fade_eq, FadeEvent.serial_foldl, own]
  intro same
  have none : UInt32.ofNat (events.countP FadeEvent.isInstruction) = 0 := by
    simpa using same
  have counted := congrArg UInt32.toNat none
  rw [UInt32.toNat_ofNat_of_lt' few] at counted
  exact Nat.ne_of_gt later counted

namespace FadeHistory

variable {first second last : Machine σ} {events more : List FadeEvent}

theorem append (history : FadeHistory setting events first second)
    (further : FadeHistory setting more second last) :
    FadeHistory setting (events ++ more) first last := by
  induction history with
  | done machine => exact further
  | turn id priority rest ih => exact List.append_assoc .. ▸ .turn id priority (ih further)
  | work frame activity rest ih => exact List.append_assoc .. ▸ .work frame activity (ih further)
  | aside same rest ih => exact .aside same (ih further)

/-- Where the fade is left alone, nothing has happened to it. -/
theorem quiet (same : last.world.stage.fade = first.world.stage.fade) :
    FadeHistory setting [] first last := .aside same (.done last)

end FadeHistory

/-- The instructions of a train happen to the fade, one after the other. -/
theorem Train.fadeHistory {moments : List (Moment σ)} {first last : Machine σ}
    (train : Train setting moments first last) :
    FadeHistory setting ((changesAt setting moments).map .instruction) first last := by
  induction train with
  | done machine => exact .done machine
  | moment moment rest ih =>
      rw [changesAt, List.flatMap_cons, List.map_append]
      exact .turn moment.id moment.priority ih
  | starve machine starved entry rest ih =>
      have same : ({ machine with world := { machine.world with starved } }.note
        entry).world.stage.fade = machine.world.stage.fade := rfl
      exact .aside same ih

section Operations

variable (setting) (machine)

theorem history_runActivities (frame : Nat) (activities : List Activity) :
    FadeHistory setting ((activities.filterMap Activity.fading?).map .run) machine
      (machine.runActivities setting frame activities).1 := by
  induction activities generalizing machine with
  | nil => exact .done machine
  | cons activity rest ih =>
      have worked : FadeHistory setting
          (activity.fading?.toList.map .run ++ (rest.filterMap Activity.fading?).map .run) machine
          (machine.runActivities setting frame (activity :: rest)).1 := .work frame activity (ih _)
      rw [List.filterMap_cons]
      cases told : activity.fading? <;> simpa [told] using worked

/-- In a tick, all that happens to the fade are the instructions of its moments and, after them, one
run of every activity that is running. -/
theorem history_tick (elapsed : UInt64) :
    FadeHistory setting ((changesAt setting (machine.tickMoments setting elapsed)).map .instruction ++
      machine.world.shade.running.map .run) machine (machine.tick setting elapsed) := by
  let resumed := machine.duringResumes setting elapsed machine.world.pending.length
  let turned := (resumed.runEntities setting).advanceActors setting
  have given : resumed.world.stage.fade = machine.world.stage.fade :=
    congrArg Shade.fade (calm_duringResumes World.shade_calm machine elapsed _)
  have running : turned.world.shade.running = machine.world.shade.running := by
    have turns := congrArg Shade.running (train_tick setting machine elapsed).shade_eq
    rw [Shade.running_foldl_change, calm_duringResumes World.shade_calm] at turns
    exact turns
  have worked := history_runActivities setting turned turned.world.frame turned.world.activities
  rw [show turned.world.activities.filterMap Activity.fading? = _ from running] at worked
  have whole : machine.tick setting elapsed = turned.finishTick setting := by
    unfold tick
    rw [applyPending_beginTick]
  have ends : FadeHistory setting [] (turned.runActivities setting turned.world.frame
      turned.world.activities).1 (machine.tick setting elapsed) := .quiet (by rw [whole]; rfl)
  have turns := (train_tick setting machine elapsed).fadeHistory
  have moved : turned.world.stage.fade = (resumed.runEntities setting).world.stage.fade := rfl
  refine .aside given (turns.append (.aside moved ?_))
  simpa using worked.append ends

/-- Every operation of the host is such a history. -/
theorem history_make (move : Move) :
    ∃ events, FadeHistory setting events machine (machine.make setting move) := by
  cases move with
  | start => exact ⟨_, .quiet (congrArg Shade.fade (calm_start World.shade_calm machine))⟩
  | tick elapsed => exact ⟨_, history_tick setting machine elapsed⟩
  | invoke index priority script =>
      exact ⟨_, .quiet (congrArg Shade.fade
        (calm_startScript World.shade_calm machine index priority script none))⟩
  | remove index => exact ⟨_, .quiet (congrArg Shade.fade (machine.shade_remove index))⟩
  | begin elapsed entities lanes =>
      let resumed := machine.duringResumes setting elapsed machine.world.pending.length
      have given : resumed.world.stage.fade = machine.world.stage.fade :=
        congrArg Shade.fade (calm_duringResumes World.shade_calm machine elapsed _)
      have turns := (train_foldl_runEntity setting resumed (List.range entities)).append
        (train_runLanes setting _ entities (turnOrder.take lanes))
      rw [make, duringTick, applyPending_beginTick]
      exact ⟨_, .aside given turns.fadeHistory⟩
  | step id priority => exact ⟨_, .turn id priority (.done _)⟩
  | giveBack token answer => exact ⟨_, .quiet rfl⟩
  | spawn activity => exact ⟨_, .quiet rfl⟩
  | loadPalette id palette => exact ⟨_, .quiet rfl⟩

theorem history_follow (moves : List Move) :
    ∃ events, FadeHistory setting events machine (machine.follow setting moves) := by
  induction moves generalizing machine with
  | nil => exact ⟨_, .done machine⟩
  | cons move rest ih =>
      obtain ⟨events, made⟩ := history_make setting machine move
      obtain ⟨more, followed⟩ := ih (machine.make setting move)
      exact ⟨events ++ more, made.append followed⟩

end Operations

/-- An activity that nothing else disturbs takes its fade along its course. -/
theorem FadeHistory.on_course {fading : Fading}
    (history : FadeHistory setting events machine last) (alone : fading.Alone events)
    (own : machine.world.stage.fade.serial = fading.serial)
    (active : machine.world.stage.fade.active) (low : machine.world.stage.fade.amount ≤ fadeFull)
    (inside : fading.target ≤ fadeFull) :
    last.world.stage.fade =
      fading.course machine.world.stage.fade (events.count (.run fading)) := by
  have folded := alone.foldl_course inside low own 0
  rw [fading.course_zero _ active, Nat.zero_add] at folded
  exact history.fade_eq.trans folded

/-! ## Ticks -/

end Machine

/-- Whether in a shade an activity has taken its fade along its course: it is still running if it has
not ended, and no other activity bears its serial. -/
structure Shade.Holds (fading : Fading) (fade : Fade) (runs : Nat) (shade : Shade) : Prop where
  fade_eq : shade.fade = fading.course fade runs
  running : shade.running.filter (·.serial = fading.serial) =
    if runs < fading.frames fade then [fading] else []
  starting : shade.starting.filter (·.serial = fading.serial) = []

/-- In every frame the activity has one run. -/
theorem Shade.Holds.endFrame {fading : Fading} {fade : Fade} {runs : Nat} {shade : Shade}
    (holds : shade.Holds fading fade runs) (inside : fading.target ≤ fadeFull)
    (low : fade.amount ≤ fadeFull) (own : fade.serial = fading.serial) :
    shade.endFrame.Holds fading fade (runs + 1) := by
  have serial : shade.fade.serial = fading.serial := holds.fade_eq ▸ own
  have advanced := fading.advance_course inside low own runs
  have left := fading.rest_course inside low own runs
  rw [← holds.fade_eq] at advanced left
  have running := holds.running
  rw [← serial] at running
  by_cases lasts : runs < fading.frames fade
  · rw [if_pos lasts] at running
    have ran := Fading.runAll_of_single running
    refine ⟨?_, ?_, rfl⟩
    · simp only [Shade.endFrame, ran, advanced]
    · simp only [Shade.endFrame, ran, left, List.filter_append, holds.starting]
      split <;> simp
  · rw [if_neg lasts] at running
    have ran := Fading.runAll_of_superseded running
    have later : ¬runs + 1 < fading.frames fade := by omega
    have idle : fading.advance shade.fade = shade.fade := by
      refine if_neg fun carries => lasts ?_
      have active := carries.2
      rw [holds.fade_eq] at active
      exact of_decide_eq_true active
    refine ⟨?_, ?_, rfl⟩
    · simp only [Shade.endFrame, ran, ← advanced, idle]
    · simp only [Shade.endFrame, ran, List.nil_append, holds.starting, if_neg later]

namespace Machine

variable {σ : Type} {setting : Setting σ} {machine : Machine σ}

variable (setting) in
/-- Whether in a whole operation of the host nothing changes the fade of an activity: no instruction
does, and no other activity of its serial is spawned. -/
def LeavesFade (fading : Fading) (machine : Machine σ) : Move → Prop
  | .tick elapsed => changesAt setting (machine.tickMoments setting elapsed) = []
  | .spawn activity => ∀ other, activity.fading? = some other → other.serial ≠ fading.serial
  | .begin .. | .step .. => False
  | _ => True

/-- The ticks take a fade along its course, and other operations of the host leave it where it is. -/
theorem holds_make {fading : Fading} {fade : Fade} {runs : Nat} {move : Move}
    (holds : machine.world.shade.Holds fading fade runs) (inside : fading.target ≤ fadeFull)
    (low : fade.amount ≤ fadeFull) (own : fade.serial = fading.serial)
    (leaves : machine.LeavesFade setting fading move) :
    (machine.make setting move).world.shade.Holds fading fade
      (runs + if move.isTick then 1 else 0) := by
  cases move with
  | start => exact (calm_start World.shade_calm machine).symm ▸ holds
  | tick elapsed =>
      have ticked := shade_tick setting machine elapsed
      rw [show changesAt setting (machine.tickMoments setting elapsed) = [] from leaves] at ticked
      exact ticked ▸ holds.endFrame inside low own
  | invoke index priority script =>
      exact (calm_startScript World.shade_calm machine index priority script none).symm ▸ holds
  | giveBack token answer => exact holds
  | remove index => exact (machine.shade_remove index).symm ▸ holds
  | spawn activity =>
      have spawned := machine.world.shade_spawn activity
      refine spawned.symm ▸ ⟨holds.fade_eq, holds.running, ?_⟩
      have leaves : ∀ other, activity.fading? = some other → other.serial ≠ fading.serial := leaves
      rw [List.filter_append, holds.starting]
      cases told : activity.fading? with
      | none => rfl
      | some other => simpa using leaves other told
  | loadPalette id palette => exact holds
  | begin elapsed entities lanes => exact leaves.elim
  | step id priority => exact leaves.elim

theorem holds_follow {fading : Fading} {fade : Fade} {runs : Nat} {moves : List Move}
    (holds : machine.world.shade.Holds fading fade runs) (inside : fading.target ≤ fadeFull)
    (low : fade.amount ≤ fadeFull) (own : fade.serial = fading.serial)
    (leave : machine.Throughout setting (LeavesFade setting fading) moves) :
    (machine.follow setting moves).world.shade.Holds fading fade
      (runs + moves.countP Move.isTick) := by
  induction moves generalizing machine runs with
  | nil => exact holds
  | cons move rest ih =>
      have made := ih (holds_make holds inside low own leave.1) leave.2
      rw [List.countP_cons, Nat.add_comm (rest.countP Move.isTick), ← Nat.add_assoc]
      exact made

/-- Whether an activity still runs, if its fade has been taken along its course. -/
theorem mem_activities_iff {fading : Fading} {fade : Fade} {runs : Nat}
    (holds : machine.world.shade.Holds fading fade runs) :
    .fade fading ∈ machine.world.activities ↔ runs < fading.frames fade := by
  have running : .fade fading ∈ machine.world.activities ↔
      fading ∈ machine.world.shade.running.filter (·.serial = fading.serial) := by
    rw [List.mem_filter, World.shade, List.mem_filterMap]
    constructor
    · exact fun among => ⟨⟨_, among, rfl⟩, decide_eq_true rfl⟩
    · rintro ⟨⟨activity, among, told⟩, -⟩
      cases activity with
      | fade other =>
          cases told
          exact among
      | _ => cases told
  rw [running, holds.running]
  split <;> simp [*]

/-- A fade moves to its target in steps of its pace, and gets there in time.

The amount `a` of a fade that nothing but its activity writes, towards a target `T` at a pace of `s`,
has come nearer to `T` by `k * s` after `k` runs of the activity, or is `T`; it stays between `a` and
`T` all the time, and so it never exceeds the full amount.  The colour and the serial stay as they
are.  The fade is active, and the activity goes on, up to the run in which `T` is reached, which is
the first if it is `T` from the beginning.

This holds however the runs come about; but the field gives every activity one run in each tick.  If
no instruction changes the fade, and no other activity bears its serial, the ticks are therefore the
runs, and the activity leaves the queue with the last of them.

When later instructions have changed the fade, less than `2 ^ 32` of them, the activity ends in its next
run, in which it does nothing.

Whatever the host does and lets the field do is such a history of instructions and runs. -/
theorem fade_keeps_pace {fading : Fading}
    (own : machine.world.stage.fade.serial = fading.serial) :
    let fade := machine.world.stage.fade
    let start := fade.amount.toNat
    let target := fading.target.toNat
    let pace := max fading.step.toNat 1
    let distance := (target - start) + (start - target)
    let frames := max 1 (distance ⌈/⌉ pace)
    (fade.active → fade.amount ≤ fadeFull → fading.target ≤ fadeFull →
      (∀ events last, FadeHistory setting events machine last → fading.Alone events →
        let runs := events.count (.run fading)
        let amount := last.world.stage.fade.amount
        last.world.stage.fade = { fade with amount, active := runs < frames } ∧
        amount.toNat = (if start < target then start + min (runs * pace) distance
          else start - min (runs * pace) distance) ∧
        min start target ≤ amount.toNat ∧ amount.toNat ≤ max start target ∧ amount ≤ fadeFull ∧
        ∀ frame, ((Activity.fade fading).run setting frame last).2 =
          if runs + 1 < frames then some (.fade fading) else none) ∧
      (machine.world.shade.running.filter (·.serial = fading.serial) = [fading] →
        machine.world.shade.starting.filter (·.serial = fading.serial) = [] →
        ∀ moves, machine.Throughout setting (LeavesFade setting fading) moves →
          let ticks := moves.countP Move.isTick
          (machine.follow setting moves).world.stage.fade = fading.course fade ticks ∧
          (.fade fading ∈ (machine.follow setting moves).world.activities ↔ ticks < frames))) ∧
    (∀ events last, FadeHistory setting events machine last →
      0 < events.countP FadeEvent.isInstruction →
      events.countP FadeEvent.isInstruction < 2 ^ 32 →
      ∀ frame, (Activity.fade fading).run setting frame last = (last, none)) ∧
    ∀ moves, ∃ events, FadeHistory setting events machine (machine.follow setting moves) := by
  intro fade start target pace distance frames
  refine ⟨fun active low inside => ⟨?_, ?_⟩, ?_, history_follow setting machine⟩
  · intro events last history alone runs amount
    have reached : last.world.stage.fade = fading.course fade runs :=
      history.on_course alone own active low inside
    have counted : amount.toNat = fading.amountAfter fade runs := by
      show last.world.stage.fade.amount.toNat = _
      rw [reached, Fading.toNat_course inside low]
    have between := fading.amountAfter_between fade runs
    refine ⟨?_, ?_, counted ▸ between.1, counted ▸ between.2, ?_, fun frame => ?_⟩
    · show last.world.stage.fade =
        { fade with amount := last.world.stage.fade.amount, active := runs < frames }
      rw [reached]
      rfl
    · rw [counted]
      show (if start < target then start + min (runs * pace) (target - start)
        else start - min (runs * pace) (start - target)) = _
      split
      · next below => rw [show distance = target - start by omega]
      · next above => rw [show distance = start - target by omega]
    · rw [UInt16.le_iff_toNat_le] at low inside ⊢
      exact counted ▸ Nat.le_trans between.2 (Nat.max_le.mpr ⟨low, inside⟩)
    · obtain ⟨entry, ran⟩ := fading.run_eq frame last.world
      simp only [Activity.run, ran]
      rw [reached, Fading.rest_course inside low own]
      show Option.map _ (if runs + 1 < frames then some fading else none) = _
      split <;> rfl
  · intro running starting moves leave ticks
    have begun : 0 < fading.frames fade := Nat.lt_of_lt_of_le Nat.one_pos (Nat.le_max_left _ _)
    have holds : machine.world.shade.Holds fading fade 0 :=
      ⟨(fading.course_zero fade active).symm, by rw [running, if_pos begun], starting⟩
    have followed := holds_follow holds inside low own leave
    rw [Nat.zero_add] at followed
    exact ⟨followed.fade_eq, mem_activities_iff followed⟩
  · intro events last history later few frame
    have apart := history.superseded own later few
    rw [Activity.run, fading.run_of_superseded apart]
    rfl

end Machine

/-! ## A small field -/

namespace Dusk

/-- Two entities.  One fades the screen over three frames, and then does nothing; the second script
of the other one ends any fade. -/
def source : Section :=
  { bytes := ([0x25, 0x00, 0x00, 0x01, 0x00, 0x00, 0x00, 0x03, 0x00, 0x00, 0x00]
      ++ [0x6B, 0x00, 0x00, 0x00, 0x00, 0x00, 0x01, 0x00, 0x00, 0x00] : List UInt8).toArray
    version := 0, modelCount := 0, scale := 0, creator := "", name := "dusk"
    entities := #[Bustle.scripts "lamp" 0 9, Bustle.scripts "switch" 9 11]
    akaoOffsets := #[], codeStart := 0, codeEnd := 21, texts := #[] }

def setting : Setting Unit := { source, config := { opsPerTick := 8 }, host := Host.accepting }

def entered : Machine Unit :=
  (Machine.enter setting (Session.fresh setting.config) (.ofSeed 0) ()).start

/-- The field after the tick in which the fade has begun. -/
def evening : Machine Unit := entered.tick setting 0

/-- What carries the fade on. -/
def fading : Fading := { target := 256, step := 85, serial := 1 }

/-- The field some ticks later. -/
def later (ticks : Nat) : Machine Unit :=
  evening.follow setting (List.replicate ticks (.tick 0))

theorem evening_shade : evening.world.shade = ⟨{ active := true, serial := 1 }, [fading], []⟩ := by
  decide +kernel

/-- No instruction changes the fade in the next four ticks. -/
theorem evening_quiet :
    evening.Throughout setting (Machine.LeavesFade setting fading) (List.replicate 4 (.tick 0)) := by
  have first : Machine.changesAt setting (evening.tickMoments setting 0) = [] := by decide +kernel
  have second : Machine.changesAt setting ((later 1).tickMoments setting 0) = [] := by
    decide +kernel
  have third : Machine.changesAt setting ((later 2).tickMoments setting 0) = [] := by
    decide +kernel
  have fourth : Machine.changesAt setting ((later 3).tickMoments setting 0) = [] := by
    decide +kernel
  exact ⟨first, second, third, fourth, trivial⟩

/-- The field after the other entity has ended the fade. -/
def ended : Machine Unit := ((evening.invoke 1 3 1).1.step setting 1 3).1

theorem ended_history : Machine.FadeHistory setting [.instruction .clear] evening ended := by
  have same : (evening.invoke 1 3 1).1.world.stage.fade = evening.world.stage.fade := by
    decide +kernel
  have clears : (evening.invoke 1 3 1).1.fadeChanges setting 1 3 = [.clear] := by decide +kernel
  have stepped : Machine.FadeHistory setting
      (((evening.invoke 1 3 1).1.fadeChanges setting 1 3).map .instruction ++ [])
      (evening.invoke 1 3 1).1 ended := .turn 1 3 (.done ended)
  rw [clears] at stepped
  exact .aside same stepped

end Dusk

namespace Machine

/-- The fade has an amount of 85 after one run, and is over after four ticks; and if it is ended before,
its activity does nothing more. -/
theorem dusk_falls :
    (∀ frame, let ran := (Activity.fade Dusk.fading).run Dusk.setting frame Dusk.evening
      ran.1.world.stage.fade.amount.toNat = 85 ∧ ran.1.world.stage.fade.active = true) ∧
    (Dusk.later 4).world.stage.fade = { amount := 256, serial := 1 } ∧
    .fade Dusk.fading ∉ (Dusk.later 4).world.activities ∧
    ∀ frame, (Activity.fade Dusk.fading).run Dusk.setting frame Dusk.ended = (Dusk.ended, none) := by
  have fade : Dusk.evening.world.stage.fade = { active := true, serial := 1 } := by
    decide +kernel
  obtain ⟨bounded, superseded, -⟩ := @fade_keeps_pace _ Dusk.setting Dusk.evening
    Dusk.fading (by rw [fade]; rfl)
  rw [fade] at bounded
  obtain ⟨runs, ticks⟩ := bounded rfl (by decide) (by decide)
  obtain ⟨four, spent⟩ := ticks (by rw [Dusk.evening_shade]; rfl) (by rw [Dusk.evening_shade]; rfl) _
    Dusk.evening_quiet
  rw [Dusk.later]
  refine ⟨fun frame => ?_, ?_, ?_, ?_⟩
  · have ran : FadeHistory Dusk.setting [.run Dusk.fading] Dusk.evening _ :=
      .work frame (.fade Dusk.fading) (.done _)
    obtain ⟨state, amount, -⟩ := runs _ _ ran (by simp [Fading.Alone])
    refine ⟨amount.trans (by decide +kernel), ?_⟩
    rw [state]
    dsimp only
    decide +kernel
  · rw [four]
    decide +kernel
  · rw [spent]
    decide +kernel
  · exact superseded _ _ Dusk.ended_history (by decide) (by decide)

/-! ## A fade over some frames -/

section Nfade

variable {σ : Type} {setting : Setting σ} {machine : Machine σ} {id : EntityId} {priority ip : Nat}
  {lane : Lane} {kind frames : UInt8}

/-- The change of the fade that an `NFADE` of a kind other than zero makes, if it does not fail: a fade
from the present amount, in steps of which as many as it has frames fit in the full amount. -/
theorem fadeChanges_nfade (here : machine.world.lane? id priority = some lane)
    (active : lane.isActive) (stands : lane.ip? = some ip) (fresh : lane.suspended? = none)
    (opcode : setting.source.code[ip]? = some Opcode.nfade.byte)
    (carried : machine.failure? setting id priority ip lane = none)
    (kinded : setting.source.code[ip + 3]? = some kind) (coloured : kind ≠ 0)
    (framed : setting.source.code[ip + 7]? = some frames) :
    ∃ color, machine.fadeChanges setting id priority =
      [.begin color machine.world.stage.fade.amount fadeFull
        (max (fadeFull / max frames.toUInt16 1) 1) (kind = 12)] := by
  rw [fadeChanges_of_active here active stands]
  unfold failure? at carried
  rw [fresh] at carried ⊢
  cases worked : workOut setting.source.code (machine.sceneOf setting id priority ip lane) ip
    Option.none with
  | error error => simp [worked] at carried
  | ok came =>
      obtain ⟨plan, next⟩ := came
      obtain ⟨byte, reading, cursor, after, fetched, read, -⟩ := workOut_none_eq_ok.mp worked
      obtain ⟨found, planned, rfl⟩ := fetch_eq_ok.mp fetched
      cases opcode.symm.trans found
      obtain ⟨op, same, known⟩ := planOfByte?_eq_some.mp planned
      cases Opcode.byte_injective same
      cases known
      obtain ⟨color, fades⟩ := Screen.fadeOver_fades plan after read
      have third : ((Cursor.atStart setting.source.code ip).forward 1).peek 2 = kind := by
        rw [Cursor.peek_forward]
        exact congrArg (·.getD 0) kinded
      have seventh : ((Cursor.atStart setting.source.code ip).forward 1).peek 6 = frames := by
        rw [Cursor.peek_forward]
        exact congrArg (·.getD 0) framed
      rw [third, seventh, if_neg coloured] at fades
      exact ⟨color, fades.fadeChanges⟩

/-- The step of such a fade: at least one, since there are at most 255 frames. -/
theorem nfade_step (timed : frames ≠ 0) :
    max (max (fadeFull / max frames.toUInt16 1) 1) 1 = fadeFull / frames.toUInt16 ∧
      (fadeFull / frames.toUInt16).toNat = 256 / frames.toNat ∧ 0 < 256 / frames.toNat := by
  have positive : 0 < frames.toNat := Nat.pos_of_ne_zero fun zero => timed (UInt8.toNat_inj.mp zero)
  have few : frames.toNat < 256 := frames.toNat_lt
  have whole : 0 < 256 / frames.toNat := Nat.div_pos (Nat.le_of_lt few) positive
  have divided : (fadeFull / frames.toUInt16).toNat = 256 / frames.toNat := by
    rw [UInt16.toNat_div, UInt8.toNat_toUInt16]
    rfl
  have larger (number : UInt16) (most : 0 < number.toNat) : max number 1 = number := by
    show (if number ≤ 1 then 1 else number) = number
    split
    · next least => exact UInt16.toNat_inj.mp (Nat.le_antisymm most (UInt16.le_iff_toNat_le.mp least))
    · rfl
  refine ⟨?_, divided, whole⟩
  rw [larger frames.toUInt16 (by simpa using positive), larger (_ / _) (by omega),
    larger _ (by omega)]

/-- The shade after such an `NFADE`. -/
theorem shade_nfade (here : machine.world.lane? id priority = some lane)
    (active : lane.isActive) (stands : lane.ip? = some ip) (fresh : lane.suspended? = none)
    (opcode : setting.source.code[ip]? = some Opcode.nfade.byte)
    (carried : machine.failure? setting id priority ip lane = none)
    (kinded : setting.source.code[ip + 3]? = some kind) (coloured : kind ≠ 0)
    (framed : setting.source.code[ip + 7]? = some frames) (timed : frames ≠ 0)
    (below : machine.world.stage.fade.amount < fadeFull) :
    ∃ color : FadeColor, (machine.step setting id priority).1.world.shade =
      { fade := { red := color.red, green := color.green, blue := color.blue
                  amount := machine.world.stage.fade.amount, subtractive := kind = 12, active := true
                  serial := machine.world.stage.fade.serial + 1 }
        running := machine.world.shade.running
        starting := machine.world.shade.starting ++
          [⟨fadeFull, fadeFull / frames.toUInt16, machine.world.stage.fade.serial + 1⟩] } := by
  obtain ⟨color, changes⟩ :=
    fadeChanges_nfade here active stands fresh opcode carried kinded coloured framed
  have low : machine.world.stage.fade.amount.toNat < 256 := UInt16.lt_iff_toNat_lt.mp below
  have present : min machine.world.stage.fade.amount fadeFull = machine.world.stage.fade.amount :=
    if_pos (UInt16.le_iff_toNat_le.mpr (Nat.le_of_lt low))
  have distant : machine.world.stage.fade.amount ≠ fadeFull := fun same =>
    Nat.ne_of_lt low (congrArg UInt16.toNat same)
  refine ⟨color, ?_⟩
  rw [shade_step, changes, List.foldl_cons, List.foldl_nil, Shade.change, FadeChange.begun?,
    FadeChange.apply, present, if_pos distant, (nfade_step timed).1, decide_eq_true distant]
  rfl

/-- The quotient that is rounded up, as a number of steps: all of them cover the distance, and one less
does not. -/
theorem ceilDiv_eq_iff {distance pace steps : Nat} (moves : 0 < pace) (counted : 0 < steps) :
    distance ⌈/⌉ pace = steps ↔ (steps - 1) * pace < distance ∧ distance ≤ steps * pace := by
  have covers (count : Nat) : distance ⌈/⌉ pace ≤ count ↔ distance ≤ count * pace := by
    rw [Nat.mul_comm]
    exact ceilDiv_le_iff_le_mul moves
  rw [← covers, ← Nat.not_le, ← covers]
  omega

/-- Steps of a part of a whole, rounded down, do not cover it before all of its parts would, and these
do if the whole is a multiple of them. -/
theorem ceilDiv_part {whole parts : Nat} (moves : 0 < whole / parts) (counted : 0 < parts) :
    parts ≤ whole ⌈/⌉ (whole / parts) ∧ (whole ⌈/⌉ (whole / parts) = parts ↔ parts ∣ whole) := by
  have fits : parts * (whole / parts) ≤ whole := Nat.mul_div_le whole parts
  have fewer : (parts - 1) * (whole / parts) < parts * (whole / parts) :=
    Nat.mul_lt_mul_of_pos_right (Nat.sub_one_lt_of_lt counted) moves
  constructor
  · by_contra early
    have covered : whole ≤ whole / parts * (parts - 1) :=
      (ceilDiv_le_iff_le_mul moves).mp (by omega)
    rw [Nat.mul_comm] at covered
    omega
  · calc whole ⌈/⌉ (whole / parts) = parts
      _ ↔ (parts - 1) * (whole / parts) < whole ∧ whole ≤ parts * (whole / parts) :=
        ceilDiv_eq_iff moves counted
      _ ↔ parts * (whole / parts) = whole := by omega
      _ ↔ parts ∣ whole := ⟨fun same => ⟨_, same.symm⟩, Nat.mul_div_cancel'⟩

/-- How long an `NFADE` takes, which is to fade the screen over some frames.

It begins a fade at the present amount `a`, whose activity goes by `256 / n` in each of its runs, if it
has `n` frames.  That is rounded down, and it is the same wherever the fade begins.  So the full
amount is reached in run `⌈(256 - a) / (256 / n)⌉`, unless another fade takes its place, and that is the
`n`-th run only if `n - 1` steps do not cover the distance and `n` of them do.  A fade that begins at
nothing never gets there earlier, and it is there in time just if `n` divides 256. -/
theorem nfade_lasts (here : machine.world.lane? id priority = some lane)
    (active : lane.isActive) (stands : lane.ip? = some ip) (fresh : lane.suspended? = none)
    (opcode : setting.source.code[ip]? = some Opcode.nfade.byte)
    (carried : machine.failure? setting id priority ip lane = none)
    (kinded : setting.source.code[ip + 3]? = some kind) (coloured : kind ≠ 0)
    (framed : setting.source.code[ip + 7]? = some frames) (timed : frames ≠ 0)
    (below : machine.world.stage.fade.amount < fadeFull) :
    let begun := (machine.step setting id priority).1
    let start := machine.world.stage.fade.amount.toNat
    let pace := 256 / frames.toNat
    let length := (256 - start) ⌈/⌉ pace
    let fading : Fading := ⟨fadeFull, fadeFull / frames.toUInt16, machine.world.stage.fade.serial + 1⟩
    (begun.world.shade.running = machine.world.shade.running ∧
      begun.world.shade.starting = machine.world.shade.starting ++ [fading]) ∧
    (∀ events last, FadeHistory setting events begun last → fading.Alone events →
      let runs := events.count (.run fading)
      last.world.stage.fade.amount.toNat = min (start + runs * pace) 256 ∧
      (last.world.stage.fade.active ↔ runs < length)) ∧
    (length = frames.toNat ↔
      (frames.toNat - 1) * pace < 256 - start ∧ 256 - start ≤ frames.toNat * pace) ∧
    (start = 0 → frames.toNat ≤ length ∧ (length = frames.toNat ↔ frames.toNat ∣ 256)) := by
  intro begun start pace length fading
  obtain ⟨step, divided, whole⟩ := nfade_step timed
  have low : start < 256 := UInt16.lt_iff_toNat_lt.mp below
  obtain ⟨color, stepped⟩ :=
    shade_nfade here active stands fresh opcode carried kinded coloured framed timed below
  have faded : begun.world.stage.fade = _ := congrArg Shade.fade stepped
  have amount : begun.world.stage.fade.amount.toNat = start := by rw [faded]
  have counted : 0 < frames.toNat :=
    Nat.pos_of_ne_zero fun zero => timed (UInt8.toNat_inj.mp zero)
  have positive : 0 < length := Nat.pos_of_ne_zero fun zero => by
    have covered := (ceilDiv_le_iff_le_mul whole).mp (Nat.le_of_eq zero)
    omega
  refine ⟨⟨(congrArg Shade.running stepped :), (congrArg Shade.starting stepped :)⟩, ?_, ?_, ?_⟩
  · intro events last history alone runs
    have bounded : begun.world.stage.fade.amount ≤ fadeFull := by
      rw [UInt16.le_iff_toNat_le, amount]
      exact Nat.le_of_lt low
    have inside : fading.target ≤ fadeFull := Nat.le_refl _
    have course := history.on_course alone (congrArg Fade.serial faded)
      (congrArg Fade.active faded) bounded inside
    have same : fading.pace = pace := by
      show max (fadeFull / frames.toUInt16).toNat 1 = pace
      rw [divided]
      exact Nat.max_eq_left whole
    have distance : fading.distance begun.world.stage.fade = 256 - start := by
      show (256 - begun.world.stage.fade.amount.toNat) +
        (begun.world.stage.fade.amount.toNat - 256) = 256 - start
      omega
    constructor
    · rw [course, Fading.toNat_course inside bounded]
      show (if begun.world.stage.fade.amount.toNat < 256 then
        begun.world.stage.fade.amount.toNat + min (runs * fading.pace)
          (256 - begun.world.stage.fade.amount.toNat) else _) = _
      rw [amount, same, if_pos low]
      omega
    · rw [course]
      show decide (runs < max 1 (fading.distance begun.world.stage.fade ⌈/⌉ fading.pace)) = true ↔ _
      rw [decide_eq_true_iff, distance, same]
      exact Nat.max_eq_right positive ▸ Iff.rfl
  · exact ceilDiv_eq_iff whole counted
  · intro nothing
    show frames.toNat ≤ (256 - start) ⌈/⌉ pace ∧ ((256 - start) ⌈/⌉ pace = frames.toNat ↔ _)
    rw [nothing]
    exact ceilDiv_part whole counted

end Nfade

/-- The fade over three frames takes four runs of its activity. -/
theorem dusk_lasts :
    let begun := (Dusk.entered.step Dusk.setting 0 0).1
    begun.world.shade.starting = [Dusk.fading] ∧
    ∀ events last, FadeHistory Dusk.setting events begun last → Dusk.fading.Alone events →
      (last.world.stage.fade.active ↔ events.count (.run Dusk.fading) < 4) := by
  intro begun
  have lane : Dusk.entered.world.lane? 0 0 =
      some { status := .active 0 0 none none, script := 0, epoch := 1 } := by decide +kernel
  have shade : Dusk.entered.world.shade = ⟨{}, [], []⟩ := by decide +kernel
  have fade : Dusk.entered.world.stage.fade = {} := by decide +kernel
  have opcode : Dusk.setting.source.code[0]? = some Opcode.nfade.byte := by decide +kernel
  have carried : (Dusk.entered.failure? Dusk.setting 0 0 0
      { status := .active 0 0 none none, script := 0, epoch := 1 }).isNone := by decide +kernel
  have kind : Dusk.setting.source.code[0 + 3]? = some 1 := by decide +kernel
  have frames : Dusk.setting.source.code[0 + 7]? = some 3 := by decide +kernel
  obtain ⟨⟨-, starting⟩, lasts, -, -⟩ := nfade_lasts lane rfl rfl rfl opcode
    (Option.isNone_iff_eq_none.mp carried) kind (by decide) frames (by decide) (by rw [fade]; decide)
  rw [shade, fade] at starting
  rw [fade] at lasts
  exact ⟨starting, fun events last history alone => (lasts events last history alone).2⟩

/-- After three runs of a fade over three frames, the screen is not quite dark. -/
theorem dusk_outlasts_frames :
    Dusk.source.code[0]? = some Opcode.nfade.byte ∧ Dusk.source.code[3]? = some 1 ∧
    Dusk.source.code[7]? = some 3 ∧
    Dusk.evening.world.shade = ⟨{ active := true, serial := 1 }, [Dusk.fading], []⟩ ∧
    Dusk.evening.Throughout Dusk.setting (LeavesFade Dusk.setting Dusk.fading)
      (List.replicate 3 (.tick 0)) ∧
    (Dusk.later 3).world.stage.fade = { amount := 255, active := true, serial := 1 } := by
  obtain ⟨first, second, third, -⟩ := Dusk.evening_quiet
  exact ⟨by decide +kernel, by decide +kernel, by decide +kernel, Dusk.evening_shade,
    ⟨first, second, third, trivial⟩, by decide +kernel⟩

end Machine

end FieldMachine
