import FieldMachine.Proofs.Calm
import FieldMachine.Proofs.FadeChange
import FieldMachine.Proofs.Train
import FieldMachine.Proofs.Upkeep

/-!
# The shade

The fade of the screen and the activities that carry fades on are a small system
of their own, the shade (`World.shade`).  The instruction of a lane makes at most
one change of it (`Machine.fadeChanges`, `Machine.shade_step`).  At the end of a
frame every fade that is running takes a step, one after the other, and the ones
that were started meanwhile join them (`Shade.endFrame`).  Nothing else in a field
concerns it, so what a tick does to it is told by the instructions that were
carried out (`Machine.shade_tick`).
-/

namespace FieldMachine

set_option autoImplicit false

/-! ## The shade by itself -/

/-- The fade of the screen with the activities that carry fades on. -/
structure Shade where
  fade : Fade
  /-- The ones that take a step in this frame. -/
  running : List Fading
  /-- The ones that take their first step in the next frame. -/
  starting : List Fading
deriving DecidableEq

namespace Fading

variable (fading : Fading)

/-- Whether a fade is the one that the activity carries on, and not over yet. -/
def Carries (fade : Fade) : Prop := fade.serial = fading.serial ∧ fade.active

instance (fade : Fade) : Decidable (fading.Carries fade) := inferInstanceAs (Decidable (_ ∧ _))

/-- The fade after a step of the activity. -/
def advance (fade : Fade) : Fade :=
  if fading.Carries fade then
    let target := min fading.target fadeFull
    let amount := fadeToward fade.amount target (max fading.step 1)
    { fade with amount, active := amount ≠ target }
  else fade

/-- What is left of the activity after that step. -/
def rest (fade : Fade) : Option Fading :=
  if fading.Carries fade ∧ (fading.advance fade).active then some fading else none

/-- A step of an activity changes nothing but the fade. -/
theorem run_eq (frame : Nat) (world : World) :
    ∃ entry, fading.run frame world =
      (world.updateStage fun stage => { stage with fade := fading.advance world.stage.fade },
        fading.rest world.stage.fade, entry) := by
  unfold run rest
  dsimp only
  by_cases carries : fading.Carries world.stage.fade
  · obtain ⟨own, active⟩ := id carries
    rw [if_neg (by simp [own, active]), advance, if_pos carries]
    split
    · next arrived => exact ⟨some (.fadeDone frame (min fading.target fadeFull)), by simp [arrived]⟩
    · next lasts => exact ⟨none, by simp [lasts, active, carries]⟩
  · have idle : fading.advance world.stage.fade = world.stage.fade := if_neg carries
    have spent : (world.stage.fade.serial ≠ fading.serial || !world.stage.fade.active) = true := by
      by_cases own : world.stage.fade.serial = fading.serial
      · simp [own, show world.stage.fade.active = false by simpa [Carries, own] using carries]
      · simp [own]
    rw [if_pos spent, idle, if_neg fun both => carries both.1]
    exact ⟨none, rfl⟩

/-- One step of some activities, one after the other: the fade after it, and what is left of them. -/
def runAll : List Fading → Fade → Fade × List Fading
  | [], fade => (fade, [])
  | fading :: others, fade =>
      let (last, left) := runAll others (fading.advance fade)
      (last, (fading.rest fade).toList ++ left)

end Fading

namespace Shade

/-- The shade after a change of the fade. -/
def change (shade : Shade) (change : FadeChange) : Shade :=
  { shade with
    fade := change.apply shade.fade
    starting := shade.starting ++ (change.begun? shade.fade).toList }

/-- Of the shade, changes concern the fade by itself. -/
theorem fade_foldl_change (changes : List FadeChange) (shade : Shade) :
    (changes.foldl Shade.change shade).fade =
      changes.foldl (fun fade change => change.apply fade) shade.fade := by
  induction changes generalizing shade with
  | nil => rfl
  | cons change rest ih => exact ih _

theorem running_foldl_change (changes : List FadeChange) (shade : Shade) :
    (changes.foldl Shade.change shade).running = shade.running := by
  induction changes generalizing shade with
  | nil => rfl
  | cons change rest ih => exact ih _

/-- The shade after the end of a frame. -/
def endFrame (shade : Shade) : Shade :=
  let (fade, left) := Fading.runAll shade.running shade.fade
  { fade, running := left ++ shade.starting, starting := [] }

end Shade

/-! ## The shade of a world -/

/-- The fade that an activity carries on. -/
def Activity.fading? : Activity → Option Fading
  | .fade fading => some fading
  | _ => none

namespace World

variable (world : World)

/-- The shade of a world. -/
def shade : Shade where
  fade := world.stage.fade
  running := world.activities.filterMap Activity.fading?
  starting := world.spawned.toList.filterMap Activity.fading?

theorem shade_updateStage {change : Stage → Stage}
    (same : (change world.stage).fade = world.stage.fade) :
    (world.updateStage change).shade = world.shade := by
  simp only [shade, updateStage, same]

theorem shade_changeWindow (id : Nat) (change : WindowChange) :
    (world.updateStage (·.changeWindow id change)).shade = world.shade := by
  refine world.shade_updateStage ?_
  unfold Stage.changeWindow
  split <;> rfl

theorem shade_spawn (activity : Activity) :
    (world.spawn activity).shade =
      { world.shade with starting := world.shade.starting ++ activity.fading?.toList } := by
  cases told : activity.fading? <;> simp [shade, spawn, told]

/-- What is spawned and no fade makes no difference. -/
theorem shade_spawn_other {activity : Activity} (other : activity.fading? = none) :
    (world.spawn activity).shade = world.shade := by
  rw [shade_spawn, other]
  simp

/-- Lanes and windows have nothing to do with the shade. -/
theorem shade_calm : Calm shade where
  lane _ _ _ _ := rfl
  window world id change := world.shade_changeWindow id change
  aside _ _ _ _ _ := rfl

theorem shade_beginFade (color : FadeColor) (start target step : UInt16) (subtractive : Bool) :
    (world.beginFade color start target step subtractive).shade =
      world.shade.change (.begin color start target step subtractive) := by
  unfold beginFade Shade.change FadeChange.begun?
  dsimp only
  split
  · next active =>
      rw [shade_spawn, decide_eq_true active]
      simp [shade, updateStage, Activity.fading?, FadeChange.apply, active]
  · next still => simp [shade, updateStage, FadeChange.apply, still]

theorem shade_clearFade : world.clearFade.shade = world.shade.change .clear := by
  simp [shade, clearFade, updateStage, Shade.change, FadeChange.apply, FadeChange.begun?]

theorem shade_beginScroll (target : ScrollTarget) (frames : UInt16) (easing : Easing) :
    (world.beginScroll target frames easing).shade = world.shade := by
  unfold beginScroll
  dsimp only
  split
  · rfl
  · exact shade_spawn_other _ rfl

theorem shade_beginShift (id : EntityId) (goal : Displacement) (frames : UInt16)
    (easing : Easing) : (world.beginShift id goal frames easing).shade = world.shade := by
  unfold beginShift
  split
  · rfl
  · dsimp only
    split
    · rfl
    · exact shade_spawn_other _ rfl

end World

/-! ## Instructions -/

namespace Effect

variable {σ : Type} (setting : Setting σ) (machine : Machine σ)

/-- An effect changes the shade as far as it changes the fade. -/
theorem shade_perform (effect : Effect) :
    (effect.perform setting machine).1.world.shade =
      effect.fadeChange?.toList.foldl Shade.change machine.world.shade := by
  cases effect with
  | store selector address value => exact congrArg World.shade (Machine.world_store ..)
  | drawByte selector address => exact congrArg World.shade (Machine.world_store ..)
  | reseed seed => exact congrArg World.shade (Machine.world_withRandom machine (.ofSeed seed))
  | window id change => exact machine.world.shade_changeWindow id change
  | stage change =>
      exact machine.world.shade_updateStage (StageChange.underWay?_apply _ change).2
  | party change => exact congrArg World.shade (Machine.world_notify ..)
  | background area mask | livePalette id palette | lockTriangle triangle locked =>
      simp only [perform, Machine.world_notify]
      rfl
  | notify notice => exact congrArg World.shade (Machine.world_notify ..)
  | fade color start target step subtractive =>
      exact machine.world.shade_beginFade color start target step subtractive
  | clearFade => exact machine.world.shade_clearFade
  | scroll target frames easing => exact machine.world.shade_beginScroll target frames easing
  | shift id goal frames easing => exact machine.world.shade_beginShift id goal frames easing
  | choreography walks frames token => exact machine.world.shade_spawn_other rfl
  | _ => rfl

/-- Effects that leave the fade alone leave the shade alone, whether or not they can be carried
out. -/
theorem shade_performAll {effects : List Effect}
    (spares : ∀ effect ∈ effects, effect.fadeChange? = none) :
    (performAll setting machine effects).1.world.shade = machine.world.shade := by
  induction effects generalizing machine with
  | nil => rfl
  | cons effect rest ih =>
      rw [List.forall_mem_cons] at spares
      have first := shade_perform setting machine effect
      rw [spares.1] at first
      unfold performAll
      split
      · next done performed =>
          rw [performed] at first
          exact (ih done spares.2).trans first
      · next done error performed =>
          rw [performed] at first
          exact first

end Effect

namespace Machine

variable {σ : Type} {setting : Setting σ} {machine : Machine σ} {id : EntityId} {priority : Nat}
  {lane : Lane}

/-- A plan that leaves the fade alone leaves the shade alone. -/
theorem shade_carryOut_of_spares {plan : Plan} (spares : plan.sparesFade) (ip next : Nat) :
    (machine.carryOut setting id priority ip next lane plan).1.world.shade =
      machine.world.shade := by
  cases plan with
  | retry entries =>
      have noted := congrArg World.shade (world_noteAll machine entries)
      exact noted
  | act effects ending =>
      have performed := Effect.shade_performAll setting machine (Plan.fadeChange?_of_sparesFade spares)
      simp only [carryOut]
      split
      · next done taken =>
          rw [taken] at performed
          exact (calm_conclude World.shade_calm done id priority ip next lane ending).trans performed
      · next done error taken =>
          rw [taken] at performed
          exact (calm_giveUp World.shade_calm done id priority ip error).trans performed

/-- A plan that is one change of the fade makes that change. -/
theorem shade_carryOut_of_fades {plan : Plan} {change : FadeChange} (fades : plan.Fades change)
    (ip next : Nat) :
    (machine.carryOut setting id priority ip next lane plan).1.world.shade =
      machine.world.shade.change change := by
  obtain ⟨effect, told, rfl⟩ := fades
  have made := Effect.shade_perform setting machine effect
  have sure : effect.isSure := by
    cases effect with
    | store | drawByte => cases told
    | _ => rfl
  have done : effect.perform setting machine = ((effect.perform setting machine).1, none) :=
    Prod.ext rfl (Effect.perform_of_isSure setting machine sure)
  rw [told] at made
  rw [Plan.next, carryOut, Effect.performAll, done]
  exact made

variable (setting) in
/-- How the instruction changes the fade that a lane carries out next; one that cannot be worked out
changes nothing. -/
def fadeChanges (id : EntityId) (priority : Nat) (machine : Machine σ) : List FadeChange :=
  match machine.world.lane? id priority with
  | none => []
  | some lane =>
      match lane.status with
      | .active ip _ suspended? _ =>
          match workOut setting.source.code (machine.sceneOf setting id priority ip lane) ip
            suspended? with
          | .ok (plan, _) => plan.fadeChanges
          | .error _ => []
      | _ => []

/-- The changes of an active lane are those of what its instruction comes to. -/
theorem fadeChanges_of_active {ip : Nat} (here : machine.world.lane? id priority = some lane)
    (active : lane.isActive) (stands : lane.ip? = some ip) :
    machine.fadeChanges setting id priority =
      match workOut setting.source.code (machine.sceneOf setting id priority ip lane) ip
        lane.suspended? with
      | .ok (plan, _) => plan.fadeChanges
      | .error _ => [] := by
  unfold fadeChanges
  rw [here]
  obtain ⟨status, script, epoch, mainEntry⟩ := lane
  cases status with
  | active place retries suspended onStop =>
      cases stands
      rfl
  | _ => cases active

/-- A lane that is not active changes nothing. -/
theorem fadeChanges_of_inactive (idle : machine.world.laneActive id priority = false) :
    machine.fadeChanges setting id priority = [] := by
  unfold fadeChanges
  cases here : machine.world.lane? id priority with
  | none => rfl
  | some lane =>
      obtain ⟨status, script, epoch, mainEntry⟩ := lane
      cases status with
      | active place retries suspended onStop => simp [World.laneActive, here, Lane.isActive] at idle
      | _ => rfl

/-- What an instruction or the rest of one comes to: one change of the fade, if it is a fading opcode,
and otherwise none. -/
theorem fades_of_workOut {code : Array UInt8} {scene : Scene} {ip next : Nat}
    {suspended? : Option Suspended} {plan : Plan}
    (worked : workOut code scene ip suspended? = .ok (plan, next)) :
    (suspended? = none ∧ ∃ op ∈ Opcode.faders, code[ip]? = some op.byte ∧
      ∃ change, plan.Fades change) ∨ plan.sparesFade := by
  cases suspended? with
  | none =>
      obtain ⟨byte, reading, cursor, after, fetched, read, -⟩ := workOut_none_eq_ok.mp worked
      obtain ⟨stands, planned, rfl⟩ := fetch_eq_ok.mp fetched
      obtain ⟨op, rfl, known⟩ := planOfByte?_eq_some.mp planned
      rcases Opcode.fades_or_spares known read with ⟨fader, fades⟩ | ⟨-, spares⟩
      · exact .inl ⟨rfl, op, fader, stands, fades⟩
      · exact .inr spares
  | some suspended =>
      obtain ⟨cursor, after, -, read, -⟩ := workOut_some_eq_ok.mp worked
      exact .inr (suspended.continuation.sparesFade plan after read)

/-- An instruction changes the shade as far as it changes the fade. -/
theorem shade_step (setting : Setting σ) (machine : Machine σ) (id : EntityId) (priority : Nat) :
    (machine.step setting id priority).1.world.shade =
      (machine.fadeChanges setting id priority).foldl Shade.change machine.world.shade := by
  cases active : machine.world.laneActive id priority with
  | false => rw [step_of_inactive setting active, fadeChanges_of_inactive active, List.foldl_nil]
  | true =>
      obtain ⟨lane, here, runs⟩ := (Option.any_eq_true _ _).mp active
      obtain ⟨ip, noted, stands, journal, same⟩ := step_eq setting here runs
      have spared : noted.world = machine.world := by
        rcases journal with rfl | ⟨byte, -, rfl⟩ <;> rfl
      rw [same, fadeChanges_of_active here runs stands, ← spared]
      cases worked : workOut setting.source.code (machine.sceneOf setting id priority ip lane) ip
        lane.suspended? with
      | error error => exact calm_giveUp World.shade_calm noted id priority ip error
      | ok came =>
          obtain ⟨plan, next⟩ := came
          rcases fades_of_workOut worked with ⟨-, op, -, -, change, fades⟩ | spares
          · exact (shade_carryOut_of_fades fades ip next).trans (by simp only [fades.fadeChanges]; rfl)
          · exact (shade_carryOut_of_spares spares ip next).trans
              (by simp only [Plan.fadeChanges_of_sparesFade spares]; rfl)

/-- An instruction makes at most one change of the fade, and only if it is a fading opcode. -/
theorem fadeChanges_cases (setting : Setting σ) (machine : Machine σ) (id : EntityId)
    (priority : Nat) :
    machine.fadeChanges setting id priority = [] ∨
    ∃ change lane ip, machine.fadeChanges setting id priority = [change] ∧
      machine.world.lane? id priority = some lane ∧ lane.isActive ∧ lane.ip? = some ip ∧
      lane.suspended? = none ∧
      ∃ op ∈ Opcode.faders, setting.source.code[ip]? = some op.byte := by
  cases active : machine.world.laneActive id priority with
  | false => exact .inl (fadeChanges_of_inactive active)
  | true =>
      obtain ⟨lane, here, runs⟩ := (Option.any_eq_true _ _).mp active
      obtain ⟨ip, -, stands, -, -⟩ := step_eq setting here runs
      rw [fadeChanges_of_active here runs stands]
      cases worked : workOut setting.source.code (machine.sceneOf setting id priority ip lane) ip
        lane.suspended? with
      | error error => exact .inl rfl
      | ok came =>
          obtain ⟨plan, next⟩ := came
          rcases fades_of_workOut worked with ⟨fresh, op, fader, code, change, fades⟩ | spares
          · exact .inr ⟨change, lane, ip, fades.fadeChanges, here, runs, stands, fresh, op, fader, code⟩
          · exact .inl (Plan.fadeChanges_of_sparesFade spares)

/-! ## Turns -/

variable (setting) in
/-- How the instructions of some moments change the fade, in their order. -/
def changesAt (moments : List (Moment σ)) : List FadeChange :=
  moments.flatMap fun moment => moment.machine.fadeChanges setting moment.id moment.priority

/-- A train makes the changes that its instructions make. -/
theorem Train.shade_eq {moments : List (Moment σ)} {first last : Machine σ}
    (train : Train setting moments first last) :
    last.world.shade = (changesAt setting moments).foldl Shade.change first.world.shade := by
  induction train with
  | done machine => rfl
  | moment moment rest ih =>
      rw [changesAt, List.flatMap_cons, List.foldl_append, ih, Moment.after, shade_step]
      rfl
  | starve machine starved entry rest ih => exact ih

section Parts

variable (setting) (machine : Machine σ)

/-! ## The rest of a tick -/

/-- A step of an activity concerns the shade only if it carries a fade on. -/
theorem shade_run (frame : Nat) (activity : Activity) :
    (activity.run setting frame machine).1.world.shade =
      { machine.world.shade with
        fade := activity.fading?.elim machine.world.stage.fade (·.advance machine.world.stage.fade) } ∧
    (activity.run setting frame machine).2.bind Activity.fading? =
      activity.fading?.bind (·.rest machine.world.stage.fade) := by
  cases activity with
  | fade fading =>
      obtain ⟨entry, ran⟩ := fading.run_eq frame machine.world
      simp only [Activity.run, ran]
      constructor
      · cases entry <;> rfl
      · simp only [Activity.fading?, Option.bind_some]
        cases fading.rest machine.world.stage.fade <;> rfl
  | scroll moving =>
      obtain ⟨camera, same⟩ := moving.world_run frame machine.world
      simp only [Activity.run]
      constructor
      · have kept : (machine.world.updateStage fun stage => { stage with camera }).shade =
            machine.world.shade := machine.world.shade_updateStage rfl
        rw [← same] at kept
        cases (moving.run frame machine.world).2.2 <;> exact kept
      · cases (moving.run frame machine.world).2.1 <;> rfl
  | shift moving =>
      simp only [Activity.run]
      constructor
      · rcases moving.world_run machine.world with same | ⟨change, same⟩ <;> rw [same] <;> rfl
      · cases (moving.run machine.world).2 <;> rfl
  | choreography dance =>
      have walked (walks : List Walk) (share : Float32) (world : World) :
          (Walk.runAll share walks world).1.shade = world.shade := by
        induction walks generalizing world with
        | nil => rfl
        | cons walk others ih =>
            unfold Walk.runAll
            refine (ih _).trans ?_
            rcases walk.world_run share world with same | ⟨change, same⟩
            · rw [same]
            · rw [same]
              rfl
      have kept := walked dance.walks (elapsedShare (dance.step + 1) dance.frames) machine.world
      simp only [Activity.run]
      split
      · refine ⟨?_, rfl⟩
        rw [world_wake, World.shade_calm.wake]
        exact kept
      · exact ⟨kept, rfl⟩
  | countdown timer =>
      simp only [Activity.run]
      split
      · cases timer.wake with
        | none => exact ⟨congrArg World.shade (world_notify ..), rfl⟩
        | some token =>
            refine ⟨?_, rfl⟩
            simp only [world_notify, world_wake, World.shade_calm.wake]
            rfl
      · exact ⟨congrArg World.shade (world_notify ..), rfl⟩

/-- The steps of some activities are, for the shade, those of the ones that carry fades on. -/
theorem shade_runActivities (frame : Nat) (activities : List Activity) :
    let ran := Fading.runAll (activities.filterMap Activity.fading?) machine.world.stage.fade
    (machine.runActivities setting frame activities).1.world.shade =
      { machine.world.shade with fade := ran.1 } ∧
    (machine.runActivities setting frame activities).2.filterMap Activity.fading? = ran.2 := by
  induction activities generalizing machine with
  | nil => exact ⟨rfl, rfl⟩
  | cons activity rest ih =>
      obtain ⟨ran, left⟩ := shade_run setting machine frame activity
      obtain ⟨others, more⟩ := ih (activity.run setting frame machine).1
      have fade := congrArg Shade.fade ran
      simp only [World.shade] at fade
      have stays : (activity.run setting frame machine).2.toList.filterMap Activity.fading? =
          (activity.fading?.bind (·.rest machine.world.stage.fade)).toList := by
        rw [← left]
        cases (activity.run setting frame machine).2 with
        | none => rfl
        | some kept => cases told : kept.fading? <;> simp [told]
      unfold runActivities
      dsimp only
      rw [others, List.filterMap_append, more, stays, ran, fade]
      cases told : activity.fading? with
      | none => simp [told]
      | some fading => simp [told, Fading.runAll]

/-- What a tick does to the shade is told by the instructions that are carried out in it. -/
theorem shade_tick (elapsed : UInt64) :
    (machine.tick setting elapsed).world.shade =
      ((changesAt setting (machine.tickMoments setting elapsed)).foldl Shade.change
        machine.world.shade).endFrame := by
  let resumed := machine.duringResumes setting elapsed machine.world.pending.length
  let turned := (resumed.runEntities setting).advanceActors setting
  have before : turned.world.shade =
      (changesAt setting (machine.tickMoments setting elapsed)).foldl Shade.change
        machine.world.shade := by
    rw [← calm_duringResumes World.shade_calm machine elapsed machine.world.pending.length]
    exact (train_tick setting machine elapsed).shade_eq
  obtain ⟨ran, left⟩ :=
    shade_runActivities setting turned turned.world.frame turned.world.activities
  have whole : machine.tick setting elapsed = turned.finishTick setting := by
    unfold tick
    rw [applyPending_beginTick]
  rw [whole, ← before]
  have starting := congrArg Shade.starting ran
  simp only [World.shade] at starting
  have fade := congrArg Shade.fade ran
  simp only [World.shade] at fade
  simp [finishTick, updateWorld, World.shade, Shade.endFrame, left, starting, fade]

/-! ## Operations of the host -/

theorem shade_remove (index : Nat) :
    (machine.remove index).1.world.shade = machine.world.shade := by
  unfold remove
  split
  · rfl
  · exact calm_wakeAll World.shade_calm _ _

end Parts

end Machine

end FieldMachine
