import FieldMachine.Proofs.Failure
import FieldMachine.Proofs.Motion
import FieldMachine.Proofs.Schedule

/-!
# The player and the open windows

Two parts of the stage point at something else: the player is an entity, and an
open window is one at which a lane waits.  `Stage.Retains` says of a change who
may have become the player by it and which windows it may have opened; most
changes do neither.

An instruction names nobody the player but an entity that is registered, and it
opens no window but the one at which its lane waits then (`Machine.conducts_step`).
-/

namespace FieldMachine

set_option autoImplicit false

/-! ## Stages -/

namespace Stage

/-- Whether a dialog is waiting in a window. -/
def isOpen (stage : Stage) (window : UInt8) : Bool :=
  stage.windows[window.toNat]?.any (·.isOpen)

/-- From a stage to a later one nobody becomes the player who may not, and no window opens that
may not. -/
structure Retains (named : EntityId → Prop) (opened : UInt8 → Prop) (before after : Stage) :
    Prop where
  player : ∀ id, after.player = some id → before.player = some id ∨ named id
  windows : ∀ window, after.isOpen window → before.isOpen window ∨ opened window

namespace Retains

variable {named others : EntityId → Prop} {opened more : UInt8 → Prop}
  {before middle after : Stage}

theorem refl : Retains named opened before before := ⟨fun _ => .inl, fun _ => .inl⟩

theorem trans (first : Retains named opened before middle)
    (second : Retains named opened middle after) : Retains named opened before after where
  player id leads := (second.player id leads).elim (first.player id) .inr
  windows window isOpen := (second.windows window isOpen).elim (first.windows window) .inr

theorem mono (retains : Retains named opened before after)
    (weaker : ∀ window, opened window → more window) : Retains named more before after where
  player := retains.player
  windows window isOpen := (retains.windows window isOpen).imp_right (weaker window)

/-- A change that concerns neither. -/
theorem of_eq (player : after.player = before.player) (windows : after.windows = before.windows) :
    Retains named opened before after where
  player id leads := .inl (player ▸ leads)
  windows window open' := .inl (by rwa [Stage.isOpen, windows] at open')

end Retains

theorem isOpen_changeWindow (stage : Stage) (id : Nat) (change : WindowChange) (window : UInt8) :
    (stage.changeWindow id change).isOpen window =
      if window.toNat = id then stage.windows[id]?.any fun found => (change.apply found).isOpen
      else stage.isOpen window := by
  unfold changeWindow
  split
  · next absent =>
      split
      · next same => simp [isOpen, same, absent]
      · rfl
  · next found known =>
      obtain ⟨inside, here⟩ := Vector.getElem?_eq_some_iff.mp known
      split
      · next same => simp [isOpen, same, inside, here]
      · next apart => simp [isOpen, Vector.getElem?_setIfInBounds_ne (Ne.symm apart)]

end Stage

/-- Of all changes of a window only one can open it. -/
theorem WindowChange.isOpen_of_apply {window : Window} {change : WindowChange}
    (opensNone : ∀ isOpen, change ≠ .setOpen isOpen) (shown : (change.apply window).isOpen) :
    window.isOpen := by
  cases change with
  | setOpen isOpen => exact absurd rfl (opensNone isOpen)
  | reset => cases shown
  | close => cases shown
  | _ => exact shown

namespace Stage

variable {named : EntityId → Prop} {opened : UInt8 → Prop} (stage : Stage)

theorem retains_changeWindow (id : Nat) {change : WindowChange}
    (opensNone : ∀ isOpen, change ≠ .setOpen isOpen) :
    stage.Retains named opened (stage.changeWindow id change) where
  player id' leads := by
    refine .inl ?_
    unfold changeWindow at leads
    split at leads <;> exact leads
  windows window shown := by
    rw [isOpen_changeWindow] at shown
    split at shown
    · next same =>
        obtain ⟨found, known, shown⟩ := (Option.any_eq_true _ _).mp shown
        refine .inl ?_
        simp [isOpen, same, known, WindowChange.isOpen_of_apply opensNone shown]
    · exact .inl shown

/-- A window that a dialog opens or that its end closes. -/
theorem retains_setOpen (window : UInt8) (isOpen : Bool)
    (may : isOpen → opened window) :
    stage.Retains named opened (stage.changeWindow window.toNat (.setOpen isOpen)) where
  player id' leads := by
    refine .inl ?_
    unfold changeWindow at leads
    split at leads <;> exact leads
  windows other shown := by
    rw [isOpen_changeWindow] at shown
    split at shown
    · next same =>
        obtain ⟨found, known, shown⟩ := (Option.any_eq_true _ _).mp shown
        exact .inr (UInt8.toNat_inj.mp same ▸ may shown)
    · exact .inl shown

end Stage

/-! ## Worlds -/

namespace World

variable {named : EntityId → Prop} {opened : UInt8 → Prop} (world : World)

/-- The lane waits at a window. -/
def WaitsAt (id : EntityId) (priority : Nat) (window : UInt8) : Prop :=
  ∃ lane reason, world.lane? id priority = some lane ∧ lane.pauseReason? = some reason ∧
    Machine.awaitedWindow? reason = some window

variable {world} in
theorem isSome_entity?_of_lane? {id : EntityId} {priority : Nat} {lane : Lane}
    (here : world.lane? id priority = some lane) : (world.entity? id).isSome := by
  obtain ⟨entity, known, -⟩ := Option.bind_eq_some_iff.mp here
  simp [known]

theorem retains_beginFade (color : FadeColor) (start target step : UInt16) (subtractive : Bool) :
    world.stage.Retains named opened (world.beginFade color start target step subtractive).stage := by
  unfold beginFade
  dsimp only
  split <;> exact .of_eq rfl rfl

theorem retains_beginScroll (target : ScrollTarget) (frames : UInt16) (easing : Easing) :
    world.stage.Retains named opened (world.beginScroll target frames easing).stage := by
  unfold beginScroll
  dsimp only
  split <;> exact .of_eq rfl rfl

theorem retains_beginShift (id : EntityId) (goal : Displacement) (frames : UInt16)
    (easing : Easing) :
    world.stage.Retains named opened (world.beginShift id goal frames easing).stage := by
  unfold beginShift
  split
  · exact .refl
  · dsimp only
    split <;> exact .of_eq rfl rfl

end World

/-! ## Effects -/

/-- Whether an effect names no player and opens no window. -/
def Effect.isModest : Effect → Bool
  | .stage (.setPlayer _) | .window _ (.setOpen _) => false
  | _ => true

theorem Effect.isModest_of_isPlain {effect : Effect} (plain : effect.isPlain) :
    effect.isModest := by
  cases effect with
  | stage change =>
      cases change with
      | setPlayer entity => cases plain
      | _ => rfl
  | window id change =>
      cases change with
      | setOpen isOpen => cases plain
      | _ => rfl
  | _ => rfl

namespace Machine

variable {σ : Type} {setting : Setting σ} {machine : Machine σ} {id : EntityId}
  {priority ip next : Nat} {lane : Lane} {named : EntityId → Prop} {opened : UInt8 → Prop}

theorem retains_of_world {after : Machine σ} (same : after.world = machine.world) :
    machine.world.stage.Retains named opened after.world.stage := by
  rw [same]
  exact .refl

theorem retains_perform {effect : Effect} (modest : effect.isModest) :
    machine.world.stage.Retains named opened (effect.perform setting machine).1.world.stage := by
  cases effect with
  | store selector address value => exact retains_of_world (world_store ..)
  | drawByte selector address => exact retains_of_world (world_store ..)
  | reseed seed => exact retains_of_world (world_withRandom machine (.ofSeed seed))
  | window id change =>
      refine machine.world.stage.retains_changeWindow id fun isOpen same => ?_
      subst same
      cases modest
  | stage change =>
      cases change with
      | setPlayer entity => cases modest
      | _ => exact .of_eq rfl rfl
  | party change => exact retains_of_world (world_notify ..)
  | background area mask | livePalette id palette | lockTriangle triangle locked =>
      simp only [Effect.perform, world_notify]
      exact .of_eq rfl rfl
  | notify notice => exact retains_of_world (world_notify ..)
  | fade color start target step subtractive =>
      exact machine.world.retains_beginFade color start target step subtractive
  | scroll target frames easing => exact machine.world.retains_beginScroll target frames easing
  | shift id goal frames easing => exact machine.world.retains_beginShift id goal frames easing
  | _ => exact .of_eq rfl rfl

theorem retains_performAll {effects : List Effect}
    (modest : ∀ effect ∈ effects, effect.isModest) :
    machine.world.stage.Retains named opened
      (Effect.performAll setting machine effects).1.world.stage := by
  induction effects generalizing machine with
  | nil => exact .refl
  | cons effect rest ih =>
      rw [List.forall_mem_cons] at modest
      have first : machine.world.stage.Retains named opened
          (effect.perform setting machine).1.world.stage := retains_perform modest.1
      unfold Effect.performAll
      split
      · next done performed =>
          rw [performed] at first
          exact first.trans (ih modest.2)
      · next done error performed =>
          rw [performed] at first
          exact first

/-- The choice of another player. -/
theorem retains_performAll_lead {effects : List Effect} {target : EntityId}
    (plain : ∀ effect ∈ effects, effect.isPlain) (may : named target) :
    machine.world.stage.Retains named opened
      (Effect.performAll setting machine (effects ++ [.stage (.setPlayer target)])).1.world.stage := by
  have before : machine.world.stage.Retains named opened
      (Effect.performAll setting machine effects).1.world.stage :=
    retains_performAll fun effect member => Effect.isModest_of_isPlain (plain effect member)
  rw [performAll_append]
  split
  · next done performed =>
      rw [performed] at before
      refine before.trans ⟨?_, fun _ => .inl⟩
      rintro id ⟨⟩
      exact .inr may
  · exact before

/-! ## Instructions -/

theorem retains_giveUp (error : ExecError) :
    machine.world.stage.Retains named opened
      (machine.giveUp setting id priority ip error).world.stage := by
  simp only [giveUp, world_notify, world_note]
  exact .of_eq rfl rfl

theorem retains_complete (machine : Machine σ) (onStop : Option ResumeToken) :
    machine.world.stage.Retains named opened (machine.complete onStop).world.stage := by
  cases onStop with
  | none => exact .refl
  | some token =>
      rw [complete, world_wake, World.stage_wake]
      exact .refl

theorem retains_startScript (machine : Machine σ) (id : EntityId) (priority script : Nat)
    (onStop : Option ResumeToken) :
    machine.world.stage.Retains named opened
      (machine.startScript id priority script onStop).1.world.stage := by
  unfold startScript
  split
  · exact .refl
  · split <;> exact .of_eq rfl rfl

theorem retains_setAwaitedWindow {reason : PauseReason} {isOpen : Bool}
    (may : ∀ window, awaitedWindow? reason = some window → isOpen → opened window) :
    machine.world.stage.Retains named opened
      (machine.setAwaitedWindow reason isOpen).world.stage := by
  unfold setAwaitedWindow
  split
  · exact .refl
  · next window awaited =>
      exact machine.world.stage.retains_setOpen window isOpen (may window awaited)

/-- A lane has carried out an instruction that opened no window but the one at which the lane waits
now. -/
def Conducts (named : EntityId → Prop) (id : EntityId) (priority : Nat)
    (before after : Machine σ) : Prop :=
  before.world.stage.Retains named (after.world.WaitsAt id priority) after.world.stage

theorem conducts_makeRequest (here : machine.world.lane? id priority = some lane)
    (request : Request) (reason : PauseReason) :
    Conducts named id priority machine
      (machine.makeRequest setting id priority ip next lane request reason).1 := by
  unfold Conducts
  have asked := world_request setting machine request (lane.token id priority)
  unfold Lane.token at asked
  unfold makeRequest
  dsimp only
  split
  · next answered made =>
      rw [made] at asked
      have asked : answered.world = machine.world := asked
      have still : (answered.setAwaitedWindow reason true).world.lane? id priority = some lane := by
        rw [← World.lane?_roster, roster_setAwaitedWindow, World.lane?_roster, asked, here]
      have waits : ((answered.setAwaitedWindow reason true).pauseLane id priority next
          reason).world.lane? id priority = some (lane.pause next reason) :=
        lane?_updateLane_self still _
      have shown : answered.world.stage.Retains named
          (World.WaitsAt ((answered.setAwaitedWindow reason true).pauseLane id priority next
            reason).world id priority) (answered.setAwaitedWindow reason true).world.stage :=
        retains_setAwaitedWindow fun window awaited _ => ⟨_, reason, waits, rfl, awaited⟩
      rw [asked] at shown
      exact shown
  · next value answered made =>
      rw [made] at asked
      have asked : answered.world = machine.world := asked
      have closed {opened : UInt8 → Prop} : machine.world.stage.Retains named opened
          ((answered.setAwaitedWindow reason false).settle setting reason value).1.world.stage := by
        rw [world_settle, ← asked]
        exact retains_setAwaitedWindow fun _ _ => nofun
      split
      · next done taken =>
          rw [taken] at closed
          exact closed
      · next done error taken =>
          rw [taken] at closed
          exact closed.trans (retains_giveUp error)

theorem conducts_conclude {ending : Ending}
    (here : ∀ request reason, ending = .request request reason →
      machine.world.lane? id priority = some lane) :
    Conducts named id priority machine
      (machine.conclude setting id priority ip next lane ending).1 := by
  cases ending with
  | stop => exact (machine.updateLane id priority Lane.finish).retains_complete lane.onStop?
  | handOver level script =>
      exact ((machine.updateLane id priority Lane.finish).retains_complete lane.onStop?).trans
        (retains_startScript _ id level script none)
  | request request reason => exact conducts_makeRequest (here request reason rfl) request reason
  | fault error => exact retains_giveUp error
  | _ => exact .of_eq rfl rfl

/-- Effects, and the ending that follows them unless one of them fails. -/
theorem conducts_act {effects : List Effect} {ending : Ending}
    (performed : machine.world.stage.Retains named (fun _ => False)
      (Effect.performAll setting machine effects).1.world.stage)
    (here : ∀ request reason, ending = .request request reason →
      (Effect.performAll setting machine effects).1.world.lane? id priority = some lane) :
    Conducts named id priority machine
      (machine.carryOut setting id priority ip next lane (.act effects ending)).1 := by
  simp only [carryOut]
  split
  · next done taken =>
      rw [taken] at performed here
      exact (performed.mono fun _ => False.elim).trans (conducts_conclude here)
  · next done error taken =>
      rw [taken] at performed
      exact (performed.mono fun _ => False.elim).trans (retains_giveUp error)

/-- Whatever an instruction comes to, it names nobody the player but an entity that is there, and
opens no window but the one at which its lane waits then. -/
theorem conducts_carryOut {scene : Scene} {plan : Plan} (comesTo : scene.ComesTo ip plan next)
    (same : machine.world = scene.world)
    (here : scene.world.lane? scene.entity scene.priority = some scene.lane)
    (stands : scene.lane.ip? = some ip) :
    Conducts (fun id => (scene.world.entity? id).isSome) scene.entity scene.priority machine
      (machine.carryOut setting scene.entity scene.priority ip next scene.lane plan).1 := by
  cases comesTo.fits stands with
  | @plain plan plain =>
      cases plan with
      | retry entries =>
          have noted := world_noteAll machine entries
          exact .of_eq (congrArg (·.stage.player) noted) (congrArg (·.stage.windows) noted)
      | act effects ending =>
          refine conducts_act (retains_performAll fun effect member =>
            Effect.isModest_of_isPlain (plain.1 effect member)) fun _ _ _ => ?_
          have kept := Effect.roster_performAll setting machine fun effect member =>
            Effect.sparesLanes_of_isPlain (plain.1 effect member)
          rw [← World.lane?_roster, kept, same]
          exact here
  | dance spared =>
      refine conducts_act (retains_performAll ?_) (by rintro _ _ ⟨⟩)
      rw [List.forall_mem_append, List.forall_mem_singleton]
      exact ⟨fun effect member => Effect.isModest_of_isPlain (spared effect member), rfl⟩
  | lead spared known =>
      exact conducts_act
        (retains_performAll_lead spared (known (World.isSome_entity?_of_lane? here))) (by rintro _ _ ⟨⟩)
  | call known admitted => exact conducts_act (retains_performAll (by simp [Effect.isModest])) (by rintro _ _ ⟨⟩)
  | await known admitted => exact conducts_act (retains_performAll (by simp [Effect.isModest])) (by rintro _ _ ⟨⟩)
  | handOver level script => exact conducts_act .refl (by rintro _ _ ⟨⟩)
  | home entry => exact conducts_act (retains_performAll (by simp [Effect.isModest])) (by rintro _ _ ⟨⟩)
  | lost entry strays => exact conducts_act (retains_performAll (by simp [Effect.isModest])) (by rintro _ _ ⟨⟩)

variable (setting machine) in
/-- An instruction names nobody the player but an entity that is there, and opens no window but the
one at which its lane waits then. -/
theorem conducts_step (id : EntityId) (priority : Nat) :
    Conducts (fun id => (machine.world.entity? id).isSome) id priority machine
      (machine.step setting id priority).1 := by
  cases active : machine.world.laneActive id priority with
  | false =>
      rw [step_of_inactive setting active]
      exact .refl
  | true =>
      obtain ⟨lane, here, runs⟩ := (Option.any_eq_true _ _).mp active
      obtain ⟨ip, noted, stands, journal, same⟩ := step_eq setting here runs
      have spared : noted.world = machine.world := by
        rcases journal with rfl | ⟨byte, -, rfl⟩ <;> rfl
      rw [same, Conducts]
      split
      · next error failed => exact spared ▸ retains_giveUp error
      · next plan next worked =>
          have comesTo : (machine.sceneOf setting id priority ip lane).ComesTo ip plan next :=
            Scene.comesTo_of_workOut worked
          have carried : Conducts (fun id => (machine.world.entity? id).isSome) id priority noted
              (noted.carryOut setting id priority ip next lane plan).1 :=
            conducts_carryOut comesTo spared here stands
          rwa [Conducts, spared] at carried

/-! ## Everything else in a tick -/

/-- A token that is given back closes the window at which the lane waits that it wakes. -/
theorem stage_applyResume (machine : Machine σ) (token : ResumeToken) (answer : Option UInt16) :
    (machine.applyResume setting token answer).world.stage =
      ((machine.wake token).2.bind awaitedWindow?).elim machine.world.stage
        fun window => machine.world.stage.changeWindow window.toNat (.setOpen false) := by
  have woken := (congrArg World.stage (machine.world_wake token)).trans
    (machine.world.stage_wake token)
  unfold applyResume
  split
  · next waked taken =>
      rw [taken] at woken ⊢
      exact woken
  · next waked reason taken =>
      rw [taken] at woken ⊢
      have closed : (waked.setAwaitedWindow reason false).world.stage =
          ((some reason).bind awaitedWindow?).elim machine.world.stage
            fun window => machine.world.stage.changeWindow window.toNat (.setOpen false) := by
        rw [← woken, Option.bind_some]
        unfold setAwaitedWindow
        cases awaitedWindow? reason <;> rfl
      dsimp only
      split
      · next window bank address value =>
          have written := world_writeCell setting
            (waked.setAwaitedWindow (.ask window bank address) false) bank address value
          split
          · next done wrote =>
              rw [wrote] at written
              exact (congrArg World.stage written).trans closed
          · next done error wrote =>
              rw [wrote] at written
              exact (congrArg World.stage written).trans closed
      · exact closed
      · exact closed

/-- A token that is given back opens no window. -/
theorem retains_applyResume (machine : Machine σ) (token : ResumeToken) (answer : Option UInt16) :
    machine.world.stage.Retains named opened
      (machine.applyResume setting token answer).world.stage := by
  rw [stage_applyResume]
  cases (machine.wake token).2.bind awaitedWindow? with
  | none => exact .refl
  | some window => exact machine.world.stage.retains_setOpen window false nofun

theorem retains_runActivity (frame : Nat) (activity : Activity) (machine : Machine σ) :
    machine.world.stage.Retains named opened
      (activity.run setting frame machine).1.world.stage := by
  cases activity with
  | scroll moving =>
      obtain ⟨camera, changed⟩ := moving.world_run frame machine.world
      rw [Activity.world_scroll, changed]
      exact .of_eq rfl rfl
  | fade fading =>
      obtain ⟨fade, changed⟩ := fading.world_run frame machine.world
      rw [Activity.world_fade, changed]
      exact .of_eq rfl rfl
  | shift moving =>
      show machine.world.stage.Retains named opened (moving.run machine.world).1.stage
      rcases moving.world_run machine.world with same | ⟨change, same⟩
      · rw [same]
        exact .refl
      · rw [same]
        exact .of_eq rfl rfl
  | choreography dance =>
      have walked := Walk.stage_runAll (elapsedShare (dance.step + 1) dance.frames) dance.walks
        machine.world
      unfold Activity.run
      dsimp only
      split
      · rw [world_wake, World.stage_wake, world_note, walked]
        exact .refl
      · rw [walked]
        exact .refl
  | countdown timer =>
      unfold Activity.run
      dsimp only
      split
      · split
        · exact retains_of_world (world_notify ..)
        · rw [world_notify, world_wake, World.stage_wake, world_notify]
          exact .refl
      · exact retains_of_world (world_notify ..)

theorem retains_runActivities (frame : Nat) (activities : List Activity) (machine : Machine σ) :
    machine.world.stage.Retains named opened
      (machine.runActivities setting frame activities).1.world.stage := by
  induction activities generalizing machine with
  | nil => exact .refl
  | cons activity rest ih => exact (retains_runActivity frame activity machine).trans (ih _)

theorem retains_start (machine : Machine σ) :
    machine.world.stage.Retains named opened machine.start.world.stage := by
  have each (ids : List EntityId) (machine : Machine σ) :
      machine.world.stage.Retains named opened
        (ids.foldl (fun machine id => (machine.startScript id 0 0 none).1) machine).world.stage := by
    induction ids generalizing machine with
    | nil => exact .refl
    | cons id rest ih => exact (machine.retains_startScript id 0 0 none).trans (ih _)
  exact each machine.world.present (machine.updateSession _)

/-- An entity that is removed is the player no more; all windows are left as they are. -/
theorem retains_remove (machine : Machine σ) (index : Nat) :
    machine.world.stage.Retains named opened (machine.remove index).1.world.stage := by
  have woken (tokens : List ResumeToken) (machine : Machine σ) :
      machine.world.stage.Retains named opened
        (tokens.foldl (fun machine token => (machine.wake token).1) machine).world.stage := by
    induction tokens generalizing machine with
    | nil => exact .refl
    | cons token rest ih => exact (machine.retains_complete (some token)).trans (ih _)
  unfold remove
  split
  · exact .refl
  · next entity known =>
      refine .trans ?_ (woken entity.completions (machine.updateWorld _))
      refine ⟨fun id leads => .inl ?_, fun _ => .inl⟩
      simp only [updateWorld] at leads
      split at leads
      · cases leads
      · exact leads

end Machine

end FieldMachine
