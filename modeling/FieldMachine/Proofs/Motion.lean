import FieldMachine.Proofs.Ledger

/-!
# Motions that lanes wait for

Camera scrolls, fades, shifts of a picture and walks of the party go on in the
background while lanes wait for their end.  What a lane can see of one is a flag
with a serial: the motion is under way (`World.underWay?`).  What carries it on is
an activity in the queue that bears the same serial (`Activity.carries?`).

The two are far apart: instructions raise a flag in one place and queue an activity
in another, later ones supersede earlier ones, and an activity lowers its flag
only if the serial is still its own.  `World.Continues` is what every change keeps
up all the same: nothing leaves the queue, and a motion that is new is carried
on by something in it.
-/

namespace FieldMachine

set_option autoImplicit false

/-! ## Motions -/

/-- Something that goes on in the background and that lanes can wait for. -/
inductive Motion
  | scroll
  | fade
  | shift (id : EntityId)
  /-- The walk of the party that a lane waits for. -/
  | dance (id : EntityId) (priority : Nat)
deriving DecidableEq

/-- The motion that an activity carries on, with the serial that it bears. -/
def Activity.carries? : Activity → Option (Motion × UInt32)
  | .scroll moving => some (.scroll, moving.serial)
  | .fade fading => some (.fade, fading.serial)
  | .shift moving => some (.shift moving.entity, moving.serial)
  | .choreography dance =>
      some (.dance dance.token.entity dance.token.priority, dance.token.epoch)
  | .countdown _ => none

/-- The serial of a scroll that is under way. -/
def Camera.underWay? (camera : Camera) : Option UInt32 :=
  if camera.scrolling then some camera.serial else none

/-- The serial of a fade that is under way. -/
def Fade.underWay? (fade : Fade) : Option UInt32 :=
  if fade.active then some fade.serial else none

/-- The serial of a shift that is under way. -/
def Actor.underWay? (actor : Actor) : Option UInt32 :=
  if actor.offsetMoving then some actor.offsetSerial else none

/-- The epoch of a lane that waits for a walk of the party. -/
def Lane.underWay? (lane : Lane) : Option UInt32 :=
  if lane.pauseReason? = some .choreography then some lane.epoch else none

theorem Lane.underWay?_eq_none {lane : Lane} (other : lane.pauseReason? ≠ some .choreography) :
    lane.underWay? = none := if_neg other

theorem ActorChange.underWay?_apply (actor : Actor) (change : ActorChange) :
    (change.apply actor).underWay? = actor.underWay? := by
  cases change <;> rfl

theorem StageChange.underWay?_apply (stage : Stage) (change : StageChange) :
    (change.apply stage).camera.underWay? = stage.camera.underWay? ∧
      (change.apply stage).fade = stage.fade := by
  cases change <;> exact ⟨rfl, rfl⟩

theorem Actor.underWay?_advance (actor : Actor) (idleLast : UInt8 → UInt16) :
    (actor.advance idleLast).underWay? = actor.underWay? := by
  have turned : actor.advanceTurn.underWay? = actor.underWay? := by
    unfold advanceTurn
    split <;> rfl
  have animated (actor : Actor) : (actor.advanceAnimation idleLast).underWay? = actor.underWay? := by
    unfold advanceAnimation
    dsimp only
    repeat' split
    all_goals rfl
  exact (animated _).trans turned

namespace World

variable (world : World)

/-- The serial of a motion that is under way. -/
def underWay? : Motion → Option UInt32
  | .scroll => world.stage.camera.underWay?
  | .fade => world.stage.fade.underWay?
  | .shift id => (world.actor? id).bind Actor.underWay?
  | .dance id priority => (world.lane? id priority).bind Lane.underWay?

/-- The activities that take a step in this frame or in the next one. -/
def queue : List Activity := world.activities ++ world.spawned.toList

/-- The frame with the activities of it and of the next one. -/
def agenda : Nat × List Activity × Array Activity :=
  (world.frame, world.activities, world.spawned)

/-- A motion with a serial is carried on by an activity. -/
def Carries (motion : Motion) (serial : UInt32) : Prop :=
  ∃ activity ∈ world.queue, activity.carries? = some (motion, serial)

/-- Every motion that is under way is carried on. -/
def Attended : Prop :=
  ∀ motion serial, world.underWay? motion = some serial → world.Carries motion serial

/-- From a world to a later one of the same frame the queue loses nothing, and what is newly under
way is carried on. -/
structure Continues (before after : World) : Prop where
  frame : after.frame = before.frame
  queued : ∀ activity ∈ before.queue, activity ∈ after.queue
  motions : ∀ motion serial, after.underWay? motion = some serial →
    before.underWay? motion = some serial ∨ after.Carries motion serial

section Continues

variable {world} {before after : World}

theorem queue_of_agenda (same : after.agenda = before.agenda) : after.queue = before.queue :=
  congrArg (fun agenda => agenda.2.1 ++ agenda.2.2.toList) same

theorem Continues.refl : world.Continues world := ⟨rfl, fun _ => id, fun _ _ => .inl⟩

theorem Continues.carries (continues : before.Continues after) {motion : Motion}
    {serial : UInt32} (carries : before.Carries motion serial) : after.Carries motion serial :=
  let ⟨activity, queued, carried⟩ := carries
  ⟨activity, continues.queued activity queued, carried⟩

theorem Continues.trans {later : World} (first : before.Continues after)
    (second : after.Continues later) : before.Continues later where
  frame := second.frame.trans first.frame
  queued activity queued := second.queued activity (first.queued activity queued)
  motions motion serial moves := by
    rcases second.motions motion serial moves with moved | carries
    · exact (first.motions motion serial moved).imp_right second.carries
    · exact .inr carries

theorem Attended.continues (attended : before.Attended) (continues : before.Continues after) :
    after.Attended := by
  intro motion serial moves
  rcases continues.motions motion serial moves with moved | carries
  · exact continues.carries (attended motion serial moved)
  · exact carries

/-- Where no motion is new, the queue may stay as it is. -/
theorem Continues.of_subsides (same : after.agenda = before.agenda)
    (motions : ∀ motion serial, after.underWay? motion = some serial →
      before.underWay? motion = some serial) : before.Continues after where
  frame := congrArg Prod.fst same
  queued _ queued := queue_of_agenda same ▸ queued
  motions motion serial moves := .inl (motions motion serial moves)

theorem Continues.of_eq (same : after.agenda = before.agenda)
    (motions : after.underWay? = before.underWay?) : before.Continues after :=
  .of_subsides same fun _ _ moves => motions ▸ moves

end Continues

/-! ## Changes of a world -/

theorem actor?_updateActor (id other : EntityId) (change : Actor → Actor) :
    (world.updateActor id change).actor? other =
      if other = id then (world.actor? other).map change else world.actor? other := by
  simp only [actor?, updateActor, entity?_updateEntity]
  split
  · cases world.entity? other <;> rfl
  · rfl

theorem underWay?_updateStage {change : Stage → Stage}
    (camera : (change world.stage).camera.underWay? = world.stage.camera.underWay?)
    (fade : (change world.stage).fade.underWay? = world.stage.fade.underWay?) :
    (world.updateStage change).underWay? = world.underWay? := by
  funext motion
  cases motion with
  | scroll => exact camera
  | fade => exact fade
  | _ => rfl

theorem underWay?_updateActor (id : EntityId) {change : Actor → Actor}
    (same : ∀ actor, (change actor).underWay? = actor.underWay?) :
    (world.updateActor id change).underWay? = world.underWay? := by
  funext motion
  cases motion with
  | shift other =>
      simp only [underWay?, actor?_updateActor]
      split
      · cases world.actor? other with
        | none => rfl
        | some actor => exact same actor
      · rfl
  | dance other priority =>
      have lanes := congrArg Roster.lane? (world.roster_updateActor id change)
      simp only [lane?_roster] at lanes
      simp only [underWay?, lanes]
  | _ => rfl

theorem underWay?_updateLane (id : EntityId) (priority : Nat) (change : Lane → Lane)
    (motion : Motion) :
    (world.updateLane id priority change).underWay? motion =
      if motion = .dance id priority then
        (world.lane? id priority).bind fun lane => (change lane).underWay?
      else world.underWay? motion := by
  cases motion with
  | shift other => simp [underWay?]
  | dance other index =>
      simp only [underWay?, lane?_updateLane, Motion.dance.injEq]
      split
      · next same =>
          obtain ⟨rfl, rfl⟩ := same
          cases world.lane? other index <;> rfl
      · rfl
  | _ => rfl

theorem continues_updateStage (change : Stage → Stage)
    (camera : (change world.stage).camera.underWay? = world.stage.camera.underWay?)
    (fade : (change world.stage).fade.underWay? = world.stage.fade.underWay?) :
    world.Continues (world.updateStage change) :=
  .of_eq rfl (world.underWay?_updateStage camera fade)

theorem continues_updateActor (id : EntityId) {change : Actor → Actor}
    (same : ∀ actor, (change actor).underWay? = actor.underWay?) :
    world.Continues (world.updateActor id change) :=
  .of_eq rfl (world.underWay?_updateActor id same)

/-- A lane may do anything but begin to wait for a walk. -/
theorem continues_updateLane (id : EntityId) (priority : Nat) {change : Lane → Lane}
    (kept : ∀ lane, (change lane).underWay? = none ∨ (change lane).underWay? = lane.underWay?) :
    world.Continues (world.updateLane id priority change) := by
  refine .of_subsides rfl fun motion serial moves => ?_
  rw [underWay?_updateLane] at moves
  split at moves
  · next same =>
      subst same
      cases here : world.lane? id priority with
      | none => simp [here] at moves
      | some lane =>
          rw [here, Option.bind_some] at moves
          rw [underWay?, here, Option.bind_some]
          rcases kept lane with still | same
          · rw [still] at moves
            cases moves
          · exact same ▸ moves
  · exact moves

theorem queue_spawn (activity : Activity) :
    (world.spawn activity).queue = world.queue ++ [activity] := by
  simp [queue, spawn]

theorem continues_changeWindow (id : Nat) (change : WindowChange) :
    world.Continues (world.updateStage (·.changeWindow id change)) := by
  have spared : ∀ stage : Stage, (stage.changeWindow id change).camera = stage.camera ∧
      (stage.changeWindow id change).fade = stage.fade := by
    intro stage
    unfold Stage.changeWindow
    split <;> exact ⟨rfl, rfl⟩
  obtain ⟨camera, fade⟩ := spared world.stage
  exact world.continues_updateStage (·.changeWindow id change) (congrArg Camera.underWay? camera)
    (congrArg Fade.underWay? fade)

theorem underWay?_spawn (activity : Activity) :
    (world.spawn activity).underWay? = world.underWay? := by
  funext motion
  cases motion <;> rfl

theorem continues_spawn (activity : Activity) : world.Continues (world.spawn activity) where
  frame := rfl
  queued found queued := by
    rw [queue_spawn]
    exact List.mem_append_left _ queued
  motions motion serial moves := .inl (world.underWay?_spawn activity ▸ moves)

/-- What was begun together with the activity that carries it on. -/
theorem continues_begin {begun : World} {motion : Motion} {serial : UInt32} {activity : Activity}
    (agenda : begun.agenda = world.agenda) (carried : activity.carries? = some (motion, serial))
    (began : begun.underWay? motion = some serial)
    (others : ∀ other, other ≠ motion → begun.underWay? other = world.underWay? other) :
    world.Continues (begun.spawn activity) where
  frame := congrArg Prod.fst agenda
  queued found queued := by
    rw [queue_spawn, queue_of_agenda agenda]
    exact List.mem_append_left _ queued
  motions other found moves := by
    rw [underWay?_spawn] at moves
    by_cases same : other = motion
    · subst same
      rw [began] at moves
      cases moves
      refine .inr ⟨activity, ?_, carried⟩
      rw [queue_spawn]
      exact List.mem_append_right _ (List.mem_singleton_self activity)
    · exact .inl (others other same ▸ moves)

/-- A motion that has ended, or is over at once, needs no activity. -/
theorem continues_end {ended : World} {motion : Motion} (agenda : ended.agenda = world.agenda)
    (still : ended.underWay? motion = none)
    (others : ∀ other, other ≠ motion → ended.underWay? other = world.underWay? other) :
    world.Continues ended := by
  refine .of_subsides agenda fun other serial moves => ?_
  by_cases same : other = motion
  · rw [same, still] at moves
    cases moves
  · exact others other same ▸ moves

/-! ## What instructions begin -/

/-- Changing the fade concerns no other motion. -/
theorem underWay?_withFade (fade : Fade) {motion : Motion} (other : motion ≠ .fade) :
    (world.updateStage fun stage => { stage with fade }).underWay? motion =
      world.underWay? motion := by
  cases motion with
  | fade => exact absurd rfl other
  | _ => rfl

/-- Changing the camera concerns no motion but a scroll. -/
theorem underWay?_withCamera (camera : Camera) {motion : Motion} (other : motion ≠ .scroll) :
    (world.updateStage fun stage => { stage with camera }).underWay? motion =
      world.underWay? motion := by
  cases motion with
  | scroll => exact absurd rfl other
  | _ => rfl

/-- Changing the body of an entity concerns no motion but a shift of its picture. -/
theorem underWay?_updateActor_other (id : EntityId) (change : Actor → Actor) {motion : Motion}
    (other : motion ≠ .shift id) :
    (world.updateActor id change).underWay? motion = world.underWay? motion := by
  cases motion with
  | shift found =>
      have apart : found ≠ id := fun same => other (congrArg Motion.shift same)
      simp only [underWay?, actor?_updateActor, if_neg apart]
  | dance found priority =>
      have lanes := congrArg Roster.lane? (world.roster_updateActor id change)
      simp only [lane?_roster] at lanes
      simp only [underWay?, lanes]
  | _ => rfl

theorem underWay?_updateActor_self {id : EntityId} {actor : Actor}
    (known : world.actor? id = some actor) (change : Actor → Actor) :
    (world.updateActor id change).underWay? (.shift id) = (change actor).underWay? := by
  simp [underWay?, actor?_updateActor, known]

theorem continues_beginFade (color : FadeColor) (start target step : UInt16)
    (subtractive : Bool) :
    world.Continues (world.beginFade color start target step subtractive) := by
  unfold beginFade
  dsimp only
  split
  · next active =>
      refine world.continues_begin rfl rfl ?_ fun motion other => world.underWay?_withFade _ other
      simp [underWay?, Fade.underWay?, updateStage, active]
  · next still =>
      refine world.continues_end rfl ?_ fun motion other => world.underWay?_withFade _ other
      simpa [underWay?, Fade.underWay?, updateStage] using still

theorem continues_clearFade : world.Continues world.clearFade :=
  world.continues_end rfl rfl fun _ other => world.underWay?_withFade _ other

theorem continues_beginScroll (target : ScrollTarget) (frames : UInt16) (easing : Easing) :
    world.Continues (world.beginScroll target frames easing) := by
  unfold beginScroll
  dsimp only
  split
  · exact world.continues_end rfl rfl fun motion other => world.underWay?_withCamera _ other
  · exact world.continues_begin rfl rfl rfl fun motion other => world.underWay?_withCamera _ other

theorem continues_beginShift (id : EntityId) (goal : Displacement) (frames : UInt16)
    (easing : Easing) : world.Continues (world.beginShift id goal frames easing) := by
  unfold beginShift
  cases known : world.actor? id with
  | none => exact .refl
  | some actor =>
      dsimp only
      split
      · refine world.continues_end rfl (world.underWay?_updateActor_self known _) ?_
        exact fun motion other => world.underWay?_updateActor_other id _ other
      · refine world.continues_begin rfl rfl (world.underWay?_updateActor_self known _) ?_
        exact fun motion other => world.underWay?_updateActor_other id _ other

/-! ## Lanes that are woken -/

/-- Waking begins nothing, and ends the walk that the token names. -/
theorem underWay?_of_wake {token : ResumeToken} {motion : Motion} {serial : UInt32}
    (moves : (world.wake token).1.underWay? motion = some serial) :
    world.underWay? motion = some serial ∧
      (motion, serial) ≠ (.dance token.entity token.priority, token.epoch) := by
  unfold wake at moves
  split at moves
  · next deaf =>
      refine ⟨moves, ?_⟩
      rintro ⟨⟩
      simp only [underWay?] at moves
      cases here : world.lane? token.entity token.priority with
      | none => simp [here] at moves
      | some lane =>
          simp only [here, Option.bind_some, Lane.wake?_eq, Lane.underWay?] at deaf moves
          split at moves
          · next waits =>
              simp only [Option.some.injEq] at moves
              simp [moves, waits] at deaf
          · cases moves
  · next woken reason heard =>
      rw [underWay?_updateLane] at moves
      split at moves
      · cases here : world.lane? token.entity token.priority with
        | none => simp [here] at moves
        | some lane =>
            simp only [here, Option.bind_some, Lane.wake?_eq] at heard moves
            split at heard
            · obtain ⟨found, -, same⟩ := Option.map_eq_some_iff.mp heard
              cases same
              rw [Lane.underWay?_eq_none (by simp)] at moves
              cases moves
            · cases heard
      · next apart =>
          refine ⟨moves, ?_⟩
          rintro ⟨⟩
          exact apart rfl

theorem agenda_wake (token : ResumeToken) : (world.wake token).1.agenda = world.agenda := by
  unfold wake
  split <;> rfl

theorem continues_wake (token : ResumeToken) : world.Continues (world.wake token).1 :=
  .of_subsides (world.agenda_wake token) fun _ _ moves => (world.underWay?_of_wake moves).1

end World

/-! ## Activities -/

namespace Scroll

variable (moving : Scroll) (frame : Nat) (world : World)

/-- A scroll of its own serial that is still under way goes on. -/
theorem underWay?_of_run {serial : UInt32}
    (moves : (moving.run frame world).1.underWay? .scroll = some serial) :
    world.underWay? .scroll = some serial ∧
      (moving.serial = serial →
        ∃ left, (moving.run frame world).2.1 = some left ∧ left.serial = serial) := by
  unfold run at moves ⊢
  dsimp only at moves ⊢
  split at moves
  · next superseded =>
      rw [if_pos superseded]
      refine ⟨moves, fun own => absurd ?_ superseded⟩
      simp only [World.underWay?, Camera.underWay?] at moves
      split at moves
      · exact (Option.some.inj moves).trans own.symm
      · cases moves
  · next own =>
      rw [if_neg own]
      split at moves
      · cases moves
      · split at moves
        · next arrived => cases moves
        · next lasts =>
            rw [if_neg lasts]
            exact ⟨moves, fun same => ⟨_, rfl, same⟩⟩

end Scroll

namespace Fading

variable (fading : Fading) (frame : Nat) (world : World)

theorem underWay?_of_run {serial : UInt32}
    (moves : (fading.run frame world).1.underWay? .fade = some serial) :
    world.underWay? .fade = some serial ∧
      (fading.serial = serial →
        ∃ left, (fading.run frame world).2.1 = some left ∧ left.serial = serial) := by
  unfold run at moves ⊢
  dsimp only at moves ⊢
  split at moves
  · next superseded =>
      rw [if_pos superseded]
      refine ⟨moves, fun own => ?_⟩
      simp only [World.underWay?, Fade.underWay?] at moves
      split at moves
      · next active =>
          simp [active, Option.some.inj moves, own] at superseded
      · cases moves
  · next own =>
      rw [if_neg own]
      split at moves
      · next arrived => cases moves
      · next lasts =>
          rw [if_neg lasts]
          exact ⟨moves, fun same => ⟨_, rfl, same⟩⟩

end Fading

namespace Shift

variable (moving : Shift) (world : World)

theorem underWay?_of_run {serial : UInt32}
    (moves : (moving.run world).1.underWay? (.shift moving.entity) = some serial) :
    world.underWay? (.shift moving.entity) = some serial ∧
      (moving.serial = serial → ∃ left, (moving.run world).2 = some left ∧
        left.entity = moving.entity ∧ left.serial = serial) := by
  unfold run at moves ⊢
  cases known : world.actor? moving.entity with
  | none => simp [known, World.underWay?] at moves
  | some actor =>
      simp only [known] at moves ⊢
      split at moves
      · next superseded =>
          rw [if_pos superseded]
          refine ⟨moves, fun own => absurd ?_ superseded⟩
          simp only [World.underWay?, known, Option.bind_some, Actor.underWay?] at moves
          split at moves
          · exact (Option.some.inj moves).trans own.symm
          · cases moves
      · next own =>
          rw [if_neg own]
          split at moves
          · next arrived =>
              rw [World.underWay?_updateActor_self world known] at moves
              cases moves
          · next lasts =>
              rw [if_neg lasts]
              rw [World.underWay?_updateActor_self world known] at moves
              have before : actor.underWay? = some serial := moves
              refine ⟨?_, fun same => ⟨_, rfl, rfl, same⟩⟩
              rw [World.underWay?, known, Option.bind_some, before]

end Shift

/-- Walking changes no motion. -/
theorem Walk.underWay?_run (walk : Walk) (share : Float32) (world : World) :
    (walk.run share world).1.underWay? = world.underWay? := by
  unfold Walk.run
  split
  · rfl
  · dsimp only
    split
    · exact world.underWay?_updateActor walk.entity fun _ => rfl
    · exact world.underWay?_updateActor walk.entity fun _ => rfl

theorem Shift.agenda_run (moving : Shift) (world : World) :
    (moving.run world).1.agenda = world.agenda := by
  rcases moving.world_run world with same | ⟨change, same⟩ <;> rw [same]
  rfl

theorem Walk.agenda_run (walk : Walk) (share : Float32) (world : World) :
    (walk.run share world).1.agenda = world.agenda := by
  rcases walk.world_run share world with same | ⟨change, same⟩ <;> rw [same]
  rfl

theorem Walk.agenda_runAll (share : Float32) (walks : List Walk) (world : World) :
    (Walk.runAll share walks world).1.agenda = world.agenda := by
  induction walks generalizing world with
  | nil => rfl
  | cons walk rest ih =>
      unfold Walk.runAll
      dsimp only
      rw [ih, walk.agenda_run]

theorem Walk.underWay?_runAll (share : Float32) (walks : List Walk) (world : World) :
    (Walk.runAll share walks world).1.underWay? = world.underWay? := by
  induction walks generalizing world with
  | nil => rfl
  | cons walk rest ih =>
      unfold Walk.runAll
      dsimp only
      rw [ih, walk.underWay?_run]

theorem Machine.world_wake {σ : Type} (machine : Machine σ) (token : ResumeToken) :
    (machine.wake token).1.world = (machine.world.wake token).1 := by
  unfold Machine.wake
  cases here : machine.world.lane? token.entity token.priority with
  | none => simp [World.wake, here]
  | some lane => rfl

namespace Activity

variable {σ : Type}

theorem world_scroll (setting : Setting σ) (frame : Nat) (moving : Scroll)
    (machine : Machine σ) :
    ((Activity.scroll moving).run setting frame machine).1.world =
      (moving.run frame machine.world).1 := by
  unfold run
  dsimp only
  cases (moving.run frame machine.world).2.2 <;> rfl

theorem world_fade (setting : Setting σ) (frame : Nat) (fading : Fading) (machine : Machine σ) :
    ((Activity.fade fading).run setting frame machine).1.world =
      (fading.run frame machine.world).1 := by
  unfold run
  dsimp only
  cases (fading.run frame machine.world).2.2 <;> rfl

/-- A step of an activity begins no motion; and a motion of its own that is still under way is
carried on by what is left of it. -/
theorem underWay?_of_run (setting : Setting σ) (frame : Nat) (activity : Activity)
    (machine : Machine σ) {motion : Motion} {serial : UInt32}
    (moves : (activity.run setting frame machine).1.world.underWay? motion = some serial) :
    machine.world.underWay? motion = some serial ∧
      (activity.carries? = some (motion, serial) →
        ∃ left, (activity.run setting frame machine).2 = some left ∧
          left.carries? = some (motion, serial)) := by
  cases activity with
  | scroll moving =>
      rw [world_scroll] at moves
      by_cases own : motion = .scroll
      · subst own
        obtain ⟨before, goesOn⟩ := moving.underWay?_of_run frame machine.world moves
        refine ⟨before, fun carried => ?_⟩
        obtain ⟨left, kept, same⟩ := goesOn (by simpa [carries?] using carried)
        exact ⟨.scroll left, by simp [run, kept], by simp [carries?, same]⟩
      · obtain ⟨camera, changed⟩ := moving.world_run frame machine.world
        rw [changed, World.underWay?_withCamera _ camera own] at moves
        exact ⟨moves, fun carried => absurd (by simp_all [carries?]) own⟩
  | fade fading =>
      rw [world_fade] at moves
      by_cases own : motion = .fade
      · subst own
        obtain ⟨before, goesOn⟩ := fading.underWay?_of_run frame machine.world moves
        refine ⟨before, fun carried => ?_⟩
        obtain ⟨left, kept, same⟩ := goesOn (by simpa [carries?] using carried)
        exact ⟨.fade left, by simp [run, kept], by simp [carries?, same]⟩
      · obtain ⟨fade, changed⟩ := fading.world_run frame machine.world
        rw [changed, World.underWay?_withFade _ fade own] at moves
        exact ⟨moves, fun carried => absurd (by simp_all [carries?]) own⟩
  | shift moving =>
      have moves : (moving.run machine.world).1.underWay? motion = some serial := moves
      by_cases own : motion = .shift moving.entity
      · subst own
        obtain ⟨before, goesOn⟩ := moving.underWay?_of_run machine.world moves
        refine ⟨before, fun carried => ?_⟩
        obtain ⟨left, kept, named, same⟩ := goesOn (by simpa [carries?] using carried)
        exact ⟨.shift left, by simp [run, kept], by simp [carries?, named, same]⟩
      · have before : machine.world.underWay? motion = some serial := by
          rcases moving.world_run machine.world with same | ⟨change, same⟩
          · exact same ▸ moves
          · rwa [same, World.underWay?_updateActor_other _ _ _ own] at moves
        exact ⟨before, fun carried => absurd (by simp_all [carries?]) own⟩
  | choreography dance =>
      have walked := Walk.underWay?_runAll (elapsedShare (dance.step + 1) dance.frames) dance.walks
        machine.world
      unfold run at moves ⊢
      dsimp only at moves ⊢
      split at moves
      · rw [Machine.world_wake] at moves
        obtain ⟨before, apart⟩ := World.underWay?_of_wake _ moves
        refine ⟨walked ▸ before, fun carried => absurd ?_ apart⟩
        simpa [carries?, eq_comm] using carried
      · next lasts =>
          rw [if_neg lasts]
          exact ⟨walked ▸ moves, fun carried => ⟨_, rfl, carried⟩⟩
  | countdown timer =>
      refine ⟨?_, fun carried => by cases carried⟩
      unfold run at moves
      dsimp only at moves
      split at moves
      · split at moves
        · simpa using moves
        · simp only [Machine.world_notify, Machine.world_wake] at moves
          exact (World.underWay?_of_wake _ moves).1
      · simpa using moves

/-- Activities queue nothing. -/
theorem agenda_run (setting : Setting σ) (frame : Nat) (activity : Activity)
    (machine : Machine σ) :
    (activity.run setting frame machine).1.world.agenda = machine.world.agenda := by
  cases activity with
  | scroll moving =>
      obtain ⟨camera, changed⟩ := moving.world_run frame machine.world
      rw [world_scroll, changed]
      rfl
  | fade fading =>
      obtain ⟨fade, changed⟩ := fading.world_run frame machine.world
      rw [world_fade, changed]
      rfl
  | shift moving => exact moving.agenda_run machine.world
  | choreography dance =>
      have walked := Walk.agenda_runAll (elapsedShare (dance.step + 1) dance.frames) dance.walks
        machine.world
      unfold run
      dsimp only
      split
      · rw [Machine.world_wake, World.agenda_wake]
        exact walked
      · exact walked
  | countdown timer =>
      unfold run
      dsimp only
      split
      · split
        · simp
        · simp [Machine.world_wake, World.agenda_wake]
      · simp

end Activity

/-! ## Effects -/

namespace Effect

variable {σ : Type} (setting : Setting σ)

theorem continues_perform (machine : Machine σ) (effect : Effect) :
    machine.world.Continues (effect.perform setting machine).1.world := by
  cases effect with
  | log entry => exact .refl
  | store selector address value => simpa [perform] using .refl
  | drawByte selector address => simpa [perform] using .refl
  | reseed seed =>
      -- The kernel must not be made to grow the random numbers here.
      have same := machine.world_withRandom (.ofSeed seed)
      simp only [perform, same]
      exact .refl
  | actor id change => exact machine.world.continues_updateActor id change.underWay?_apply
  | window id change => exact machine.world.continues_changeWindow id change
  | stage change =>
      obtain ⟨camera, fade⟩ := change.underWay?_apply machine.world.stage
      exact machine.world.continues_updateStage (change.apply ·) camera (congrArg Fade.underWay? fade)
  | session change => exact .refl
  | party change => simpa [perform] using .refl
  | background area mask =>
      simp only [perform, Machine.world_notify, Machine.updateWorld]
      exact machine.world.continues_updateStage _ rfl rfl
  | livePalette id palette =>
      simp only [perform, Machine.world_notify, Machine.updateWorld]
      exact machine.world.continues_updateStage _ rfl rfl
  | lockTriangle triangle locked =>
      simp only [perform, Machine.world_notify, Machine.updateWorld]
      exact machine.world.continues_updateStage _ rfl rfl
  | fade color start target step subtractive =>
      simp only [perform, Machine.updateWorld]
      exact machine.world.continues_beginFade color start target step subtractive
  | clearFade => exact machine.world.continues_clearFade
  | scroll target frames easing =>
      simp only [perform, Machine.updateWorld]
      exact machine.world.continues_beginScroll target frames easing
  | shift id goal frames easing =>
      simp only [perform, Machine.updateWorld]
      exact machine.world.continues_beginShift id goal frames easing
  | choreography walks frames token => exact machine.world.continues_spawn _
  | notify notice => simpa [perform] using .refl
  | startLane id priority entry script onStop =>
      exact machine.world.continues_updateLane id priority fun lane => .inl rfl
  | recordMain id priority entry =>
      exact machine.world.continues_updateLane id priority fun lane => .inr rfl

theorem continues_performAll (machine : Machine σ) (effects : List Effect) :
    machine.world.Continues (performAll setting machine effects).1.world := by
  induction effects generalizing machine with
  | nil => exact .refl
  | cons effect rest ih =>
      have first := continues_perform setting machine effect
      unfold performAll
      split
      · next next performed =>
          rw [performed] at first
          exact first.trans (ih next)
      · next next error performed => simpa only [performed] using first

/-- Changes of one body, carried out one after the other. -/
theorem performAll_changes (machine : Machine σ) (id : EntityId) (changes : List ActorChange) :
    ∃ world : World, performAll setting machine (changes.map (.actor id)) =
        ({ machine with world }, none) ∧
      world.roster = machine.world.roster ∧ world.spawned = machine.world.spawned ∧
      ∀ other, world.actor? other = if other = id then
        (machine.world.actor? other).map (changes.foldl ActorChange.apply) else
        machine.world.actor? other := by
  induction changes generalizing machine with
  | nil => exact ⟨machine.world, rfl, rfl, rfl, fun other => by simp⟩
  | cons change rest ih =>
      obtain ⟨world, done, roster, spawned, actors⟩ :=
        ih (machine.updateWorld (·.updateActor id (change.apply ·)))
      refine ⟨world, done, roster.trans (World.roster_updateActor ..), spawned, fun other => ?_⟩
      rw [actors, show (machine.updateWorld (·.updateActor id (change.apply ·))).world =
        machine.world.updateActor id (change.apply ·) from rfl, World.actor?_updateActor]
      split
      · rw [Option.map_map]
        rfl
      · rfl

end Effect

end FieldMachine
