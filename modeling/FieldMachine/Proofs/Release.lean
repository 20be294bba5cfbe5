import FieldMachine.Proofs.Polling
import FieldMachine.Proofs.Upkeep

/-!
# Nobody waits for nothing

A lane that waits for a scroll, a fade, a shift or a walk of the party waits for
a motion, and every motion that is under way is carried on by an activity
(`Machine.Visited.attended`).  An activity takes a step in every frame.  As long
as it has not ended it carries on the same motion, and where the motion that it
carries on ends with it, nobody waits for it any longer
(`Activity.released_of_run`).
-/

namespace FieldMachine

set_option autoImplicit false

/-- The motion that an opcode waits for, on a lane of an entity. -/
def Opcode.awaits? (op : Opcode) (id : EntityId) : Option Motion :=
  match op with
  | .scrlw => some .scroll
  | .fadew => some .fade
  | .ofstw => some (.shift id)
  | _ => none

/-- Such an opcode is tried again just as long as its motion is under way. -/
theorem Opcode.polls_iff_underWay {op : Opcode} {scene : Scene} {motion : Motion}
    (awaits : op.awaits? scene.entity = some motion) (cursor : Cursor) :
    op.Polls scene cursor ↔ (scene.world.underWay? motion).isSome := by
  cases op with
  | scrlw | fadew =>
      cases awaits
      simp [Polls, World.underWay?, Camera.underWay?, Fade.underWay?]
  | ofstw =>
      cases awaits
      cases known : scene.world.actor? scene.entity <;>
        simp [Polls, World.underWay?, Actor.underWay?, known]
  | _ => cases awaits

/-! ## Steps of activities -/

theorem Scroll.serial_of_left {moving left : Scroll} {frame : Nat} {world : World}
    (kept : (moving.run frame world).2.1 = some left) : left.serial = moving.serial := by
  unfold run at kept
  dsimp only at kept
  split at kept
  · cases kept
  · split at kept
    · cases kept
    · split at kept
      · cases kept
      · cases kept
        rfl

theorem Fading.eq_of_left {fading left : Fading} {frame : Nat} {world : World}
    (kept : (fading.run frame world).2.1 = some left) : left = fading := by
  unfold run at kept
  dsimp only at kept
  split at kept
  · cases kept
  · split at kept
    · cases kept
    · cases kept
      rfl

theorem Shift.named_of_left {moving left : Shift} {world : World}
    (kept : (moving.run world).2 = some left) :
    left.entity = moving.entity ∧ left.serial = moving.serial := by
  unfold run at kept
  split at kept
  · cases kept
  · split at kept
    · cases kept
    · dsimp only at kept
      split at kept
      · cases kept
      · cases kept
        exact ⟨rfl, rfl⟩

namespace Activity

variable {σ : Type} (setting : Setting σ) (frame : Nat) (activity : Activity) (machine : Machine σ)

/-- What is left of an activity carries on the same motion. -/
theorem carries?_of_left {left : Activity}
    (kept : (activity.run setting frame machine).2 = some left) :
    left.carries? = activity.carries? := by
  cases activity with
  | scroll moving =>
      obtain ⟨rest, stays, rfl⟩ := Option.map_eq_some_iff.mp kept
      have same : rest.serial = moving.serial := Scroll.serial_of_left stays
      simp only [carries?, same]
  | fade fading =>
      obtain ⟨rest, stays, rfl⟩ := Option.map_eq_some_iff.mp kept
      have same : rest = fading := Fading.eq_of_left stays
      rw [same]
  | shift moving =>
      obtain ⟨rest, stays, rfl⟩ := Option.map_eq_some_iff.mp kept
      have same : rest.entity = moving.entity ∧ rest.serial = moving.serial :=
        Shift.named_of_left stays
      simp only [carries?, same]
  | choreography dance =>
      unfold run at kept
      dsimp only at kept
      split at kept <;> cases kept
      rfl
  | countdown timer =>
      unfold run at kept
      dsimp only at kept
      split at kept
      · split at kept <;> cases kept
      · cases kept
        rfl

/-- Where an activity ends, the motion that it carried on is over. -/
theorem released_of_run {motion : Motion} {serial : UInt32}
    (carries : activity.carries? = some (motion, serial))
    (moves : machine.world.underWay? motion = some serial)
    (ended : (activity.run setting frame machine).2 = none) :
    (activity.run setting frame machine).1.world.underWay? motion = none := by
  cases later : (activity.run setting frame machine).1.world.underWay? motion with
  | none => rfl
  | some found =>
      obtain ⟨before, goesOn⟩ := activity.underWay?_of_run setting frame machine later
      obtain rfl : serial = found := Option.some.inj (moves.symm.trans before)
      obtain ⟨left, kept, -⟩ := goesOn carries
      cases ended.symm.trans kept

end Activity

/-! ## What is under way -/

namespace World.Attended

variable {world : World}

theorem scroll (attended : world.Attended) (scrolling : world.stage.camera.scrolling) :
    ∃ moving, .scroll moving ∈ world.queue ∧ moving.serial = world.stage.camera.serial := by
  obtain ⟨activity, queued, carries⟩ := attended .scroll _ (if_pos scrolling)
  cases activity with
  | scroll moving => exact ⟨moving, queued, congrArg Prod.snd (Option.some.inj carries)⟩
  | _ => cases carries

theorem fade (attended : world.Attended) (active : world.stage.fade.active) :
    ∃ fading, .fade fading ∈ world.queue ∧ fading.serial = world.stage.fade.serial := by
  obtain ⟨activity, queued, carries⟩ := attended .fade _ (if_pos active)
  cases activity with
  | fade fading => exact ⟨fading, queued, congrArg Prod.snd (Option.some.inj carries)⟩
  | _ => cases carries

theorem shift (attended : world.Attended) {id : EntityId} {actor : Actor}
    (known : world.actor? id = some actor) (moves : actor.offsetMoving) :
    ∃ moving, .shift moving ∈ world.queue ∧ moving.entity = id ∧
      moving.serial = actor.offsetSerial := by
  have under : world.underWay? (.shift id) = some actor.offsetSerial := by
    simp [underWay?, known, Actor.underWay?, moves]
  obtain ⟨activity, queued, carries⟩ := attended _ _ under
  cases activity with
  | shift moving =>
      obtain ⟨motion, serial⟩ := Prod.mk.inj (Option.some.inj carries)
      exact ⟨moving, queued, Motion.shift.inj motion, serial⟩
  | _ => cases carries

/-- A lane that waits for a walk of the party is named by the walk. -/
theorem dance (attended : world.Attended) {id : EntityId} {priority : Nat} {lane : Lane}
    (here : world.lane? id priority = some lane)
    (waits : lane.pauseReason? = some .choreography) :
    ∃ dance, .choreography dance ∈ world.queue ∧ dance.token = lane.token id priority := by
  have under : world.underWay? (.dance id priority) = some lane.epoch := by
    simp [underWay?, here, Lane.underWay?, waits]
  obtain ⟨activity, queued, carries⟩ := attended _ _ under
  cases activity with
  | choreography dance =>
      obtain ⟨motion, epoch⟩ := Prod.mk.inj (Option.some.inj carries)
      obtain ⟨entity, level⟩ := Motion.dance.inj motion
      refine ⟨dance, queued, ?_⟩
      rw [Lane.token, ← entity, ← level, ← epoch]
  | _ => cases carries

end World.Attended

namespace Machine

variable {σ : Type} {setting : Setting σ}

/-- Nobody waits for nothing, in every state that a field can be seen in.

A scroll or a fade that is under way, or the shift of an entity, is carried on by an activity of its
own serial; and a lane that waits for a walk of the party is named by the walk.  Each of these
activities takes a step in this frame or in the next one.  So a wait for a scroll, a fade or a shift
that is tried again has an activity to wait for.

In a step, whenever it is taken, an activity ends or carries on the same motion; and if it ends, the
motion is over, so that what waited for it goes on. -/
theorem nobody_waits_in_vain {machine : Machine σ} (visited : Visited setting machine) :
    (machine.world.stage.camera.scrolling → ∃ moving, .scroll moving ∈ machine.world.queue ∧
      moving.serial = machine.world.stage.camera.serial) ∧
    (machine.world.stage.fade.active → ∃ fading, .fade fading ∈ machine.world.queue ∧
      fading.serial = machine.world.stage.fade.serial) ∧
    (∀ id actor, machine.world.actor? id = some actor → actor.offsetMoving →
      ∃ moving, .shift moving ∈ machine.world.queue ∧ moving.entity = id ∧
        moving.serial = actor.offsetSerial) ∧
    (∀ id priority lane, machine.world.lane? id priority = some lane →
      lane.pauseReason? = some .choreography →
      ∃ dance, .choreography dance ∈ machine.world.queue ∧ dance.token = lane.token id priority) ∧
    (∀ id priority ip lane op motion entries next,
      setting.source.code[ip]? = some (Opcode.byte op) → op.awaits? id = some motion →
      workOut setting.source.code (machine.sceneOf setting id priority ip lane) ip lane.suspended? =
        .ok (.retry entries, next) →
      ∃ serial, machine.world.underWay? motion = some serial ∧
        machine.world.Carries motion serial) ∧
    ∀ (later : Machine σ) frame activity motion serial,
      Activity.carries? activity = some (motion, serial) →
      later.world.underWay? motion = some serial →
      match activity.run setting frame later with
      | (after, none) => after.world.underWay? motion = none
      | (_, some left) => left.carries? = some (motion, serial) := by
  have attended := visited.attended
  refine ⟨attended.scroll, attended.fade, fun id actor => attended.shift,
    fun id priority lane => attended.dance, ?polled, ?step⟩
  case polled =>
    intro id priority ip lane op motion entries next stands awaits worked
    obtain ⟨-, found, same, polls⟩ := polls_of_retry worked
    obtain rfl : found = op := Opcode.byte_injective (Option.some.inj (same.symm.trans stands))
    have under := (Opcode.polls_iff_underWay awaits _).mp polls
    obtain ⟨serial, moves⟩ := Option.isSome_iff_exists.mp under
    exact ⟨serial, moves, attended motion serial moves⟩
  case step =>
    intro later frame activity motion serial carries moves
    split
    · next after ended =>
        have still := activity.released_of_run setting frame later carries moves (by rw [ended])
        rwa [ended] at still
    · next after left kept =>
        rw [activity.carries?_of_left setting frame later (by rw [kept]), carries]

/-- Where much goes on at once, a scroll, a fade, a shift and a walk of the party are under way, and
the lane that waits for the scroll has a scroll to wait for. -/
theorem bustle_waits_in_hope :
    (∃ moving, .scroll moving ∈ Bustle.teeming.world.queue ∧
      moving.serial = Bustle.teeming.world.stage.camera.serial) ∧
    (∃ fading, .fade fading ∈ Bustle.teeming.world.queue ∧
      fading.serial = Bustle.teeming.world.stage.fade.serial) ∧
    (∃ moving, .shift moving ∈ Bustle.teeming.world.queue ∧ moving.entity = 1) ∧
    (∃ dance, .choreography dance ∈ Bustle.teeming.world.queue ∧ dance.token = ⟨0, 0, 1⟩) ∧
    ∃ serial, Bustle.teeming.world.underWay? .scroll = some serial ∧
      Bustle.teeming.world.Carries .scroll serial := by
  obtain ⟨scrolls, fades, shifts, dances, polled, -⟩ := nobody_waits_in_vain Bustle.visited_teeming
  have moves : (Bustle.teeming.world.actor? 1).map Actor.offsetMoving = some true := by
    decide +kernel
  obtain ⟨actor, known, moves⟩ := Option.map_eq_some_iff.mp moves
  have gathers : Bustle.teeming.world.lane? 0 0 =
      some { status := .paused 6 .choreography none, epoch := 1 } := by decide +kernel
  obtain ⟨moving, queued, named, -⟩ := shifts 1 actor known moves
  exact ⟨scrolls (by decide +kernel), fades (by decide +kernel), ⟨moving, queued, named⟩,
    dances 0 0 _ gathers rfl,
    polled 1 0 36 Bustle.watcher .scrlw .scroll [] 37 (by decide +kernel) rfl Bustle.watcher_polls⟩

end Machine

end FieldMachine
