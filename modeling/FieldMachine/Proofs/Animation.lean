import FieldMachine.Proofs.Pose
import FieldMachine.Proofs.Waiting

/-!
# How long an animation holds a lane

Four opcodes play some frames of an animation once and wait for their end: a lane
that carries one of them out is suspended, and looks in each of its turns whether the
animation is still playing (`Machine.Awaits`).  The turns come first in a tick, and the
frames go on at its end, so a lane sees every frame in one tick and the end in the next.

As long as the lane gets its turns and nothing else touches the animation, each tick
leads from one frame to the next (`Machine.Performs.tick`), and the operations of the
host between the ticks lead nowhere (`Machine.Performs.make`).  From the first to the
last frame the lane is held; then it goes on (`Machine.animation_holds_lane`).
-/

namespace FieldMachine

set_option autoImplicit false

/-! ## Animations that play once -/

/-- Some frames of an animation that are played once, by an instruction of some bytes which waits for
their end. -/
structure Shot where
  id : UInt8
  first : UInt16
  last : UInt16
  /-- Whether the idle animation follows. -/
  toIdle : Bool
  size : Nat
deriving DecidableEq

namespace Shot

variable (shot : Shot)

/-- How many frames there are behind the first one. -/
def length : Nat := shot.last.toNat - shot.first.toNat

/-- The animation after some ticks. -/
def after (ticks : Nat) : Animation :=
  { Animation.once shot.id shot.first shot.last shot.toIdle with
    frame := (shot.first.toNat + ticks).toUInt16 }

/-- The animation as it is left, unless the idle one follows. -/
def stopped : Animation := { shot.after shot.length with playing := false }

theorem after_zero : shot.after 0 = .once shot.id shot.first shot.last shot.toIdle := by
  unfold after
  rw [Nat.add_zero, Nat.toUInt16, UInt16.ofNat_toNat]
  rfl

variable {shot} (ordered : shot.first ≤ shot.last) {ticks : Nat}
include ordered

theorem toNat_frame_after (inside : ticks ≤ shot.length) :
    (shot.after ticks).frame.toNat = shot.first.toNat + ticks := by
  have bound : shot.last.toNat < 65536 := shot.last.toNat_lt
  rw [UInt16.le_iff_toNat_le] at ordered
  unfold length at inside
  exact UInt16.toNat_ofNat_of_lt' (by show _ < 65536; omega)

/-- Before the last frame, a tick shows the next one. -/
theorem advance_after (early : ticks < shot.length) (idle : Animation) :
    (shot.after ticks).advance idle = shot.after (ticks + 1) := by
  have frame := toNat_frame_after ordered (Nat.le_of_lt early)
  have below : (shot.after ticks).frame < (shot.after ticks).last := by
    rw [UInt16.lt_iff_toNat_lt, frame]
    unfold length at early
    show _ < shot.last.toNat
    omega
  have next : (shot.after ticks).frame + 1 = (shot.first.toNat + (ticks + 1)).toUInt16 := by
    apply UInt16.toNat_inj.mp
    have later := toNat_frame_after ordered (Nat.succ_le_of_lt early)
    have bound : shot.last.toNat < 65536 := shot.last.toNat_lt
    rw [UInt16.lt_iff_toNat_lt] at below
    rw [UInt16.toNat_add, frame]
    refine Eq.trans ?_ later.symm
    show (shot.first.toNat + ticks + 1) % 65536 = _
    rw [frame] at below
    have inside : shot.first.toNat + ticks < shot.last.toNat := below
    omega
  unfold Animation.advance
  rw [if_neg (by simp [after, Animation.once]), if_pos below, next]
  rfl

/-- In the tick that has shown the last frame, the animation is over. -/
theorem advance_after_length (idle : Animation) :
    (shot.after shot.length).advance idle = if shot.toIdle then idle else shot.stopped := by
  have frame := toNat_frame_after ordered (Nat.le_refl _)
  have ended : ¬(shot.after shot.length).frame < (shot.after shot.length).last := by
    rw [UInt16.lt_iff_toNat_lt, frame]
    unfold length
    show ¬_ < shot.last.toNat
    omega
  unfold Animation.advance
  rw [if_neg (by simp [after, Animation.once]), if_neg ended, if_neg (by simp [after, Animation.once])]
  rfl

end Shot

/-! ## Instructions that play once and wait -/

namespace Acting

open Reading Section

variable {scene : Scene} {cursor : Cursor} {actor : Actor}

/-- What such an instruction comes to: it plays the frames, sets the speed, and is suspended. -/
def waitingPlan (id : EntityId) (shot : Shot) (speed : UInt8) : Plan :=
  .act [.actor id (.animate (.once shot.id shot.first shot.last shot.toIdle)),
    .actor id (.setAnimationSpeed speed.toUInt16)] (.suspend .animation)

theorem self_of_actor (known : scene.world.actor? scene.entity = some actor) :
    self scene cursor = .ok (actor, cursor) := by
  show actorOf scene.entity scene cursor = _
  rw [actorOf, bind_of_ok (show Reading.scene scene cursor = .ok (scene, cursor) from rfl), known]
  rfl

/-- The frames that an instruction plays which plays all of them. -/
def wholeShot (toIdle : Bool) (senses : Senses) (model : Option UInt8) (code : Array UInt8)
    (place : Nat) : Shot :=
  { id := byteAt code place, first := 0, last := senses.lastFrame model (byteAt code place), toIdle
    size := 3 }

/-- The frames that an instruction plays which plays a range of them; the last one is raised to the
first. -/
def rangeShot (toIdle : Bool) (code : Array UInt8) (place : Nat) : Shot :=
  let first := (byteAt code (place + 1)).toUInt16
  { id := byteAt code place, first, last := max (byteAt code (place + 2)).toUInt16 first, toIdle
    size := 5 }

theorem play_of_le (toIdle : Bool) (inside : cursor.pc + 2 ≤ cursor.code.size)
    (known : scene.world.actor? scene.entity = some actor) :
    ∃ speed, play toIdle true scene cursor =
      .ok (waitingPlan scene.entity (wholeShot toIdle scene.senses actor.model cursor.code cursor.pc)
        speed, cursor.forward 2) := by
  have whole (number : UInt16) : max number 0 = number := by
    show (if number ≤ 0 then 0 else number) = number
    split
    · next least => exact (UInt16.le_zero_iff.mp least).symm
    · rfl
  refine ⟨byteAt cursor.code (cursor.pc + 1), ?_⟩
  have second : byte scene (cursor.forward 1) =
      .ok (byteAt cursor.code (cursor.pc + 1), cursor.forward 2) := byte_of_le inside
  rw [play, bind_of_ok (byte_of_le (by omega)), bind_of_ok second,
    bind_of_ok (show senses scene (cursor.forward 2) = .ok (scene.senses, _) from rfl),
    bind_of_ok (self_of_actor known)]
  unfold playFrames
  rw [whole]
  rfl

theorem playRange_of_le (toIdle : Bool) (inside : cursor.pc + 4 ≤ cursor.code.size) :
    ∃ speed, playRange toIdle true scene cursor =
      .ok (waitingPlan scene.entity (rangeShot toIdle cursor.code cursor.pc) speed,
        cursor.forward 4) := by
  refine ⟨byteAt cursor.code (cursor.pc + 3), ?_⟩
  have second : byte scene (cursor.forward 1) =
      .ok (byteAt cursor.code (cursor.pc + 1), cursor.forward 2) :=
    byte_of_le (by show cursor.pc + 1 + 1 ≤ cursor.code.size; omega)
  have third : byte scene (cursor.forward 2) =
      .ok (byteAt cursor.code (cursor.pc + 2), cursor.forward 3) :=
    byte_of_le (by show cursor.pc + 2 + 1 ≤ cursor.code.size; omega)
  have fourth : byte scene (cursor.forward 3) =
      .ok (byteAt cursor.code (cursor.pc + 3), cursor.forward 4) := byte_of_le inside
  rw [playRange, bind_of_ok (byte_of_le (by omega)), bind_of_ok second, bind_of_ok third,
    bind_of_ok fourth]
  rfl

/-- While the animation plays, the rest of the instruction is suspended again. -/
theorem awaitEnd_eq (known : scene.world.actor? scene.entity = some actor) :
    awaitEnd scene cursor =
      .ok (if actor.animation.isBusy then .act [] (.suspend .animation) else .next [], cursor) := by
  rw [awaitEnd, bind_of_ok (self_of_actor known)]
  split <;> rfl

end Acting

/-- The lane suspended at a place, until its animation has ended and it goes on behind the
instruction. -/
def Lane.awaiting (lane : Lane) (ip next : Nat) (tries : UInt32) : Lane :=
  { lane with status := .active ip tries (some ⟨next, .animation⟩) lane.onStop? }

/-- A lane that is suspended counts one more try, whether or not it was before. -/
theorem Lane.rewind_awaiting (lane : Lane) (ip next : Nat) :
    (∃ tries, lane.rewind ip (some ⟨next, .animation⟩) = lane.awaiting ip next tries) ∧
      ∀ before, ∃ tries, (lane.awaiting ip next before).rewind ip (some ⟨next, .animation⟩) =
        lane.awaiting ip next tries :=
  ⟨⟨_, rfl⟩, fun _ => ⟨_, rfl⟩⟩

/-- The animation that an entity plays. -/
def World.animation? (world : World) (id : EntityId) : Option Animation :=
  (world.pose? id).map Pose.animation

namespace Machine

variable {σ : Type} {setting : Setting σ} {machine : Machine σ} {id : EntityId}
  {priority ip next : Nat} {lane : Lane} {animation : Animation} {op : Opcode} {shot : Shot}

/-- A lane has carried out an instruction that plays an animation, and waits for its end. -/
structure Awaits (machine : Machine σ) (id : EntityId) (priority : Nat) (lane : Lane)
    (ip next : Nat) (animation : Animation) : Prop where
  suspended : ∃ tries, machine.world.lane? id priority = some (lane.awaiting ip next tries)
  plays : machine.world.animation? id = some animation

variable (setting) in
/-- The frames that are played by the instruction of an entity at a place, if it is one that waits for
their end. -/
def shot? (id : EntityId) (ip : Nat) (machine : Machine σ) : Opcode → Option Shot
  | .anime1 => whole true
  | .anime2 => whole false
  | .canim1 => some (Acting.rangeShot true setting.source.code (ip + 1))
  | .canim2 => some (Acting.rangeShot false setting.source.code (ip + 1))
  | _ => none
where
  whole (toIdle : Bool) : Option Shot := (machine.world.actor? id).map fun actor =>
    Acting.wholeShot toIdle (machine.senses setting) actor.model setting.source.code (ip + 1)

/-- A lane belongs to an entity with a body. -/
theorem actor?_of_lane? (here : machine.world.lane? id priority = some lane) :
    ∃ actor, machine.world.actor? id = some actor := by
  obtain ⟨entity, known, -⟩ := Option.bind_eq_some_iff.mp here
  exact ⟨entity.actor, congrArg (Option.map Entity.actor) known⟩

/-- The frames to be played come one after the other. -/
theorem ordered_of_shot? (plays : machine.shot? setting id ip op = some shot) :
    shot.first ≤ shot.last := by
  have raised (first last : UInt16) : first ≤ max last first := by
    show first ≤ if last ≤ first then first else last
    split
    · exact UInt16.le_refl first
    · next above => exact UInt16.le_of_lt (UInt16.not_le.mp above)
  have zero (last : UInt16) : 0 ≤ last := UInt16.zero_le
  unfold shot? at plays
  split at plays
  · obtain ⟨actor, -, rfl⟩ := Option.map_eq_some_iff.mp plays
    exact zero _
  · obtain ⟨actor, -, rfl⟩ := Option.map_eq_some_iff.mp plays
    exact zero _
  · cases plays
    exact raised _ _
  · cases plays
    exact raised _ _
  · cases plays

/-- A lane that plays an animation and waits for its end is suspended. -/
theorem step_of_shot? (here : machine.world.lane? id priority = some lane) (active : lane.isActive)
    (stands : lane.ip? = some ip) (fresh : lane.suspended? = none)
    (opcode : setting.source.code[ip]? = some op.byte)
    (plays : machine.shot? setting id ip op = some shot)
    (inside : ip + shot.size ≤ setting.source.code.size) :
    ∃ speed, machine.step setting id priority =
      (machine.note (.executing id priority ip op.byte)).carryOut setting id priority ip
        (ip + shot.size) lane (Acting.waitingPlan id shot speed) := by
  have range (toIdle : Bool) (known : op.plan? = some (Acting.playRange toIdle true))
      (shown : shot = Acting.rangeShot toIdle setting.source.code (ip + 1)) :
      ∃ speed, machine.step setting id priority =
        (machine.note (.executing id priority ip op.byte)).carryOut setting id priority ip
          (ip + shot.size) lane (Acting.waitingPlan id shot speed) := by
    subst shown
    obtain ⟨speed, read⟩ := @Acting.playRange_of_le (machine.sceneOf setting id priority ip lane)
      ((Cursor.atStart setting.source.code ip).forward 1) toIdle inside
    exact ⟨speed, step_of_reading here active stands fresh opcode known read⟩
  have whole (toIdle : Bool) (known : op.plan? = some (Acting.play toIdle true))
      (shown : shot?.whole setting id ip machine toIdle = some shot) :
      ∃ speed, machine.step setting id priority =
        (machine.note (.executing id priority ip op.byte)).carryOut setting id priority ip
          (ip + shot.size) lane (Acting.waitingPlan id shot speed) := by
    obtain ⟨actor, body, rfl⟩ := Option.map_eq_some_iff.mp shown
    obtain ⟨speed, read⟩ := @Acting.play_of_le (machine.sceneOf setting id priority ip lane)
      ((Cursor.atStart setting.source.code ip).forward 1) actor toIdle inside body
    exact ⟨speed, step_of_reading here active stands fresh opcode known read⟩
  unfold shot? at plays
  split at plays
  · exact whole true rfl plays
  · exact whole false rfl plays
  · exact range true rfl (Option.some.inj plays).symm
  · exact range false rfl (Option.some.inj plays).symm
  · cases plays

/-- The lane is suspended, and the entity plays the first frame. -/
theorem awaits_of_shot? (here : machine.world.lane? id priority = some lane)
    (active : lane.isActive) (stands : lane.ip? = some ip) (fresh : lane.suspended? = none)
    (opcode : setting.source.code[ip]? = some op.byte)
    (plays : machine.shot? setting id ip op = some shot)
    (inside : ip + shot.size ≤ setting.source.code.size) :
    (machine.step setting id priority).2 = .holding ∧
      (machine.step setting id priority).1.Awaits id priority lane ip (ip + shot.size)
        (shot.after 0) := by
  obtain ⟨speed, stepped⟩ := step_of_shot? here active stands fresh opcode plays inside
  let played : World :=
    (machine.world.updateActor id fun actor =>
      { actor with animation := .once shot.id shot.first shot.last shot.toIdle }).updateActor id
        fun actor => { actor with animationSpeed := speed.toUInt16 }
  have world : (machine.step setting id priority).1.world =
      played.updateLane id priority (·.rewind ip (some ⟨ip + shot.size, .animation⟩)) := by
    rw [stepped]
    rfl
  have spared : played.lane? id priority = some lane := by
    rw [← World.lane?_roster, World.roster_updateActor, World.roster_updateActor,
      World.lane?_roster, here]
  obtain ⟨actor, body⟩ := actor?_of_lane? here
  obtain ⟨tries, suspended⟩ := (lane.rewind_awaiting ip (ip + shot.size)).1
  refine ⟨by rw [stepped]; rfl, ⟨tries, ?_⟩, ?_⟩
  · rw [world, World.lane?_updateLane, if_pos ⟨rfl, rfl⟩, spared, Option.map_some, suspended]
  · rw [world, World.animation?, World.pose?, World.actor?_updateLane]
    simp [played, World.actor?_updateActor, body, Actor.pose, shot.after_zero]

/-- A step of a lane that waits for the end of an animation. -/
theorem Awaits.step_eq (awaits : machine.Awaits id priority lane ip next animation)
    (inside : next ≤ setting.source.code.size) :
    machine.step setting id priority =
      if animation.isBusy then
        (machine.updateLane id priority (·.rewind ip (some ⟨next, .animation⟩)), .holding)
      else (machine.updateLane id priority (·.advance next), .goOn) := by
  obtain ⟨⟨tries, here⟩, plays⟩ := awaits
  obtain ⟨actor, body⟩ := actor?_of_lane? here
  have played : actor.animation = animation := by
    simpa [World.animation?, World.pose?, body, Actor.pose] using plays
  have moved : (Cursor.atStart setting.source.code ip).moveTo next =
      .ok { Cursor.atStart setting.source.code ip with pc := next } := if_pos inside
  have worked : workOut setting.source.code
      (machine.sceneOf setting id priority ip (lane.awaiting ip next tries)) ip
      (some ⟨next, .animation⟩) =
        .ok (if animation.isBusy then .act [] (.suspend .animation) else .next [], next) :=
    workOut_some_eq_ok.mpr ⟨_, _, moved, played ▸ Acting.awaitEnd_eq body, rfl⟩
  rw [step_eq_of_active setting here rfl rfl,
    show (lane.awaiting ip next tries).suspended? = some ⟨next, .animation⟩ from rfl, worked]
  cases animation.isBusy <;> rfl

/-- While the animation plays, the lane stays suspended. -/
theorem Awaits.step_of_busy (awaits : machine.Awaits id priority lane ip next animation)
    (inside : next ≤ setting.source.code.size) (busy : animation.isBusy) :
    (machine.step setting id priority).2 = .holding ∧
      (machine.step setting id priority).1.Awaits id priority lane ip next animation := by
  rw [awaits.step_eq inside, if_pos busy]
  obtain ⟨⟨before, here⟩, plays⟩ := awaits
  obtain ⟨tries, suspended⟩ := (lane.rewind_awaiting ip next).2 before
  refine ⟨rfl, ⟨tries, ?_⟩, ?_⟩
  · rw [← suspended]
    exact lane?_updateLane_self here (·.rewind ip (some ⟨next, .animation⟩))
  · rw [← plays]
    exact congrArg (Option.map Pose.animation) ((World.pose?_calm id).lane ..)

/-- When it has ended, the lane goes on behind the instruction. -/
theorem Awaits.step_of_idle (awaits : machine.Awaits id priority lane ip next animation)
    (inside : next ≤ setting.source.code.size) (idle : animation.isBusy = false) :
    (machine.step setting id priority).2 = .goOn ∧
      (machine.step setting id priority).1.world.lane? id priority = some (lane.advance next) ∧
      (machine.step setting id priority).1.world.pose? id = machine.world.pose? id := by
  rw [awaits.step_eq inside, if_neg (by simp [idle])]
  obtain ⟨⟨before, here⟩, -⟩ := awaits
  exact ⟨rfl, lane?_updateLane_self here (·.advance next), (World.pose?_calm id).lane ..⟩

end Machine

/-! ## While the animation plays -/

namespace Moment

variable {σ : Type}

/-- Whether a lane carries out its instruction at a moment. -/
def IsOf (moment : Moment σ) (id : EntityId) (priority : Nat) : Prop :=
  moment.id = id ∧ moment.priority = priority

instance (moment : Moment σ) (id : EntityId) (priority : Nat) :
    Decidable (moment.IsOf id priority) := inferInstanceAs (Decidable (_ ∧ _))

/-- Whether a moment that is not the lane's own changes no animation of its entity, nor is it one of a
higher lane of it. -/
def LetsPlay (setting : Setting σ) (id : EntityId) (priority : Nat) (moment : Moment σ) : Prop :=
  ¬moment.IsOf id priority →
    ¬(moment.id = id ∧ priority < moment.priority) ∧
      (moment.after setting).world.animation? id = moment.machine.world.animation? id

instance (setting : Setting σ) (id : EntityId) (priority : Nat) (moment : Moment σ) :
    Decidable (moment.LetsPlay setting id priority) :=
  inferInstanceAs (Decidable (¬moment.IsOf id priority → _))

/-- Whether this is so of some moments as long as the lane has not carried out an instruction. -/
def LetPlayBeforeTurn (setting : Setting σ) (id : EntityId) (priority : Nat)
    (moments : List (Moment σ)) : Prop :=
  ∀ before moment rest, moments = before ++ moment :: rest →
    (∀ earlier ∈ before, ¬earlier.IsOf id priority) → moment.LetsPlay setting id priority

end Moment

namespace Machine

variable {σ : Type} {setting : Setting σ} {machine first last : Machine σ} {id : EntityId}
  {priority ip next : Nat} {lane : Lane} {animation : Animation} {moments : List (Moment σ)}

namespace Awaits

/-- What happens elsewhere leaves the lane suspended. -/
theorem aside {event : Event} (awaits : machine.Awaits id priority lane ip next animation)
    (occurs : Occurs setting event machine last) (foreign : event ≠ .run id priority)
    (stays : event ≠ .remove id)
    (same : last.world.animation? id = machine.world.animation? id) :
    last.Awaits id priority lane ip next animation := by
  obtain ⟨⟨tries, here⟩, plays⟩ := awaits
  refine ⟨⟨tries, ?_⟩, same.trans plays⟩
  rcases occurs.step.keeps foreign stays here rfl with same | ⟨-, woken⟩
  · exact same
  · exact woken

/-- The same goes for many such events, whatever is shown after them. -/
theorem leave {allowed : Event → Prop} {shown : Animation}
    (awaits : machine.Awaits id priority lane ip next animation)
    (happens : RunOf setting allowed machine last)
    (foreign : ∀ event, allowed event → event ≠ .run id priority ∧ event ≠ .remove id)
    (plays : last.world.animation? id = some shown) :
    last.Awaits id priority lane ip next shown := by
  obtain ⟨⟨tries, here⟩, -⟩ := awaits
  exact ⟨⟨tries, (happens.leaves foreign here rfl).1 rfl⟩, plays⟩

/-- At every moment that lets it play, the lane stays suspended, its own included while the animation
has not ended. -/
theorem moment {moment : Moment σ}
    (awaits : moment.machine.Awaits id priority lane ip next animation)
    (inside : next ≤ setting.source.code.size) (lets : moment.LetsPlay setting id priority)
    (busy : moment.IsOf id priority → animation.isBusy) :
    (moment.after setting).Awaits id priority lane ip next animation := by
  by_cases own : moment.IsOf id priority
  · have stays := (awaits.step_of_busy inside (busy own)).2
    obtain ⟨rfl, rfl⟩ := own
    exact stays
  · have occurs : Occurs setting (.run moment.id moment.priority) moment.machine
        (moment.after setting) := .run moment.machine moment.id moment.priority
    refine awaits.aside occurs ?_ nofun (lets own).2
    intro same
    injection same with sameId samePriority
    exact own ⟨sameId, samePriority⟩

theorem train (train : Train setting moments first last)
    (awaits : first.Awaits id priority lane ip next animation)
    (inside : next ≤ setting.source.code.size)
    (lets : ∀ moment ∈ moments, moment.LetsPlay setting id priority)
    (busy : ∀ moment ∈ moments, moment.IsOf id priority → animation.isBusy) :
    last.Awaits id priority lane ip next animation ∧
      ∀ moment ∈ moments, moment.machine.Awaits id priority lane ip next animation := by
  induction train with
  | done machine => exact ⟨awaits, by simp⟩
  | moment moment rest ih =>
      rw [List.forall_mem_cons] at lets busy
      obtain ⟨arrives, others⟩ := ih (awaits.moment inside lets.1 busy.1) lets.2 busy.2
      exact ⟨arrives, List.forall_mem_cons.mpr ⟨awaits, others⟩⟩
  | starve machine starved entry rest ih => exact ih ⟨awaits.suspended, awaits.plays⟩ lets busy

/-! ## Ticks -/

/-- Events of the background are none of a lane. -/
theorem foreign_of_background (event : Event) (background : event.isBackground) :
    event ≠ .run id priority ∧ event ≠ .remove id := by
  constructor <;> rintro rfl <;> cases background

theorem duringResumes (awaits : machine.Awaits id priority lane ip next animation)
    (elapsed : UInt64) :
    (machine.duringResumes setting elapsed machine.world.pending.length).Awaits id priority lane ip
      next animation := by
  rw [← applyPending_beginTick]
  refine awaits.leave ((beginTick_background setting machine elapsed).trans
    (applyPending_background setting _)) foreign_of_background ?_
  rw [applyPending_beginTick, World.animation?, calm_duringResumes (World.pose?_calm id)]
  exact awaits.plays

/-- In a tick, the lane has its turn if no higher lane has one, and it is suspended then. -/
theorem turn (awaits : machine.Awaits id priority lane ip next animation)
    (able : 0 < setting.config.opsPerTick) (inside : next ≤ setting.source.code.size)
    (elapsed : UInt64)
    (lets : Moment.LetPlayBeforeTurn setting id priority (machine.tickMoments setting elapsed)) :
    ∃ before turned rest,
      machine.tickMoments setting elapsed = before ++ ⟨turned, id, priority⟩ :: rest ∧
      (∀ moment ∈ before, ¬moment.IsOf id priority) ∧
      turned.Awaits id priority lane ip next animation := by
  let resumed := machine.duringResumes setting elapsed machine.world.pending.length
  have begins : resumed.Awaits id priority lane ip next animation := awaits.duringResumes elapsed
  let turned := (List.range id).foldl (fun machine id => machine.runEntity setting id) resumed
  have active : turned.world.laneActive id priority := by
    obtain ⟨tries, here⟩ := begins.suspended
    have kept := ((foldl_turn setting (List.range id) resumed).leaves
      (fun event turn => foreign_of_isTurn (by simp) turn) here rfl).1 rfl
    rw [World.laneActive, kept]
    rfl
  obtain ⟨tries, here⟩ := awaits.suspended
  obtain ⟨top, least, highest, above⟩ := exists_highest active
  have reached : (List.range id).foldl (fun machine id => machine.runEntity setting id)
      (machine.duringResumes setting elapsed machine.world.pending.length) = turned := rfl
  obtain ⟨before, rest, split, others⟩ :=
    tickMoments_of_highest reached (lt_size_of_lane? here) highest above able
  have foreign (moment : Moment σ) (among : moment ∈ before) : ¬moment.IsOf id priority :=
    fun own => others moment among own.1
  have own : top = priority := by
    by_contra other
    have apart := (lets before _ rest split foreign fun own => other own.2).1
    exact apart ⟨rfl, Nat.lt_of_le_of_ne least (Ne.symm other)⟩
  rw [own] at split
  have arrives := (split ▸ train_tick setting machine elapsed).split.1
  refine ⟨before, turned, rest, split, foreign, (begins.train arrives inside ?_ ?_).1⟩
  · intro moment among
    obtain ⟨first, last, parts⟩ := List.append_of_mem among
    refine lets first moment (last ++ ⟨turned, id, priority⟩ :: rest) ?_ ?_
    · rw [split, parts, List.append_assoc]
      rfl
    · exact fun earlier among => foreign earlier (parts ▸ List.mem_append_left _ among)
  · exact fun moment among own => (foreign moment among own).elim

/-- The end of a tick leaves the lane suspended, and leads the animation one frame on. -/
theorem ends {elapsed : UInt64} {pose : Pose}
    (awaits : (machine.afterTurns setting elapsed).Awaits id priority lane ip next animation)
    (shown : (machine.afterTurns setting elapsed).world.pose? id = some pose) :
    (machine.tick setting elapsed).world.pose? id =
        some (pose.advance ((machine.afterTurns setting elapsed).senses setting).lastFrame) ∧
      (machine.tick setting elapsed).Awaits id priority lane ip next
        (pose.advance ((machine.afterTurns setting elapsed).senses setting).lastFrame).animation := by
  have advanced := pose?_tick setting machine id elapsed
  rw [shown, Option.map_some] at advanced
  have happens := (advanceActors_background setting (machine.afterTurns setting elapsed)).trans
    (finishTick_background setting _)
  rw [← tick_eq] at happens
  exact ⟨advanced, awaits.leave happens foreign_of_background
    (congrArg (·.map Pose.animation) advanced)⟩

end Awaits

end Machine

/-! ## How far the animation has come -/

/-- What a pose has become whose animation was played once. -/
def Shot.Ended {σ : Type} (setting : Setting σ) (shot : Shot) (pose : Pose) : Prop :=
  if shot.toIdle then
    ∃ told : Machine σ, pose.animation =
      .looped pose.idle 0 ((told.senses setting).lastFrame pose.model pose.idle)
  else pose.animation = shot.stopped

theorem Shot.Ended.idle {σ : Type} {setting : Setting σ} {shot : Shot} {pose : Pose}
    (ended : shot.Ended setting pose) : pose.animation.isBusy = false := by
  unfold Ended at ended
  split at ended
  · obtain ⟨told, same⟩ := ended
    rw [same]
    rfl
  · rw [ended]
    rfl

namespace Machine

variable {σ : Type} {setting : Setting σ} {machine : Machine σ} {id : EntityId}
  {priority ip next : Nat} {lane : Lane} {shot : Shot} {ticks : Nat}

/-- How far an animation has come after some ticks, and what becomes of the lane meanwhile. -/
structure Performs (setting : Setting σ) (machine : Machine σ) (id : EntityId) (priority : Nat)
    (lane : Lane) (ip next : Nat) (shot : Shot) (ticks : Nat) (pose : Pose) : Prop where
  shown : machine.world.pose? id = some pose
  awaits : machine.Awaits id priority lane ip next pose.animation
  plays : ticks ≤ shot.length → pose.animation = shot.after ticks
  ended : ticks = shot.length + 1 → shot.Ended setting pose

/-- A tick in which the lane is suspended at a frame leads on to the next one, or to the end. -/
theorem performs_tick {elapsed : UInt64} (ordered : shot.first ≤ shot.last)
    (awaits : (machine.afterTurns setting elapsed).Awaits id priority lane ip next
      (shot.after ticks)) :
    ∃ pose, (machine.tick setting elapsed).Performs setting id priority lane ip next shot
      (ticks + 1) pose := by
  obtain ⟨pose, shown, animation⟩ := Option.map_eq_some_iff.mp awaits.plays
  obtain ⟨advanced, suspended⟩ := awaits.ends shown
  refine ⟨_, advanced, suspended, fun inside => ?_, fun behind => ?_⟩
  · rw [Pose.advance, animation]
    exact Shot.advance_after ordered inside _
  · have last : ticks = shot.length := Nat.succ.inj behind
    have left := Shot.advance_after_length ordered
      (.looped pose.idle 0 (((machine.afterTurns setting elapsed).senses setting).lastFrame
        pose.model pose.idle))
    rw [← last, ← animation] at left
    unfold Shot.Ended
    split
    · next idles =>
        rw [if_pos idles] at left
        exact ⟨_, left⟩
    · next stops =>
        rw [if_neg stops] at left
        exact left

variable (setting) in
/-- Whether in a whole operation of the host nothing but the lane itself changes the animation of its
entity, no higher lane of the entity runs, and the entity stays. -/
def LetsPlay (id : EntityId) (priority : Nat) (machine : Machine σ) : Move → Prop
  | .tick elapsed =>
      ∀ moment ∈ machine.tickMoments setting elapsed, moment.LetsPlay setting id priority
  | .remove index => index ≠ id
  | .begin .. | .step .. => False
  | _ => True

/-- Operations of the host other than ticks leave an animation where it is. -/
theorem Performs.make {move : Move} {pose : Pose}
    (performs : machine.Performs setting id priority lane ip next shot ticks pose)
    (lets : machine.LetsPlay setting id priority move) (other : move.isTick = false) :
    (machine.make setting move).Performs setting id priority lane ip next shot ticks pose := by
  have kept {after : Machine σ} (same : after.world.pose? id = machine.world.pose? id)
      (awaits : after.Awaits id priority lane ip next pose.animation) :
      after.Performs setting id priority lane ip next shot ticks pose :=
    ⟨same.trans performs.shown, awaits, performs.plays, performs.ended⟩
  have aside {event : Event} {after : Machine σ} (occurs : Occurs setting event machine after)
      (foreign : event ≠ .run id priority) (stays : event ≠ .remove id)
      (same : after.world.pose? id = machine.world.pose? id) :
      after.Performs setting id priority lane ip next shot ticks pose :=
    kept same (performs.awaits.aside occurs foreign stays (congrArg (·.map Pose.animation) same))
  cases move with
  | start =>
      obtain ⟨events, silent, runs⟩ := start_runs setting machine
      have same := calm_start (World.pose?_calm id) machine
      obtain ⟨tries, here⟩ := performs.awaits.suspended
      exact kept same ⟨⟨tries, runs.lane?_of_silent silent here rfl⟩,
        (congrArg (·.map Pose.animation) same).trans performs.awaits.plays⟩
  | tick elapsed => cases other
  | invoke index level script =>
      exact aside (.invoke machine index level script) (by simp) (by simp)
        (calm_startScript (World.pose?_calm id) machine index level script none)
  | giveBack token answer => exact aside (.other rfl) (by simp) (by simp) rfl
  | remove index =>
      refine aside (.remove machine index) (by simp) ?_ (pose?_remove machine id lets)
      rintro ⟨⟩
      exact lets rfl
  | spawn activity => exact aside (.other rfl) (by simp) (by simp) rfl
  | loadPalette palette colors => exact aside (.other rfl) (by simp) (by simp) rfl
  | begin elapsed entities lanes => exact lets.elim
  | step other level => exact lets.elim

/-- A tick that lets it play leads the animation one frame on. -/
theorem Performs.tick {elapsed : UInt64} {pose : Pose}
    (performs : machine.Performs setting id priority lane ip next shot ticks pose)
    (ordered : shot.first ≤ shot.last) (early : ticks ≤ shot.length)
    (inside : next ≤ setting.source.code.size)
    (lets : ∀ moment ∈ machine.tickMoments setting elapsed, moment.LetsPlay setting id priority) :
    (∃ pose, (machine.tick setting elapsed).Performs setting id priority lane ip next shot
      (ticks + 1) pose) ∧
    ∀ moment ∈ machine.tickMoments setting elapsed,
      moment.machine.Awaits id priority lane ip next (shot.after ticks) := by
  have awaits := performs.awaits
  rw [performs.plays early] at awaits
  obtain ⟨turned, throughout⟩ := (awaits.duringResumes elapsed).train
    (train_tick setting machine elapsed) inside lets fun _ _ _ => rfl
  exact ⟨performs_tick ordered turned, throughout⟩

/-- With every tick the animation comes one frame further, up to its end. -/
theorem Performs.follow {moves : List Move} {pose : Pose}
    (performs : machine.Performs setting id priority lane ip next shot ticks pose)
    (ordered : shot.first ≤ shot.last) (inside : next ≤ setting.source.code.size)
    (lets : machine.Throughout setting (LetsPlay setting id priority) moves)
    (early : ticks + moves.countP Move.isTick ≤ shot.length + 1) :
    ∃ pose, (machine.follow setting moves).Performs setting id priority lane ip next shot
      (ticks + moves.countP Move.isTick) pose := by
  induction moves generalizing machine ticks pose with
  | nil => exact ⟨pose, performs⟩
  | cons move rest ih =>
      rw [List.countP_cons] at early ⊢
      cases tick : move.isTick with
      | false =>
          rw [tick] at early
          exact ih (performs.make lets.1 tick) lets.2 early
      | true =>
          obtain ⟨elapsed, rfl⟩ : ∃ elapsed, move = .tick elapsed := by
            cases move with
            | tick elapsed => exact ⟨elapsed, rfl⟩
            | _ => cases tick
          rw [tick, if_pos rfl] at early
          obtain ⟨later, performs⟩ := (performs.tick ordered (by omega) inside lets.1).1
          obtain ⟨pose, reached⟩ := ih performs lets.2 (by omega)
          rw [if_pos rfl, Nat.add_comm (rest.countP Move.isTick), ← Nat.add_assoc]
          exact ⟨pose, reached⟩

/-- In a tick, the lane has its turn, which is over when it has been suspended once more; up to the end
of all turns the animation stays where it is. -/
structure SuspendedIn (setting : Setting σ) (machine : Machine σ) (elapsed : UInt64)
    (id : EntityId) (priority : Nat) (lane : Lane) (ip next : Nat) (animation : Animation) : Prop where
  turn : ∃ moment ∈ machine.tickMoments setting elapsed, moment.IsOf id priority
  throughout : ∀ moment ∈ machine.tickMoments setting elapsed,
    moment.machine.Awaits id priority lane ip next animation
  holding : ∀ moment ∈ machine.tickMoments setting elapsed, moment.IsOf id priority →
    (moment.machine.step setting id priority).2 = .holding ∧
      (moment.machine.step setting id priority).1.Awaits id priority lane ip next animation

/-- In a tick, the first that the lane does is to go on behind the instruction. -/
structure ReleasedIn (setting : Setting σ) (machine : Machine σ) (elapsed : UInt64)
    (id : EntityId) (priority : Nat) (lane : Lane) (ip next : Nat) (animation : Animation)
    (before : List (Moment σ)) (turned : Machine σ) (rest : List (Moment σ)) : Prop where
  moments : machine.tickMoments setting elapsed = before ++ ⟨turned, id, priority⟩ :: rest
  first : ∀ moment ∈ before, ¬moment.IsOf id priority
  awaits : turned.Awaits id priority lane ip next animation
  goesOn : (turned.step setting id priority).2 = .goOn
  behind : (turned.step setting id priority).1.world.lane? id priority = some (lane.advance next)
  plays : (turned.step setting id priority).1.world.animation? id = some animation

/-- An animation that is played once holds its lane for its length.

Of an instruction that plays the frames `first` to `last` and waits for their end, be they given or
all that the host tells of, the lane is suspended in the tick in which it is carried out, and in each
of the next `last - first` ticks.  Each of these ticks shows one frame: the first from the turn of the
lane on, and each later one as long as its turns last.  At the end of the last of them the animation is
over: the idle animation plays over and over, or the last frame stays.  In the tick after it, the first
that the lane does is to go on behind the instruction.

Meanwhile, nothing else changes the animation of the entity, no higher lane of it runs, and it is not
removed; in the last tick this is needed up to the turn of the lane. -/
theorem animation_holds_lane {start : Machine σ} {elapsed : UInt64} {before rest : List (Moment σ)}
    {op : Opcode}
    (moments : start.tickMoments setting elapsed = before ++ ⟨machine, id, priority⟩ :: rest)
    (here : machine.world.lane? id priority = some lane) (active : lane.isActive)
    (stands : lane.ip? = some ip) (fresh : lane.suspended? = none)
    (opcode : setting.source.code[ip]? = some op.byte)
    (plays : machine.shot? setting id ip op = some shot)
    (inside : ip + shot.size ≤ setting.source.code.size)
    (able : 0 < setting.config.opsPerTick)
    (lets : ∀ moment ∈ rest, moment.LetsPlay setting id priority) :
    let next := ip + shot.size
    let length := shot.last.toNat - shot.first.toNat
    (∀ ticks ≤ length, (shot.after ticks).frame.toNat = shot.first.toNat + ticks ∧
      shot.first.toNat + ticks ≤ shot.last.toNat) ∧
    ((machine.step setting id priority).2 = .holding ∧
      (machine.step setting id priority).1.Awaits id priority lane ip next (shot.after 0) ∧
      ∀ moment ∈ rest, moment.machine.Awaits id priority lane ip next (shot.after 0)) ∧
    ∀ moves, (start.tick setting elapsed).Throughout setting (LetsPlay setting id priority) moves →
      let ticks := moves.countP Move.isTick
      let now := (start.tick setting elapsed).follow setting moves
      (ticks < length →
        now.Awaits id priority lane ip next (shot.after (ticks + 1)) ∧
        ∀ elapsed, now.LetsPlay setting id priority (.tick elapsed) →
          now.SuspendedIn setting elapsed id priority lane ip next (shot.after (ticks + 1))) ∧
      (ticks = length → ∃ pose,
        (now.world.pose? id = some pose ∧ shot.Ended setting pose ∧
          now.Awaits id priority lane ip next pose.animation) ∧
        ∀ elapsed,
          Moment.LetPlayBeforeTurn setting id priority (now.tickMoments setting elapsed) →
          ∃ before turned rest, now.ReleasedIn setting elapsed id priority lane ip next
            pose.animation before turned rest) := by
  intro next length
  have ordered := ordered_of_shot? plays
  obtain ⟨holding, begins⟩ := awaits_of_shot? here active stands fresh opcode plays inside
  have train := (moments ▸ train_tick setting start elapsed).split.2
  obtain ⟨turned, throughout⟩ := begins.train train inside lets fun _ _ _ => rfl
  obtain ⟨first, performs⟩ := performs_tick ordered turned
  refine ⟨fun ticks within => ?_, ⟨holding, begins, throughout⟩, ?_⟩
  · have frame := Shot.toNat_frame_after ordered within
    rw [UInt16.le_iff_toNat_le] at ordered
    exact ⟨frame, by omega⟩
  intro moves playing ticks now
  have reached (early : 0 + 1 + ticks ≤ length + 1) :=
    performs.follow ordered inside playing early
  rw [Nat.zero_add, Nat.add_comm 1] at reached
  constructor
  · intro early
    obtain ⟨pose, performs⟩ := reached (Nat.le_succ_of_le early)
    have awaits : now.Awaits id priority lane ip next (shot.after (ticks + 1)) :=
      performs.plays early ▸ performs.awaits
    refine ⟨awaits, fun elapsed lets => ?_⟩
    obtain ⟨-, throughout⟩ := performs.tick ordered early inside lets
    obtain ⟨before, turned, rest, split, -, -⟩ := awaits.turn able inside elapsed
      fun before moment rest split _ => lets moment (by rw [split]; simp)
    exact {
      turn := ⟨⟨turned, id, priority⟩, by rw [split]; simp, rfl, rfl⟩
      throughout
      holding := fun moment among _ => (throughout moment among).step_of_busy inside rfl }
  · intro last
    obtain ⟨pose, performs⟩ := reached (Nat.le_of_eq (congrArg (· + 1) last))
    have ended : shot.Ended setting pose := performs.ended (congrArg (· + 1) last)
    refine ⟨pose, ⟨performs.shown, ended, performs.awaits⟩, fun elapsed lets => ?_⟩
    obtain ⟨before, turned, rest, split, earlier, awaits⟩ :=
      performs.awaits.turn able inside elapsed lets
    obtain ⟨goesOn, behind, same⟩ := awaits.step_of_idle inside ended.idle
    exact ⟨before, turned, rest, split, earlier, awaits, goesOn, behind,
      (congrArg (·.map Pose.animation) same).trans awaits.plays⟩

end Machine

/-! ## A small field -/

namespace Gala

/-- Two entities.  One plays three frames of an animation and waits for their end; the other one does
nothing in the meantime, tick by tick. -/
def source : Section :=
  { bytes := #[0xBB, 0x01, 0x02, 0x04, 0x10, 0x00, 0x5F, 0x00, 0x00]
    version := 0, modelCount := 0, scale := 0, creator := "", name := "gala"
    entities := #[Bustle.scripts "dancer" 0 5, Bustle.scripts "guest" 6 8]
    akaoOffsets := #[], codeStart := 0, codeEnd := 9, texts := #[] }

def setting : Setting Unit := { source, config := { opsPerTick := 8 }, host := Host.accepting }

def entered : Machine Unit :=
  (Machine.enter setting (Session.fresh setting.config) (.ofSeed 0) ()).start

/-- The field some ticks after the one in which the animation begins. -/
def later (ticks : Nat) : Machine Unit :=
  (entered.tick setting 0).follow setting (List.replicate ticks (.tick 0))

/-- The lane when it comes to the animation. -/
def dancer : Lane := { status := .active 0 0 none none, script := 0, epoch := 1 }

/-- The frames that it plays. -/
def shot : Shot := { id := 1, first := 2, last := 4, toIdle := false, size := 5 }

/-- The machine at the first moment of the first tick. -/
def cue : Machine Unit := entered.duringResumes setting 0 entered.world.pending.length

theorem cue_lane : cue.world.lane? 0 0 = some dancer := by decide +kernel

theorem cue_first : ∃ before rest, entered.tickMoments setting 0 = before ++ ⟨cue, 0, 0⟩ :: rest := by
  have idle : ∀ index < laneCount, 0 < index → cue.world.laneActive 0 index = false := by
    decide +kernel
  have highest (index : Nat) (above : 0 < index) : cue.world.laneActive 0 index = false := by
    by_contra active
    have active : cue.world.laneActive 0 index = true := by simpa using active
    rw [idle index (Machine.of_laneActive active).2 above] at active
    cases active
  have active : cue.world.laneActive 0 0 := by rw [World.laneActive, cue_lane]; rfl
  have present : 0 < entered.world.entities.size := by decide +kernel
  obtain ⟨before, rest, split, -⟩ :=
    Machine.tickMoments_of_highest (show _ = cue from rfl) present active highest (by decide)
  exact ⟨before, rest, split⟩

/-- Nothing else changes the animation, neither in the first tick nor in the three ticks after it. -/
theorem undisturbed :
    (∀ moment ∈ entered.tickMoments setting 0, moment.LetsPlay setting 0 0) ∧
    ∀ ticks < 3, ∀ moment ∈ (later ticks).tickMoments setting 0, moment.LetsPlay setting 0 0 := by
  constructor <;> decide +kernel

end Gala

namespace Machine

/-- The dancer is suspended in three ticks, at the frames 2, 3 and 4; then it stands still, and its lane
goes on. -/
theorem gala_holds :
    (Gala.later 0).SuspendedIn Gala.setting 0 0 0 Gala.dancer 0 5 (Gala.shot.after 1) ∧
    (Gala.later 1).SuspendedIn Gala.setting 0 0 0 Gala.dancer 0 5 (Gala.shot.after 2) ∧
    ∃ before turned rest,
      (Gala.later 2).ReleasedIn Gala.setting 0 0 0 Gala.dancer 0 5 Gala.shot.stopped before turned
        rest := by
  obtain ⟨before, rest, split⟩ := Gala.cue_first
  obtain ⟨first, others⟩ := Gala.undisturbed
  have opcode : Gala.setting.source.code[0]? = some Opcode.canim2.byte := by decide +kernel
  have plays : Gala.cue.shot? Gala.setting 0 0 .canim2 = some Gala.shot := by decide +kernel
  obtain ⟨-, -, holds⟩ := animation_holds_lane split Gala.cue_lane rfl rfl rfl opcode plays
    (by decide +kernel) (by decide) fun moment among => first moment (by rw [split]; simp [among])
  obtain ⟨zero, -⟩ := holds [] trivial
  obtain ⟨one, -⟩ := holds [.tick 0] ⟨others 0 (by decide), trivial⟩
  obtain ⟨-, two⟩ := holds [.tick 0, .tick 0]
    ⟨others 0 (by decide), others 1 (by decide), trivial⟩
  obtain ⟨pose, ⟨-, ended, -⟩, released⟩ := two rfl
  have ended : pose.animation = Gala.shot.stopped := ended
  rw [ended] at released
  refine ⟨(zero (by decide)).2 0 (others 0 (by decide)), (one (by decide)).2 0 (others 1 (by decide)),
    released 0 fun before moment rest split _ => ?_⟩
  exact others 2 (by decide) moment (split ▸ by simp)

end Machine

end FieldMachine
