import FieldMachine.Machine

/-!
# Steps of background activities

One frame of each kind of activity.  A step tells what is left of the activity,
and nothing is left of one that is over.  A scroll, a fade or a shift that has
been superseded ends without touching anything.
-/

namespace FieldMachine

set_option autoImplicit false

/-- One frame of a scroll, with the journal entry of its end. -/
def Scroll.run (scroll : Scroll) (frame : Nat) (world : World) :
    World × Option Scroll × Option Entry :=
  let camera := world.stage.camera
  if camera.serial ≠ scroll.serial then (world, none, none)
  else
    let goal? := match scroll.target with
      | .point goal => some goal
      | .entity id => (world.actor? id).map fun actor => actor.position.ground
    match goal? with
    | none =>
        (world.updateStage fun stage => { stage with camera := { camera with scrolling := false } },
          none, none)
    | some goal =>
        let start := scroll.start.getD camera.position
        let step := scroll.step + 1
        let share := elapsedShare step scroll.frames
        let position := start.between goal (scroll.easing.apply share)
        let ended := 1.0 ≤ share
        let camera := { camera with
          position, scrolling := if ended then false else camera.scrolling }
        let world := world.updateStage fun stage => { stage with camera }
        if ended then (world, none, some (.scrollDone frame position))
        else (world, some { scroll with start := some start, step }, none)

/-- The amount of a fade one step nearer to a target, without passing it. -/
def fadeToward (amount target step : UInt16) : UInt16 :=
  if amount < target then (min (amount.toNat + step.toNat) target.toNat).toUInt16
  else (max (amount.toNat - step.toNat) target.toNat).toUInt16

/-- One frame of a fade, with the journal entry of its end. -/
def Fading.run (fading : Fading) (frame : Nat) (world : World) :
    World × Option Fading × Option Entry :=
  let fade := world.stage.fade
  if fade.serial ≠ fading.serial || !fade.active then (world, none, none)
  else
    let target := min fading.target fadeFull
    let amount := fadeToward fade.amount target (max fading.step 1)
    if amount = target then
      (world.updateStage fun stage => { stage with fade := { fade with amount, active := false } },
        none, some (.fadeDone frame target))
    else
      (world.updateStage fun stage => { stage with fade := { fade with amount } },
        some fading, none)

/-- One frame of a shift. -/
def Shift.run (shift : Shift) (world : World) : World × Option Shift :=
  match world.actor? shift.entity with
  | none => (world, none)
  | some actor =>
    if actor.offsetSerial ≠ shift.serial then (world, none)
    else
      let start := shift.start.getD actor.offset
      let step := shift.step + 1
      let share := elapsedShare step shift.frames
      if 1.0 ≤ share then
        (world.updateActor shift.entity fun actor =>
            { actor with offset := shift.goal, offsetMoving := false },
          none)
      else
        (world.updateActor shift.entity fun actor =>
            { actor with offset := start.between shift.goal (shift.easing.apply share) },
          some { shift with start := some start, step })

/-- One frame of one walker; a walker that has arrived or is gone is left out from then on. -/
def Walk.run (walk : Walk) (share : Float32) (world : World) : World × Option Walk :=
  match world.actor? walk.entity with
  | none => (world, none)
  | some actor =>
      let start := walk.start.getD actor.position
      let position := start.between walk.goal share
      if share < 1.0 then
        (world.updateActor walk.entity fun actor => { actor with position },
          some { walk with start := some start })
      else
        (world.updateActor walk.entity fun actor =>
            { actor with position, direction := walk.direction.getD actor.direction }.setFlag
              .visible walk.visibleAfter,
          none)

/-- One frame of several walkers, one after the other. -/
def Walk.runAll (share : Float32) : List Walk → World → World × List Walk
  | [], world => (world, [])
  | walk :: rest, world =>
      let (world, left) := walk.run share world
      let (world, others) := runAll share rest world
      (world, left.toList ++ others)

namespace Activity

variable {σ : Type}

/-- One frame of an activity: the machine after it, and what is left of the activity. -/
def run (setting : Setting σ) (frame : Nat) (activity : Activity) (machine : Machine σ) :
    Machine σ × Option Activity :=
  match activity with
  | .scroll moving =>
      let (world, left, entry) := moving.run frame machine.world
      let machine := { machine with world }
      (entry.elim machine machine.note, left.map .scroll)
  | .fade fading =>
      let (world, left, entry) := fading.run frame machine.world
      let machine := { machine with world }
      (entry.elim machine machine.note, left.map .fade)
  | .shift moving =>
      let (world, left) := moving.run machine.world
      ({ machine with world }, left.map .shift)
  | .choreography dance =>
      let step := dance.step + 1
      let (world, walks) :=
        Walk.runAll (elapsedShare step dance.frames) dance.walks machine.world
      let machine := { machine with world }
      if walks.isEmpty then
        (((machine.note (.choreographyDone frame)).wake dance.token).1, none)
      else (machine, some (.choreography { dance with walks, step }))
  | .countdown timer =>
      let machine := machine.notify setting (.countdown timer.id frame)
      let frames := timer.frames - 1
      if frames = 0 then
        match timer.wake with
        | none => (machine, none)
        | some token =>
            let (machine, reason) := machine.wake token
            (machine.notify setting (.countdownWoke reason), none)
      else (machine, some (.countdown { timer with frames }))

end Activity

end FieldMachine
