import FieldMachine.Machine
import FieldMachine.Session.Change

/-!
# Effects

What an instruction does is a list of effects, worked out before the first of
them is carried out.  A change that listeners repeat (a replicated cell, a
background mask, a live palette, a locked triangle, the party) is one effect
together with its announcement, and a movement that goes on in the background is
one effect together with the activity that carries it, so that no instruction can
do the one without the other.

Only two effects can fail: `store` and `drawByte`, when there is no such cell.
-/

namespace FieldMachine

set_option autoImplicit false

/-- The colour of a fade. -/
structure FadeColor where
  red : UInt8 := 0
  green : UInt8 := 0
  blue : UInt8 := 0
deriving DecidableEq

/-- Something that an instruction does. -/
inductive Effect
  | log (entry : Entry)
  /-- Writes the cell that a destination operand names. -/
  | store (selector address : UInt8) (value : UInt16)
  /-- Draws a random byte into the cell that a destination operand names. -/
  | drawByte (selector address : UInt8)
  | reseed (seed : UInt64)
  | actor (id : EntityId) (change : ActorChange)
  | window (id : Nat) (change : WindowChange)
  | stage (change : StageChange)
  | session (change : SessionChange)
  | party (change : PartyChange)
  | background (area : UInt8) (mask : UInt32)
  | livePalette (id : UInt8) (palette : Palette)
  | lockTriangle (triangle : UInt16) (locked : Bool)
  /-- Starts a fade from an amount to a target, in place of any other. -/
  | fade (color : FadeColor) (start target step : UInt16) (subtractive : Bool)
  | clearFade
  /-- Starts a scroll, in place of any other. -/
  | scroll (target : ScrollTarget) (frames : UInt16) (easing : Easing)
  /-- Starts a shift of an entity's picture, in place of any other of that entity. -/
  | shift (id : EntityId) (goal : Displacement) (frames : UInt16) (easing : Easing)
  | choreography (walks : List Walk) (frames : UInt16) (token : ResumeToken)
  | notify (notice : Notice)
  /-- Starts a script on a lane that is free. -/
  | startLane (id : EntityId) (priority entry script : Nat) (onStop : Option ResumeToken)
  /-- Records where the main loop of a lane begins. -/
  | recordMain (id : EntityId) (priority entry : Nat)

/-! ## Movements that go on in the background -/

/-- Starts a fade; it needs an activity only if it is not at its target already. -/
def World.beginFade (world : World) (color : FadeColor) (start target step : UInt16)
    (subtractive : Bool) : World :=
  let amount := min start fadeFull
  let serial := world.stage.fade.serial + 1
  let active := amount ≠ target
  let fade : Fade :=
    { red := color.red, green := color.green, blue := color.blue, amount, subtractive, active,
      serial }
  let world := world.updateStage fun stage => { stage with fade }
  if active then world.spawn (.fade { target, step := max step 1, serial }) else world

/-- Ends any fade. -/
def World.clearFade (world : World) : World :=
  world.updateStage fun stage =>
    { stage with
      fade := { stage.fade with serial := stage.fade.serial + 1, amount := 0, active := false } }

/-- The point that a scroll leads to at the moment. -/
def World.scrollGoal? (world : World) : ScrollTarget → Option Point
  | .point goal => some goal
  | .entity id => (world.actor? id).map fun actor => actor.position.ground

/-- Starts a scroll; one without frames, or an instant one, lands at once. -/
def World.beginScroll (world : World) (target : ScrollTarget) (frames : UInt16)
    (easing : Easing) : World :=
  let camera := world.stage.camera
  let serial := camera.serial + 1
  if frames = 0 || easing = .instant then
    let position := (world.scrollGoal? target).getD camera.position
    world.updateStage fun stage =>
      { stage with camera := { position, scrolling := false, followPlayer := false, serial } }
  else
    (world.updateStage fun stage =>
        { stage with
          camera := { camera with scrolling := true, followPlayer := false, serial } }).spawn
      (.scroll { target, frames, easing, serial })

/-- Starts a shift; one without frames, or an instant one, lands at once. -/
def World.beginShift (world : World) (id : EntityId) (goal : Displacement) (frames : UInt16)
    (easing : Easing) : World :=
  match world.actor? id with
  | none => world
  | some actor =>
      let serial := actor.offsetSerial + 1
      if frames = 0 || easing = .instant then
        world.updateActor id fun actor =>
          { actor with offset := goal, offsetMoving := false, offsetSerial := serial }
      else
        (world.updateActor id fun actor =>
            { actor with offsetMoving := true, offsetSerial := serial }).spawn
          (.shift { entity := id, goal, frames, easing, serial })

/-! ## Carrying effects out -/

namespace Machine

variable {σ : Type}

/-- Writes the cell of a destination operand. -/
def store (setting : Setting σ) (selector address : UInt8) (value : UInt16)
    (machine : Machine σ) : Machine σ × Option ExecError :=
  if selector = 0 then (machine, some (.address .immediateDestination))
  else
    let (machine, error) := machine.writeCell setting selector address value
    (machine, error.map .address)

end Machine

namespace Effect

variable {σ : Type}

/-- Carries out one effect; what it did stands even when it reports an error. -/
def perform (setting : Setting σ) (machine : Machine σ) :
    Effect → Machine σ × Option ExecError
  | .log entry => (machine.note entry, none)
  | .store selector address value => machine.store setting selector address value
  | .drawByte selector address =>
      let (random, value) := machine.random.nextByte
      { machine with random }.store setting selector address value.toUInt16
  | .reseed seed => ({ machine with random := Random.ofSeed seed }, none)
  | .actor id change => (machine.updateWorld (·.updateActor id (change.apply ·)), none)
  | .window id change =>
      (machine.updateWorld (·.updateStage (·.changeWindow id change)), none)
  | .stage change => (machine.updateWorld (·.updateStage (change.apply ·)), none)
  | .session change => (machine.updateSession (change.apply ·), none)
  | .party change =>
      let machine := machine.updateSession fun session =>
        { session with party := change.apply session.party }
      (machine.notify setting (.changed .party), none)
  | .background area mask =>
      let machine := machine.updateWorld fun world => world.updateStage fun stage =>
        { stage with backgrounds := stage.backgrounds.insert area mask }
      (machine.notify setting (.changed (.background area mask)), none)
  | .livePalette id palette =>
      let machine := machine.updateWorld fun world => world.updateStage fun stage =>
        { stage with palettes := stage.palettes.put .live id palette }
      (machine.notify setting (.changed (.palette id)), none)
  | .lockTriangle triangle locked =>
      let machine := machine.updateWorld fun world =>
        world.updateStage (·.lockTriangle triangle locked)
      (machine.notify setting (.changed (.walkmesh triangle locked)), none)
  | .fade color start target step subtractive =>
      (machine.updateWorld (·.beginFade color start target step subtractive), none)
  | .clearFade => (machine.updateWorld World.clearFade, none)
  | .scroll target frames easing =>
      (machine.updateWorld (·.beginScroll target frames easing), none)
  | .shift id goal frames easing =>
      (machine.updateWorld (·.beginShift id goal frames easing), none)
  | .choreography walks frames token =>
      (machine.updateWorld (·.spawn (.choreography { walks, frames, token })), none)
  | .notify notice => (machine.notify setting notice, none)
  | .startLane id priority entry script onStop =>
      (machine.updateWorld (·.updateLane id priority (·.start entry script onStop)), none)
  | .recordMain id priority entry =>
      (machine.updateWorld (·.updateLane id priority fun lane =>
        { lane with mainEntry := some entry }), none)

/-- Carries out effects one after the other, up to the first that reports an error. -/
def performAll (setting : Setting σ) (machine : Machine σ) :
    List Effect → Machine σ × Option ExecError
  | [] => (machine, none)
  | effect :: rest =>
      match effect.perform setting machine with
      | (machine, none) => performAll setting machine rest
      | (machine, some error) => (machine, some error)

end Effect

end FieldMachine
