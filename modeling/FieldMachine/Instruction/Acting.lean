import FieldMachine.Instruction.Movement

/-!
# Animations

Which animation the running entity plays, how fast, and whether the lane waits
for its end.  An animation that plays once is followed by the idle animation or
stops on its last frame.
-/

namespace FieldMachine.Acting

set_option autoImplicit false

open Reading

/-- Sets the idle animation and plays it. -/
def setIdle : Reading Plan := do
  let id ← byte
  let speed ← byte
  let animation ← Movement.loopedAnimation id
  return .next (← changeSelf
    [.setIdleAnimation id, .animate animation, .setAnimationSpeed speed.toUInt16])

/-- Plays frames of an animation once. -/
def playFrames (id : UInt8) (first last : UInt16) (speed : UInt8) (returnToIdle wait : Bool) :
    Reading Plan := do
  let animation := Animation.once id first (max last first) returnToIdle
  let effects ← changeSelf [.animate animation, .setAnimationSpeed speed.toUInt16]
  return .act effects (if wait then .suspend .animation else .advance)

/-- Plays a whole animation once. -/
def play (returnToIdle wait : Bool) : Reading Plan := do
  let id ← byte
  let speed ← byte
  let last := (← senses).lastFrame (← self).model id
  playFrames id 0 last speed returnToIdle wait

/-- Plays a range of frames once. -/
def playRange (returnToIdle wait : Bool) : Reading Plan := do
  let id ← byte
  let first ← byte
  let last ← byte
  let speed ← byte
  playFrames id first.toUInt16 last.toUInt16 speed returnToIdle wait

/-- Plays an animation over and over. -/
def playLooped : Reading Plan := do
  let id ← byte
  let speed ← byte
  let _ ← byte
  let animation ← Movement.loopedAnimation id
  return .next (← changeSelf [.animate animation, .setAnimationSpeed speed.toUInt16])

/-- Stops the animation. -/
def stop : Reading Plan := return .next (← changeSelf [.stopAnimation])

/-- Waits for the end of an animation that plays once. -/
def awaitEnd : Reading Plan := do
  if (← self).animation.isBusy then return .act [] (.suspend .animation) else return .next []

end FieldMachine.Acting
