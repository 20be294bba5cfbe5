/-!
# Easing

How far along a movement is at a share of its time.  Everything here is single
precision: a share is first kept between zero and one, and the smooth curve is
`t * t * (3 - 2 * t)`, evaluated from left to right.
-/

namespace FieldMachine

set_option autoImplicit false

/-- Keeps a share between zero and one; what is not a number stays so. -/
def clampShare (t : Float32) : Float32 := if t < 0 then 0 else if 1 < t then 1 else t

/-- The curve that starts and ends at rest. -/
def smoothShare (t : Float32) : Float32 :=
  let t := clampShare t
  t * t * (3.0 - 2.0 * t)

/-- The share of `frames` that lies behind after `step` of them; no frames are over at once. -/
def elapsedShare (step : UInt32) (frames : UInt16) : Float32 :=
  if frames = 0 then 1.0 else step.toFloat32 / frames.toFloat32

/-- The course of a movement over its time. -/
inductive Easing
  | instant
  | linear
  | smooth
deriving DecidableEq

namespace Easing

/-- The course that a script byte names; every byte without a meaning of its own is linear. -/
def ofByte (byte : UInt8) : Easing :=
  if byte = 0 then .instant else if byte = 2 then .smooth else .linear

/-- How far along the movement is at a share of its time. -/
def apply : Easing → Float32 → Float32
  | .instant, _ => 1.0
  | .linear, t => clampShare t
  | .smooth, t => smoothShare t

/-- The name of a course. -/
def name : Easing → String
  | .instant => "Instant"
  | .linear => "Linear"
  | .smooth => "Smooth"

end Easing

end FieldMachine
