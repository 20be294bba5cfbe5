import FieldMachine.Easing

/-!
# Positions and headings

Places of the field are whole numbers of 32 bits that wrap around; distances and
the points on the way from one place to another are worked out in single
precision and rounded to the nearest whole number, halves away from zero.  A
direction is a byte: 256 steps make a full turn, 0 looks down the second axis
and 64 down the first.
-/

namespace FieldMachine

set_option autoImplicit false

/-- A place on the ground plane. -/
structure Point where
  x : Int32 := 0
  y : Int32 := 0
deriving DecidableEq

/-- A place in space. -/
structure Position where
  x : Int32 := 0
  y : Int32 := 0
  z : Int32 := 0
deriving DecidableEq

/-- An offset in space that need not be whole. -/
structure Displacement where
  x : Float32 := 0
  y : Float32 := 0
  z : Float32 := 0

/-- The single-precision number nearest to a whole number. -/
def toSingle (value : Int32) : Float32 :=
  if value < 0 then -(-value).toUInt32.toFloat32 else value.toUInt32.toFloat32

/-- The nearest whole number, halves away from zero; out of range it is the end of the range. -/
def roundToInt (value : Float32) : Int32 :=
  let halves := (value.abs * 2).toUInt32.toNat
  let size : Int := ((halves + 1) / 2 : Nat)
  Int32.ofIntClamp (if value < 0 then -size else size)

/-- The whole number at a share of the way from `a` to `b`. -/
def between (a b : Int32) (t : Float32) : Int32 := a + roundToInt (toSingle (b - a) * t)

/-- The value at a share of the way from `a` to `b`. -/
def betweenExact (a b t : Float32) : Float32 := a + (b - a) * t

namespace Point

/-- The way from `a` to `b`. -/
def sub (b a : Point) : Point := { x := b.x - a.x, y := b.y - a.y }

/-- The length of the way that a point stands for. -/
def length (way : Point) : Float32 :=
  let x := toSingle way.x
  let y := toSingle way.y
  (x * x + y * y).sqrt

/-- The point `step` units from `start` along a way of the given length. -/
def advance (start way : Point) (length : Float32) (step : Int32) : Point :=
  let reach := toSingle step
  { x := roundToInt (toSingle start.x + toSingle way.x / length * reach)
    y := roundToInt (toSingle start.y + toSingle way.y / length * reach) }

/-- The point at a share of the way from `a` to `b`. -/
def between (a b : Point) (t : Float32) : Point :=
  { x := FieldMachine.between a.x b.x t, y := FieldMachine.between a.y b.y t }

/-- The text of a point. -/
def describe (point : Point) : String := s!"[{point.x}, {point.y}]"

end Point

namespace Position

/-- The place on the ground below a position. -/
def ground (position : Position) : Point := { x := position.x, y := position.y }

/-- The position at a share of the way from `a` to `b`. -/
def between (a b : Position) (t : Float32) : Position :=
  { x := FieldMachine.between a.x b.x t
    y := FieldMachine.between a.y b.y t
    z := FieldMachine.between a.z b.z t }

/-- The distance from `a` to `b`. -/
def distance (a b : Position) : Float32 :=
  let x := toSingle (b.x - a.x)
  let y := toSingle (b.y - a.y)
  let z := toSingle (b.z - a.z)
  (x * x + y * y + z * z).sqrt

end Position

/-- The offset at a share of the way from `a` to `b`. -/
def Displacement.between (a b : Displacement) (t : Float32) : Displacement :=
  { x := betweenExact a.x b.x t, y := betweenExact a.y b.y t, z := betweenExact a.z b.z t }

/-! ## Directions -/

/-- A direction moved by a signed number of steps. -/
def turnedBy (direction : UInt8) (steps : Int) : UInt8 :=
  (((direction.toNat : Int) + steps) % 256).toNat.toUInt8

/-- The full circle in radians. -/
def fullCircle : Float32 := Float32.ofBits 0x40C90FDB

/-- The direction of a way; no way at all looks in direction 0. -/
def Point.heading (way : Point) : UInt8 :=
  if way = { x := 0, y := 0 } then 0
  else
    let angle := Float32.atan2 (toSingle way.x) (toSingle way.y)
    turnedBy 0 (roundToInt (angle / fullCircle * 256.0)).toInt

/-- Which way round a turn goes. -/
inductive Rotation
  | clockwise
  | anticlockwise
  | closest
deriving DecidableEq

namespace Rotation

/-- The way round that a script byte names. -/
def ofByte (byte : UInt8) : Rotation :=
  if byte = 0 then .clockwise else if byte = 1 then .anticlockwise else .closest

/-- The signed number of steps from one direction to another; negative is anticlockwise. -/
def steps (rotation : Rotation) (start goal : UInt8) : Int16 :=
  let difference : Int := (goal.toNat : Int) - (start.toNat : Int)
  match rotation with
  | .clockwise => Int16.ofInt (difference % 256)
  | .anticlockwise => Int16.ofInt (-((-difference) % 256))
  | .closest => Int16.ofInt ((difference + 128) % 256 - 128)

end Rotation

/-- A turn in progress. -/
structure Turn where
  start : UInt8
  /-- The signed number of direction steps to turn by; negative is anticlockwise. -/
  delta : Int16
  step : UInt16
  steps : UInt16
  smooth : Bool
deriving DecidableEq

/-- The direction that a turn has come to. -/
def Turn.direction (turn : Turn) : UInt8 :=
  let share := if turn.steps = 0 then 1.0 else turn.step.toFloat32 / turn.steps.toFloat32
  let share := if turn.smooth then smoothShare share else share
  turnedBy turn.start (roundToInt (turn.delta.toFloat32 * share)).toInt

end FieldMachine
