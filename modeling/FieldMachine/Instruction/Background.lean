import FieldMachine.Reading

/-!
# Backgrounds and palettes

The visibility and the placing of background layers, and the copying, rotating
and colouring of palettes.  An absent palette counts as black; a palette that is
written past its end grows with black colours.
-/

namespace FieldMachine.Background

set_option autoImplicit false

open Reading

/-! ## Layers -/

/-- The number of layers of an area. -/
def layerLimit : UInt16 := 32

/-- Shows or hides one layer of an area. -/
def toggleLayer (on : Bool) : Reading Plan := do
  let selectors ← selectors
  let area ← byte
  let layer ← byte
  let area ← loadByte selectors.high area
  let layer ← load selectors.low layer.toUInt16
  if layerLimit ≤ layer then invalid "layer" layer.toUInt32
  else do
    let mask := (← stage).backgroundMask area
    let bit := (1 : UInt32) <<< layer.toUInt32
    return .next [.background area (if on then mask ||| bit else mask &&& ~~~bit)]

/-- Changes the visible layers of an area as a whole. -/
def changeMask (change : UInt32 → UInt32) : Reading Plan := do
  let selectors ← selectors
  let area ← byte
  let area ← loadByte selectors.high area
  return .next [.background area (change ((← stage).backgroundMask area))]

/-- The mask with every layer moved on by one, or the first layer if none is visible. -/
def rotateForward (mask : UInt32) : UInt32 :=
  if mask = 0 then 1 else (mask <<< 1) ||| (mask >>> 31)

/-- The mask with every layer moved back by one, or the first layer if none is visible. -/
def rotateBackward (mask : UInt32) : UInt32 :=
  if mask = 0 then 1 else (mask >>> 1) ||| (mask <<< 31)

/-- Sets the depth of a layer. -/
def setDepth : Reading Plan := do
  let selectors ← selectors
  let area ← byte
  let depth ← signed
  let depth ← loadSigned selectors.high depth
  return .next [.stage (.setLayerDepth area depth)]

/-- Sets the scroll position of a layer. -/
def setScroll : Reading Plan := do
  let selectors ← selectors
  let area ← byte
  let x ← signed
  let y ← signed
  let x ← loadSigned selectors.high x
  let y ← loadSigned selectors.low y
  return .next [.stage (.setLayerScroll area x y)]

/-! ## Copying palettes -/

/-- The colour at an index; past the end it is black. -/
def colorAt (palette : Palette) (index : Nat) : UInt16 := (palette[index]?).getD 0

/-- `goal` with `count` colours of `source` from `start` on, as far as a full palette reaches. -/
def copyColors (source goal : Palette) (start count : Nat) : Palette :=
  let finish := min (start + count) paletteColors
  Array.ofFn fun index : Fin (max goal.size finish) =>
    if start ≤ index.val && index.val < finish then colorAt source index.val
    else colorAt goal index.val

/-- Puts a palette on a shelf; a live one is announced. -/
def putPalette (shelf : PaletteShelf) (id : UInt8) (palette : Palette) : Effect :=
  match shelf with
  | .live => .livePalette id palette
  | .store => .stage (.storePalette id palette)

/-- Copies colours from one palette to another. -/
def transfer (origin target : PaletteShelf) (source goal : UInt8) (start count : Nat) :
    Reading Plan := do
  let palettes := (← stage).palettes
  let colors := copyColors (palettes.getOrBlack origin source) (palettes.getOrBlack target goal)
    start count
  return .next [putPalette target goal colors]

/-- Copies the first colours of a palette; both palettes are operands with selectors. -/
def copyPalette (origin target : PaletteShelf) : Reading Plan := do
  let selectors ← selectors
  let source ← byte
  let goal ← byte
  let count ← byte
  let source ← loadByte selectors.high source
  let goal ← loadByte selectors.low goal
  transfer origin target source goal 0 (count.toNat + 1)

/-- Copies a range of colours; all operands are immediate. -/
def copyRange (origin target : PaletteShelf) : Reading Plan := do
  let source ← byte
  let goal ← byte
  let start ← byte
  let count ← byte
  transfer origin target source goal start.toNat (count.toNat + 1)

/-! ## Changing stored palettes -/

/-- The palette with the colours from `first` to `last` moved on by one, the last one to the front. -/
def rotateColors (palette : Palette) (first last : Nat) : Palette :=
  Array.ofFn fun index : Fin (max palette.size (last + 1)) =>
    if index.val = first then colorAt palette last
    else if first < index.val && index.val ≤ last then colorAt palette (index.val - 1)
    else colorAt palette index.val

/-- Rotates a range of colours of one stored palette into another. -/
def rotatePalette : Reading Plan := do
  let first ← selectors
  let second ← selectors
  let source ← byte
  let goal ← byte
  let least ← byte
  let most ← byte
  let source ← loadByte first.high source
  let goal ← loadByte first.low goal
  let least ← load second.high least.toUInt16
  let most ← load second.low most.toUInt16
  if most < least || paletteColors ≤ most.toNat then
    invalid "palette range" ((least.toUInt32 <<< 16) ||| most.toUInt32)
  else do
    let colors := (← stage).palettes.getOrBlack .store source
    return .next [.stage (.storePalette goal (rotateColors colors least.toNat most.toNat))]

/-- One of the three channels of a colour, given by its lowest bit. -/
def channel (color : UInt16) (shift : UInt16) : Int := ((color >>> shift) &&& 0x1F).toNat

/-- A channel value kept in range. -/
def clampChannel (value : Int) : UInt16 := (max 0 (min value 31)).toNat.toUInt16

/-- The colour with the given channels. -/
def rgb (red green blue : Int) : UInt16 :=
  clampChannel red ||| (clampChannel green <<< 5) ||| (clampChannel blue <<< 10)

/-- A colour with each channel changed by its own amount; the highest bit stays. -/
def changeColor (change : Int → UInt8 → Int) (red green blue : UInt8) (color : UInt16) : UInt16 :=
  rgb (change (channel color 0) red) (change (channel color 5) green)
      (change (channel color 10) blue)
    ||| (color &&& 0x8000)

/-- `goal` with its first `count` colours changed from those of `source`. -/
def changeColors (change : UInt16 → UInt16) (source goal : Palette) (count : Nat) : Palette :=
  let finish := min count paletteColors
  Array.ofFn fun index : Fin (max goal.size finish) =>
    if index.val < finish then change (colorAt source index.val) else colorAt goal index.val

/-- Changes the colours of one stored palette into another. -/
def colorPalette (change : Int → UInt8 → Int) : Reading Plan := do
  let first ← selectors
  let second ← selectors
  let third ← selectors
  let source ← byte
  let goal ← byte
  let blue ← byte
  let green ← byte
  let red ← byte
  let count ← byte
  let source ← loadByte first.high source
  let goal ← loadByte first.low goal
  let blue ← loadByte second.high blue
  let green ← loadByte second.low green
  let red ← loadByte third.high red
  let count ← load third.low count.toUInt16
  let palettes := (← stage).palettes
  let colors := changeColors (changeColor change red green blue)
    (palettes.getOrBlack .store source) (palettes.getOrBlack .store goal) (count.toNat + 1)
  return .next [.stage (.storePalette goal colors)]

/-- Adds a signed amount to a channel. -/
def addToChannel (value : Int) (amount : UInt8) : Int := value + amount.toInt8.toInt

/-- Scales a channel by an amount over 128. -/
def scaleChannel (value : Int) (amount : UInt8) : Int := value * amount.toNat / 128

end FieldMachine.Background
