import Std.Data.ExtTreeMap
import Std.Data.ExtTreeSet
import FieldMachine.Geometry
import FieldMachine.Lane

/-!
# The stage

What scripts set up for the picture: camera, windows, background layers,
palettes, the fade, and the locks on what the player may do.  The host reads it
every frame.  Camera scrolls and fades carry a serial number that every new one
raises, so that a running one notices when it has been superseded.
-/

namespace FieldMachine

set_option autoImplicit false

open Std (ExtTreeMap ExtTreeSet)

/-- The number of dialog windows. -/
def windowCount : Nat := 4

/-- The number of message variables of a window. -/
def messageVariableCount : Nat := 8

/-- The number of colours of a full palette. -/
def paletteColors : Nat := 256

/-- The camera. -/
structure Camera where
  position : Point := {}
  scrolling : Bool := false
  /-- Keeps the player in view while no scroll is running. -/
  followPlayer : Bool := true
  serial : UInt32 := 0
deriving DecidableEq

/-! ## Windows -/

/-- What a window shows beside its text. -/
inductive WindowSpecial
  | none
  | clock
  | numeric
deriving DecidableEq

/-- The text of a kind of window. -/
def WindowSpecial.describe : WindowSpecial → String
  | .none => "None"
  | .clock => "Clock"
  | .numeric => "Numeric"

/-- A dialog window. -/
structure Window where
  x : UInt16 := 5
  y : UInt16 := 5
  width : UInt16 := 304
  height : UInt16 := 73
  mode : UInt8 := 0
  closable : Bool := true
  rows : UInt8 := 0
  special : WindowSpecial := .none
  specialX : UInt8 := 0
  specialY : UInt8 := 0
  number : UInt32 := 0
  digits : UInt8 := 0
  values : Vector UInt16 messageVariableCount := Vector.replicate messageVariableCount 0
  /-- Whether a dialog is waiting in the window. -/
  isOpen : Bool := false
deriving DecidableEq

/-- What an instruction does to a window. -/
inductive WindowChange
  | setGeometry (x y width height : UInt16)
  | moveTo (x y : UInt16)
  | setMode (mode : UInt8) (closable : Bool)
  /-- Back to how a window is at first. -/
  | reset
  | close
  | setRows (rows : UInt8)
  | setSpecial (special : WindowSpecial) (x y : UInt8)
  | setNumber (number : UInt32) (digits : UInt8)
  | setVariable (slot : Nat) (value : UInt16)
  /-- Sets whether a dialog is waiting. -/
  | setOpen (isOpen : Bool)
deriving DecidableEq

/-- The window after a change. -/
def WindowChange.apply (window : Window) : WindowChange → Window
  | .setGeometry x y width height => { window with x, y, width, height }
  | .moveTo x y => { window with x, y }
  | .setMode mode closable => { window with mode, closable }
  | .reset => {}
  | .close => { window with isOpen := false }
  | .setRows rows => { window with rows }
  | .setSpecial special x y => { window with special, specialX := x, specialY := y }
  | .setNumber number digits => { window with number, digits }
  | .setVariable slot value =>
      { window with values := window.values.setIfInBounds slot value }
  | .setOpen isOpen => { window with isOpen }

/-! ## Backgrounds and palettes -/

/-- Depth and scroll position of a background layer. -/
structure LayerParams where
  depth : Int16 := 0
  scrollX : Int16 := 0
  scrollY : Int16 := 0
deriving DecidableEq

/-- Colours of fifteen bits: red in the low five, then green, then blue. -/
abbrev Palette := Array UInt16

/-- The palette that stands for an absent one. -/
def Palette.black : Palette := Array.replicate paletteColors 0

/-- The colours of a palette as runs of equal ones. -/
def Palette.runs (palette : Palette) : List (UInt16 × Nat) :=
  (palette.toList.splitBy (· == ·)).map fun run => (run.headD 0, run.length)

/-- The two collections of palettes. -/
inductive PaletteShelf
  /-- The palettes that the background uses. -/
  | live
  /-- The slots that scripts copy palettes into and out of. -/
  | store
deriving DecidableEq

/-- All palettes, by collection and identity. -/
structure Palettes where
  live : ExtTreeMap UInt8 Palette := ∅
  store : ExtTreeMap UInt8 Palette := ∅
deriving DecidableEq

namespace Palettes

/-- The collection on a shelf. -/
def shelf (palettes : Palettes) : PaletteShelf → ExtTreeMap UInt8 Palette
  | .live => palettes.live
  | .store => palettes.store

/-- A palette; an absent one is black. -/
def getOrBlack (palettes : Palettes) (shelf : PaletteShelf) (id : UInt8) : Palette :=
  (palettes.shelf shelf)[id]?.getD .black

/-- Puts a palette on a shelf. -/
def put (palettes : Palettes) (shelf : PaletteShelf) (id : UInt8) (palette : Palette) : Palettes :=
  match shelf with
  | .live => { palettes with live := palettes.live.insert id palette }
  | .store => { palettes with store := palettes.store.insert id palette }

end Palettes

/-! ## Fades -/

/-- The amount of a complete fade. -/
def fadeFull : UInt16 := 256

/-- The fade of the screen: from nothing at amount 0 to its colour at `fadeFull`. -/
structure Fade where
  red : UInt8 := 0
  green : UInt8 := 0
  blue : UInt8 := 0
  amount : UInt16 := 0
  subtractive : Bool := false
  active : Bool := false
  serial : UInt32 := 0
deriving DecidableEq

/-! ## The stage -/

/-- A request to leave for another field. -/
structure MapJump where
  field : UInt16
  x : Int16
  y : Int16
  triangle : UInt16
  direction : UInt8
deriving DecidableEq

/-- The text of a jump. -/
def MapJump.describe (jump : MapJump) : String :=
  s!"MapJump \x7b field: {jump.field}, x: {jump.x}, y: {jump.y}, triangle: {jump.triangle}, direction: {jump.direction} \x7d"

/-- What scripts set up for the picture. -/
structure Stage where
  camera : Camera := {}
  windows : Vector Window windowCount := Vector.replicate windowCount {}
  /-- The visible layers of each background area, a bit each. -/
  backgrounds : ExtTreeMap UInt8 UInt32 := ∅
  layers : ExtTreeMap UInt8 LayerParams := ∅
  palettes : Palettes := {}
  fade : Fade := {}
  userControl : Bool := true
  menuEnabled : Bool := true
  mapJumpsEnabled : Bool := true
  minimapVisible : Bool := false
  musicLocked : Bool := false
  lockedTriangles : ExtTreeSet UInt16 := ∅
  movie : Option UInt8 := none
  movieCamera : Bool := false
  player : Option EntityId := none
  pendingJump : Option MapJump := none
  preparedField : Option UInt16 := none
deriving DecidableEq

namespace Stage

/-- The visible layers of an area. -/
def backgroundMask (stage : Stage) (area : UInt8) : UInt32 := stage.backgrounds[area]?.getD 0

/-- Changes a window; numbers past the last one name none. -/
def changeWindow (stage : Stage) (id : Nat) (change : WindowChange) : Stage :=
  match stage.windows[id]? with
  | none => stage
  | some window => { stage with windows := stage.windows.setIfInBounds id (change.apply window) }

/-- Locks or unlocks a triangle of the walkmesh. -/
def lockTriangle (stage : Stage) (triangle : UInt16) (locked : Bool) : Stage :=
  { stage with
    lockedTriangles :=
      if locked then stage.lockedTriangles.insert triangle
      else stage.lockedTriangles.erase triangle }

end Stage

/-! ## Changes -/

/-- What an instruction switches on the stage, where nothing else depends on it. -/
inductive StageChange
  | setLayerDepth (area : UInt8) (depth : Int16)
  | setLayerScroll (area : UInt8) (x y : Int16)
  | storePalette (id : UInt8) (palette : Palette)
  | setUserControl (on : Bool)
  | setMenuEnabled (on : Bool)
  | setMapJumpsEnabled (on : Bool)
  | setMinimapVisible (on : Bool)
  | setMusicLocked (on : Bool)
  | setMovie (id : UInt8)
  | setMovieCamera (on : Bool)
  | setPlayer (entity : EntityId)
  | setPendingJump (jump : MapJump)
  | setPreparedField (field : UInt16)
  | followPlayer
deriving DecidableEq

/-- The stage after a change. -/
def StageChange.apply (stage : Stage) : StageChange → Stage
  | .setLayerDepth area depth =>
      let layer := stage.layers[area]?.getD {}
      { stage with layers := stage.layers.insert area { layer with depth } }
  | .setLayerScroll area x y =>
      let layer := stage.layers[area]?.getD {}
      { stage with layers := stage.layers.insert area { layer with scrollX := x, scrollY := y } }
  | .storePalette id palette => { stage with palettes := stage.palettes.put .store id palette }
  | .setUserControl on => { stage with userControl := on }
  | .setMenuEnabled on => { stage with menuEnabled := on }
  | .setMapJumpsEnabled on => { stage with mapJumpsEnabled := on }
  | .setMinimapVisible on => { stage with minimapVisible := on }
  | .setMusicLocked on => { stage with musicLocked := on }
  | .setMovie id => { stage with movie := some id }
  | .setMovieCamera on => { stage with movieCamera := on }
  | .setPlayer entity => { stage with player := some entity }
  | .setPendingJump jump => { stage with pendingJump := some jump }
  | .setPreparedField field => { stage with preparedField := some field }
  | .followPlayer => { stage with camera := { stage.camera with followPlayer := true } }

end FieldMachine
