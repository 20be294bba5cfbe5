import FieldMachine.Stage
import FieldMachine.Fault

/-!
# The host

The boundary between a running field and the rest of the game.  A field asks
its host in three ways: it looks something up (`Senses`), tells it something
(`Notice`), or requests something that may take time (`Request`).  A request
comes with the token of the lane that makes it and is either complete at once
or left open, and then the token is given back later to wake the lane.

A host is described by what it does with a state of its own.  Lines that it
writes into the journal are part of its answer.
-/

namespace FieldMachine

set_option autoImplicit false

/-! ## Journal lines -/

/-- How important a line of the journal is. -/
inductive LogLevel
  | error
  | warn
  | info
  | debug
  | trace
deriving DecidableEq

/-- The name of a level. -/
def LogLevel.name : LogLevel → String
  | .error => "ERROR"
  | .warn => "WARN"
  | .info => "INFO"
  | .debug => "DEBUG"
  | .trace => "TRACE"

/-- One line of a journal. -/
structure LogLine where
  level : LogLevel
  text : String
deriving DecidableEq

/-- The line with its level in front. -/
def LogLine.render (line : LogLine) : String := line.level.name ++ " " ++ line.text

/-! ## Buttons -/

/-- Controller buttons, a bit each. -/
abbrev Buttons := UInt16

/-- The bits that stand for a button. -/
def knownButtons : Buttons := 0xF9FF

/-- The buttons held, and those that went down and up since the tick before. -/
structure Keys where
  held : Buttons := 0
  pressed : Buttons := 0
  released : Buttons := 0
deriving DecidableEq

/-- The keys of a tick from the buttons held in it and before it. -/
def Keys.ofButtons (before held : Buttons) : Keys :=
  { held
    pressed := held &&& (knownButtons &&& ~~~before)
    released := before &&& (knownButtons &&& ~~~held) }

/-! ## Requests -/

/-- A text to be shown in a window, with the lines to choose from if it is a question. -/
structure Dialog where
  window : UInt8
  text : UInt8
  bytes : List UInt8
  frame : Window
  choices : Option (UInt8 × UInt8)
deriving DecidableEq

/-- A minigame to be played. -/
structure Minigame where
  game : UInt8
  param : UInt8
  field : UInt16
  x : Int16
  y : Int16
  triangle : UInt16
deriving DecidableEq

/-- What a lane can wait for. -/
inductive Request
  | dialog (dialog : Dialog)
  | menu (kind param : UInt8)
  | movie (id : UInt8)
  | battle (id : UInt16)
  | minigame (game : Minigame)
  | tutorial (id : UInt8)
  | disc (number : UInt8)
deriving DecidableEq

/-- How a request is answered at once. -/
inductive Completion
  /-- The lane is woken through its token later. -/
  | deferred
  /-- Done, perhaps with a value. -/
  | immediate (value : Option UInt16)
deriving DecidableEq

/-! ## Notices -/

/-- A command for the music. -/
inductive MusicCommand
  | play (id : UInt8)
  /-- Sets the music that comes back after battles. -/
  | setField (id : UInt8)
  | tempo (value : UInt8)
  | volume (value : UInt8)
deriving DecidableEq

/-- The text of a command for the music. -/
def MusicCommand.describe : MusicCommand → String
  | .play id => s!"Play({id})"
  | .setField id => s!"SetField({id})"
  | .tempo value => s!"Tempo({value})"
  | .volume value => s!"Volume({value})"

/-- A tremor of the screen. -/
structure Tremor where
  kind : UInt8
  xAmplitude : UInt8
  xFrames : UInt8
  yAmplitude : UInt8
  yFrames : UInt8
deriving DecidableEq

/-- A write that is announced so that it can be repeated elsewhere. -/
inductive StateChange
  | cell (bank address : UInt8) (value : UInt16)
  | background (area : UInt8) (mask : UInt32)
  | palette (id : UInt8)
  | walkmesh (triangle : UInt16) (locked : Bool)
  | party
deriving DecidableEq

/-- The text of an announced write. -/
def StateChange.describe : StateChange → String
  | .cell bank address value =>
      s!"Bank \x7b bank: {bank}, address: {address}, value: {value} \x7d"
  | .background area mask => s!"Background \x7b area: {area}, mask: {mask} \x7d"
  | .palette id => s!"Palette \x7b id: {id} \x7d"
  | .walkmesh triangle locked => s!"Triangle \x7b triangle: {triangle}, locked: {locked} \x7d"
  | .party => "Party"

/-- What a host is told without being asked anything. -/
inductive Notice
  | closeWindow (window : UInt8)
  | prepareMovie (id : UInt8)
  | music (command : MusicCommand)
  | sound (id : UInt16) (pan : UInt8)
  /-- A raw command for the sound driver. -/
  | akao (operation : UInt8) (params : List UInt16)
  | shake (tremor : Tremor)
  | changed (change : StateChange)
  | leaveField (jump : MapJump)
  | prepareField (field : UInt16)
  | gameOver
  | locationName (text : UInt8)
  | fault (fault : Fault)
  /-- A countdown that the host started ran in a frame. -/
  | countdown (id : Int64) (frame : Nat)
  /-- A countdown ended and woke a lane, or found none to wake. -/
  | countdownWoke (reason : Option PauseReason)
deriving DecidableEq

/-! ## Hosts -/

/-- What a field can look up at its host. -/
structure Senses where
  /-- The frame of the movie being played. -/
  movieFrame : UInt16 := 0
  musicPlaying : Bool := false
  /-- The triangle of the walkmesh at a point, searched from a hint on. -/
  triangleAt : Int32 → Int32 → UInt16 → Option UInt16 := fun _ _ hint => some hint
  /-- The height of a triangle at a point. -/
  heightAt : UInt16 → Int32 → Int32 → Option Int32 := fun _ _ _ => none
  /-- The last frame of an animation of a model. -/
  lastFrame : Option UInt8 → UInt8 → UInt16 := fun _ _ => 15
  buttons : Buttons := 0

/-- What a host with states of type `σ` does. -/
structure Host (σ : Type) where
  senses : σ → Senses
  request : Request → ResumeToken → σ → Completion × σ × List LogLine
  notify : Notice → σ → σ × List LogLine

/-- The completion of a request that nobody attends to: a dialog is answered with its first line. -/
def Request.unattended : Request → Completion
  | .dialog _ => .immediate (some 0)
  | _ => .immediate none

/-- The host that accepts everything and completes every request at once. -/
def Host.accepting : Host Unit where
  senses _ := {}
  request request _ state := (request.unattended, state, [])
  notify _ state := (state, [])

end FieldMachine
