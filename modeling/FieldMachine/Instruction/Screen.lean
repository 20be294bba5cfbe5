import FieldMachine.Reading

/-!
# Camera, fades, sound and movies

What the player sees and hears beside the dialogs.  A scroll and a fade go on in
the background and replace the one before; music, sound and tremors are only
passed on to the host.
-/

namespace FieldMachine.Screen

set_option autoImplicit false

open Reading

/-! ## Sound -/

/-- Plays music, unless the music is locked. -/
def playMusic : Reading Plan := do
  let id ← byte
  if (← stage).musicLocked then return .next [.log (.musicIgnored id)]
  else return .next [.notify (.music (.play id))]

/-- Gives a command for the music. -/
def commandMusic (command : UInt8 → MusicCommand) : Reading Plan := do
  let value ← byte
  return .next [.notify (.music (command value))]

/-- Locks or unlocks the music. -/
def lockMusic : Reading Plan := do
  let on ← switch
  return .next [.stage (.setMusicLocked on)]

/-- Sets the music of battles. -/
def setBattleMusic : Reading Plan := do
  let id ← byte
  return .next [.session (.setBattleMusic id)]

/-- Stores whether music is playing. -/
def storeMusicPlaying : Reading Plan := do
  let selectors ← selectors
  let address ← byte
  return .next [.store selectors.high address (if (← senses).musicPlaying then 1 else 0)]

/-- Plays a sound. -/
def playSound : Reading Plan := do
  let selectors ← selectors
  let id ← word
  let pan ← byte
  let id ← load selectors.high id
  let pan ← loadByte selectors.low pan
  return .next [.notify (.sound id pan)]

/-- Gives a raw command to the sound driver; its first parameter has one byte or two. -/
def commandSound (wide : Bool) : Reading Plan := do
  let front ← selectors
  let middle ← selectors
  let back ← selectors
  let operation ← byte
  let first ← if wide then word else UInt8.toUInt16 <$> byte
  let second ← word
  let third ← word
  let fourth ← word
  let fifth ← word
  let first ← load front.high first
  let second ← load front.low second
  let third ← load middle.high third
  let fourth ← load middle.low fourth
  let fifth ← load back.high fifth
  return .next [.notify (.akao operation [first, second, third, fourth, fifth])]

/-! ## Movies and tremors -/

/-- Prepares a movie. -/
def prepareMovie : Reading Plan := do
  let id ← byte
  return .next [.stage (.setMovie id), .notify (.prepareMovie id)]

/-- Plays the movie that was prepared. -/
def playMovie : Reading Plan := do
  match (← stage).movie with
  | none => return .next [.log (.noMoviePrepared (← scene).entity)]
  | some id => return .act [] (.request (.movie id) .movie)

/-- Stores the frame that the movie has reached. -/
def storeMovieFrame : Reading Plan := do
  let selectors ← selectors
  let address ← byte
  return .next [.store selectors.high address (← senses).movieFrame]

/-- Lets the movie move the camera or not. -/
def setMovieCamera : Reading Plan := do
  let on ← inverseSwitch
  return .next [.stage (.setMovieCamera on)]

/-- Shakes the screen. -/
def shake : Reading Plan := do
  let _ ← word
  let kind ← byte
  let xAmplitude ← byte
  let xFrames ← byte
  let yAmplitude ← byte
  let yFrames ← byte
  return .next [.notify (.shake { kind, xAmplitude, xFrames, yAmplitude, yFrames })]

/-! ## Fades -/

/-- Fades to a colour, or back from it, or to black at once; any other kind ends the fade. -/
def fade : Reading Plan := do
  let front ← selectors
  let back ← selectors
  let red ← byte
  let green ← byte
  let blue ← byte
  let speed ← byte
  let kind ← byte
  let start ← byte
  let red ← loadByte front.high red
  let green ← loadByte front.low green
  let blue ← loadByte back.high blue
  let step := max speed.toUInt16 1
  if kind = 1 then
    return .next [.fade { red, green, blue } start.toUInt16 fadeFull step false]
  else if kind = 2 then return .next [.fade { red, green, blue } fadeFull 0 step true]
  else if kind = 4 then return .next [.fade {} fadeFull fadeFull step true]
  else return .next [.clearFade]

/-- Fades to a colour over a number of frames, starting from the present amount. -/
def fadeOver : Reading Plan := do
  let front ← selectors
  let back ← selectors
  let kind ← byte
  let red ← byte
  let green ← byte
  let blue ← byte
  let frames ← byte
  let _ ← byte
  let red ← loadByte front.high red
  let green ← loadByte front.low green
  let blue ← loadByte back.high blue
  if kind = 0 then return .next [.clearFade]
  else
    let step := max (fadeFull / max frames.toUInt16 1) 1
    return .next
      [.fade { red, green, blue } (← stage).fade.amount fadeFull step (kind = 12)]

/-- Waits for the end of a fade. -/
def awaitFade : Reading Plan := do
  if (← stage).fade.active then return .retry [] else return .next []

/-! ## Scrolls -/

/-- Lets the camera follow the player. -/
def followPlayer : Reading Plan := do
  let _ ← byte
  return .next [.stage .followPlayer]

/-- Scrolls to the player. -/
def scrollToPlayer : Reading Plan := do
  let selectors ← selectors
  let frames ← word
  let kind ← byte
  let frames ← load selectors.high frames
  match (← stage).player with
  | none => return .next [.log .noPlayer]
  | some id => return .next [.scroll (.entity id) frames (Easing.ofByte kind)]

/-- Scrolls to an entity that is looked up from one byte. -/
def scrollToEntity (find : UInt8 → Reading EntityId) : Reading Plan := do
  let selectors ← selectors
  let frames ← word
  let index ← byte
  let kind ← byte
  let frames ← load selectors.high frames
  return .next [.scroll (.entity (← find index)) frames (Easing.ofByte kind)]

/-- Reads a point, each coordinate with a selector. -/
def point (selectors : Selectors) : Reading Point := do
  let x ← signed
  let y ← signed
  let x ← loadCoordinate selectors.high x
  let y ← loadCoordinate selectors.low y
  return { x, y }

/-- Moves the camera to a point at once. -/
def jumpToPoint : Reading Plan := do
  let goal ← point (← selectors)
  return .next [.scroll (.point goal) 0 .instant]

/-- Moves the camera to the player at once and lets it follow him. -/
def jumpToPlayer : Reading Plan := do
  match (← stage).player with
  | none => return .next [.stage .followPlayer]
  | some id => return .next [.scroll (.entity id) 0 .instant, .stage .followPlayer]

/-- Scrolls to a point. -/
def scrollToPoint (easing : Easing) : Reading Plan := do
  let front ← selectors
  let back ← selectors
  let goal ← point front
  let frames ← word
  let frames ← load back.high frames
  return .next [.scroll (.point goal) frames easing]

/-- Waits for the end of a scroll. -/
def awaitScroll : Reading Plan := do
  if (← stage).camera.scrolling then return .retry [] else return .next []

end FieldMachine.Screen
