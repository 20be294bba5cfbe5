import FieldMachine.Machine
import FieldMachine.Text.Quoted

/-!
# The console as a host

A host without a game behind it: it writes into the journal whatever a field
tells it or asks it, and answers every request after a fixed number of frames,
every question with the same line as far as the question offers it.  A question
whose last line comes before its first one cannot be answered at all.
-/

namespace FieldMachine.Console

set_option autoImplicit false

/-- A request that is still to be answered. -/
structure Pending where
  /-- The frame in which the answer is given. -/
  due : UInt64
  token : ResumeToken
  answer : Option UInt16
deriving DecidableEq

/-- The state of the console. -/
structure State where
  answerDelay : UInt64
  defaultChoice : UInt16
  frame : UInt64 := 0
  pending : List Pending := []
  /-- Where the field was left for. -/
  jump : Option MapJump := none
  gameOver : Bool := false
  faults : Nat := 0
  buttons : Buttons := 0
  /-- A question was asked that offers no line. -/
  stuck : Bool := false
deriving DecidableEq

namespace State

/-- Whether no request is open. -/
def isIdle (state : State) : Bool := state.pending.isEmpty

/-- Whether the field is over. -/
def isFinished (state : State) : Bool := state.jump.isSome || state.gameOver

/-- Answers a request when its time has come, which may be at once. -/
def defer (state : State) (token : ResumeToken) (answer : Option UInt16) : Completion × State :=
  if state.answerDelay = 0 then (.immediate answer, state)
  else
    let pending : Pending := { due := state.frame + state.answerDelay, token, answer }
    (.deferred, { state with pending := state.pending ++ [pending] })

/-- The line chosen among the offered ones. -/
def choose (state : State) (first last : UInt8) : UInt16 :=
  max first.toUInt16 (min state.defaultChoice last.toUInt16)

end State

/-! ## Journal lines -/

/-- The text of a minigame. -/
def describeMinigame (game : Minigame) : String :=
  s!"Minigame \x7b game: {game.game}, param: {game.param}, field: {game.field}, x: {game.x}, y: {game.y}, triangle: {game.triangle} \x7d"

/-- The text of a tremor. -/
def describeTremor (tremor : Tremor) : String :=
  s!"Shake \x7b kind: {tremor.kind}, x_amplitude: {tremor.xAmplitude}, x_frames: {tremor.xFrames}, y_amplitude: {tremor.yAmplitude}, y_frames: {tremor.yFrames} \x7d"

/-- The text of a command for the sound driver. -/
def describeAkao (operation : UInt8) (params : List UInt16) : String :=
  s!"AkaoCommand \x7b op: {operation}, params: [" ++ ", ".intercalate (params.map toString)
    ++ "] \x7d"

/-- The text shown in a dialog, between quotes. -/
def dialogText (dialog : Dialog) : String := Text.quote (Utf8.decodeString dialog.bytes)

/-- The line about a request. -/
def requestLine : Request → LogLine
  | .dialog shown =>
      match shown.choices with
      | some (first, last) =>
          ⟨.info, s!"ask [{shown.window}] text {shown.text} lines {first}..={last}: "
            ++ dialogText shown⟩
      | none => ⟨.info, s!"message [{shown.window}] text {shown.text}: " ++ dialogText shown⟩
  | .menu kind param => ⟨.info, s!"menu {kind} ({param})"⟩
  | .movie id => ⟨.info, s!"play movie {id}"⟩
  | .battle id => ⟨.info, s!"battle {id}"⟩
  | .minigame game => ⟨.info, s!"minigame {describeMinigame game}"⟩
  | .tutorial id => ⟨.info, s!"tutorial {id}"⟩
  | .disc number => ⟨.info, s!"insert disc {number}"⟩

/-- The lines about a notice. -/
def noticeLines : Notice → List LogLine
  | .closeWindow window => [⟨.debug, s!"close window {window}"⟩]
  | .prepareMovie id => [⟨.debug, s!"prepare movie {id}"⟩]
  | .music command => [⟨.debug, s!"music {command.describe}"⟩]
  | .sound id pan => [⟨.trace, s!"sound {id} pan {pan}"⟩]
  | .akao operation params => [⟨.trace, s!"akao {describeAkao operation params}"⟩]
  | .shake tremor => [⟨.debug, s!"shake {describeTremor tremor}"⟩]
  | .changed change => [⟨.trace, s!"state change {change.describe}"⟩]
  | .leaveField jump => [⟨.info, s!"field jump {jump.describe}"⟩]
  | .prepareField field => [⟨.debug, s!"prepare field {field}"⟩]
  | .gameOver => [⟨.info, "game over"⟩]
  | .locationName text => [⟨.debug, s!"location name {text}"⟩]
  | .fault fault => [⟨.error, s!"fault: {fault.message}"⟩]
  | .countdown .. | .countdownWoke _ => []

/-! ## The host -/

/-- What the console does with a request. -/
def State.attend (state : State) (token : ResumeToken) : Request → Completion × State
  | .dialog shown =>
      match shown.choices with
      | some (first, last) =>
          if last < first then (.immediate none, { state with stuck := true })
          else state.defer token (some (state.choose first last))
      | none => state.defer token none
  | .battle _ => state.defer token (some 0)
  | _ => state.defer token none

/-- What the console remembers of a notice. -/
def State.hear (state : State) : Notice → State
  | .leaveField jump => { state with jump := some jump }
  | .gameOver => { state with gameOver := true }
  | .fault _ => { state with faults := state.faults + 1 }
  | _ => state

/-- The console as a host. -/
def host : Host State where
  senses state := { buttons := state.buttons }
  request request token state :=
    let (completion, state) := state.attend token request
    (completion, state, [requestLine request])
  notify notice state := (state.hear notice, noticeLines notice)

end FieldMachine.Console
