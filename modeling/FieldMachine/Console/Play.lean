import FieldMachine.Console.Host
import FieldMachine.Console.Settings
import FieldMachine.Snapshot

/-!
# Playing a field on the console

The console plays a field frame by frame: answers whose time has come are given
back, then the field gets its tick.  It goes on until the frames are used up or
the field is over.  At the end it prints a snapshot, the jump that ended the
field, and on request every cell that is not zero.
-/

namespace FieldMachine.Console

set_option autoImplicit false

/-- What stays the same while the console plays a section. -/
def settingFor (settings : Settings) (source : Section) : Setting State :=
  { source, config := settings.machine, host }

/-- The console at the beginning of a field. -/
def begin (settings : Settings) (source : Section) (seed : UInt64) : Machine State :=
  (Machine.enter (settingFor settings source) (.fresh settings.machine) (.ofSeed seed)
    { answerDelay := settings.answerDelay, defaultChoice := settings.defaultChoice }).start

/-- The line about an answer that is given back. -/
def deliveryLine (frame : UInt64) (token : ResumeToken) : LogLine :=
  ⟨.debug, s!"frame {frame}: resuming {token.describe}"⟩

/-- Gives one answer back. -/
def deliverOne (frame : UInt64) (machine : Machine State) (pending : Pending) : Machine State :=
  (machine.note (.host (deliveryLine frame pending.token))).giveBack pending.token pending.answer

/-- Gives back the answers that are due in a frame. -/
def deliver (frame : UInt64) (machine : Machine State) : Machine State :=
  let (due, later) := machine.host.pending.partition (·.due ≤ frame)
  due.foldl (deliverOne frame)
    { machine with host := { machine.host with frame, pending := later } }

/-- One frame. -/
def playFrame (settings : Settings) (source : Section) (frame : UInt64)
    (machine : Machine State) : Machine State :=
  (deliver frame machine).tick (settingFor settings source) settings.frameMillis

/-- Whether the console stops playing. -/
def isOver (machine : Machine State) : Bool := machine.host.isFinished || machine.host.stuck

/-- So many frames, or as many as there are until the field is over. -/
def playFrames (settings : Settings) (source : Section) :
    Nat → UInt64 → Machine State → Machine State
  | 0, _, machine => machine
  | more + 1, frame, machine =>
      let machine := playFrame settings source frame machine
      if isOver machine then machine else playFrames settings source more (frame + 1) machine

/-! ## The report -/

/-- The line about one cell. -/
def cellLine (bank address : Nat) (value : UInt16) : String :=
  s!"[{bank}][0x" ++ Numeral.hexLower 2 address ++ s!"] = {value} (0x"
    ++ Numeral.hexLower 4 value.toNat ++ ")\n"

/-- The line about a cell under the number of a bank, if there is such a bank. -/
def bankLine? (count number address : Nat) (value : UInt16) : Option String :=
  if number < count then some (cellLine number address value) else none

/-- The lines about all cells that are not zero.  A bank is read by a byte, so that the numbers past
the last byte go through the same banks again. -/
def memoryLines (memory : Memory) : List String :=
  let cells := memory.nonzeroCells
  if cells.isEmpty then []
  else
    (List.range (memory.bankCount / UInt8.size + 1)).flatMap fun round =>
      cells.filterMap fun (bank, address, value) =>
        bankLine? memory.bankCount (round * UInt8.size + bank) address value

/-- The line about the field that follows. -/
def jumpLine (jump : MapJump) : String := s!"next field: {jump.field} at ({jump.x}, {jump.y})\n"

/-- What the console prints at the end. -/
def report (dumpBanks : Bool) (machine : Machine State) : String :=
  (Snapshot.ofWorld machine.world).describe ++ "\n"
    ++ machine.host.jump.elim "" jumpLine
    ++ (if dumpBanks then String.join (memoryLines machine.session.memory) else "")

/-- What the console prints for a section, unless a question leaves it stuck. -/
def play? (settings : Settings) (source : Section) (seed : UInt64) (frames : Nat)
    (dumpBanks : Bool) : Option String :=
  let machine := playFrames settings source frames 0 (begin settings source seed)
  if machine.host.stuck then none else some (report dumpBanks machine)

end FieldMachine.Console
