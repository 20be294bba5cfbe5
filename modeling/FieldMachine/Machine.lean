import FieldMachine.World
import FieldMachine.Session
import FieldMachine.Random

/-!
# The machine

A running field together with everything it works on: the session, the random
numbers, the state of its host, and its journal.  What stays the same while it
runs (the section, the configuration and the host itself) is its `Setting`.
-/

namespace FieldMachine

set_option autoImplicit false

/-- What stays the same while a field runs. -/
structure Setting (σ : Type) where
  source : Section
  config : Config
  host : Host σ

/-- A running field and everything it works on. -/
structure Machine (σ : Type) where
  world : World
  session : Session
  random : Random
  host : σ
  /-- The entries of the journal, the latest one first. -/
  journal : List Entry := []

namespace Machine

variable {σ : Type}

/-- Adds an entry to the journal. -/
def note (machine : Machine σ) (entry : Entry) : Machine σ :=
  { machine with journal := entry :: machine.journal }

/-- Adds the lines of the host to the journal. -/
def noteHost (machine : Machine σ) (lines : List LogLine) : Machine σ :=
  lines.foldl (fun machine line => machine.note (.host line)) machine

/-- The lines of the journal, the earliest one first. -/
def lines (machine : Machine σ) : List String := machine.journal.reverse.map Entry.render

/-- Changes the world. -/
def updateWorld (machine : Machine σ) (change : World → World) : Machine σ :=
  { machine with world := change machine.world }

/-- Changes the session. -/
def updateSession (machine : Machine σ) (change : Session → Session) : Machine σ :=
  { machine with session := change machine.session }

/-- Tells the host something. -/
def notify (setting : Setting σ) (notice : Notice) (machine : Machine σ) : Machine σ :=
  let (state, lines) := setting.host.notify notice machine.host
  { machine with host := state }.noteHost lines

/-- Makes a request to the host. -/
def request (setting : Setting σ) (request : Request) (token : ResumeToken)
    (machine : Machine σ) : Completion × Machine σ :=
  let (completion, state, lines) := setting.host.request request token machine.host
  (completion, { machine with host := state }.noteHost lines)

/-- What the host can be asked at the moment. -/
def senses (setting : Setting σ) (machine : Machine σ) : Senses :=
  setting.host.senses machine.host

/-- Wakes a lane; the journal tells so wherever the token names a lane that exists. -/
def wake (machine : Machine σ) (token : ResumeToken) : Machine σ × Option PauseReason :=
  match machine.world.lane? token.entity token.priority with
  | none => (machine, none)
  | some _ =>
      let (world, reason) := machine.world.wake token
      ({ machine with world }.note (.woken token reason), reason)

/-- Fires a completion, if there is one. -/
def complete (machine : Machine σ) (onStop : Option ResumeToken) : Machine σ :=
  match onStop with
  | none => machine
  | some token => (machine.wake token).1

/-- Starts a script on a lane of an entity, unless that is refused. -/
def startScript (machine : Machine σ) (id : EntityId) (priority script : Nat)
    (onStop : Option ResumeToken) : Machine σ × Bool :=
  match machine.world.entity? id with
  | none => (machine, false)
  | some entity =>
    match entity.admission priority script with
    | .error refusal => (machine.note refusal.entry, false)
    | .ok entry =>
        (machine.updateWorld (·.updateLane id priority (·.start entry script onStop)), true)

/-- Puts a value into a cell that exists, and announces it if the bank is replicated. -/
def putCell (setting : Setting σ) (bank address : UInt8) (value : UInt16)
    (machine : Machine σ) : Machine σ :=
  let machine := machine.updateSession (·.putCell bank address.toUInt16 value)
  if setting.config.isReplicated bank then
    machine.notify setting (.changed (.cell bank address value))
  else machine

/-- Writes a cell, or tells why there is none. -/
def writeCell (setting : Setting σ) (bank address : UInt8) (value : UInt16)
    (machine : Machine σ) : Machine σ × Option AddressError :=
  match machine.session.memory.locate bank address.toUInt16 with
  | .error error => (machine, some error)
  | .ok () => (machine.putCell setting bank address value, none)

end Machine

end FieldMachine
