import FieldMachine.Config.Stored
import FieldMachine.Json.Read

/-!
# Settings of the console

What the console can be told in its settings file.  A file that is not there is
written with the default settings, so that there is something to edit.
-/

namespace FieldMachine.Console

set_option autoImplicit false

/-- How much of a journal is wanted. -/
inductive Verbosity
  | off
  | error
  | warn
  | info
  | debug
  | trace
deriving DecidableEq

namespace Verbosity

/-- All degrees, from the least wordy one on. -/
def all : List Verbosity := [.off, .error, .warn, .info, .debug, .trace]

/-- The name of a degree. -/
def name : Verbosity → String
  | .off => "OFF"
  | .error => "ERROR"
  | .warn => "WARN"
  | .info => "INFO"
  | .debug => "DEBUG"
  | .trace => "TRACE"

/-- The degree of a name in letters of either case. -/
def named? (text : String) : Option Verbosity :=
  let upper := String.ofList (text.toList.map Char.toUpper)
  all.find? (·.name = upper)

/-- Reads a degree: its name, alone or as the only member of an object, with nothing as its
value. -/
def ofJson? : Json → Option Verbosity
  | .string spelling => (Json.spelled? spelling).bind named?
  | .object [(spelling, .null)] => (Json.spelled? spelling).bind named?
  | _ => none

/-- A name that a degree has is the name of that degree. -/
theorem named?_name (verbosity : Verbosity) : named? verbosity.name = some verbosity := by
  cases verbosity <;> decide +kernel

end Verbosity

/-- How much is wanted of the journals of the console and of everything else. -/
structure LogSettings where
  console : Verbosity := .info
  others : Verbosity := .warn
deriving DecidableEq

namespace LogSettings

/-- The stored form. -/
def toJson (settings : LogSettings) : Json :=
  .object [
    ("app_level_filter", .ofText settings.console.name),
    ("level_filter", .ofText settings.others.name)]

/-- Reads stored settings of the journals, which have to be complete. -/
def ofJson? (json : Json) : Option LogSettings := do
  match ← json.record? ["app_level_filter", "level_filter"] with
  | [console, others] =>
      return {
        console := ← console.required Verbosity.ofJson?
        others := ← others.required Verbosity.ofJson? }
  | _ => none

end LogSettings

/-- The settings of the console. -/
structure Settings where
  title : String := "field runner"
  log : Option LogSettings := some {}
  machine : Config := {}
  /-- The length of a frame in milliseconds. -/
  frameMillis : UInt64 := 33
  /-- Every how many frames the journal gets a snapshot; 0 for never. -/
  snapshotEvery : UInt64 := 60
  /-- After how many frames a request is answered. -/
  answerDelay : UInt64 := 30
  /-- The line chosen in questions. -/
  defaultChoice : UInt16 := 0
deriving DecidableEq

namespace Settings

/-- The names of the fields, in their order. -/
def fieldNames : List String :=
  ["app_name", "logger_config", "vm", "frame_ms", "snapshot_every", "answer_delay",
    "default_choice"]

/-- The stored form. -/
def toJson (settings : Settings) : Json :=
  .object [
    ("app_name", .ofText settings.title),
    ("logger_config", settings.log.elim .null LogSettings.toJson),
    ("vm", settings.machine.toJson),
    ("frame_ms", .ofNat settings.frameMillis.toNat),
    ("snapshot_every", .ofNat settings.snapshotEvery.toNat),
    ("answer_delay", .ofNat settings.answerDelay.toNat),
    ("default_choice", .ofNat settings.defaultChoice.toNat)]

/-- Reads settings of the journals that may be missing. -/
def log? : Json → Option (Option LogSettings)
  | .null => some none
  | json => (LogSettings.ofJson? json).map some

/-- Reads a count of frames or milliseconds. -/
def count? (json : Json) : Option UInt64 := (json.nat? Config.countLimit).map Nat.toUInt64

/-- Reads stored settings; a field that is not there has its default. -/
def ofJson? (json : Json) : Option Settings := do
  match ← json.record? fieldNames with
  | [title, log, machine, millis, every, delay, choice] =>
      let default : Settings := {}
      return {
        title := ← title.orElse default.title Json.text?
        log := ← log.orElse default.log log?
        machine := ← machine.orElse default.machine Config.ofJson?
        frameMillis := ← millis.orElse default.frameMillis count?
        snapshotEvery := ← every.orElse default.snapshotEvery count?
        answerDelay := ← delay.orElse default.answerDelay count?
        defaultChoice := ← choice.orElse default.defaultChoice
          fun json => (json.nat? 65536).map Nat.toUInt16 }
  | _ => none

/-- The settings that a text holds. -/
def read? (text : String) : Option Settings := (Json.read? text).bind ofJson?

/-- The text of settings. -/
def write (settings : Settings) : String := settings.toJson.pretty

/-- The file that holds the settings unless another one is named. -/
def defaultFile : String := "runner.json"

end Settings

end FieldMachine.Console
