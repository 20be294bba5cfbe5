import FieldMachine.Console.Folder
import FieldMachine.Console.Options
import FieldMachine.Console.Play
import FieldMachine.Listing.Project

/-!
# The programs of the console

`play` plays a section and prints what has become of it; `list` writes the
listing of a section into a folder.  Both check their command line before they
touch a file.  Playing reads the settings before the section, so that default
settings are written even if there is no section to play.
-/

namespace FieldMachine.Console

set_option autoImplicit false

/-- How a program ended: its exit code and what it printed. -/
structure Outcome where
  code : Nat
  output : String := ""
deriving DecidableEq

namespace Outcome

/-- The program did what it was told. -/
def done (output : String) : Outcome := { code := 0, output }

/-- Something that the program needs is missing or broken. -/
def failed : Outcome := { code := 1 }

/-- The command line makes no sense. -/
def misused : Outcome := { code := 2 }

/-- A question left the console stuck. -/
def stuck : Outcome := { code := 101 }

end Outcome

variable {m : Type → Type} [Monad m]

/-- Why there are no settings. -/
inductive SettingsError
  /-- There is no file, and none was to be made. -/
  | missing
  /-- The file cannot be read or written, or does not hold settings. -/
  | broken
deriving DecidableEq

/-- The text that reports missing settings. -/
def SettingsError.message? : SettingsError → Option String
  | .missing => some "File not found"
  | .broken => none

/-- The settings in a file that is there. -/
def readSettings (store : Store m) (path : String) : m (Except SettingsError Settings) := do
  match ← store.read? path with
  | none => return .error .broken
  | some contents =>
      match (String.fromUTF8? contents).bind Settings.read? with
      | none => return .error .broken
      | some settings => return .ok settings

/-- The settings in a file that has to be there. -/
def requireSettings (store : Store m) (path : String) : m (Except SettingsError Settings) := do
  if ← store.isThere path then readSettings store path else return .error .missing

/-- The settings in a file, which is written with the default ones if it is not there. -/
def obtainSettings (store : Store m) (path : String) : m (Except SettingsError Settings) := do
  if ← store.isThere path then readSettings store path
  else
    let settings : Settings := {}
    if ← store.write path settings.write.toUTF8 then return .ok settings
    else return .error .broken

/-- The section in a file. -/
def readSection (store : Store m) (path : String) : m (Option Section) := do
  match ← store.read? path with
  | none => return none
  | some contents => return (Section.read contents.data).toOption

/-- The settings with what the command line and the environment say instead. -/
def overridden (settings : Settings) (options : PlayOptions) (budget : Option String) : Settings :=
  { settings with
    snapshotEvery := options.snapshotEvery.getD settings.snapshotEvery
    machine := settings.machine.withBudget budget }

/-- Plays a section. -/
def play (store : Store m) (budget : Option String) (line : List String) : m Outcome := do
  match PlayOptions.read? line with
  | none => return .misused
  | some options =>
    match ← obtainSettings store (options.settingsFile.getD Settings.defaultFile) with
    | .error _ => return .failed
    | .ok settings =>
      match ← readSection store options.input with
      | none => return .failed
      | some source =>
        match play? (overridden settings options budget) source options.seed
            options.ticks.toNat options.dumpBanks with
        | none => return .stuck
        | some output => return .done output

/-- Writes files into a folder, up to the first that cannot be written. -/
def writeFiles (store : Store m) (folder : String) : List (String × String) → m Bool
  | [] => return true
  | (name, text) :: rest => do
      if ← store.write (Path.join folder name) text.toUTF8 then writeFiles store folder rest
      else return false

/-- Makes a folder that is not there yet. -/
def ensureFolder (store : Store m) (path : String) : m Bool := do
  if ← store.isThere path then return true else store.makeFolder path

/-- Writes the listing of a section. -/
def list (store : Store m) (line : List String) : m Outcome := do
  match ListOptions.read? line with
  | none => return .misused
  | some options =>
    match ← readSection store options.input with
    | none => return .failed
    | some source =>
        if ← ensureFolder store options.output then
          if ← writeFiles store options.output (Listing.files source) then return .done ""
          else return .failed
        else return .failed

end FieldMachine.Console
