import FieldMachine.Config.Stored

/-!
# Options of the command line

Options have a long name behind two dashes, and some have a letter behind one.
A value stands in the next argument, behind an equals sign, or, for a letter,
right behind it.  An option stands at most once, and nothing else may stand on
the line.  What a program is told is read from the options by `PlayOptions.read?`
and `ListOptions.read?`.
-/

namespace FieldMachine.Console

set_option autoImplicit false

/-- An option that a program knows. -/
structure OptionForm where
  name : String
  letter : Option Char := none
  takesValue : Bool := true
deriving DecidableEq

/-- An option on the line, with its value; one that takes none has an empty one. -/
structure GivenOption where
  name : String
  value : String
deriving DecidableEq

/-- Whether an argument can be the value of the option before it. -/
def isValue (argument : String) : Bool := argument.toList.head? ≠ some '-' || argument = "-"

/-- The name and the value on both sides of an equals sign. -/
def cutAtEquals (chars : List Char) : List Char × Option (List Char) :=
  match chars.dropWhile (· ≠ '=') with
  | [] => (chars, none)
  | _ :: value => (chars.takeWhile (· ≠ '='), some value)

/-- An option whose value may stand in the next argument: what was given, and whether the next
argument was used. -/
def takeValue (form : OptionForm) (attached : Option (List Char)) (next : Option String) :
    Option (GivenOption × Bool) :=
  match form.takesValue, attached with
  | true, some value => some ({ name := form.name, value := String.ofList value }, false)
  | true, none =>
      (next.filter isValue).map fun value => ({ name := form.name, value }, true)
  | false, none => some ({ name := form.name, value := "" }, false)
  | false, some _ => none

/-- The value right behind a letter. -/
def attachedToLetter : List Char → Option (List Char)
  | [] => none
  | '=' :: value => some value
  | value => some value

/-- The option that an argument gives, and whether the next argument was used for it. -/
def takeOption (forms : List OptionForm) (argument : String) (next : Option String) :
    Option (GivenOption × Bool) :=
  match argument.toList with
  | '-' :: '-' :: chars => do
      let (name, attached) := cutAtEquals chars
      let form ← forms.find? (·.name = String.ofList name)
      takeValue form attached next
  | '-' :: letter :: chars => do
      let form ← forms.find? (·.letter = some letter)
      takeValue form (attachedToLetter chars) next
  | _ => none

/-- The options on a line.  Two dashes alone may end it. -/
def givenOptions? (forms : List OptionForm) : List String → Option (List GivenOption)
  | [] => some []
  | ["--"] => some []
  | argument :: rest => do
      let (given, used) ← takeOption forms argument rest.head?
      match used, rest with
      | true, _ :: others => return given :: (← givenOptions? forms others)
      | _, rest => return given :: (← givenOptions? forms rest)

/-- The options on a line, none of them twice. -/
def options? (forms : List OptionForm) (line : List String) : Option (List GivenOption) :=
  (givenOptions? forms line).filter fun given => (given.map GivenOption.name).Nodup

/-- The value of an option. -/
def valueOf? (given : List GivenOption) (name : String) : Option String :=
  (given.find? (·.name = name)).map GivenOption.value

/-- A path that has to be given. -/
def path? (given : List GivenOption) (name : String) : Option String :=
  (valueOf? given name).filter (· ≠ "")

/-- A path that may be left out, but must not be empty. -/
def optionalPath? (given : List GivenOption) (name : String) : Option (Option String) :=
  match valueOf? given name with
  | none => some none
  | some path => if path = "" then none else some (some path)

/-- A count that may be left out. -/
def optionalCount? (given : List GivenOption) (name : String) : Option (Option UInt64) :=
  match valueOf? given name with
  | none => some none
  | some text => (Numeral.unsigned? Config.countLimit text).map fun count => some count.toUInt64

/-! ## Playing -/

/-- What the console is told about playing a field. -/
structure PlayOptions where
  input : String
  settingsFile : Option String := none
  ticks : UInt64 := 600
  snapshotEvery : Option UInt64 := none
  seed : UInt64 := 0
  dumpBanks : Bool := false
deriving DecidableEq

namespace PlayOptions

/-- The options of playing. -/
def forms : List OptionForm :=
  [{ name := "input", letter := some 'i' }, { name := "config", letter := some 'c' },
    { name := "ticks", letter := some 't' }, { name := "snapshot-every" }, { name := "seed" },
    { name := "dump-banks", takesValue := false }]

/-- Reads the options of playing. -/
def read? (line : List String) : Option PlayOptions := do
  let given ← options? forms line
  return {
    input := ← path? given "input"
    settingsFile := ← optionalPath? given "config"
    ticks := (← optionalCount? given "ticks").getD 600
    snapshotEvery := ← optionalCount? given "snapshot-every"
    seed := (← optionalCount? given "seed").getD 0
    dumpBanks := (valueOf? given "dump-banks").isSome }

end PlayOptions

/-! ## Listing -/

/-- What the console is told about listing a section. -/
structure ListOptions where
  input : String
  /-- The folder for the files of the listing. -/
  output : String
deriving DecidableEq

namespace ListOptions

/-- The options of listing. -/
def forms : List OptionForm :=
  [{ name := "input", letter := some 'i' }, { name := "output", letter := some 'o' }]

/-- Reads the options of listing. -/
def read? (line : List String) : Option ListOptions := do
  let given ← options? forms line
  return { input := ← path? given "input", output := ← path? given "output" }

end ListOptions

end FieldMachine.Console
