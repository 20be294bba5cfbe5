import FieldMachine.Console.Program

/-!
# The command line

The first argument chooses the program: `play` or `list`.  The others are its
options.
-/

namespace FieldMachine.Main

open FieldMachine.Console

/-- Whether an action succeeds. -/
def succeeds (action : IO Unit) : IO Bool := do
  try
    action
    return true
  catch _ => return false

/-- The files of the working folder. -/
def files : Store IO where
  isThere path := succeeds do
    let _ ← IO.FS.realPath path
  read? path := do
    try return some (← IO.FS.readBinFile path) catch _ => return none
  write path contents := succeeds (IO.FS.writeBinFile path contents)
  makeFolder path := succeeds (IO.FS.createDirAll path)

/-- Prints what a program printed and gives its exit code. -/
def finish (outcome : Outcome) : IO UInt32 := do
  IO.print outcome.output
  return outcome.code.toUInt32

end FieldMachine.Main

open FieldMachine.Main in
/-- Runs a program of the console. -/
def main (arguments : List String) : IO UInt32 := do
  match arguments with
  | "play" :: line =>
      let budget ← IO.getEnv FieldMachine.Config.budgetVariable
      finish (← FieldMachine.Console.play files budget line)
  | "list" :: line => finish (← FieldMachine.Console.list files line)
  | _ => finish .misused
