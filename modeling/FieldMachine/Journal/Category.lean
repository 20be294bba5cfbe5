import FieldMachine.Text.Blank

/-!
# Categories of the journal

The finest lines of the journal belong to one of four categories, and the
environment says which of them are wanted: one variable lists categories, and
every category has a switch of its own beside it.
-/

namespace FieldMachine

set_option autoImplicit false

/-- A category of journal lines. -/
inductive Category
  /-- What becomes of lanes and tokens. -/
  | machine
  /-- Every single instruction. -/
  | opcode
  /-- Calls of scripts. -/
  | call
  /-- Background activities. -/
  | process
deriving DecidableEq

namespace Category

/-- All categories. -/
def all : List Category := [.machine, .opcode, .call, .process]

/-- Lower-case letters for the basic upper-case ones. -/
def lower (text : String) : String := String.ofList (text.toList.map Char.toLower)

/-- The categories that a word of the list stands for, in letters of either case. -/
def named (word : String) : List Category :=
  match lower word with
  | "all" => all
  | "vm" => [.machine]
  | "op" | "opcode" => [.opcode]
  | "call" => [.call]
  | "process" | "proc" => [.process]
  | _ => []

/-- Whether a character stands between the words of the list. -/
def separatesWords (char : Char) : Bool := char = ',' || char = ';' || Text.isBlank char

/-- Cuts characters at separators; between two separators is an empty word. -/
def cutWords : List Char → List (List Char)
  | [] => [[]]
  | char :: rest =>
      if separatesWords char then [] :: cutWords rest
      else match cutWords rest with
        | [] => [[char]]
        | word :: words => (char :: word) :: words

/-- The words of a list. -/
def words (list : String) : List String := (cutWords list.toList).map String.ofList

/-- The variable that lists categories. -/
def listVariable : String := "FIELD_TRACE"

/-- The switch of a category. -/
def switchVariable : Category → String
  | .machine => "FIELD_TRACE_VM"
  | .opcode => "FIELD_TRACE_OP"
  | .call => "FIELD_TRACE_CALL"
  | .process => "FIELD_TRACE_PROCESS"

/-- Whether the value of a switch is on. -/
def isOn (value : String) : Bool :=
  !(["", "0", "false", "no", "off"].contains (lower (Text.trim value)))

/-- Whether a category is wanted in an environment. -/
def isWanted (environment : String → Option String) (category : Category) : Bool :=
  (environment listVariable).any (fun list => (words list).any fun word =>
      (named word).contains category)
    || (environment category.switchVariable).any isOn

end Category

end FieldMachine
