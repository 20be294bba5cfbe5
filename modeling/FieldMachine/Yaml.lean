import FieldMachine.Yaml.Scalar

/-!
# YAML documents

Documents of nested sequences and mappings in the block form: every item and
every entry begins a line, two blanks deeper than what it belongs to, but a
sequence that is the value of an entry begins below its key.
-/

namespace FieldMachine

set_option autoImplicit false

/-- A value of a document. -/
inductive Yaml
  | scalar (text : String)
  | natural (value : Nat)
  | sequence (items : List Yaml)
  | mapping (entries : List (String × Yaml))

namespace Yaml

/-- Text with its last line ended; a literal block may have ended it already. -/
def endLine (text : String) : String :=
  if text.toList.getLast?.any isBreak then text else text ++ "\n"

/-- The blanks in front of a line, as text. -/
def marginText (width : Nat) : String := String.ofList (margin width)

/-- Pieces that begin lines at a margin; the first one stands where the text has come to. -/
def stack (indent : Nat) : List String → String
  | [] => ""
  | [piece] => piece
  | piece :: rest => endLine piece ++ marginText indent ++ stack indent rest

mutual

/-- A value behind the dash of an item that begins at a margin. -/
def writeItem (indent : Nat) : Yaml → String
  | .scalar text => writeScalar (indent + 2) text
  | .natural value => toString value
  | .sequence [] => "[]"
  | .sequence items => stack (indent + 2) (writeItems (indent + 2) items)
  | .mapping [] => "\x7b\x7d"
  | .mapping entries => stack (indent + 2) (writeEntries (indent + 2) entries)

/-- The items of a sequence at a margin, each behind a dash. -/
def writeItems (indent : Nat) : List Yaml → List String
  | [] => []
  | item :: rest => ("- " ++ writeItem indent item) :: writeItems indent rest

/-- A value behind the colon of a key that begins at a margin. -/
def writeValue (indent : Nat) : Yaml → String
  | .scalar text => " " ++ writeScalar (indent + 2) text
  | .natural value => " " ++ toString value
  | .sequence [] => " []"
  | .sequence items => "\n" ++ marginText indent ++ stack indent (writeItems indent items)
  | .mapping [] => " \x7b\x7d"
  | .mapping entries =>
      "\n" ++ marginText (indent + 2) ++ stack (indent + 2) (writeEntries (indent + 2) entries)

/-- The entries of a mapping at a margin. -/
def writeEntries (indent : Nat) : List (String × Yaml) → List String
  | [] => []
  | (key, value) :: rest => (key ++ ":" ++ writeValue indent value) :: writeEntries indent rest

end

/-- A document. -/
def document : Yaml → String
  | .scalar text => endLine (writeScalar 2 text)
  | .natural value => endLine (toString value)
  | .sequence [] => "[]\n"
  | .sequence items => endLine (stack 0 (writeItems 0 items))
  | .mapping [] => "\x7b\x7d\n"
  | .mapping entries => endLine (stack 0 (writeEntries 0 entries))

end Yaml

end FieldMachine
