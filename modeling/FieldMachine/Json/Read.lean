import FieldMachine.Json.Token

/-!
# Reading JSON

A value is put together from tokens with the arrays and objects that are still
open kept on a stack, so that no nesting is too deep.  `Builder.step` takes one
token; the tokens of a value lead from the empty builder to the finished one.
-/

namespace FieldMachine.Json

set_option autoImplicit false

/-- An array or object that is still open; what it holds is kept in reverse. -/
inductive Frame
  | array (items : List Json)
  | object (members : List (String × Json))
  /-- An object with the name whose value comes next. -/
  | entry (members : List (String × Json)) (name : String)

/-- What may come next. -/
inductive Awaiting
  | value
  /-- A value, or the end of an array that has none yet. -/
  | firstItem
  | name
  /-- A name, or the end of an object that has none yet. -/
  | firstName
  | colon
  /-- A comma, or the end of what is open. -/
  | separator
deriving DecidableEq

/-- A value that is being put together. -/
inductive Builder
  | building (frames : List Frame) (awaiting : Awaiting)
  | built (json : Json)

namespace Builder

/-- Puts a complete value into what is open. -/
def complete (json : Json) : List Frame → Option Builder
  | [] => some (.built json)
  | .array items :: frames => some (.building (.array (json :: items) :: frames) .separator)
  | .entry members name :: frames =>
      some (.building (.object ((name, json) :: members) :: frames) .separator)
  | .object _ :: _ => none

/-- Begins a value with a token. -/
def begin (frames : List Frame) : Token → Option Builder
  | .null => complete .null frames
  | .bool value => complete (.bool value) frames
  | .number numeral => complete (.number numeral) frames
  | .string spelling => complete (.string spelling) frames
  | .mark .openBracket => some (.building (.array [] :: frames) .firstItem)
  | .mark .openBrace => some (.building (.object [] :: frames) .firstName)
  | .mark _ => none

/-- Ends the innermost array. -/
def closeArray : List Frame → Option Builder
  | .array items :: frames => complete (.array items.reverse) frames
  | _ => none

/-- Ends the innermost object. -/
def closeObject : List Frame → Option Builder
  | .object members :: frames => complete (.object members.reverse) frames
  | _ => none

/-- Goes on behind a comma. -/
def goOn : List Frame → Option Builder
  | .array items :: frames => some (.building (.array items :: frames) .value)
  | .object members :: frames => some (.building (.object members :: frames) .name)
  | _ => none

/-- Takes the name of a member. -/
def takeName (frames : List Frame) : Token → Option Builder
  | .string name =>
      match frames with
      | .object members :: frames => some (.building (.entry members name :: frames) .colon)
      | _ => none
  | _ => none

/-- Takes the next token. -/
def step (builder : Builder) (token : Token) : Option Builder :=
  match builder with
  | .built _ => none
  | .building frames awaiting =>
    match awaiting, token with
    | .value, token => begin frames token
    | .firstItem, .mark .closeBracket => closeArray frames
    | .firstItem, token => begin frames token
    | .firstName, .mark .closeBrace => closeObject frames
    | .firstName, token => takeName frames token
    | .name, token => takeName frames token
    | .colon, .mark .colon => some (.building frames .value)
    | .colon, _ => none
    | .separator, .mark .comma => goOn frames
    | .separator, .mark .closeBracket => closeArray frames
    | .separator, .mark .closeBrace => closeObject frames
    | .separator, _ => none

end Builder

/-- The value that tokens write. -/
def ofTokens? (tokens : List Token) : Option Json := do
  match ← tokens.foldlM Builder.step (.building [] .value) with
  | .built json => some json
  | .building .. => none

/-- The value that a text writes. -/
def read? (text : String) : Option Json := (scan text).bind ofTokens?

end FieldMachine.Json
