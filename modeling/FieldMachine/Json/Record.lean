import FieldMachine.Json

/-!
# Records

A record of fixed fields is stored as an object, or as an array of its first
fields in their order.  In an object the fields stand in any order, names that
the record does not have mean nothing, and a field that stands twice is refused.
-/

namespace FieldMachine.Json

set_option autoImplicit false

/-- The stored value of one field, if it is there. -/
structure Field where
  stored? : Option Json

/-- Reads a field; one that is not there has its default. -/
def Field.orElse {α : Type} (field : Field) (default : α) (read : Json → Option α) : Option α :=
  match field.stored? with
  | none => some default
  | some json => read json

/-- Reads a field that has to be there. -/
def Field.required {α : Type} (field : Field) (read : Json → Option α) : Option α :=
  field.stored?.bind read

/-- The members with their names taken apart. -/
def namedMembers? (members : List (String × Json)) : Option (List (String × Json)) :=
  members.mapM fun (name, json) => (spelled? name).map (·, json)

/-- The field of a name among members; there is none when the name stands twice. -/
def fieldNamed? (members : List (String × Json)) (name : String) : Option Field :=
  match members.filter (·.1 = name) with
  | [] => some { stored? := none }
  | [(_, json)] => some { stored? := some json }
  | _ => none

/-- The fields of a record, in the order of their names. -/
def record? (names : List String) : Json → Option (List Field)
  | .array items =>
      if names.length < items.length then none
      else some (items.map (fun json => { stored? := some json })
        ++ List.replicate (names.length - items.length) { stored? := none })
  | .object members => do
      let members ← namedMembers? members
      names.mapM (fieldNamed? members)
  | _ => none

end FieldMachine.Json
