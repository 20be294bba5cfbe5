import FieldMachine.Section

/-!
# Drafts of sections

What a section is written from: names, scripts and texts.  `Draft.encode` lays
them out so that `Section.read` accepts the result.  Two bytes of `RET` come
first in the bytecode, and every script that is missing or empty begins there;
all other scripts follow one after the other.
-/

namespace FieldMachine

set_option autoImplicit false

/-- An entity of a draft; its scripts take the slots from 0 on. -/
structure DraftEntity where
  name : String
  scripts : List (List UInt8)
deriving DecidableEq

/-- What a section is written from. -/
structure Draft where
  name : String
  creator : String := ""
  scale : UInt16 := 512
  entities : List DraftEntity := []
  texts : List (List UInt8) := []
deriving DecidableEq

/-- Why a draft cannot be written. -/
inductive DraftError
  | tooManyEntities (count : Nat)
  | tooManyScripts (name : String) (count : Nat)
  | stringTableTooLarge
  | codeTooLarge (size : Nat)
deriving DecidableEq

/-- The text that reports why a draft cannot be written. -/
def DraftError.message : DraftError → String
  | .tooManyEntities count => s!"too many entities: {count}"
  | .tooManyScripts name count => s!"entity {name} has {count} scripts"
  | .stringTableTooLarge => "string table too large"
  | .codeTooLarge size => s!"script section too large: {size} bytes of code"

namespace Draft

/-- The version that is written. -/
def version : Nat := 0x0502

/-- The largest offset that two bytes can hold. -/
def offsetLimit : Nat := 0xFFFF

/-- A number in two bytes, low byte first. -/
def word (number : Nat) : List UInt8 := [number.toUInt8, (number / 256).toUInt8]

/-- A name in eight bytes: its first bytes, filled up with zeros. -/
def nameBytes (name : String) : List UInt8 :=
  let bytes := name.toUTF8.toList.take Section.nameSize
  bytes ++ List.replicate (Section.nameSize - bytes.length) 0

/-- Where the bytecode starts. -/
def codeStart (draft : Draft) : Nat :=
  Section.headerSize + (Section.nameSize + 2 * scriptCount) * draft.entities.length

/-- The scripts that missing ones stand for. -/
def sharedScript : List UInt8 := [0, 0]

/-- The bytecode. -/
def code (draft : Draft) : List UInt8 :=
  sharedScript ++ (draft.entities.map fun entity => entity.scripts.flatten).flatten

/-- The entries of scripts that are laid out from `next` on; empty ones begin at `shared`. -/
def entries (shared : Nat) : Nat → List (List UInt8) → List Nat
  | _, [] => []
  | next, script :: rest =>
      (if script.isEmpty then shared else next) :: entries shared (next + script.length) rest

/-- The script table of an entity whose scripts are laid out from `next` on. -/
def table (shared next : Nat) (scripts : List (List UInt8)) : List Nat :=
  entries shared next scripts ++ List.replicate (scriptCount - scripts.length) shared

/-- The script tables of entities whose scripts are laid out from `next` on. -/
def tables (shared : Nat) : Nat → List DraftEntity → List (List Nat)
  | _, [] => []
  | next, entity :: rest =>
      table shared next entity.scripts
        :: tables shared (next + entity.scripts.flatten.length) rest

/-- The offsets of texts that are laid out from `next` on. -/
def textOffsets : Nat → List (List UInt8) → List Nat
  | _, [] => []
  | next, text :: rest => next :: textOffsets (next + text.length + 1) rest

/-- The string table. -/
def strings (draft : Draft) : List UInt8 :=
  word draft.texts.length
    ++ (textOffsets (2 + 2 * draft.texts.length) draft.texts).flatMap word
    ++ draft.texts.flatMap (· ++ [Section.textTerminator])

/-- Why the draft cannot be written, if it cannot. -/
def error? (draft : Draft) : Option DraftError :=
  if 255 < draft.entities.length then some (.tooManyEntities draft.entities.length)
  else match draft.entities.find? fun entity => scriptCount < entity.scripts.length with
    | some entity => some (.tooManyScripts entity.name entity.scripts.length)
    | none =>
      if (textOffsets (2 + 2 * draft.texts.length) draft.texts).any (offsetLimit < ·) then
        some .stringTableTooLarge
      else if offsetLimit < draft.codeStart + draft.code.length then
        some (.codeTooLarge (draft.codeStart + draft.code.length))
      else none

/-- The bytes of a draft that can be written. -/
def layout (draft : Draft) : List UInt8 :=
  let start := draft.codeStart
  let stringsOffset := start + draft.code.length
  word version ++ [draft.entities.length.toUInt8, 0]
    ++ word stringsOffset ++ word 0 ++ word draft.scale.toNat ++ List.replicate 6 0
    ++ nameBytes draft.creator ++ nameBytes draft.name
    ++ draft.entities.flatMap (fun entity => nameBytes entity.name)
    ++ (tables start (start + sharedScript.length) draft.entities).flatten.flatMap word
    ++ draft.code ++ draft.strings

/-- Writes a draft as a section. -/
def encode (draft : Draft) : Except DraftError (List UInt8) :=
  match draft.error? with
  | some error => .error error
  | none => .ok draft.layout

end Draft

end FieldMachine
