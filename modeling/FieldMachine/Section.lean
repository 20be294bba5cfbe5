import FieldMachine.Text.Utf8
import FieldMachine.Lane

/-!
# Script sections

The binary form of a field's scripts.  All numbers are stored low byte first:

* a header of 32 bytes with the counts, the offset of the string table and the
  names of the creator and of the field;
* the names of the entities, eight bytes each;
* offsets of music blocks, four bytes each;
* for every entity a table of 32 script entries, two bytes each;
* the bytecode, up to the string table;
* the string table: a count, offsets relative to the table, and texts that end
  with the byte 0xFF.

`Section.read` checks a section from front to back and reports the first thing
that is wrong with it.  A section that was read keeps every script entry inside
its bytecode and every text inside its bytes.
-/

namespace FieldMachine

set_option autoImplicit false

namespace Section

/-- The length of the header. -/
def headerSize : Nat := 32

/-- The length of a stored name. -/
def nameSize : Nat := 8

/-- The byte that ends a text. -/
def textTerminator : UInt8 := 0xFF

end Section

/-- The scripts of one entity. -/
structure EntityScripts where
  name : String
  /-- Where each script begins. -/
  entries : Vector Nat scriptCount
deriving DecidableEq

/-- A section that was read. -/
structure Section where
  /-- The whole section; every offset counts from its beginning. -/
  bytes : Array UInt8
  version : UInt16
  modelCount : UInt8
  scale : UInt16
  creator : String
  name : String
  entities : Array EntityScripts
  akaoOffsets : Array UInt32
  codeStart : Nat
  codeEnd : Nat
  /-- The texts, each from its first byte up to its end. -/
  texts : Array (Nat × Nat)
  /-- What can be executed: the bytes up to the end of the bytecode. -/
  code : Array UInt8 := bytes.extract 0 codeEnd
  code_eq : code = bytes.extract 0 codeEnd := by rfl

/-! ## What can be wrong with a section -/

/-- A stored item behind the header. -/
inductive SectionPart
  | entityName (index : Nat)
  | akaoOffset (index : Nat)
  | scriptOffset (entity script : Nat)
  | textCount
  | textOffset (index : Nat)
deriving DecidableEq

/-- Why bytes are not a section. -/
inductive SectionError
  | headerTooSmall (size : Nat)
  | stringsOutside (offset size : Nat)
  /-- The section ends inside an item that starts at `offset`. -/
  | cutOff (part : SectionPart) (offset : Nat)
  | tablesOverlapStrings (tablesEnd stringsStart : Nat)
  | entryOutsideCode (entity : Nat) (name : String) (script entry start finish : Nat)
  | textOutside (index offset size : Nat)
deriving DecidableEq

/-- What was being read when a part was cut off. -/
def SectionPart.describe : SectionPart → String
  | .entityName index => s!"read entity name {index}"
  | .akaoOffset index => s!"read akao offset {index}"
  | .scriptOffset entity script => s!"read script offset {entity}:{script}"
  | .textCount => "read string table: read text_count"
  | .textOffset index => s!"read string table: read text offset {index}"

/-- The stored form of a part. -/
def SectionPart.storage : SectionPart → String
  | .entityName _ => "name"
  | .akaoOffset _ => "u32"
  | .scriptOffset .. | .textCount | .textOffset _ => "u16"

/-- The text that reports why bytes are not a section. -/
def SectionError.message : SectionError → String
  | .headerTooSmall size => s!"buffer too small for field script header: {size}"
  | .stringsOutside offset size => s!"invalid strings_offset: {offset} (len={size})"
  | .cutOff part offset =>
      s!"{part.describe}: unexpected EOF while reading {part.storage} at {offset}"
  | .tablesOverlapStrings tablesEnd stringsStart =>
      s!"script tables overlap strings: tables end at {tablesEnd} but strings start at {stringsStart}"
  | .entryOutsideCode entity name script entry start finish =>
      s!"entity {entity} ({name}) script {script} offset {entry} outside code {start}..{finish}"
  | .textOutside index offset size =>
      s!"read string table: text {index} offset {offset} out of range (len={size})"

namespace Section

/-! ## Stored items -/

/-- The byte at an offset. -/
def byteAt (bytes : Array UInt8) (offset : Nat) : UInt8 := (bytes[offset]?).getD 0

/-- The number in two bytes, low byte first. -/
def wordAt (bytes : Array UInt8) (offset : Nat) : Nat :=
  (byteAt bytes offset).toNat + 256 * (byteAt bytes (offset + 1)).toNat

/-- The number in four bytes, low byte first. -/
def longAt (bytes : Array UInt8) (offset : Nat) : Nat :=
  wordAt bytes offset + 65536 * wordAt bytes (offset + 2)

/-- The name in eight bytes, up to the first zero byte. -/
def nameAt (bytes : Array UInt8) (offset : Nat) : String :=
  Utf8.decodeString ((bytes.extract offset (offset + nameSize)).toList.takeWhile (· ≠ 0))

/-- Checks that `size` bytes from `offset` on are there. -/
def require (bytes : Array UInt8) (part : SectionPart) (offset size : Nat) :
    Except SectionError Unit :=
  if offset + size ≤ bytes.size then .ok () else .error (.cutOff part offset)

/-! ## The parts of a section -/

/-- The number of entities that the header states. -/
def entityTotal (bytes : Array UInt8) : Nat := (byteAt bytes 2).toNat

/-- Where the string table starts, as the header states. -/
def stringsStart (bytes : Array UInt8) : Nat := wordAt bytes 4

/-- The number of music blocks that the header states. -/
def akaoTotal (bytes : Array UInt8) : Nat := wordAt bytes 6

/-- Where the offsets of the music blocks start. -/
def akaoStart (bytes : Array UInt8) : Nat := headerSize + nameSize * entityTotal bytes

/-- Where the script tables start. -/
def tablesStart (bytes : Array UInt8) : Nat := akaoStart bytes + 4 * akaoTotal bytes

/-- Where the script tables end and the bytecode starts. -/
def tablesEnd (bytes : Array UInt8) : Nat :=
  tablesStart bytes + 2 * scriptCount * entityTotal bytes

/-- Where the name of an entity is stored. -/
def nameOffset (entity : Nat) : Nat := headerSize + nameSize * entity

/-- Where a script entry is stored. -/
def entryOffset (bytes : Array UInt8) (entity script : Nat) : Nat :=
  tablesStart bytes + 2 * scriptCount * entity + 2 * script

/-- Checks that all names are there. -/
def requireNames (bytes : Array UInt8) : Except SectionError Unit :=
  (List.range (entityTotal bytes)).forM fun entity =>
    require bytes (.entityName entity) (nameOffset entity) nameSize

/-- Checks that all offsets of music blocks are there. -/
def requireAkao (bytes : Array UInt8) : Except SectionError Unit :=
  (List.range (akaoTotal bytes)).forM fun index =>
    require bytes (.akaoOffset index) (akaoStart bytes + 4 * index) 4

/-- Checks that all script tables are there. -/
def requireTables (bytes : Array UInt8) : Except SectionError Unit :=
  (List.range (entityTotal bytes)).forM fun entity =>
    (List.range scriptCount).forM fun script =>
      require bytes (.scriptOffset entity script) (entryOffset bytes entity script) 2

/-- The script table of an entity. -/
def entriesOf (bytes : Array UInt8) (entity : Nat) : Vector Nat scriptCount :=
  Vector.ofFn fun script => wordAt bytes (entryOffset bytes entity script.val)

/-- The scripts of an entity, whose entries have to lie inside the bytecode. -/
def readEntity (bytes : Array UInt8) (entity : Nat) : Except SectionError EntityScripts :=
  let name := nameAt bytes (nameOffset entity)
  let entries := entriesOf bytes entity
  let start := tablesEnd bytes
  let finish := stringsStart bytes
  match entries.toList.zipIdx.find? fun (entry, _) => entry < start || finish ≤ entry with
  | some (entry, script) => .error (.entryOutsideCode entity name script entry start finish)
  | none => .ok { name, entries }

/-- Where a text ends that starts at `start` and has at most `room` bytes. -/
def textEnd (bytes : Array UInt8) : Nat → Nat → Nat
  | 0, start => start
  | room + 1, start =>
      if byteAt bytes start = textTerminator then start else textEnd bytes room (start + 1)

/-- A text of the string table at `base`. -/
def readText (bytes : Array UInt8) (base index : Nat) : Except SectionError (Nat × Nat) := do
  let offset := base + 2 + 2 * index
  require bytes (.textOffset index) offset 2
  let start := base + wordAt bytes offset
  if bytes.size < start then .error (.textOutside index start bytes.size)
  else return (start, textEnd bytes (bytes.size - start) start)

/-- The texts of the string table at `base`; nothing is there when the section ends at it. -/
def readTexts (bytes : Array UInt8) (base : Nat) : Except SectionError (List (Nat × Nat)) := do
  if base < bytes.size then
    require bytes .textCount base 2
    (List.range (wordAt bytes base)).mapM (readText bytes base)
  else return []

/-- Reads a section. -/
def read (bytes : Array UInt8) : Except SectionError Section := do
  if bytes.size < headerSize then throw (.headerTooSmall bytes.size)
  let strings := stringsStart bytes
  if bytes.size < strings then throw (.stringsOutside strings bytes.size)
  requireNames bytes
  requireAkao bytes
  requireTables bytes
  if strings < tablesEnd bytes then throw (.tablesOverlapStrings (tablesEnd bytes) strings)
  let entities ← (List.range (entityTotal bytes)).mapM (readEntity bytes)
  let texts ← readTexts bytes strings
  return {
    bytes
    version := (wordAt bytes 0).toUInt16
    modelCount := byteAt bytes 3
    scale := (wordAt bytes 8).toUInt16
    creator := nameAt bytes 16
    name := nameAt bytes 24
    entities := entities.toArray
    akaoOffsets := ((List.range (akaoTotal bytes)).map fun index =>
      (longAt bytes (akaoStart bytes + 4 * index)).toUInt32).toArray
    codeStart := tablesEnd bytes
    codeEnd := strings
    texts := texts.toArray }

/-- The bytes of a text, without the byte that ends it. -/
def text? (source : Section) (index : Nat) : Option (List UInt8) :=
  source.texts[index]?.map fun (start, finish) => (source.bytes.extract start finish).toList

end Section

end FieldMachine
