import FieldMachine.Proofs.Section.Format

/-!
# Reading stays inside the bytes

`Section.read` looks bytes up with a default for places outside, so nothing in it
shows whether such a place is ever reached.  Here the same section is read with
an offset that moves from item to item, and looking up a byte or a slice that is
not there is an outcome of its own, apart from the errors that the reader
reports.  `Section.Access.read_eq` shows that it never comes about: each item is
checked before it is looked up.
-/

namespace FieldMachine

set_option autoImplicit false

namespace Section

/-- A computation on bytes that may fail with an error; `none` is an access outside the bytes. -/
abbrev Access (α : Type) := ExceptT SectionError Option α

namespace Access

/-! ## Reading with checked accesses -/

/-- The outcome of an access outside the bytes. -/
def outside {α : Type} : Access α := ExceptT.mk none

/-- The byte at an offset. -/
def byte (bytes : Array UInt8) (offset : Nat) : Access UInt8 :=
  match bytes[offset]? with
  | some found => pure found
  | none => outside

/-- The number in two bytes, low byte first. -/
def word (bytes : Array UInt8) (offset : Nat) : Access Nat := do
  let low ← byte bytes offset
  let high ← byte bytes (offset + 1)
  return low.toNat + 256 * high.toNat

/-- The number in four bytes, low byte first. -/
def long (bytes : Array UInt8) (offset : Nat) : Access Nat := do
  let low ← word bytes offset
  let high ← word bytes (offset + 2)
  return low + 65536 * high

/-- The bytes from `start` up to `finish`. -/
def slice (bytes : Array UInt8) (start finish : Nat) : Access (List UInt8) :=
  if start ≤ finish ∧ finish ≤ bytes.size then pure (bytes.extract start finish).toList
  else outside

/-- The name in eight bytes, up to the first zero byte. -/
def name (bytes : Array UInt8) (offset : Nat) : Access String := do
  let raw ← slice bytes offset (offset + nameSize)
  return Utf8.decodeString (raw.takeWhile (· ≠ 0))

/-- An item that is looked up once its bytes are known to be there. -/
def item {α : Type} (bytes : Array UInt8) (part : SectionPart) (size offset : Nat)
    (look : Nat → Access α) : Access α := do
  ExceptT.mk (some (require bytes part offset size))
  look offset

/-- Items of one size that stand one after the other; the first has the number `index`. -/
def row {α : Type} (size : Nat) (each : Nat → Nat → Access α) :
    (count index offset : Nat) → Access (List α)
  | 0, _, _ => pure []
  | count + 1, index, offset => do
      let first ← each index offset
      let others ← row size each count (index + 1) (offset + size)
      return first :: others

/-- The text that the string table at `base` keeps under an index. -/
def text (bytes : Array UInt8) (base index offset : Nat) : Access (Nat × Nat) := do
  let start := base + (← item bytes (.textOffset index) 2 offset (word bytes))
  if bytes.size < start then throw (.textOutside index start bytes.size)
  let rest ← slice bytes start bytes.size
  return (start, start + (rest.takeWhile (· ≠ textTerminator)).length)

/-- The texts of the string table at `base`; nothing is there when the section ends at it. -/
def texts (bytes : Array UInt8) (base : Nat) : Access (List (Nat × Nat)) := do
  if base < bytes.size then
    let count ← item bytes .textCount 2 base (word bytes)
    row 2 (text bytes base) count 0 (base + 2)
  else return []

/-- The scripts of an entity, whose entries have to lie inside the bytecode. -/
def scripts (start finish entity : Nat) (name : String) (entries : Vector Nat scriptCount) :
    Except SectionError EntityScripts :=
  match entries.toList.zipIdx.find? fun (entry, _) => entry < start || finish ≤ entry with
  | some (entry, script) => .error (.entryOutsideCode entity name script entry start finish)
  | none => .ok { name, entries }

/-- The bytes of a text, without the byte that ends it. -/
def textOf (source : Section) (index : Nat) : Access (Option (List UInt8)) :=
  match source.texts[index]? with
  | some (start, finish) => some <$> slice source.bytes start finish
  | none => pure none

/-- Reads a section, item after item. -/
def read (bytes : Array UInt8) : Access Section := do
  if bytes.size < headerSize then throw (.headerTooSmall bytes.size)
  let version ← word bytes 0
  let entityCount := (← byte bytes 2).toNat
  let modelCount ← byte bytes 3
  let strings ← word bytes 4
  let akaoCount ← word bytes 6
  let scale ← word bytes 8
  let creator ← name bytes 16
  let title ← name bytes 24
  if bytes.size < strings then throw (.stringsOutside strings bytes.size)
  let names ← row nameSize (fun entity offset =>
    item bytes (.entityName entity) nameSize offset (name bytes)) entityCount 0 headerSize
  let offset := headerSize + nameSize * entityCount
  let akaoOffsets ← row 4 (fun index offset =>
    item bytes (.akaoOffset index) 4 offset (long bytes)) akaoCount 0 offset
  let offset := offset + 4 * akaoCount
  let tables ← row (2 * scriptCount) (fun entity offset =>
    row 2 (fun script offset => item bytes (.scriptOffset entity script) 2 offset (word bytes))
      scriptCount 0 offset) entityCount 0 offset
  let start := offset + 2 * scriptCount * entityCount
  if strings < start then throw (.tablesOverlapStrings start strings)
  let entities ← ExceptT.mk (some ((names.zip tables).zipIdx.mapM fun ((name, table), entity) =>
    scripts start strings entity name (Vector.ofFn fun script => table.getD script.val 0)))
  let found ← texts bytes strings
  return {
    bytes
    version := version.toUInt16
    modelCount
    scale := scale.toUInt16
    creator
    name := title
    entities := entities.toArray
    akaoOffsets := (akaoOffsets.map Nat.toUInt32).toArray
    codeStart := start
    codeEnd := strings
    texts := found.toArray }

/-! ## No access leaves the bytes -/

/-- An access comes to an outcome of the reader, and not to `outside`. -/
def Stays {α : Type} (access : Access α) (outcome : Except SectionError α) : Prop :=
  access = ExceptT.mk (some outcome)

section Steps

variable {α β : Type} {bytes : Array UInt8}

/-- What follows a part may rely on what that part came to. -/
theorem Stays.bind {access : Access α} {outcome : Except SectionError α} {next : α → Access β}
    {after : α → Except SectionError β} (first : Stays access outcome)
    (rest : ∀ value, outcome = .ok value → Stays (next value) (after value)) :
    Stays (access >>= next) (outcome >>= after) := by
  cases first
  cases outcome with
  | error error => rfl
  | ok value => exact rest value rfl

/-- What follows a part that does nothing but look something up. -/
theorem Stays.next {access : Access α} {value : α} {next : α → Access β}
    {outcome : Except SectionError β} (first : Stays access (pure value))
    (rest : Stays (next value) outcome) : Stays (access >>= next) outcome :=
  @Stays.bind _ _ _ _ _ (fun _ => outcome) first fun _ same => by cases same; exact rest

/-- What follows an item that is checked and looked up. -/
theorem Stays.checked {access : Access α} {check : Except SectionError Unit} {value : α}
    {next : α → Access β} {after : Unit → Except SectionError β}
    (first : Stays access (do check; return value))
    (rest : Stays (next value) (after ())) :
    Stays (access >>= next) (check >>= after) := by
  cases check with
  | error error =>
      cases first
      rfl
  | ok there => exact first.next rest

theorem Stays.ite {condition : Prop} [Decidable condition] {yes no : Access α}
    {positive negative : Except SectionError α} (holds : condition → Stays yes positive)
    (fails : ¬condition → Stays no negative) :
    Stays (if condition then yes else no) (if condition then positive else negative) := by
  split
  · next known => exact holds known
  · next known => exact fails known

theorem stays_byte {offset : Nat} (inside : offset + 1 ≤ bytes.size) :
    Stays (byte bytes offset) (pure (byteAt bytes offset)) := by
  have found : bytes[offset]? = some bytes[offset] := Array.getElem?_eq_getElem inside
  unfold byte byteAt
  rw [found]
  rfl

theorem stays_word {offset : Nat} (inside : offset + 2 ≤ bytes.size) :
    Stays (word bytes offset) (pure (wordAt bytes offset)) := by
  unfold word
  exact (stays_byte (by omega)).next ((stays_byte (by omega)).next rfl)

theorem stays_long {offset : Nat} (inside : offset + 4 ≤ bytes.size) :
    Stays (long bytes offset) (pure (longAt bytes offset)) := by
  unfold long
  exact (stays_word (by omega)).next ((stays_word (by omega)).next rfl)

theorem stays_slice {start finish : Nat} (ordered : start ≤ finish)
    (inside : finish ≤ bytes.size) :
    Stays (slice bytes start finish) (pure (bytes.extract start finish).toList) :=
  if_pos ⟨ordered, inside⟩

theorem stays_name {offset : Nat} (inside : offset + nameSize ≤ bytes.size) :
    Stays (name bytes offset) (pure (nameAt bytes offset)) := by
  unfold name
  exact (stays_slice (Nat.le_add_right ..) inside).next rfl

/-- An item is looked up only where its bytes are. -/
theorem stays_item {part : SectionPart} {size offset : Nat} {look : Nat → Access α} {value : α}
    (looks : offset + size ≤ bytes.size → Stays (look offset) (pure value)) :
    Stays (item bytes part size offset look)
      (do require bytes part offset size; return value) :=
  Stays.bind rfl fun _ there => looks (require_eq_ok.mp there)

/-- The items of a row are read one after the other. -/
theorem stays_row {size base : Nat} {each : Nat → Nat → Access α}
    {outcome : Nat → Except SectionError α}
    (stays : ∀ index, Stays (each index (base + size * index)) (outcome index))
    (count index : Nat) :
    Stays (row size each count index (base + size * index))
      ((List.range' index count).mapM outcome) := by
  induction count generalizing index with
  | zero => rfl
  | succ count ih =>
      rw [List.range'_succ, List.mapM_cons]
      refine (stays index).bind fun first _ => Stays.bind ?_ fun others _ => rfl
      have later := ih (index + 1)
      rwa [Nat.mul_succ, ← Nat.add_assoc] at later

/-- A row from its beginning. -/
theorem stays_row_zero {size base : Nat} {each : Nat → Nat → Access α}
    {outcome : Nat → Except SectionError α}
    (stays : ∀ index, Stays (each index (base + size * index)) (outcome index)) (count : Nat) :
    Stays (row size each count 0 base) ((List.range count).mapM outcome) := by
  have row := stays_row stays count 0
  rwa [Nat.mul_zero, Nat.add_zero, ← List.range_eq_range'] at row

/-- Checking and looking up items by turns is checking all of them and then looking them up. -/
theorem mapM_checked (check : Nat → Except SectionError Unit) (value : Nat → α)
    (items : List Nat) :
    items.mapM (fun item => do check item; return value item) =
      (do items.forM check; return items.map value) := by
  induction items with
  | nil => rfl
  | cons item rest ih =>
      rw [List.mapM_cons, ih, List.forM_eq_forM, List.forM_cons]
      simp

/-- A row of items that are each checked and looked up. -/
theorem stays_row_of_checked {size base : Nat} {each : Nat → Nat → Access α}
    {check : Nat → Except SectionError Unit} {value : Nat → α}
    (stays : ∀ index, Stays (each index (base + size * index))
      (do check index; return value index)) (count : Nat) :
    Stays (row size each count 0 base)
      (do (List.range count).forM check; return (List.range count).map value) := by
  rw [← mapM_checked]
  exact stays_row_zero stays count

end Steps

variable {bytes : Array UInt8}

theorem stays_names :
    Stays
      (row nameSize (fun entity offset =>
        item bytes (.entityName entity) nameSize offset (name bytes))
        (entityTotal bytes) 0 headerSize)
      (do
        requireNames bytes
        return (List.range (entityTotal bytes)).map fun entity =>
          nameAt bytes (nameOffset entity)) :=
  stays_row_of_checked (fun _ => stays_item stays_name) _

theorem stays_akao :
    Stays
      (row 4 (fun index offset => item bytes (.akaoOffset index) 4 offset (long bytes))
        (akaoTotal bytes) 0 (akaoStart bytes))
      (do
        requireAkao bytes
        return (List.range (akaoTotal bytes)).map fun index =>
          longAt bytes (akaoStart bytes + 4 * index)) :=
  stays_row_of_checked (fun _ => stays_item stays_long) _

theorem stays_tables :
    Stays
      (row (2 * scriptCount) (fun entity offset =>
        row 2 (fun script offset => item bytes (.scriptOffset entity script) 2 offset (word bytes))
          scriptCount 0 offset) (entityTotal bytes) 0 (tablesStart bytes))
      (do
        requireTables bytes
        return (List.range (entityTotal bytes)).map fun entity =>
          (List.range scriptCount).map fun script =>
            wordAt bytes (entryOffset bytes entity script)) :=
  stays_row_of_checked (fun _ => stays_row_of_checked (fun _ => stays_item stays_word) _) _

theorem stays_text {base index : Nat} :
    Stays (text bytes base index (base + 2 + 2 * index)) (readText bytes base index) := by
  have start := @stays_item _ bytes (.textOffset index) 2 (base + 2 + 2 * index) (word bytes) _
    stays_word
  unfold text readText
  dsimp only
  rw [start]
  cases require bytes (.textOffset index) (base + 2 + 2 * index) 2 with
  | error error => rfl
  | ok there =>
      simp only [bind, Except.bind, pure, Except.pure, ExceptT.bind, ExceptT.mk, ExceptT.bindCont,
        Option.bind]
      split
      · rfl
      · next reached =>
          have reached := Nat.le_of_not_lt reached
          rw [textEnd_eq_takeWhile (Nat.add_sub_of_le reached)]
          rw [stays_slice reached (Nat.le_refl _)]
          rfl

theorem stays_texts {base : Nat} : Stays (texts bytes base) (readTexts bytes base) := by
  unfold texts readTexts
  exact Stays.ite
    (fun _ => (stays_item stays_word).checked (stays_row_zero (fun _ => stays_text) _))
    (fun _ => rfl)

theorem readEntity_eq (entity : Nat) :
    readEntity bytes entity = scripts (tablesEnd bytes) (stringsStart bytes) entity
      (nameAt bytes (nameOffset entity)) (entriesOf bytes entity) := by
  cases found : (entriesOf bytes entity).toList.zipIdx.find? fun (entry, _) =>
    entry < tablesEnd bytes || stringsStart bytes ≤ entry <;>
  simp only [readEntity, scripts, found]

theorem zipIdx_zip_map {α β : Type} (count : Nat) (left : Nat → α) (right : Nat → β) :
    (((List.range count).map left).zip ((List.range count).map right)).zipIdx =
      (List.range count).map fun index => ((left index, right index), index) := by
  refine List.ext_getElem (by simp) fun index _ _ => ?_
  simp

/-- Names and tables that were read apart are put together again entity by entity. -/
theorem stays_entities :
    Stays
      (ExceptT.mk (some (((
        (List.range (entityTotal bytes)).map fun entity => nameAt bytes (nameOffset entity)).zip
        ((List.range (entityTotal bytes)).map fun entity =>
          (List.range scriptCount).map fun script =>
            wordAt bytes (entryOffset bytes entity script))).zipIdx.mapM
        fun ((name, table), entity) =>
          scripts (tablesEnd bytes) (stringsStart bytes) entity name
            (Vector.ofFn fun script => table.getD script.val 0))))
      ((List.range (entityTotal bytes)).mapM (readEntity bytes)) := by
  have table (entity : Nat) : (Vector.ofFn fun script : Fin scriptCount =>
      ((List.range scriptCount).map fun script =>
        wordAt bytes (entryOffset bytes entity script)).getD script.val 0) =
      entriesOf bytes entity := by
    ext script few
    simp [entriesOf]
  rw [zipIdx_zip_map, List.mapM_map]
  refine congrArg (fun compute => ExceptT.mk (some ((List.range _).mapM compute)))
    (funext fun entity => ?_)
  rw [readEntity_eq, Function.comp_apply]
  dsimp only
  rw [table]

/-- No access of the reader leaves the bytes, whatever they are. -/
theorem read_eq (bytes : Array UInt8) : Stays (read bytes) (Section.read bytes) := by
  unfold read Section.read
  refine Stays.ite (fun _ => rfl) fun long => ?_
  have long : 32 ≤ bytes.size := Nat.le_of_not_lt long
  refine (stays_word (by omega)).next <| (stays_byte (by omega)).next <|
    (stays_byte (by omega)).next <| (stays_word (by omega)).next <|
    (stays_word (by omega)).next <| (stays_word (by omega)).next <|
    (stays_name (Nat.le_trans (by decide) long)).next <| (stays_name long).next ?_
  dsimp only
  refine Stays.ite (fun _ => rfl) fun inside => ?_
  refine stays_names.checked <| stays_akao.checked <| stays_tables.checked ?_
  refine Stays.ite (fun _ => rfl) fun apart => ?_
  refine stays_entities.bind fun entities _ => stays_texts.bind fun texts _ => ?_
  rw [List.map_map]
  rfl

/-- Looking up a text of a section that was read stays inside the section. -/
theorem textOf_eq {source : Section} (accepted : Section.read bytes = .ok source) (index : Nat) :
    Stays (textOf source index) (pure (source.text? index)) := by
  obtain ⟨wellFormed, rfl⟩ := read_eq_ok.mp accepted
  have stored := wellFormed.storedIn_ofBytes
  unfold textOf
  by_cases few : index < (ofBytes bytes).texts.size
  · obtain ⟨finish, found, told, run⟩ := stored.text index few
    rw [found, told]
    exact (stays_slice run.ordered run.inside).next rfl
  · have none : (ofBytes bytes).texts[index]? = none :=
      Array.getElem?_eq_none (Nat.le_of_not_lt few)
    rw [text?, none]
    rfl

end Access

/-- The reader accepts exactly the well-formed bytes, what it makes of them is stored in them, and
neither reading nor looking up a text ever reaches outside them. -/
theorem read_spec (bytes : Array UInt8) :
    ((∃ source, read bytes = .ok source) ↔ WellFormed bytes) ∧
    (∀ source, read bytes = .ok source → StoredIn bytes source ∧
      ∀ index, Access.textOf source index = pure (source.text? index)) ∧
    Access.read bytes = ExceptT.mk (some (read bytes)) := by
  refine ⟨⟨?_, ?_⟩, ?_, Access.read_eq bytes⟩
  · rintro ⟨source, accepted⟩
    exact (read_eq_ok.mp accepted).1
  · intro wellFormed
    exact ⟨ofBytes bytes, read_eq_ok.mpr ⟨wellFormed, rfl⟩⟩
  · intro source accepted
    refine ⟨?_, Access.textOf_eq accepted⟩
    obtain ⟨wellFormed, rfl⟩ := read_eq_ok.mp accepted
    exact wellFormed.storedIn_ofBytes

/-- A section without entities: the header, and a string table with the text `Hi`. -/
def greeting : Array UInt8 :=
  #[2, 5, 0, 0, 32, 0, 0, 0, 0, 2, 0, 0, 0, 0, 0, 0, 0, 0, 0, 0, 0, 0, 0, 0, 0, 0, 0, 0, 0, 0, 0, 0,
    1, 0, 4, 0, 72, 105, 255]

theorem wellFormed_greeting : WellFormed greeting where
  header := by decide
  ordered := by decide
  inside := by decide
  entered := by decide
  listed := by decide
  started := by decide

theorem read_greeting :
    ∃ source, read greeting = .ok source ∧ source.codeStart = 32 ∧ source.codeEnd = 32 ∧
      source.texts.size = 1 ∧ Access.textOf source 0 = pure (some [72, 105]) := by
  obtain ⟨accepts, stored, -⟩ := read_spec greeting
  obtain ⟨source, accepted⟩ := accepts.mpr wellFormed_greeting
  obtain ⟨holds, looks⟩ := stored source accepted
  have count : source.texts.size = 1 := by rw [holds.textCount]; decide
  obtain ⟨finish, -, told, run⟩ := holds.text 0 (by omega)
  refine ⟨source, accepted, holds.codeStart, holds.codeEnd, count, ?_⟩
  have start : stringsStart greeting +
    wordAt greeting (stringsStart greeting + 2 + 2 * 0) = 36 := by decide
  rw [start] at run told
  have last : finish = 38 := by
    rcases Nat.lt_trichotomy finish 38 with early | exactly | late
    · have reached := run.ordered
      obtain rfl | rfl : finish = 36 ∨ finish = 37 := by omega
      all_goals exact absurd (run.ended (by decide)) (by decide)
    · exact exactly
    · exact absurd rfl (run.plain 38 (by decide) late)
  subst last
  rw [looks, told]
  rfl

end Section

end FieldMachine
