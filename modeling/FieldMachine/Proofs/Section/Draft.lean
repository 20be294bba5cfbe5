import FieldMachine.Section.Draft
import FieldMachine.Proofs.Section.Format

/-!
# Drafts read back

A draft is laid out as a list of bytes, part after part, while the reader looks
for each part at an offset that it computes from the counts in the header.  The
two meet in `Section.Holds`: some bytes stand at an offset.  What stands in the
layout is followed from its beginning to the single number, name, script and
text, and every offset is seen to be the one that the reader uses.

`Draft.read_encode` states what reading gives for every draft that can be
written, and which drafts can not.
-/

namespace FieldMachine

set_option autoImplicit false

namespace Section

variable {bytes : Array UInt8} {offset : Nat} {part rest : List UInt8}

/-! ## Bytes that stand at an offset -/

/-- Some bytes stand at an offset. -/
def Holds (bytes : Array UInt8) (offset : Nat) (part : List UInt8) : Prop :=
  ∃ before after, bytes.toList = before ++ part ++ after ∧ before.length = offset

theorem holds_toArray (whole : List UInt8) : Holds whole.toArray 0 whole :=
  ⟨[], [], by simp, rfl⟩

theorem Holds.left (holds : Holds bytes offset (part ++ rest)) : Holds bytes offset part := by
  obtain ⟨before, after, same, long⟩ := holds
  exact ⟨before, rest ++ after, by simp [same], long⟩

theorem Holds.right (holds : Holds bytes offset (part ++ rest)) :
    Holds bytes (offset + part.length) rest := by
  obtain ⟨before, after, same, long⟩ := holds
  exact ⟨before ++ part, after, by simp [same], by simp [long]⟩

theorem Holds.inside (holds : Holds bytes offset part) :
    offset + part.length ≤ bytes.size := by
  obtain ⟨before, after, same, long⟩ := holds
  rw [← Array.length_toList, same, List.length_append, List.length_append, long]
  exact Nat.le_add_right ..

theorem Holds.drop (holds : Holds bytes offset part) :
    ∃ after, bytes.toList.drop offset = part ++ after := by
  obtain ⟨before, after, same, long⟩ := holds
  exact ⟨after, by rw [same, List.append_assoc, List.drop_left' long]⟩

theorem Holds.extract (holds : Holds bytes offset part) :
    (bytes.extract offset (offset + part.length)).toList = part := by
  obtain ⟨after, found⟩ := holds.drop
  rw [Array.toList_extract, List.extract_eq_take_drop, found, Nat.add_sub_cancel_left,
    List.take_left]

theorem Holds.byteAt {byte : UInt8} (holds : Holds bytes offset (byte :: rest)) :
    byteAt bytes offset = byte := by
  obtain ⟨before, after, same, rfl⟩ := holds
  rw [Section.byteAt, ← Array.getElem?_toList, same]
  simp

theorem Holds.wordAt {number : Nat} (holds : Holds bytes offset (Draft.word number)) :
    wordAt bytes offset = number % 65536 := by
  have low := holds.byteAt
  have high := (@Holds.right bytes offset [number.toUInt8] _ holds).byteAt
  rw [List.length_singleton] at high
  rw [Section.wordAt, low, high]
  simp
  omega

/-- What is written for an item of a list stands behind what is written for those before it. -/
theorem Holds.item {α : Type} {items : List α} {write : α → List UInt8} {index : Nat} {item : α}
    (holds : Holds bytes offset (items.flatMap write)) (found : items[index]? = some item) :
    Holds bytes (offset + ((items.take index).flatMap write).length) (write item) := by
  obtain ⟨few, rfl⟩ := List.getElem?_eq_some_iff.mp found
  have parts : items.flatMap write = (items.take index).flatMap write ++
      (write items[index] ++ (items.drop (index + 1)).flatMap write) := by
    rw [← List.flatMap_cons, ← List.drop_eq_getElem_cons few, ← List.flatMap_append,
      List.take_append_drop]
  rw [parts] at holds
  exact holds.right.left

theorem length_flatMap_of_sized {α : Type} {items : List α} {write : α → List UInt8} {size : Nat}
    (sized : ∀ item ∈ items, (write item).length = size) :
    (items.flatMap write).length = size * items.length := by
  rw [List.length_flatMap, List.map_congr_left sized, List.map_const', List.sum_replicate_nat,
    Nat.mul_comm]

/-- Items that are written with the same number of bytes stand that far from each other. -/
theorem Holds.sized_item {α : Type} {items : List α} {write : α → List UInt8} {size index : Nat}
    {item : α} (holds : Holds bytes offset (items.flatMap write))
    (sized : ∀ item ∈ items, (write item).length = size) (found : items[index]? = some item) :
    Holds bytes (offset + size * index) (write item) := by
  have few : index ≤ items.length := Nat.le_of_lt (List.getElem?_eq_some_iff.mp found).1
  have stands := holds.item found
  rwa [length_flatMap_of_sized fun item among => sized item (List.mem_of_mem_take among),
    List.length_take, Nat.min_eq_left few] at stands

end Section

namespace Draft

open Section (length_flatMap_of_sized)

variable {draft : Draft}

/-! ## What is written -/

/-- A name as it is read back: its first bytes, up to a zero byte. -/
def storedName (name : String) : String :=
  Utf8.decodeString ((name.toUTF8.toList.take 8).takeWhile (· ≠ 0))

theorem length_word (number : Nat) : (word number).length = 2 := rfl

theorem length_nameBytes (name : String) : (nameBytes name).length = 8 := by
  simp only [nameBytes, List.length_append, List.length_replicate, List.length_take,
    Section.nameSize]
  omega

/-- The zeros behind a name do not show. -/
theorem takeWhile_append_zeros (bytes : List UInt8) (count : Nat) :
    (bytes ++ List.replicate count 0).takeWhile (· ≠ 0) = bytes.takeWhile (· ≠ 0) := by
  induction bytes with
  | nil => cases count <;> simp [List.replicate_succ]
  | cons byte bytes ih => simp only [List.cons_append, List.takeWhile_cons, ih]

theorem nameAt_of_holds {bytes : Array UInt8} {offset : Nat} {name : String}
    (holds : Section.Holds bytes offset (nameBytes name)) :
    Section.nameAt bytes offset = storedName name := by
  have eight := holds.extract
  rw [length_nameBytes] at eight
  unfold Section.nameAt storedName
  rw [show offset + Section.nameSize = offset + 8 from rfl, eight, nameBytes,
    takeWhile_append_zeros]
  rfl

/-! ## Where scripts begin -/

/-- The scripts given for an entity. -/
def given (draft : Draft) (entity : Nat) : List (List UInt8) :=
  (draft.entities[entity]?.map (·.scripts)).getD []

/-- The script given for a slot of an entity; missing ones are empty. -/
def script (draft : Draft) (entity slot : Nat) : List UInt8 :=
  (draft.given entity)[slot]?.getD []

/-- The scripts that are laid out before a slot of an entity, behind the shared one. -/
def before (draft : Draft) (entity slot : Nat) : List UInt8 :=
  (draft.entities.take entity).flatMap (·.scripts.flatten) ++
    ((draft.given entity).take slot).flatten

/-- A script follows those before it. -/
theorem before_succ (draft : Draft) (entity slot : Nat) :
    draft.before entity (slot + 1) = draft.before entity slot ++ draft.script entity slot := by
  unfold before script
  rw [List.take_add_one, List.flatten_append, List.append_assoc]
  cases (draft.given entity)[slot]? <;> simp

/-- The scripts of an entity follow those of the entities before it. -/
theorem before_entity_succ {entity : Nat} (few : entity < draft.entities.length) :
    draft.before (entity + 1) 0 = draft.before entity (draft.given entity).length := by
  unfold before
  rw [List.take_add_one, List.getElem?_eq_getElem few, List.flatMap_append, List.take_length]
  simp [given, few]

theorem before_slot {entity slot later : Nat} (ordered : slot ≤ later) :
    draft.before entity slot <+: draft.before entity later := by
  induction ordered with
  | refl => exact List.prefix_rfl
  | step _ ih =>
      rw [before_succ]
      exact ih.trans (List.prefix_append ..)

theorem before_given (draft : Draft) (entity slot : Nat) :
    draft.before entity slot <+: draft.before entity (draft.given entity).length := by
  rcases Nat.le_total slot (draft.given entity).length with ordered | behind
  · exact before_slot ordered
  · have same : draft.before entity slot = draft.before entity (draft.given entity).length := by
      unfold before
      rw [List.take_of_length_le behind, List.take_length]
    exact same ▸ List.prefix_rfl

theorem before_entity {entity later slot : Nat} (ordered : entity < later)
    (known : later ≤ draft.entities.length) :
    draft.before entity slot <+: draft.before later 0 := by
  induction ordered with
  | refl =>
      rw [before_entity_succ known]
      exact draft.before_given entity slot
  | step _ ih =>
      refine (ih (Nat.le_of_succ_le known)).trans ?_
      rw [before_entity_succ known]
      exact before_slot (Nat.zero_le _)

/-- A script lies before every later one. -/
theorem before_of_lex {entity slot other level : Nat} (known : other ≤ draft.entities.length)
    (ordered : entity < other ∨ entity = other ∧ slot < level) :
    draft.before entity slot ++ draft.script entity slot <+: draft.before other level := by
  rw [← before_succ]
  rcases ordered with earlier | ⟨rfl, earlier⟩
  · exact (before_entity earlier known).trans (before_slot (Nat.zero_le _))
  · exact before_slot earlier

theorem code_eq (draft : Draft) :
    draft.code = sharedScript ++ draft.before draft.entities.length 0 := by
  simp [code, before, List.flatMap_def]

/-- The bytecode up to the end of a script. -/
theorem code_split {entity : Nat} (known : entity < draft.entities.length) (slot : Nat) :
    ∃ after, draft.code =
      sharedScript ++ (draft.before entity slot ++ (draft.script entity slot ++ after)) := by
  obtain ⟨after, same⟩ := @before_of_lex draft entity slot _ 0 (Nat.le_refl _) (.inl known)
  refine ⟨after, ?_⟩
  rw [code_eq, ← same, List.append_assoc]

/-- A script ends inside the bytecode. -/
theorem length_before_le {entity : Nat} (known : entity < draft.entities.length) (slot : Nat) :
    2 + (draft.before entity slot).length + (draft.script entity slot).length ≤
      draft.code.length := by
  obtain ⟨after, same⟩ := draft.code_split known slot
  rw [same]
  simp only [List.length_append, sharedScript, List.length_cons, List.length_nil]
  omega

theorem getElem?_entries (shared next : Nat) (scripts : List (List UInt8)) (slot : Nat) :
    (entries shared next scripts)[slot]? = scripts[slot]?.map fun script =>
      if script.isEmpty then shared else next + (scripts.take slot).flatten.length := by
  induction scripts generalizing next slot with
  | nil => simp [entries]
  | cons script rest ih =>
      cases slot with
      | zero => simp [entries]
      | succ slot => simp [entries, ih, Nat.add_assoc]

theorem length_entries (shared next : Nat) (scripts : List (List UInt8)) :
    (entries shared next scripts).length = scripts.length := by
  induction scripts generalizing next with
  | nil => rfl
  | cons script rest ih => simp [entries, ih]

theorem length_table {shared next : Nat} {scripts : List (List UInt8)}
    (few : scripts.length ≤ scriptCount) : (table shared next scripts).length = scriptCount := by
  simp [table, length_entries]
  omega

/-- A slot of a table: the shared script when nothing is given for it. -/
theorem getElem?_table {shared next slot : Nat} {scripts : List (List UInt8)}
    (few : scripts.length ≤ scriptCount) (inside : slot < scriptCount) :
    (table shared next scripts)[slot]? =
      some (if (scripts[slot]?.getD []).isEmpty then shared
        else next + (scripts.take slot).flatten.length) := by
  unfold table
  by_cases given : slot < scripts.length
  · rw [List.getElem?_append_left (by rwa [length_entries]), getElem?_entries,
      List.getElem?_eq_getElem given]
    simp
  · have missing := Nat.le_of_not_lt given
    rw [List.getElem?_append_right (by rwa [length_entries]), length_entries,
      List.getElem?_replicate_of_lt (by omega), List.getElem?_eq_none missing]
    simp

theorem getElem?_tables (shared next : Nat) (entities : List DraftEntity) (index : Nat) :
    (tables shared next entities)[index]? = entities[index]?.map fun entity =>
      table shared (next + ((entities.take index).flatMap fun entity =>
        entity.scripts.flatten).length) entity.scripts := by
  induction entities generalizing next index with
  | nil => simp [tables]
  | cons entity rest ih =>
      cases index with
      | zero => simp [tables]
      | succ index => simp [tables, ih, Nat.add_assoc]

theorem getElem?_textOffsets (next : Nat) (texts : List (List UInt8)) (index : Nat) :
    (textOffsets next texts)[index]? = texts[index]?.map fun _ =>
      next + ((texts.take index).flatMap (· ++ [Section.textTerminator])).length := by
  induction texts generalizing next index with
  | nil => simp [textOffsets]
  | cons text rest ih =>
      cases index with
      | zero => simp [textOffsets]
      | succ index => simp [textOffsets, ih, Nat.add_assoc, Nat.add_comm 1]

theorem length_textOffsets (next : Nat) (texts : List (List UInt8)) :
    (textOffsets next texts).length = texts.length := by
  induction texts generalizing next with
  | nil => rfl
  | cons text rest ih => simp [textOffsets, ih]

/-! ## Drafts that can be written -/

/-- Where the bytecode ends and the string table starts. -/
def codeEnd (draft : Draft) : Nat := draft.codeStart + draft.code.length

/-- What keeps a draft from being written. -/
inductive TooLarge (draft : Draft) : Prop
  | entities (many : 255 < draft.entities.length)
  | scripts (entity : DraftEntity) (among : entity ∈ draft.entities)
      (many : 32 < entity.scripts.length)
  | texts (index : Nat) (among : index < draft.texts.length)
      (far : 65535 < 2 + 2 * draft.texts.length +
        ((draft.texts.take index).flatMap (· ++ [Section.textTerminator])).length)
  | code (far : 65535 < 32 + 72 * draft.entities.length + 2 +
      (draft.entities.flatMap fun entity => entity.scripts.flatten).length)

theorem codeStart_eq (draft : Draft) : draft.codeStart = 32 + 72 * draft.entities.length := rfl

theorem codeEnd_eq (draft : Draft) :
    draft.codeEnd = 32 + 72 * draft.entities.length + 2 +
      (draft.entities.flatMap fun entity => entity.scripts.flatten).length := by
  rw [codeEnd, codeStart_eq, code, List.length_append, ← List.flatMap_def, ← Nat.add_assoc]
  rfl

/-- The offset that is stored for a text. -/
def textOffset (draft : Draft) (index : Nat) : Nat :=
  2 + 2 * draft.texts.length +
    ((draft.texts.take index).flatMap (· ++ [Section.textTerminator])).length

theorem getElem?_textOffset {index : Nat} (among : index < draft.texts.length) :
    (textOffsets (2 + 2 * draft.texts.length) draft.texts)[index]? =
      some (draft.textOffset index) := by
  simp [getElem?_textOffsets, textOffset, among]

theorem mem_textOffsets {offset : Nat} :
    offset ∈ textOffsets (2 + 2 * draft.texts.length) draft.texts ↔
      ∃ index < draft.texts.length, offset = draft.textOffset index := by
  simp only [List.mem_iff_getElem?, getElem?_textOffsets, Option.map_eq_some_iff,
    List.getElem?_eq_some_iff, textOffset]
  constructor
  · rintro ⟨index, text, ⟨few, -⟩, same⟩
    exact ⟨index, few, same.symm⟩
  · rintro ⟨index, few, same⟩
    exact ⟨index, _, ⟨few, rfl⟩, same.symm⟩

/-- A draft that is not too large passes every check. -/
theorem error?_eq_none : draft.error? = none ↔ ¬draft.TooLarge := by
  have offsets : (textOffsets (2 + 2 * draft.texts.length) draft.texts).any (offsetLimit < ·) ↔
      ∃ index < draft.texts.length, 65535 < draft.textOffset index := by
    simp only [List.any_eq_true, mem_textOffsets, decide_eq_true_eq]
    constructor
    · rintro ⟨offset, ⟨index, few, rfl⟩, far⟩
      exact ⟨index, few, far⟩
    · rintro ⟨index, few, far⟩
      exact ⟨_, ⟨index, few, rfl⟩, far⟩
  have scripts : (draft.entities.find? fun entity => scriptCount < entity.scripts.length) = none ↔
      ∀ entity ∈ draft.entities, entity.scripts.length ≤ 32 := by
    simp only [List.find?_eq_none, decide_eq_true_eq, Nat.not_lt]
    rfl
  have end_eq : draft.codeStart + draft.code.length = _ := draft.codeEnd_eq
  unfold error?
  rw [end_eq]
  constructor
  · intro passed large
    split at passed
    · cases passed
    next few =>
    split at passed
    · cases passed
    next fits =>
    split at passed
    · cases passed
    next near =>
    split at passed
    · cases passed
    next ends =>
    cases large with
    | entities many => exact few many
    | scripts entity among many => exact Nat.not_lt_of_le (scripts.mp fits entity among) many
    | texts index among far => exact near (offsets.mpr ⟨index, among, far⟩)
    | code far => exact ends far
  · intro small
    rw [if_neg fun many => small (.entities many),
      scripts.mpr fun entity among => Nat.le_of_not_lt fun many =>
        small (.scripts entity among many)]
    dsimp only
    have near : ¬(textOffsets (2 + 2 * draft.texts.length) draft.texts).any (offsetLimit < ·) := by
      intro far
      obtain ⟨index, among, far⟩ := offsets.mp far
      exact small (.texts index among far)
    rw [if_neg near]
    exact if_neg fun far => small (.code far)

/-- Encoding succeeds for the drafts that are not too large, with their layout. -/
theorem encode_eq_ok {bytes : List UInt8} :
    draft.encode = .ok bytes ↔ ¬draft.TooLarge ∧ bytes = draft.layout := by
  rw [← error?_eq_none]
  unfold encode
  cases draft.error? <;> simp [eq_comm]

/-! ## Where the parts of the layout stand -/

/-- The parts of a draft stand in some bytes at the offsets that the reader looks at. -/
structure Placed (draft : Draft) (bytes : Array UInt8) : Prop where
  entityCount : Section.Holds bytes 2 [draft.entities.length.toUInt8, 0]
  strings : Section.Holds bytes 4 (word draft.codeEnd)
  akaoCount : Section.Holds bytes 6 (word 0)
  scale : Section.Holds bytes 8 (word draft.scale.toNat)
  creator : Section.Holds bytes 16 (nameBytes draft.creator)
  name : Section.Holds bytes 24 (nameBytes draft.name)
  names : Section.Holds bytes 32 (draft.entities.flatMap fun entity => nameBytes entity.name)
  tables : Section.Holds bytes (32 + 8 * draft.entities.length)
    ((tables draft.codeStart (draft.codeStart + 2) draft.entities).flatMap (·.flatMap word))
  code : Section.Holds bytes draft.codeStart draft.code
  table : Section.Holds bytes draft.codeEnd draft.strings

theorem scripts_length_le (small : ¬draft.TooLarge) :
    ∀ entity ∈ draft.entities, entity.scripts.length ≤ scriptCount := fun entity among =>
  Nat.le_of_not_lt fun many => small (.scripts entity among many)

theorem length_flatMap_word (numbers : List Nat) :
    (numbers.flatMap word).length = 2 * numbers.length :=
  length_flatMap_of_sized fun number _ => length_word number

theorem length_tables (shared next : Nat) (entities : List DraftEntity) :
    (tables shared next entities).length = entities.length := by
  induction entities generalizing next with
  | nil => rfl
  | cons entity rest ih => simp [tables, ih]

theorem length_of_mem_tables {shared next : Nat} {entities : List DraftEntity}
    (few : ∀ entity ∈ entities, entity.scripts.length ≤ scriptCount) :
    ∀ numbers ∈ tables shared next entities, (numbers.flatMap word).length = 64 := by
  induction entities generalizing next with
  | nil => simp [tables]
  | cons entity rest ih =>
      intro numbers among
      rcases List.mem_cons.mp among with rfl | later
      · rw [length_flatMap_word, length_table (few entity (by simp))]
        rfl
      · exact ih (fun other among => few other (by simp [among])) numbers later

/-- Every part of a layout is where the reader looks for it. -/
theorem placed_layout (small : ¬draft.TooLarge) : draft.Placed draft.layout.toArray := by
  have few := scripts_length_le small
  have whole := Section.holds_toArray draft.layout
  generalize draft.layout.toArray = bytes at whole
  simp only [layout, List.append_assoc] at whole
  have counts : Section.Holds bytes 2 _ := whole.right
  have strings : Section.Holds bytes 4 _ := counts.right
  have akao : Section.Holds bytes 6 _ := strings.right
  have scale : Section.Holds bytes 8 _ := akao.right
  have blank : Section.Holds bytes 10 _ := scale.right
  have creator : Section.Holds bytes 16 _ := blank.right
  have name := creator.right
  rw [length_nameBytes] at name
  have names := name.right
  rw [length_nameBytes] at names
  have tables := names.right
  rw [length_flatMap_of_sized fun entity _ => length_nameBytes entity.name, List.flatten_eq_flatMap,
    List.flatMap_assoc] at tables
  have code := tables.right
  simp only [id] at code
  rw [length_flatMap_of_sized (length_of_mem_tables few), length_tables] at code
  have start : 16 + 8 + 8 + 8 * draft.entities.length + 64 * draft.entities.length =
      draft.codeStart := by
    simp [codeStart, Section.headerSize, Section.nameSize, scriptCount]
    omega
  rw [start] at code
  exact
    { entityCount := counts.left
      strings := strings.left
      akaoCount := akao.left
      scale := scale.left
      creator := creator.left
      name := name.left
      names := names.left
      tables := tables.left
      code := code.left
      table := code.right }

/-! ## The offsets that the reader finds -/

/-- Where the script of a slot begins. -/
def entry (draft : Draft) (entity slot : Nat) : Nat :=
  if (draft.script entity slot).isEmpty then draft.codeStart
  else draft.codeStart + 2 + (draft.before entity slot).length

/-- The shared script takes up the first two bytes, so no entry is at the end of the bytecode. -/
theorem entry_inside {entity : Nat} (known : entity < draft.entities.length) (slot : Nat) :
    draft.codeStart ≤ draft.entry entity slot ∧ draft.entry entity slot < draft.codeEnd := by
  have size := draft.length_before_le known slot
  unfold entry codeEnd
  split
  · omega
  · next given =>
      have long : (draft.script entity slot).length ≠ 0 := by simpa using given
      omega

theorem codeEnd_le (small : ¬draft.TooLarge) : draft.codeEnd ≤ 65535 :=
  Nat.le_of_not_lt fun far => small (.code (draft.codeEnd_eq ▸ far))

theorem textOffset_le (small : ¬draft.TooLarge) {index : Nat}
    (among : index < draft.texts.length) : draft.textOffset index ≤ 65535 :=
  Nat.le_of_not_lt fun far => small (.texts index among far)

/-- The number of texts fits, because the offset of the first one does. -/
theorem texts_length_lt (small : ¬draft.TooLarge) : draft.texts.length < 65536 := by
  by_cases none : draft.texts.length = 0
  · omega
  · have first := textOffset_le small (Nat.pos_of_ne_zero none)
    unfold textOffset at first
    omega

namespace Placed

variable {bytes : Array UInt8} (placed : draft.Placed bytes)

include placed

theorem entityTotal_eq (small : ¬draft.TooLarge) :
    Section.entityTotal bytes = draft.entities.length := by
  have few : draft.entities.length ≤ 255 := Nat.le_of_not_lt fun many => small (.entities many)
  unfold Section.entityTotal
  rw [placed.entityCount.byteAt]
  simp
  omega

theorem stringsStart_eq (small : ¬draft.TooLarge) :
    Section.stringsStart bytes = draft.codeEnd := by
  have near := codeEnd_le small
  rw [Section.stringsStart, placed.strings.wordAt, Nat.mod_eq_of_lt (by omega)]

theorem akaoTotal_eq : Section.akaoTotal bytes = 0 := by
  rw [Section.akaoTotal, placed.akaoCount.wordAt]

theorem tablesEnd_eq (small : ¬draft.TooLarge) : Section.tablesEnd bytes = draft.codeStart := by
  rw [Section.tablesEnd_eq, placed.entityTotal_eq small, placed.akaoTotal_eq]
  simp [codeStart, Section.headerSize, Section.nameSize, scriptCount]
  omega

/-- The entry that is stored for a slot. -/
theorem wordAt_entry (small : ¬draft.TooLarge) {entity slot : Nat}
    (known : entity < draft.entities.length) (inside : slot < scriptCount) :
    Section.wordAt bytes (32 + 8 * draft.entities.length + 64 * entity + 2 * slot) =
      draft.entry entity slot := by
  have few := scripts_length_le small
  have present := List.getElem?_eq_getElem known
  have table := placed.tables.sized_item (length_of_mem_tables few)
    (by rw [getElem?_tables, present, Option.map_some])
  have stored := table.sized_item (fun number _ => length_word number)
    (getElem?_table (few _ (List.getElem_mem known)) inside)
  rw [stored.wordAt]
  have near := codeEnd_le small
  have bounds := draft.entry_inside known slot
  have same : draft.entry entity slot = if ((draft.entities[entity].scripts)[slot]?.getD []).isEmpty
      then draft.codeStart else draft.codeStart + 2 +
        ((draft.entities.take entity).flatMap fun entity => entity.scripts.flatten).length +
        (draft.entities[entity].scripts.take slot).flatten.length := by
    simp [entry, script, given, before, present, Nat.add_assoc]
  rw [← same]
  exact Nat.mod_eq_of_lt (by omega)

/-- A script stands behind those that are laid out before it. -/
theorem holds_script {entity : Nat} (known : entity < draft.entities.length) (slot : Nat) :
    Section.Holds bytes (draft.codeStart + 2 + (draft.before entity slot).length)
      (draft.script entity slot) := by
  obtain ⟨after, same⟩ := draft.code_split known slot
  have code := placed.code
  rw [same] at code
  exact code.right.right.left

theorem holds_shared : Section.Holds bytes draft.codeStart sharedScript := by
  have code := placed.code
  rw [code_eq] at code
  exact code.left

/-- The number of texts. -/
theorem wordAt_texts (small : ¬draft.TooLarge) :
    Section.wordAt bytes draft.codeEnd = draft.texts.length := by
  rw [placed.table.left.left.wordAt, Nat.mod_eq_of_lt (texts_length_lt small)]

theorem wordAt_text (small : ¬draft.TooLarge) {index : Nat} (among : index < draft.texts.length) :
    Section.wordAt bytes (draft.codeEnd + 2 + 2 * index) = draft.textOffset index := by
  have near := textOffset_le small among
  have stored := placed.table.left.right.sized_item (fun number _ => length_word number)
    (getElem?_textOffset among)
  rw [length_word] at stored
  rw [stored.wordAt, Nat.mod_eq_of_lt (by omega)]

/-- A text stands behind those before it, and ends with the byte for that. -/
theorem holds_text {index : Nat} (among : index < draft.texts.length) :
    Section.Holds bytes (draft.codeEnd + draft.textOffset index)
      (draft.texts[index] ++ [Section.textTerminator]) := by
  have stored := placed.table.right.item (List.getElem?_eq_getElem among)
  rwa [List.length_append, length_word, length_flatMap_word, length_textOffsets,
    Nat.add_assoc] at stored

/-- The reader accepts the bytes in which the parts of a draft stand. -/
theorem wellFormed (small : ¬draft.TooLarge) : Section.WellFormed bytes where
  header := by
    have stands := placed.name.inside
    rwa [length_nameBytes] at stands
  ordered := by
    rw [← Section.tablesEnd_eq, placed.tablesEnd_eq small, placed.stringsStart_eq small]
    exact Nat.le_add_right ..
  inside := by
    rw [placed.stringsStart_eq small]
    exact Nat.le_trans (Nat.le_add_right ..) placed.table.inside
  entered := by
    rw [placed.entityTotal_eq small, placed.akaoTotal_eq, placed.stringsStart_eq small]
    intro entity known slot inside
    have bounds := draft.entry_inside known slot
    dsimp only
    rw [Nat.mul_zero, Nat.add_zero, placed.wordAt_entry small known inside]
    rw [codeStart_eq] at bounds
    omega
  listed := by
    intro _
    have stands := placed.table.inside
    rw [placed.stringsStart_eq small, placed.wordAt_texts small]
    rw [Draft.strings, List.length_append, List.length_append, length_word,
      length_flatMap_word, length_textOffsets] at stands
    omega
  started := by
    rw [placed.stringsStart_eq small, placed.wordAt_texts small]
    intro _ index among
    rw [placed.wordAt_text small among]
    exact Nat.le_trans (Nat.le_add_right ..) (placed.holds_text among).inside

end Placed

end Draft

/-! ## Reading back -/

/-- Where the script of a slot begins in a section. -/
def Section.entryOf? (source : Section) (entity slot : Nat) : Option Nat :=
  source.entities[entity]?.bind (·.entries[slot]?)

namespace Draft

variable {draft : Draft}

/-- What the section that is read back from a draft is like. -/
structure Restored (draft : Draft) (source : Section) : Prop where
  scale : source.scale = draft.scale
  creator : source.creator = storedName draft.creator
  name : source.name = storedName draft.name
  entityNames : source.entities.toList.map (·.name) =
    draft.entities.map fun entity => storedName entity.name
  textCount : source.texts.size = draft.texts.length
  text : ∀ index text, draft.texts[index]? = some text →
    source.text? index = some (text.takeWhile (· ≠ 0xFF))
  /-- Two bytes of `RET` come first in the bytecode. -/
  shared : (source.bytes.extract source.codeStart (source.codeStart + 2)).toList = [0, 0]
  missing : ∀ entity < draft.entities.length, ∀ slot < 32, draft.script entity slot = [] →
    source.entryOf? entity slot = some source.codeStart
  /-- A script that was given stands at its entry, behind the shared one and inside the bytecode. -/
  given : ∀ entity < draft.entities.length, ∀ slot < 32, draft.script entity slot ≠ [] →
    ∃ start, source.entryOf? entity slot = some start ∧
      source.codeStart + 2 ≤ start ∧
      start + (draft.script entity slot).length ≤ source.codeEnd ∧
      (source.bytes.extract start (start + (draft.script entity slot).length)).toList =
        draft.script entity slot
  /-- Two scripts that were given have no byte in common. -/
  apart : ∀ entity < draft.entities.length, ∀ slot < 32, draft.script entity slot ≠ [] →
    ∀ other < draft.entities.length, ∀ level < 32, draft.script other level ≠ [] →
    (entity, slot) ≠ (other, level) →
    ∀ start first, source.entryOf? entity slot = some start →
      source.entryOf? other level = some first →
      start + (draft.script entity slot).length ≤ first ∨
        first + (draft.script other level).length ≤ start

theorem takeWhile_terminated (text after : List UInt8) :
    (text ++ Section.textTerminator :: after).takeWhile (· ≠ Section.textTerminator) =
      text.takeWhile (· ≠ Section.textTerminator) := by
  induction text with
  | nil => simp
  | cons byte text ih => simp only [List.cons_append, List.takeWhile_cons, ih]

theorem entry_of_given {entity slot : Nat} (given : draft.script entity slot ≠ []) :
    draft.entry entity slot = draft.codeStart + 2 + (draft.before entity slot).length :=
  if_neg (by simpa using given)

theorem entry_of_missing {entity slot : Nat} (missing : draft.script entity slot = []) :
    draft.entry entity slot = draft.codeStart :=
  if_pos (by simpa using missing)

/-- Scripts that were given are laid out one behind the other. -/
theorem entry_apart {entity slot other level : Nat} (known : entity < draft.entities.length)
    (present : other < draft.entities.length) (given : draft.script entity slot ≠ [])
    (filled : draft.script other level ≠ []) (different : (entity, slot) ≠ (other, level)) :
    draft.entry entity slot + (draft.script entity slot).length ≤ draft.entry other level ∨
      draft.entry other level + (draft.script other level).length ≤ draft.entry entity slot := by
  rw [entry_of_given given, entry_of_given filled]
  have apart : (entity < other ∨ entity = other ∧ slot < level) ∨
      (other < entity ∨ other = entity ∧ level < slot) := by
    rw [Ne, Prod.mk.injEq] at different
    omega
  rcases apart with earlier | later
  · have ordered := (before_of_lex (Nat.le_of_lt present) earlier).length_le
    rw [List.length_append] at ordered
    exact .inl (by omega)
  · have ordered := (before_of_lex (Nat.le_of_lt known) later).length_le
    rw [List.length_append] at ordered
    exact .inr (by omega)

namespace Placed

variable {bytes : Array UInt8} (placed : draft.Placed bytes) (small : ¬draft.TooLarge)

include placed small

theorem entryOf?_eq {entity slot : Nat} (known : entity < draft.entities.length)
    (inside : slot < 32) :
    (Section.ofBytes bytes).entryOf? entity slot = some (draft.entry entity slot) := by
  have stored := (placed.wellFormed small).storedIn_ofBytes
  obtain ⟨scripts, found, -, table⟩ :=
    stored.entity entity (by rwa [placed.entityTotal_eq small])
  unfold Section.entryOf?
  rw [found, Option.bind_some, getElem?_pos scripts.entries slot inside, table slot inside,
    placed.entityTotal_eq small, placed.akaoTotal_eq, Nat.mul_zero, Nat.add_zero,
    placed.wordAt_entry small known inside]

theorem entityNames_eq :
    (Section.ofBytes bytes).entities.toList.map (·.name) =
      draft.entities.map fun entity => storedName entity.name := by
  have names (entity : Nat) (known : entity < draft.entities.length) :
      Section.nameAt bytes (32 + 8 * entity) = storedName draft.entities[entity].name :=
    nameAt_of_holds (placed.names.sized_item (fun entity _ => length_nameBytes entity.name)
      (List.getElem?_eq_getElem known))
  refine List.ext_getElem (by simp [Section.ofBytes, placed.entityTotal_eq small])
    fun entity _ known => ?_
  rw [List.length_map] at known
  simpa [Section.ofBytes, Section.scriptsOf, Section.nameOffset, Section.headerSize,
    Section.nameSize] using names entity known

theorem textTotal_eq : Section.textTotal bytes = draft.texts.length := by
  have more := placed.table.inside
  rw [Draft.strings, List.length_append, List.length_append, length_word] at more
  rw [Section.textTotal, placed.stringsStart_eq small, if_pos (by omega),
    placed.wordAt_texts small]

theorem text?_eq {index : Nat} {text : List UInt8} (given : draft.texts[index]? = some text) :
    (Section.ofBytes bytes).text? index =
      some (text.takeWhile (· ≠ Section.textTerminator)) := by
  obtain ⟨among, rfl⟩ := List.getElem?_eq_some_iff.mp given
  obtain ⟨after, stands⟩ := (placed.holds_text among).drop
  have start : Section.textStart bytes index = draft.codeEnd + draft.textOffset index := by
    rw [Section.textStart, placed.stringsStart_eq small, placed.wordAt_text small among]
  rw [(placed.wellFormed small).text?_ofBytes (by rwa [placed.textTotal_eq small]), start, stands,
    List.append_assoc, List.singleton_append, takeWhile_terminated]

/-- The section in whose bytes the parts of a draft stand is what the draft is read back as. -/
theorem restored : draft.Restored (Section.ofBytes bytes) where
  scale := by
    have whole := draft.scale.toNat_lt
    simp only [Section.ofBytes]
    rw [placed.scale.wordAt, Nat.mod_eq_of_lt whole]
    simp
  creator := nameAt_of_holds placed.creator
  name := nameAt_of_holds placed.name
  entityNames := placed.entityNames_eq small
  textCount := by simp [Section.ofBytes, placed.textTotal_eq small]
  text := fun _ _ given => placed.text?_eq small given
  shared := by
    have stands := placed.holds_shared.extract
    rwa [← placed.tablesEnd_eq small] at stands
  missing := by
    intro entity known slot inside missing
    rw [placed.entryOf?_eq small known inside, entry_of_missing missing]
    exact congrArg some (placed.tablesEnd_eq small).symm
  given := by
    intro entity known slot inside given
    refine ⟨_, placed.entryOf?_eq small known inside, ?_⟩
    have stands := placed.holds_script known slot
    have starts : (Section.ofBytes bytes).codeStart = draft.codeStart := placed.tablesEnd_eq small
    have ends : (Section.ofBytes bytes).codeEnd = draft.codeEnd := placed.stringsStart_eq small
    rw [entry_of_given given, starts, ends]
    refine ⟨Nat.le_add_right .., ?_, stands.extract⟩
    have size := draft.length_before_le known slot
    unfold codeEnd
    omega
  apart := by
    intro entity known slot inside given other present level within filled different start first
      starts begins
    rw [placed.entryOf?_eq small known inside, Option.some.injEq] at starts
    rw [placed.entryOf?_eq small present within, Option.some.injEq] at begins
    subst starts begins
    exact entry_apart known present given filled different

end Placed

/-- Reading undoes writing: a draft that can be written is read back with the same numbers, names,
scripts and texts, and a draft can be written unless a count or an offset of it would not fit. -/
theorem read_encode (draft : Draft) :
    (∀ bytes, draft.encode = .ok bytes →
      ∃ source, Section.read bytes.toArray = .ok source ∧ draft.Restored source) ∧
    ((∃ error, draft.encode = .error error) ↔ draft.TooLarge) := by
  constructor
  · intro bytes written
    obtain ⟨small, rfl⟩ := encode_eq_ok.mp written
    have placed := placed_layout small
    exact ⟨_, Section.read_eq_ok.mpr ⟨placed.wellFormed small, rfl⟩, placed.restored small⟩
  · constructor
    · rintro ⟨error, failed⟩
      refine Classical.byContradiction fun small => ?_
      rw [encode_eq_ok.mpr ⟨small, rfl⟩] at failed
      cases failed
    · intro large
      cases written : draft.encode with
      | error error => exact ⟨error, rfl⟩
      | ok bytes => exact absurd large (encode_eq_ok.mp written).1

/-- A draft of two entities, the second one without scripts, and a text with its end inside. -/
def sample : Draft where
  name := "plaza"
  entities := [{ name := "guide", scripts := [[0x5F, 0x00], [], [0x00]] },
    { name := "door", scripts := [] }]
  texts := [[72, 105], [79, 0xFF, 75]]

theorem sample_restored :
    ∃ source, Section.read sample.layout.toArray = .ok source ∧
      source.texts.size = 2 ∧ source.text? 1 = some [79] ∧
      source.entryOf? 0 1 = some source.codeStart ∧ source.entryOf? 1 0 = some source.codeStart ∧
      ∃ start, source.entryOf? 0 2 = some start ∧ source.codeStart + 2 ≤ start ∧
        (source.bytes.extract start (start + 1)).toList = [0x00] := by
  have written : sample.encode = .ok sample.layout := by rfl
  obtain ⟨source, accepted, restored⟩ := (read_encode sample).1 _ written
  obtain ⟨start, begins, behind, -, stands⟩ :=
    restored.given 0 (by decide) 2 (by decide) (by decide)
  exact ⟨source, accepted, restored.textCount, restored.text 1 _ rfl,
    restored.missing 0 (by decide) 1 (by decide) rfl,
    restored.missing 1 (by decide) 0 (by decide) rfl, start, begins, behind, stands⟩

end Draft

end FieldMachine
