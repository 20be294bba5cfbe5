import FieldMachine.Proofs.Section

/-!
# The format of sections

A section is read from front to back, and the reader stops at the first thing that
is wrong.  Seen as a whole, the bytes that it accepts are the ones that satisfy a
few inequalities between the counts and offsets stored in them
(`Section.WellFormed`), and what it makes of them is a function of the bytes
(`Section.ofBytes`); `Section.read_eq_ok` says both at once.

What is stored where is spelled out in `Section.StoredIn`.
-/

namespace FieldMachine

set_option autoImplicit false

/-! ## Loops that can fail -/

theorem bind_eq_ok {ε α β : Type} {first : Except ε α} {next : α → Except ε β} {value : β} :
    first >>= next = .ok value ↔ ∃ middle, first = .ok middle ∧ next middle = .ok value := by
  refine ⟨ok_of_bind, ?_⟩
  rintro ⟨middle, rfl, worked⟩
  exact worked

/-- Checking all items succeeds exactly when checking each of them does. -/
theorem forM_eq_ok {ε α : Type} {check : α → Except ε Unit} {items : List α} :
    items.forM check = .ok () ↔ ∀ item ∈ items, check item = .ok () := by
  induction items with
  | nil => simp [pure, Except.pure]
  | cons item rest ih =>
      rw [List.forM_eq_forM, List.forM_cons, bind_eq_ok, List.forall_mem_cons]
      rw [List.forM_eq_forM] at ih
      rw [← ih]
      constructor
      · rintro ⟨⟨⟩, first, others⟩
        exact ⟨first, others⟩
      · rintro ⟨first, others⟩
        exact ⟨(), first, others⟩

/-- Computing something for all items, when it is known which items fail and what the others come
to. -/
theorem mapM_eq_ok {ε α β : Type} {compute : α → Except ε β} {fits : α → Prop} {value : α → β}
    (each : ∀ item result, compute item = .ok result ↔ fits item ∧ result = value item)
    {items : List α} {results : List β} :
    items.mapM compute = .ok results ↔ (∀ item ∈ items, fits item) ∧ results = items.map value := by
  induction items generalizing results with
  | nil => simp [pure, Except.pure, eq_comm]
  | cons item rest ih =>
      rw [List.mapM_cons, bind_eq_ok, List.forall_mem_cons]
      constructor
      · rintro ⟨first, computed, worked⟩
        obtain ⟨others, remaining, worked⟩ := bind_eq_ok.mp worked
        cases worked
        obtain ⟨fit, rfl⟩ := (each item first).mp computed
        obtain ⟨fitting, rfl⟩ := ih.mp remaining
        exact ⟨⟨fit, fitting⟩, rfl⟩
      · rintro ⟨⟨fit, fitting⟩, rfl⟩
        refine ⟨value item, (each item _).mpr ⟨fit, rfl⟩, ?_⟩
        exact bind_eq_ok.mpr ⟨rest.map value, ih.mpr ⟨fitting, rfl⟩, rfl⟩

namespace Section

variable {bytes : Array UInt8}

/-! ## Well-formed bytes -/

/-- The number of texts that the string table states; nothing is there when the section ends at
it. -/
def textTotal (bytes : Array UInt8) : Nat :=
  if stringsStart bytes < bytes.size then wordAt bytes (stringsStart bytes) else 0

/-- Where a text starts. -/
def textStart (bytes : Array UInt8) (index : Nat) : Nat :=
  stringsStart bytes + wordAt bytes (stringsStart bytes + 2 + 2 * index)

/-- The counts and offsets stored in some bytes fit each other and the number of bytes.

Behind the header of 32 bytes come eight bytes for each entity, four for each music block, and 64
more for each entity; there the bytecode begins, and it ends at the string table. -/
structure WellFormed (bytes : Array UInt8) : Prop where
  header : 32 ≤ bytes.size
  ordered : 32 + 8 * entityTotal bytes + 4 * akaoTotal bytes + 64 * entityTotal bytes ≤
    stringsStart bytes
  inside : stringsStart bytes ≤ bytes.size
  entered : ∀ entity < entityTotal bytes, ∀ script < 32,
    let entry := wordAt bytes
      (32 + 8 * entityTotal bytes + 4 * akaoTotal bytes + 64 * entity + 2 * script)
    32 + 8 * entityTotal bytes + 4 * akaoTotal bytes + 64 * entityTotal bytes ≤ entry ∧
      entry < stringsStart bytes
  listed : stringsStart bytes < bytes.size →
    stringsStart bytes + 2 + 2 * wordAt bytes (stringsStart bytes) ≤ bytes.size
  started : stringsStart bytes < bytes.size →
    ∀ index < wordAt bytes (stringsStart bytes),
      stringsStart bytes + wordAt bytes (stringsStart bytes + 2 + 2 * index) ≤ bytes.size

/-- The scripts of an entity, whatever their entries are. -/
def scriptsOf (bytes : Array UInt8) (entity : Nat) : EntityScripts :=
  { name := nameAt bytes (nameOffset entity), entries := entriesOf bytes entity }

/-- A text from its start to its end. -/
def textSpan (bytes : Array UInt8) (index : Nat) : Nat × Nat :=
  let start := textStart bytes index
  (start, textEnd bytes (bytes.size - start) start)

/-- What can be executed: the bytes up to the end of the bytecode. -/
def executable (bytes : Array UInt8) : Array UInt8 := bytes.extract 0 (stringsStart bytes)

theorem executable_eq (bytes : Array UInt8) :
    executable bytes = bytes.extract 0 (stringsStart bytes) := rfl

/-- The section that well-formed bytes are. -/
def ofBytes (bytes : Array UInt8) : Section :=
  { bytes
    version := (wordAt bytes 0).toUInt16
    modelCount := byteAt bytes 3
    scale := (wordAt bytes 8).toUInt16
    creator := nameAt bytes 16
    name := nameAt bytes 24
    entities := ((List.range (entityTotal bytes)).map (scriptsOf bytes)).toArray
    akaoOffsets := ((List.range (akaoTotal bytes)).map fun index =>
      (longAt bytes (akaoStart bytes + 4 * index)).toUInt32).toArray
    codeStart := tablesEnd bytes
    codeEnd := stringsStart bytes
    texts := ((List.range (textTotal bytes)).map (textSpan bytes)).toArray
    code := executable bytes
    code_eq := executable_eq bytes }

/-! ## What each check comes to -/

theorem require_eq_ok {part : SectionPart} {offset size : Nat} :
    require bytes part offset size = .ok () ↔ offset + size ≤ bytes.size := by
  unfold require
  split <;> simp [*]

theorem tablesEnd_eq (bytes : Array UInt8) :
    tablesEnd bytes =
      32 + 8 * entityTotal bytes + 4 * akaoTotal bytes + 64 * entityTotal bytes := rfl

theorem entryOffset_eq (bytes : Array UInt8) (entity script : Nat) :
    entryOffset bytes entity script =
      32 + 8 * entityTotal bytes + 4 * akaoTotal bytes + 64 * entity + 2 * script := rfl

theorem requireNames_of_le (le : tablesEnd bytes ≤ bytes.size) :
    requireNames bytes = .ok () := by
  refine forM_eq_ok.mpr fun entity among => require_eq_ok.mpr ?_
  rw [List.mem_range] at among
  rw [tablesEnd_eq] at le
  simp only [nameOffset, headerSize, nameSize]
  omega

theorem requireAkao_of_le (le : tablesEnd bytes ≤ bytes.size) : requireAkao bytes = .ok () := by
  refine forM_eq_ok.mpr fun index among => require_eq_ok.mpr ?_
  rw [List.mem_range] at among
  rw [tablesEnd_eq] at le
  simp only [akaoStart, headerSize, nameSize]
  omega

theorem requireTables_of_le (le : tablesEnd bytes ≤ bytes.size) :
    requireTables bytes = .ok () := by
  refine forM_eq_ok.mpr fun entity among => forM_eq_ok.mpr fun script each =>
    require_eq_ok.mpr ?_
  rw [List.mem_range] at among each
  rw [tablesEnd_eq] at le
  rw [entryOffset_eq]
  simp only [scriptCount] at each
  omega

/-- The scripts of an entity are read exactly when all their entries lie inside the bytecode. -/
theorem readEntity_eq_ok {entity : Nat} {scripts : EntityScripts} :
    readEntity bytes entity = .ok scripts ↔
      (∀ script < scriptCount, tablesEnd bytes ≤ wordAt bytes (entryOffset bytes entity script) ∧
        wordAt bytes (entryOffset bytes entity script) < stringsStart bytes) ∧
      scripts = scriptsOf bytes entity := by
  have stored (script : Nat) (few : script < scriptCount) :
      wordAt bytes (entryOffset bytes entity script) ∈ entriesOf bytes entity :=
    Vector.mem_ofFn.mpr ⟨⟨script, few⟩, rfl⟩
  constructor
  · intro accepted
    have same : scripts = scriptsOf bytes entity := by
      unfold readEntity at accepted
      dsimp only at accepted
      split at accepted <;> cases accepted
      rfl
    subst same
    exact ⟨fun script few => entry_of_readEntity accepted (stored script few), rfl⟩
  · rintro ⟨inside, rfl⟩
    unfold readEntity
    dsimp only
    split
    · next entry script found =>
        have listed := List.mem_of_find?_eq_some found
        have outside := List.find?_some found
        obtain ⟨few, same⟩ := List.getElem?_eq_some_iff.mp (List.mem_zipIdx_iff_getElem?.mp listed)
        rw [Vector.length_toList] at few
        have within := inside script few
        simp only [entriesOf, Vector.getElem_toList, Vector.getElem_ofFn] at same
        rw [same] at within
        simp only [Bool.or_eq_true, decide_eq_true_eq] at outside
        omega
    · rfl

/-- A text is read exactly when its offset is there and leads to a place inside the section. -/
theorem readText_eq_ok {base index : Nat} {text : Nat × Nat} :
    readText bytes base index = .ok text ↔
      (base + 2 + 2 * index + 2 ≤ bytes.size ∧
        base + wordAt bytes (base + 2 + 2 * index) ≤ bytes.size) ∧
      text = (base + wordAt bytes (base + 2 + 2 * index),
        textEnd bytes (bytes.size - (base + wordAt bytes (base + 2 + 2 * index)))
          (base + wordAt bytes (base + 2 + 2 * index))) := by
  unfold readText
  dsimp only
  rw [bind_eq_ok]
  constructor
  · rintro ⟨⟨⟩, there, worked⟩
    split at worked
    · cases worked
    · next reached =>
        cases worked
        exact ⟨⟨require_eq_ok.mp there, Nat.le_of_not_lt reached⟩, rfl⟩
  · rintro ⟨⟨there, reached⟩, rfl⟩
    refine ⟨(), require_eq_ok.mpr there, ?_⟩
    rw [if_neg (Nat.not_lt_of_le reached)]
    rfl

/-- The string table is read exactly when it fits. -/
theorem readTexts_eq_ok {texts : List (Nat × Nat)} :
    readTexts bytes (stringsStart bytes) = .ok texts ↔
      (stringsStart bytes < bytes.size →
        stringsStart bytes + 2 + 2 * wordAt bytes (stringsStart bytes) ≤ bytes.size ∧
        ∀ index < wordAt bytes (stringsStart bytes), textStart bytes index ≤ bytes.size) ∧
      texts = (List.range (textTotal bytes)).map (textSpan bytes) := by
  unfold readTexts
  by_cases more : stringsStart bytes < bytes.size
  · have total : textTotal bytes = wordAt bytes (stringsStart bytes) := if_pos more
    have all := @mapM_eq_ok _ _ _ (readText bytes (stringsStart bytes)) _ _
      (fun _ _ => readText_eq_ok) (List.range (wordAt bytes (stringsStart bytes))) texts
    rw [if_pos more, total, bind_eq_ok]
    constructor
    · rintro ⟨⟨⟩, there, worked⟩
      obtain ⟨fits, rfl⟩ := all.mp worked
      have room := require_eq_ok.mp there
      refine ⟨fun _ => ⟨?_, fun index few => (fits index (List.mem_range.mpr few)).2⟩, rfl⟩
      -- The last offset of the table is the one that needs most room.
      cases last : wordAt bytes (stringsStart bytes) with
      | zero => omega
      | succ before =>
          have furthest := (fits before (List.mem_range.mpr (by omega))).1
          omega
    · rintro ⟨table, rfl⟩
      obtain ⟨listed, started⟩ := table more
      refine ⟨(), require_eq_ok.mpr (by omega), all.mpr ⟨fun index among => ?_, rfl⟩⟩
      have few := List.mem_range.mp among
      exact ⟨by omega, started index few⟩
  · have total : textTotal bytes = 0 := if_neg more
    rw [if_neg more, total]
    simp [more, pure, Except.pure, eq_comm]

/-- Reading succeeds exactly on well-formed bytes, and then gives the section that they are. -/
theorem read_eq_ok {source : Section} :
    read bytes = .ok source ↔ WellFormed bytes ∧ source = ofBytes bytes := by
  have entities := @mapM_eq_ok _ _ _ (readEntity bytes) _ _ (fun _ _ => readEntity_eq_ok)
    (List.range (entityTotal bytes))
  constructor
  · intro accepted
    unfold read at accepted
    split at accepted
    · cases accepted
    next long =>
    dsimp only at accepted
    split at accepted
    · cases accepted
    next present =>
    obtain ⟨_, -, accepted⟩ := ok_of_bind accepted
    obtain ⟨_, -, accepted⟩ := ok_of_bind accepted
    obtain ⟨_, -, accepted⟩ := ok_of_bind accepted
    split at accepted
    · cases accepted
    next apart =>
    obtain ⟨scripts, known, accepted⟩ := ok_of_bind accepted
    obtain ⟨texts, told, accepted⟩ := ok_of_bind accepted
    cases accepted
    obtain ⟨entered, rfl⟩ := entities.mp known
    obtain ⟨table, rfl⟩ := readTexts_eq_ok.mp told
    refine ⟨?_, rfl⟩
    exact
      { header := Nat.le_of_not_lt long
        ordered := Nat.le_of_not_lt apart
        inside := Nat.le_of_not_lt present
        entered := fun entity few => entered entity (List.mem_range.mpr few)
        listed := fun more => (table more).1
        started := fun more => (table more).2 }
  · rintro ⟨wellFormed, rfl⟩
    have reached : tablesEnd bytes ≤ bytes.size := Nat.le_trans wellFormed.ordered wellFormed.inside
    have scripts := entities.mpr
      ⟨fun entity few => wellFormed.entered entity (List.mem_range.mp few), rfl⟩
    have texts := readTexts_eq_ok.mpr
      ⟨fun more => ⟨wellFormed.listed more, wellFormed.started more⟩, rfl⟩
    unfold read
    rw [if_neg (show ¬bytes.size < headerSize from Nat.not_lt_of_le wellFormed.header)]
    dsimp only
    rw [if_neg (Nat.not_lt_of_le wellFormed.inside), requireNames_of_le reached,
      requireAkao_of_le reached, requireTables_of_le reached]
    simp only [bind, Except.bind]
    rw [if_neg (show ¬stringsStart bytes < tablesEnd bytes from
      Nat.not_lt_of_le wellFormed.ordered), scripts, texts]
    rfl

/-- The section that was read, where it is known that bytes were accepted. -/
theorem read_eq_ofBytes (accepted : (read bytes).isOk) : read bytes = .ok (ofBytes bytes) := by
  cases known : read bytes with
  | ok source => exact congrArg Except.ok (read_eq_ok.mp known).2
  | error error =>
      rw [known] at accepted
      cases accepted

/-! ## What is stored where -/

/-- A text from `start` to `finish`: it runs up to the first byte that ends a text, or up to the end
of the section. -/
structure TextRun (bytes : Array UInt8) (start finish : Nat) : Prop where
  ordered : start ≤ finish
  inside : finish ≤ bytes.size
  plain : ∀ place, start ≤ place → place < finish → byteAt bytes place ≠ 0xFF
  ended : finish < bytes.size → byteAt bytes finish = 0xFF

/-- What a section that was read holds, and where in the bytes it is stored. -/
structure StoredIn (bytes : Array UInt8) (source : Section) : Prop where
  whole : source.bytes = bytes
  version : source.version = (wordAt bytes 0).toUInt16
  modelCount : source.modelCount = byteAt bytes 3
  scale : source.scale = (wordAt bytes 8).toUInt16
  creator : source.creator = nameAt bytes 16
  name : source.name = nameAt bytes 24
  codeStart : source.codeStart =
    32 + 8 * entityTotal bytes + 4 * akaoTotal bytes + 64 * entityTotal bytes
  codeEnd : source.codeEnd = stringsStart bytes
  entityCount : source.entities.size = entityTotal bytes
  entity : ∀ entity < entityTotal bytes, ∃ scripts, source.entities[entity]? = some scripts ∧
    scripts.name = nameAt bytes (32 + 8 * entity) ∧
    ∀ (script : Nat) (few : script < scriptCount), scripts.entries[script] = wordAt bytes
      (32 + 8 * entityTotal bytes + 4 * akaoTotal bytes + 64 * entity + 2 * script)
  akaoCount : source.akaoOffsets.size = akaoTotal bytes
  akao : ∀ index < akaoTotal bytes, source.akaoOffsets[index]? =
    some (longAt bytes (32 + 8 * entityTotal bytes + 4 * index)).toUInt32
  textCount : source.texts.size =
    if stringsStart bytes < bytes.size then wordAt bytes (stringsStart bytes) else 0
  text : ∀ index < source.texts.size, ∃ finish,
    let start := stringsStart bytes + wordAt bytes (stringsStart bytes + 2 + 2 * index)
    source.texts[index]? = some (start, finish) ∧
      source.text? index = some (bytes.extract start finish).toList ∧
      TextRun bytes start finish

/-- The end of a text that starts inside the section. -/
theorem textRun_textEnd (room start : Nat) (reaches : start + room = bytes.size) :
    TextRun bytes start (textEnd bytes room start) := by
  induction room generalizing start with
  | zero =>
      exact
        { ordered := Nat.le_refl start
          inside := by simp [textEnd]; omega
          plain := by simp [textEnd]; omega
          ended := by simp [textEnd]; omega }
  | succ room ih =>
      unfold textEnd
      split
      · next ends =>
          exact
            { ordered := Nat.le_refl start
              inside := by omega
              plain := by omega
              ended := fun _ => ends }
      · next goesOn =>
          have run := ih (start + 1) (by omega)
          refine { run with ordered := Nat.le_of_succ_le run.ordered, plain := ?_ }
          intro place above below
          by_cases first : place = start
          · subst first
            exact goesOn
          · exact run.plain place (by omega) below

/-- The end of a text that starts inside the section, as a search through the rest of it. -/
theorem textEnd_eq_takeWhile {room start : Nat} (reaches : start + room = bytes.size) :
    textEnd bytes room start = start +
      ((bytes.extract start bytes.size).toList.takeWhile (· ≠ textTerminator)).length := by
  have rest : (bytes.extract start bytes.size).toList = bytes.toList.drop start := by
    simp [List.take_of_length_le]
  rw [rest]
  clear rest
  induction room generalizing start with
  | zero => simp [textEnd, List.drop_of_length_le, ← reaches]
  | succ room ih =>
      have here : start < bytes.size := by omega
      unfold textEnd
      rw [List.drop_eq_getElem_cons (by simpa using here), List.takeWhile_cons,
        ih (by omega)]
      simp only [byteAt, Array.getElem?_eq_getElem here, Option.getD_some, Array.getElem_toList]
      split
      · next ends => simp [ends]
      · next goesOn =>
          simp [goesOn]
          omega

theorem texts_ofBytes {index : Nat} (listed : index < textTotal bytes) :
    (ofBytes bytes).texts[index]? = some (textSpan bytes index) := by
  simp [ofBytes, listed]

/-- Texts are there only when the section goes on behind its bytecode, and start inside it. -/
theorem WellFormed.textStart_le (wellFormed : WellFormed bytes) {index : Nat}
    (listed : index < textTotal bytes) : textStart bytes index ≤ bytes.size := by
  have more : stringsStart bytes < bytes.size :=
    Decidable.byContradiction fun short => by simp [textTotal, short] at listed
  have total : textTotal bytes = wordAt bytes (stringsStart bytes) := if_pos more
  exact wellFormed.started more index (total ▸ listed)

/-- The section that well-formed bytes are holds what is stored in them. -/
theorem WellFormed.storedIn_ofBytes (wellFormed : WellFormed bytes) :
    StoredIn bytes (ofBytes bytes) where
  whole := rfl
  version := rfl
  modelCount := rfl
  scale := rfl
  creator := rfl
  name := rfl
  codeStart := rfl
  codeEnd := rfl
  entityCount := by simp [ofBytes]
  entity := by
    intro entity few
    refine ⟨scriptsOf bytes entity, by simp [ofBytes, few], rfl, ?_⟩
    intro script each
    simp only [scriptsOf, entriesOf, Vector.getElem_ofFn, entryOffset_eq]
  akaoCount := by simp [ofBytes]
  akao := by
    intro index few
    simp [ofBytes, few, akaoStart, headerSize, nameSize]
  textCount := by simp [ofBytes, textTotal]
  text := by
    intro index few
    have listed : index < textTotal bytes := by simpa [ofBytes] using few
    refine ⟨textEnd bytes (bytes.size - textStart bytes index) (textStart bytes index),
      texts_ofBytes listed, ?_,
      textRun_textEnd _ _ (Nat.add_sub_of_le (wellFormed.textStart_le listed))⟩
    rw [text?, texts_ofBytes listed]
    rfl

/-- The bytes of a text are those from its start on, up to the first one that ends a text. -/
theorem WellFormed.text?_ofBytes (wellFormed : WellFormed bytes) {index : Nat}
    (listed : index < textTotal bytes) :
    (ofBytes bytes).text? index =
      some ((bytes.toList.drop (textStart bytes index)).takeWhile (· ≠ textTerminator)) := by
  have inside := wellFormed.textStart_le listed
  have rest : (bytes.extract (textStart bytes index) bytes.size).toList =
      bytes.toList.drop (textStart bytes index) := by
    simp [List.take_of_length_le]
  rw [text?, texts_ofBytes listed, Option.map_some]
  unfold textSpan
  dsimp only
  rw [textEnd_eq_takeWhile (Nat.add_sub_of_le inside), rest, Array.toList_extract,
    List.extract_eq_take_drop, Nat.add_sub_cancel_left]
  exact congrArg some (List.prefix_iff_eq_take.mp (List.takeWhile_prefix _)).symm

end Section

end FieldMachine
