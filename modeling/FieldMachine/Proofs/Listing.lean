import FieldMachine.Proofs.Disassembly
import FieldMachine.Proofs.Section.Access

/-!
# Complete listings

Whatever bytes stand in the bytecode of a section, a listing shows all of them.
Each line gives back the bytes that it was made from: the mnemonic tells the
opcode, because no two bytes have the same mnemonic
(`Listing.mnemonicOf_injective`), and the operands follow it.  The lines of a
script stand one after the other, from its entry on up to the place where the next
script begins; only the last one may reach past that place (`Listing.Covers`).

A script is listed once for each place at which scripts of its entity begin, and
making the listing never reaches outside the section
(`Listing.lists_every_script`).
-/

namespace FieldMachine

set_option autoImplicit false

/-! ## Mnemonics -/

/-- The bytes of a text as one number. -/
def textNumber (text : String) : Nat :=
  text.toByteArray.data.toList.foldl (fun number byte => number * 256 + byte.toNat) 0

/-- Whether no number comes twice. -/
def allApart : List Nat → Bool
  | [] => true
  | first :: rest => rest.all (!first.beq ·) && allApart rest

theorem nodup_of_allApart {numbers : List Nat} (apart : allApart numbers) : numbers.Nodup := by
  induction numbers with
  | nil => exact List.nodup_nil
  | cons first rest ih =>
      rw [allApart, Bool.and_eq_true, List.all_eq_true] at apart
      refine List.nodup_cons.mpr ⟨fun again => ?_, ih apart.2⟩
      simpa using apart.1 first again

namespace Listing

/-- The mnemonic that a line of the table of opcodes stands for. -/
def mnemonicAt (line : Option Opcode × Nat) : String :=
  (line.1.map Opcode.mnemonic).getD ("UNUSED_" ++ Numeral.hexUpper 2 line.2)

/-- The table of opcodes, each of them with its byte. -/
def numberedOpcodes : List (Option Opcode × Nat) := Opcode.table.toList.zipIdx

theorem getElem?_numberedOpcodes (byte : UInt8) :
    (numberedOpcodes.map mnemonicAt)[byte.toNat]? = some (mnemonicOf byte) := by
  have known : byte.toNat < Opcode.table.size :=
    Nat.lt_of_lt_of_eq byte.toNat_lt (by decide +kernel)
  unfold numberedOpcodes mnemonicOf Opcode.ofByte?
  rw [List.getElem?_map, List.getElem?_zipIdx, Array.getElem?_toList,
    Array.getElem?_eq_getElem known]
  simp only [Option.map_some, Nat.zero_add]
  cases Opcode.table[byte.toNat] <;> rfl

/-- No two bytes have the same mnemonic. -/
theorem mnemonicOf_injective {first second : UInt8}
    (same : mnemonicOf first = mnemonicOf second) : first = second := by
  -- The kernel compares two numbers at once, and two texts character by character.
  have apart : ((numberedOpcodes.map mnemonicAt).map textNumber).Nodup := by
    rw [List.map_map]
    exact nodup_of_allApart (by decide +kernel)
  have known (byte : UInt8) : ((numberedOpcodes.map mnemonicAt).map textNumber)[byte.toNat]? =
      some (textNumber (mnemonicOf byte)) := by
    rw [List.getElem?_map, getElem?_numberedOpcodes, Option.map_some]
  have inside := (List.getElem?_eq_some_iff.mp (known first)).1
  refine UInt8.toNat_inj.mp ((List.getElem?_inj inside apart).mp ?_)
  rw [known, known, same]

/-- The byte that has a mnemonic. -/
def byteOfMnemonic? (mnemonic : String) : Option UInt8 :=
  ((List.range 256).map Nat.toUInt8).find? (mnemonicOf · = mnemonic)

theorem byteOfMnemonic?_eq_some {mnemonic : String} {byte : UInt8} :
    byteOfMnemonic? mnemonic = some byte ↔ mnemonic = mnemonicOf byte := by
  have listed : byte ∈ (List.range 256).map Nat.toUInt8 :=
    List.mem_map.mpr ⟨byte.toNat, List.mem_range.mpr byte.toNat_lt, by simp⟩
  unfold byteOfMnemonic?
  generalize (List.range 256).map Nat.toUInt8 = all at listed
  constructor
  · intro found
    have same := List.find?_some found
    exact (of_decide_eq_true same).symm
  · intro named
    rw [named]
    cases found : all.find? (mnemonicOf · = mnemonicOf byte) with
    | none => simpa using List.find?_eq_none.mp found byte listed
    | some other =>
        have same := List.find?_some found
        rw [mnemonicOf_injective (of_decide_eq_true same)]

theorem mnemonic_instructionAt (bytes : Array UInt8) (address length : Nat) :
    (instructionAt bytes address length).mnemonic =
      mnemonicOf (Section.byteAt bytes address) := by
  unfold instructionAt
  dsimp only

theorem mnemonic_remnantAt (bytes : Array UInt8) (address finish : Nat) :
    (remnantAt bytes address finish).mnemonic =
      mnemonicOf (Section.byteAt bytes address) := by
  unfold remnantAt
  dsimp only

end Listing

/-! ## Lines and the bytes they show -/

namespace ListedInstruction

/-- The number of bytes that a line shows: the opcode and its operands. -/
def size (line : ListedInstruction) : Nat := line.operands.length + 1

/-- Where the bytes of a line end. -/
def finish (line : ListedInstruction) : Nat := line.address + line.size

/-- A line of a script that ends at `scriptEnd`: it shows the bytes at its address, and as many as
the instruction there has, or what is left of the script where no instruction fits before the end of
the section. -/
structure Shows (bytes : Array UInt8) (scriptEnd : Nat) (line : ListedInstruction) : Prop where
  stands : ∃ byte, Listing.byteOfMnemonic? line.mnemonic = some byte ∧
    Section.Holds bytes line.address (byte :: line.operands)
  measured : instructionLength? bytes line.address = some line.size ∨
    instructionLength? bytes line.address = none ∧ line.finish = scriptEnd

end ListedInstruction

namespace Section

variable {bytes : Array UInt8} {start finish : Nat}

/-- What lies between two places stands at the first of them. -/
theorem holds_extract (ordered : start ≤ finish) (inside : finish ≤ bytes.size) :
    Holds bytes start (bytes.extract start finish).toList := by
  refine ⟨bytes.toList.take start, bytes.toList.drop finish, ?_, ?_⟩
  · rw [Array.toList_extract, List.extract_eq_take_drop]
    conv => lhs; rw [← List.take_append_drop start bytes.toList,
      ← List.take_append_drop (finish - start) (bytes.toList.drop start), List.drop_drop,
      Nat.add_sub_of_le ordered]
    rw [List.append_assoc]
  · rw [List.length_take, Array.length_toList]
    omega

/-- The byte at a place and what follows it stand there. -/
theorem holds_between (ordered : start < finish) (inside : finish ≤ bytes.size) :
    Holds bytes start (byteAt bytes start :: Listing.between bytes (start + 1) finish) := by
  have here : start < bytes.size := Nat.lt_of_lt_of_le ordered inside
  have split : (bytes.extract start finish).toList =
      byteAt bytes start :: Listing.between bytes (start + 1) finish := by
    obtain ⟨more, rfl⟩ : ∃ more, finish = start + (more + 1) := ⟨finish - start - 1, by omega⟩
    rw [Listing.between, Array.toList_extract, Array.toList_extract, List.extract_eq_take_drop,
      List.extract_eq_take_drop, List.drop_eq_getElem_cons (by simpa using here), byteAt,
      Array.getElem?_eq_getElem here, Array.getElem_toList, Option.getD_some,
      Nat.add_sub_cancel_left, List.take_succ_cons]
    congr 2
    omega
  rw [← split]
  exact holds_extract (Nat.le_of_lt ordered) inside

end Section

namespace Listing

variable {bytes : Array UInt8} {start finish : Nat}

/-- Lines that show the bytes from `start` up to `finish`: each of them begins where the one before
it ends, and the last is the only one that does not end before `finish`. -/
inductive Covers (bytes : Array UInt8) (finish : Nat) : Nat → List ListedInstruction → Prop
  | last {line : ListedInstruction} (shows : line.Shows bytes finish)
      (begins : line.address < finish) (reaches : finish ≤ line.finish) :
      Covers bytes finish line.address [line]
  | next {line : ListedInstruction} {rest : List ListedInstruction}
      (shows : line.Shows bytes finish) (short : line.finish < finish)
      (goesOn : Covers bytes finish line.finish rest) :
      Covers bytes finish line.address (line :: rest)

theorem length_between (inside : finish ≤ bytes.size) :
    (between bytes start finish).length = finish - start := by
  rw [between, Array.length_toList, Array.size_extract, Nat.min_eq_left inside]

/-- A line about an instruction that has a length. -/
theorem shows_instructionAt {length scriptEnd : Nat}
    (long : instructionLength? bytes start = some length) :
    (instructionAt bytes start length).Shows bytes scriptEnd ∧
      (instructionAt bytes start length).finish = start + length := by
  obtain ⟨positive, inside⟩ := bounds_of_instructionLength? long
  have size : (instructionAt bytes start length).size = length := by
    show (between bytes (start + 1) (start + length)).length + 1 = length
    rw [length_between inside]
    omega
  refine ⟨⟨⟨Section.byteAt bytes start,
    byteOfMnemonic?_eq_some.mpr (mnemonic_instructionAt ..), ?_⟩, .inl ?_⟩, ?_⟩
  · exact Section.holds_between (Nat.lt_add_of_pos_right positive) inside
  · rw [size]
    exact long
  · rw [ListedInstruction.finish, size]
    rfl

/-- A line about what is left where no instruction fits. -/
theorem shows_remnantAt (cut : instructionLength? bytes start = none) (before : start < finish)
    (inside : finish ≤ bytes.size) :
    (remnantAt bytes start finish).Shows bytes finish ∧
      (remnantAt bytes start finish).finish = finish := by
  have whole : (remnantAt bytes start finish).finish = finish := by
    show start + ((between bytes (start + 1) finish).length + 1) = finish
    rw [length_between inside]
    omega
  exact ⟨⟨⟨Section.byteAt bytes start, byteOfMnemonic?_eq_some.mpr (mnemonic_remnantAt ..),
    Section.holds_between before inside⟩, .inr ⟨cut, whole⟩⟩, whole⟩

/-- The lines of a script show it from its entry up to its end. -/
theorem covers_instructions {start : Nat} (inside : finish ≤ bytes.size)
    (begins : start < finish) :
    Covers bytes finish start (instructions bytes finish start).1 := by
  -- By recursion on what is left of the script, which every line makes shorter.
  rw [instructions, if_pos begins]
  cases long : instructionLength? bytes start with
  | none =>
      obtain ⟨shows, whole⟩ := shows_remnantAt long begins inside
      exact .last shows begins (Nat.le_of_eq whole.symm)
  | some length =>
      obtain ⟨positive, -⟩ := bounds_of_instructionLength? long
      obtain ⟨shows, ends⟩ := @shows_instructionAt bytes start length finish long
      dsimp only
      rw [Nat.max_eq_left positive]
      by_cases short : start + length < finish
      · refine .next shows (ends ▸ short) ?_
        rw [ends]
        exact covers_instructions inside short
      · have done : (instructions bytes finish (start + length)).1 = [] := by
          rw [instructions, if_neg short]
        rw [done]
        exact .last shows begins (by omega)
termination_by finish - start

end Listing

/-! ## The ends of scripts -/

/-- A script that begins at `start` ends at `finish`: at the next place where a script of any entity
begins, or at the end of the bytecode. -/
structure Section.EndsAt (source : Section) (start finish : Nat) : Prop where
  later : start < finish
  within : finish ≤ source.codeEnd
  next : ∀ entity slot entry, source.entryOf? entity slot = some entry → start < entry →
    finish ≤ entry
  reached : finish = source.codeEnd ∨ ∃ entity slot, source.entryOf? entity slot = some finish

namespace Listing

variable {bytes : Array UInt8} {source : Section} {start finish : Nat}

theorem endsAt_scriptEnd (inside : start < source.codeEnd) :
    source.EndsAt start (scriptEnd source start) := by
  obtain ⟨within, next, reached⟩ := scriptEnd_spec source start
  refine ⟨?_, within, next, reached.imp_right And.right⟩
  rcases reached with last | ⟨later, -⟩
  · rw [last]
    exact inside
  · exact later

/-! ## Every script once -/

theorem mem_ownSlots_iff {scripts : EntityScripts} {slot offset : Nat} :
    (slot, offset) ∈ ownSlots scripts ↔
      scripts.entries[slot]? = some offset ∧
        ∀ earlier < slot, scripts.entries[earlier]? ≠ some offset := by
  refine ⟨fun own => ?_, fun ⟨here, first⟩ => mem_ownSlots here first⟩
  obtain ⟨⟨entry, place⟩, listed, kept⟩ := List.mem_filterMap.mp own
  obtain ⟨fresh, same⟩ := Option.ite_none_left_eq_some.mp kept
  cases same
  have here := List.mem_zipIdx_iff_getElem?.mp listed
  rw [Vector.getElem?_toList] at here
  refine ⟨here, fun earlier before again => fresh (List.contains_iff_mem.mpr ?_)⟩
  refine List.mem_iff_getElem?.mpr ⟨earlier, ?_⟩
  rw [List.getElem?_take_of_lt before, Vector.getElem?_toList]
  exact again

/-- No two of the listed slots begin at one place. -/
theorem nodup_ownSlots (scripts : EntityScripts) : ((ownSlots scripts).map Prod.snd).Nodup := by
  have ordered := List.pairwise_map.mp (pairwise_ownSlots scripts)
  refine List.pairwise_map.mpr (ordered.imp_of_mem fun {first second} own other before same => ?_)
  obtain ⟨here, -⟩ := mem_ownSlots_iff.mp own
  obtain ⟨-, fresh⟩ := mem_ownSlots_iff.mp other
  exact fresh first.1 before (same ▸ here)

/-- The script that is listed for a slot. -/
def listedScript (source : Section) (slot offset : Nat) : ListedScript :=
  { slot, offset
    instructions := (instructions source.bytes (scriptEnd source offset) offset).1 }

theorem scripts_eq (slots : List (Nat × Nat)) :
    (Listing.scripts source slots).1 =
      slots.map fun (slot, offset) => listedScript source slot offset := by
  simp only [Listing.scripts, List.map_map]
  rfl

theorem entities_eq :
    (Listing.entities source).1 = source.entities.toList.zipIdx.map fun (entity, index) =>
      { index, name := entity.name
        scripts := (Listing.scripts source (ownSlots entity)).1 } := by
  simp only [Listing.entities, List.map_map]
  rfl

/-- The lines of a listed script. -/
theorem instructions_of_mem {entity : ListedEntity} {script : ListedScript}
    (listed : entity ∈ (Listing.entities source).1) (own : script ∈ entity.scripts) :
    script.instructions =
      (instructions source.bytes (scriptEnd source script.offset) script.offset).1 := by
  rw [entities_eq] at listed
  obtain ⟨⟨scripts, index⟩, -, rfl⟩ := List.mem_map.mp listed
  dsimp only at own
  rw [scripts_eq] at own
  obtain ⟨⟨slot, offset⟩, -, rfl⟩ := List.mem_map.mp own
  rfl

/-! ## No access leaves the section -/

namespace Checked

open Section (Access)
open Section.Access (Stays)

/-- The lines between two places, every access to the bytes being checked. -/
def instructions (bytes : Array UInt8) (finish address : Nat) :
    Access (List ListedInstruction) :=
  if address < finish then do
    let byte ← Access.byte bytes address
    match instructionLength? bytes address with
    | none =>
        let operands ← Access.slice bytes (address + 1) finish
        return [{ address, mnemonic := mnemonicOf byte, operands }]
    | some length =>
        let operands ← Access.slice bytes (address + 1) (address + max length 1)
        let others ← instructions bytes finish (address + max length 1)
        return {
          address
          mnemonic := mnemonicOf byte
          operands
          target := (Opcode.ofByte? byte).bind (target? bytes address (max length 1)) } :: others
  else return []
termination_by finish - address

/-- The entities of a section, every access to its bytes being checked. -/
def entities (source : Section) : Access (List ListedEntity) :=
  source.entities.toList.zipIdx.mapM fun (entity, index) => do
    let scripts ← (ownSlots entity).mapM fun (slot, offset) => do
      let listed ← instructions source.bytes (scriptEnd source offset) offset
      return ({ slot, offset, instructions := listed } : ListedScript)
    return ({ index, name := entity.name, scripts } : ListedEntity)

/-- Computations on the items of a list that come to values come to the list of these. -/
theorem stays_mapM {α β : Type} {items : List α} {compute : α → Access β} {value : α → β}
    (each : ∀ item ∈ items, Stays (compute item) (pure (value item))) :
    Stays (items.mapM compute) (pure (items.map value)) := by
  induction items with
  | nil => rfl
  | cons item rest ih =>
      rw [List.mapM_cons]
      exact (each item List.mem_cons_self).next
        ((ih fun other among => each other (List.mem_cons_of_mem _ among)).next rfl)

/-- No access leaves the bytes, as long as the place where the script ends does not. -/
theorem instructions_eq {bytes : Array UInt8} {finish : Nat} (inside : finish ≤ bytes.size)
    (address : Nat) :
    Stays (instructions bytes finish address)
      (pure (Listing.instructions bytes finish address).1) := by
  rw [instructions, Listing.instructions]
  by_cases before : address < finish
  · rw [if_pos before, if_pos before]
    refine (Section.Access.stays_byte (Nat.lt_of_lt_of_le before inside)).next ?_
    cases long : instructionLength? bytes address with
    | none => exact (Section.Access.stays_slice before inside).next rfl
    | some length =>
        obtain ⟨positive, behind⟩ := bounds_of_instructionLength? long
        dsimp only
        rw [Nat.max_eq_left positive]
        exact (Section.Access.stays_slice (by omega) behind).next
          ((instructions_eq inside (address + length)).next rfl)
  · rw [if_neg before, if_neg before]
    rfl
termination_by finish - address

/-- Listing a section never looks at a place outside it. -/
theorem entities_eq (sound : source.Sound) :
    Stays (entities source) (pure (Listing.entities source).1) := by
  have inside (offset : Nat) : scriptEnd source offset ≤ source.bytes.size :=
    Nat.le_trans (scriptEnd_le ..) sound.codeEnd_le
  rw [Listing.entities_eq]
  refine stays_mapM fun (entity, index) _ => ?_
  dsimp only
  rw [scripts_eq]
  refine Section.Access.Stays.next (stays_mapM fun (slot, offset) _ => ?_) rfl
  exact (instructions_eq (inside offset) offset).next rfl

end Checked

/-! ## Whole listings -/

/-- What a listing shows of the scripts of an entity: one script for each place at which some of
them begin, under the first slot that begins there; and each of them from its entry up to the place
where it ends. -/
structure ListsScripts (source : Section) (entity : EntityScripts) (listed : ListedEntity) :
    Prop where
  name : listed.name = entity.name
  slots : ∀ slot offset,
    (∃ script ∈ listed.scripts, script.slot = slot ∧ script.offset = offset) ↔
      entity.entries[slot]? = some offset ∧
        ∀ earlier < slot, entity.entries[earlier]? ≠ some offset
  once : (listed.scripts.map (·.offset)).Nodup
  ends : ∀ script ∈ listed.scripts,
    source.EndsAt script.offset (scriptEnd source script.offset)
  covers : ∀ script ∈ listed.scripts,
    Covers source.bytes (scriptEnd source script.offset) script.offset script.instructions

theorem listsScripts {entity : EntityScripts} (sound : source.Sound)
    (member : entity ∈ source.entities) (index : Nat) :
    ListsScripts source entity
      { index, name := entity.name, scripts := (Listing.scripts source (ownSlots entity)).1 } := by
  have begins {slot offset : Nat} (own : (slot, offset) ∈ ownSlots entity) :
      offset < source.codeEnd := by
    obtain ⟨inside, same⟩ := Vector.getElem?_eq_some_iff.mp (mem_ownSlots_iff.mp own).1
    exact (sound.entered entity member offset (same ▸ Vector.getElem_mem inside)).2
  rw [scripts_eq]
  refine ⟨rfl, fun slot offset => ?_, ?_, ?_, ?_⟩
  · rw [← mem_ownSlots_iff]
    constructor
    · rintro ⟨script, among, rfl, rfl⟩
      obtain ⟨⟨slot, offset⟩, own, rfl⟩ := List.mem_map.mp among
      exact own
    · intro own
      exact ⟨_, List.mem_map.mpr ⟨_, own, rfl⟩, rfl, rfl⟩
  · rw [List.map_map]
    exact nodup_ownSlots entity
  · intro script among
    obtain ⟨⟨slot, offset⟩, own, rfl⟩ := List.mem_map.mp among
    exact endsAt_scriptEnd (begins own)
  · intro script among
    obtain ⟨⟨slot, offset⟩, own, rfl⟩ := List.mem_map.mp among
    exact covers_instructions (Nat.le_trans (scriptEnd_le ..) sound.codeEnd_le)
      (endsAt_scriptEnd (begins own)).later

/-- The listing of any section that was read is made without an access outside its bytes, and it
shows every entity with all its scripts, and all bytes of each of them. -/
theorem lists_every_script {bytes : Array UInt8} (accepted : Section.read bytes = .ok source) :
    Checked.entities source = pure (Listing.entities source).1 ∧
      (Listing.entities source).1.length = source.entities.size ∧
      ∀ index entity, source.entities[index]? = some entity →
        ∃ listed, (Listing.entities source).1[index]? = some listed ∧ listed.index = index ∧
          ListsScripts source entity listed := by
  have sound := Section.sound_of_read accepted
  refine ⟨Checked.entities_eq sound, ?_, fun index entity found => ?_⟩
  · rw [entities_eq, List.length_map, List.length_zipIdx, Array.length_toList]
  · exact ⟨_, getElem?_entities found, rfl,
      listsScripts sound (Array.mem_of_getElem? found) index⟩

/-! ## A section with ragged scripts -/

/-- Two entities, whose scripts share their code.  The first script begins with an instruction whose
payload reaches over the beginnings of two others, then come an instruction that states its own
length, a byte without a name, and a message without its last byte. -/
def ragged : Array UInt8 :=
  (([2, 5, 2, 0, 190, 0, 0, 0, 0, 2] ++ List.replicate 22 0 ++ List.replicate 16 0
    ++ [176, 0, 181, 0, 176, 0] ++ (List.replicate 29 [187, 0]).flatten
    ++ (List.replicate 32 [184, 0]).flatten
    ++ [0x1C, 0x00, 0x00, 0x00, 0x00, 0x02, 0xAA, 0xBB, 0x28, 0x03, 0xFF, 0x1D, 0x40, 0x00] :
      List UInt8)).toArray

/-- The third slot repeats the first one and is left out, and the fourth one is listed up to the end
of the bytecode. -/
theorem ragged_lists_every_script :
    ∃ source, Section.read ragged = .ok source ∧
      ∃ listed, (Listing.entities source).1[0]? = some listed ∧
        (∀ script ∈ listed.scripts, script.slot ≠ 2) ∧
        ∃ script ∈ listed.scripts, script.slot = 3 ∧ script.offset = 187 ∧
          Covers ragged 190 187 script.instructions := by
  have accepted : Section.read ragged = .ok (Section.ofBytes ragged) :=
    Section.read_eq_ofBytes (by decide +kernel)
  obtain ⟨-, -, lists⟩ := lists_every_script accepted
  have found : (Section.ofBytes ragged).entities[0]? = some (Section.scriptsOf ragged 0) := by
    decide +kernel
  obtain ⟨listed, there, -, shows⟩ := lists 0 _ found
  refine ⟨_, accepted, listed, there, fun script among third => ?_, ?_⟩
  · obtain ⟨here, first⟩ := (shows.slots 2 script.offset).mp ⟨script, among, third, rfl⟩
    have repeated : (Section.scriptsOf ragged 0).entries[0]? =
        (Section.scriptsOf ragged 0).entries[2]? := by decide +kernel
    exact first 0 (by decide) (repeated.trans here)
  · have own : (Section.scriptsOf ragged 0).entries[3]? = some 187 ∧
        ∀ earlier < 3, (Section.scriptsOf ragged 0).entries[earlier]? ≠ some 187 := by
      decide +kernel
    obtain ⟨script, among, slot, offset⟩ := (shows.slots 3 187).mpr own
    have finish : scriptEnd (Section.ofBytes ragged) 187 = 190 := by decide +kernel
    have covers := shows.covers script among
    rw [offset, finish] at covers
    exact ⟨script, among, slot, offset, covers⟩

end Listing

end FieldMachine
