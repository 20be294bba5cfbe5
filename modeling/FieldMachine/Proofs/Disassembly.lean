import FieldMachine.Assembly
import FieldMachine.Listing
import FieldMachine.Proofs.Length
import FieldMachine.Proofs.Section.Draft

/-!
# Assembled scripts listed again

Four parts have to agree for a listing to give a program back: the bytes that
the forms of instruction come to, the places that a draft gives its scripts, the
table in which the reader finds these places, and the lengths by which a listing
goes from one instruction to the next.

An instruction is as long as its form writes it (`Item.IsWhole.length`), and a
script is followed by the next script that is not empty, or by the end of the
bytecode (`Draft.followed`).  So a listing that begins at the entry of a script
meets every instruction of it and stops behind the last one
(`Draft.listing_of_encode`).
-/

namespace FieldMachine

set_option autoImplicit false

namespace Assembly

/-! ## Whole instructions -/

/-- The instructions that start a script of an entity. -/
def calls : List Opcode := [.req, .reqsw, .reqew, .preq, .prqsw, .prqew]

/-- The operations on two operands of one byte. -/
def byteOperations : List Opcode :=
  [.plusSat, .minusSat, .setbyte, .biton, .bitoff, .bitxor, .plus, .minus, .mul, .div, .mod, .and,
    .or, .xor, .lbyte]

/-- The operations on a cell and an operand of two bytes. -/
def wordOperations : List Opcode :=
  [.plus2Sat, .minus2Sat, .setword, .plus2, .minus2, .mul2, .div2, .mod2, .and2, .or2, .xor2,
    .hbyte]

/-- The operations that count a cell up or down. -/
def steps : List Opcode := [.incSat, .inc2Sat, .decSat, .dec2Sat, .inc, .inc2, .dec, .dec2]

/-- The instruction that an item is of; bare bytes are of none. -/
def Item.op? : Item → Option Opcode
  | .raw _ => none
  | .opcode op | .call op .. | .byteArithmetic op .. | .wordArithmetic op .. | .step op .. =>
      some op
  | .ret => some .ret
  | .nop => some .nop
  | .retTo .. => some .retto
  | .jumpForward _ => some .jmpf
  | .jumpBackward _ => some .jmpb
  | .wait _ => some .wait
  | .compareBytes .. => some .ifub
  | .compareWords .. => some .ifuw
  | .setByte .. => some .setbyte
  | .setWord .. => some .setword
  | .message .. => some .message
  | .ask .. => some .ask
  | .battle _ => some .battle
  | .place .. => some .xyzi
  | .move .. => some .move
  | .moveSpeed .. => some .msped

/-- An item that is a whole instruction: a form of its own, or a form that several instructions
share, written for one of them.  An opcode on its own and bare bytes are none. -/
def Item.IsWhole : Item → Prop
  | .opcode _ | .raw _ => False
  | .call op .. => op ∈ calls
  | .byteArithmetic op .. => op ∈ byteOperations
  | .wordArithmetic op .. => op ∈ wordOperations
  | .step op .. => op ∈ steps
  | _ => True

/-- A whole instruction begins with its opcode, and is as long as the instruction is known to be. -/
theorem Item.IsWhole.encoded {item : Item} (whole : item.IsWhole) :
    ∃ op, item.op? = some op ∧ op.plan?.isSome ∧ item.encode = op.byte :: item.encode.tail ∧
      item.encode.length = op.size := by
  have calls : ∀ op ∈ calls, op.plan?.isSome ∧ op.size = 3 := by decide +kernel
  have bytes : ∀ op ∈ byteOperations, op.plan?.isSome ∧ op.size = 4 := by decide +kernel
  have words : ∀ op ∈ wordOperations, op.plan?.isSome ∧ op.size = 5 := by decide +kernel
  have steps : ∀ op ∈ steps, op.plan?.isSome ∧ op.size = 3 := by decide +kernel
  cases item with
  | opcode op => cases whole
  | raw data => cases whole
  | call op => exact ⟨op, rfl, (calls op whole).1, rfl, (calls op whole).2.symm⟩
  | byteArithmetic op => exact ⟨op, rfl, (bytes op whole).1, rfl, (bytes op whole).2.symm⟩
  | wordArithmetic op => exact ⟨op, rfl, (words op whole).1, rfl, (words op whole).2.symm⟩
  | step op => exact ⟨op, rfl, (steps op whole).1, rfl, (steps op whole).2.symm⟩
  | _ =>
      refine ⟨_, rfl, rfl, rfl, ?_⟩
      simp only [Item.encode, word, signed, selectors, List.length_append, List.length_cons,
        List.length_nil]
      decide +kernel

theorem assemble_ne_nil {items : List Item} (nonempty : items ≠ [])
    (whole : ∀ item ∈ items, item.IsWhole) : assemble items ≠ [] := by
  obtain ⟨item, rest, rfl⟩ := List.exists_cons_of_ne_nil nonempty
  obtain ⟨op, -, -, begins, -⟩ := (whole item List.mem_cons_self).encoded
  rw [assemble, List.flatMap_cons, begins]
  exact List.cons_ne_nil _ _

/-- What a listing shows of instructions that stand one after the other from an address on: where
each one stands, its mnemonic and the bytes behind its opcode. -/
def transcript : Nat → List Item → List (Nat × String × List UInt8)
  | _, [] => []
  | address, item :: rest =>
      item.op?.toList.map (fun op => (address, op.mnemonic, item.encode.tail))
        ++ transcript (address + item.encode.length) rest

end Assembly

/-! ## Instructions one after the other -/

namespace Listing

open Assembly

variable {bytes : Array UInt8} {start : Nat}

/-- What a line shows of its instruction. -/
def shown (line : ListedInstruction) : Nat × String × List UInt8 :=
  (line.address, line.mnemonic, line.operands)

theorem shown_instructionAt (bytes : Array UInt8) (address length : Nat) :
    shown (instructionAt bytes address length) =
      (address, mnemonicOf (Section.byteAt bytes address),
        between bytes (address + 1) (address + length)) := by
  unfold shown instructionAt
  dsimp only

theorem mnemonicOf_byte (op : Opcode) : mnemonicOf op.byte = op.mnemonic := by
  unfold mnemonicOf
  rw [Opcode.ofByte?_byte]

theorem getElem?_of_holds {byte : UInt8} {rest : List UInt8}
    (holds : Section.Holds bytes start (byte :: rest)) : bytes[start]? = some byte := by
  obtain ⟨before, after, same, rfl⟩ := holds
  rw [← Array.getElem?_toList, same]
  simp

/-- A whole instruction is the first line of what begins with it. -/
theorem instructions_item {item : Item} {op : Opcode} (finish : Nat)
    (stands : Section.Holds bytes start item.encode) (known : item.op? = some op)
    (whole : item.IsWhole) (inside : start + item.encode.length ≤ finish) :
    ∃ line, shown line = (start, op.mnemonic, item.encode.tail) ∧
      instructions bytes finish start =
        (line :: (instructions bytes finish (start + item.encode.length)).1,
          (instructions bytes finish (start + item.encode.length)).2) := by
  obtain ⟨found, named, carried, begins, long⟩ := whole.encoded
  cases known.symm.trans named
  have behind := stands.inside
  have operands : Section.Holds bytes (start + 1) item.encode.tail :=
    (begins ▸ stands : Section.Holds bytes start ([op.byte] ++ item.encode.tail)).right
  have size : item.encode.length = 1 + item.encode.tail.length := by
    rw [Nat.add_comm]
    exact congrArg List.length begins
  rw [begins] at stands
  have length : instructionLength? bytes start = some item.encode.length := by
    rw [long] at behind ⊢
    exact Opcode.instructionLength?_eq carried (getElem?_of_holds stands) behind
  have tail : between bytes (start + 1) (start + item.encode.length) = item.encode.tail := by
    rw [size, ← Nat.add_assoc]
    exact operands.extract
  refine ⟨instructionAt bytes start item.encode.length, ?_, ?_⟩
  · have named : mnemonicOf (Section.byteAt bytes start) = op.mnemonic :=
      (congrArg mnemonicOf stands.byteAt).trans (mnemonicOf_byte op)
    rw [shown_instructionAt, named, tail]
  · have unsuspicious : unknownWarning bytes start = [] := by
      simp [unknownWarning, stands.byteAt, Opcode.ofByte?_byte]
    have positive : 1 ≤ item.encode.length := by
      rw [size]
      exact Nat.le_add_right 1 _
    have earlier : start < finish :=
      Nat.lt_of_lt_of_le (Nat.lt_add_of_pos_right positive) inside
    rw [instructions, if_pos earlier]
    simp only [length, Nat.max_eq_left positive, unsuspicious, List.nil_append]

/-- Where whole instructions stand, they are listed, and nothing is wrong with them. -/
theorem instructions_assemble {items : List Item}
    (stands : Section.Holds bytes start (assemble items)) (whole : ∀ item ∈ items, item.IsWhole) :
    (instructions bytes (start + (assemble items).length) start).1.map shown =
        transcript start items ∧
      (instructions bytes (start + (assemble items).length) start).2 = [] := by
  induction items generalizing start with
  | nil =>
      rw [instructions]
      simp [assemble, transcript]
  | cons item rest ih =>
      have split : assemble (item :: rest) = item.encode ++ assemble rest := List.flatMap_cons
      have first := whole item List.mem_cons_self
      obtain ⟨op, known, -⟩ := first.encoded
      rw [split] at stands
      obtain ⟨listed, silent⟩ := ih stands.right fun item among =>
        whole item (List.mem_cons_of_mem _ among)
      have inside : start + item.encode.length ≤
          start + (item.encode ++ assemble rest).length := by
        rw [List.length_append]
        omega
      obtain ⟨line, shows, goesOn⟩ := instructions_item _ stands.left known first inside
      rw [split, goesOn, transcript, known]
      rw [Nat.add_assoc, ← List.length_append] at listed silent
      refine ⟨?_, silent⟩
      rw [List.map_cons, shows, listed]
      rfl

/-! ## The slots of an entity -/

theorem pairwise_ownSlots (scripts : EntityScripts) :
    ((ownSlots scripts).map Prod.fst).Pairwise (· < ·) := by
  have ordered : scripts.entries.toList.zipIdx.Pairwise fun first second => first.2 < second.2 := by
    rw [← List.pairwise_map, List.zipIdx_map_snd]
    exact List.pairwise_lt_range' ..
  rw [List.pairwise_map]
  refine ordered.filterMap _ fun first second earlier own here other there => ?_
  obtain ⟨-, ⟨⟩⟩ := Option.ite_none_left_eq_some.mp here
  obtain ⟨-, ⟨⟩⟩ := Option.ite_none_left_eq_some.mp there
  exact earlier

theorem mem_ownSlots {scripts : EntityScripts} {slot offset : Nat}
    (here : scripts.entries[slot]? = some offset)
    (first : ∀ earlier < slot, scripts.entries[earlier]? ≠ some offset) :
    (slot, offset) ∈ ownSlots scripts := by
  have listed : (offset, slot) ∈ scripts.entries.toList.zipIdx := by
    rwa [List.mem_zipIdx_iff_getElem?, Vector.getElem?_toList]
  refine List.mem_filterMap.mpr ⟨_, listed, if_neg fun repeated => ?_⟩
  obtain ⟨earlier, there⟩ := List.mem_iff_getElem?.mp (List.contains_iff_mem.mp repeated)
  rw [List.getElem?_take] at there
  split at there
  · next before => exact first earlier before (Vector.getElem?_toList ▸ there)
  · cases there

/-! ## Scripts and entities of a listing -/

theorem pairwise_scripts (source : Section) (scripts : EntityScripts) :
    ((Listing.scripts source (ownSlots scripts)).1.map (·.slot)).Pairwise (· < ·) := by
  have slots : (Listing.scripts source (ownSlots scripts)).1.map (·.slot) =
      (ownSlots scripts).map Prod.fst := by
    simp [Listing.scripts]
  rw [slots]
  exact pairwise_ownSlots scripts

theorem getElem?_entities {source : Section} {entity : Nat} {scripts : EntityScripts}
    (found : source.entities[entity]? = some scripts) :
    (Listing.entities source).1[entity]? =
      some
        { index := entity, name := scripts.name
          scripts := (Listing.scripts source (ownSlots scripts)).1 } := by
  simp [Listing.entities, found]

/-! ## The end of a script -/

/-- The least of some numbers is one of them. -/
theorem foldl_min_mem (items : List Nat) (first : Nat) :
    items.foldl min first ≤ first ∧ (∀ item ∈ items, items.foldl min first ≤ item) ∧
      (items.foldl min first = first ∨ items.foldl min first ∈ items) := by
  induction items generalizing first with
  | nil => exact ⟨Nat.le_refl _, nofun, .inl rfl⟩
  | cons item rest ih =>
      obtain ⟨below, least, reached⟩ := ih (min first item)
      rw [List.foldl_cons, List.forall_mem_cons, List.mem_cons]
      refine ⟨Nat.le_trans below (Nat.min_le_left ..),
        ⟨Nat.le_trans below (Nat.min_le_right ..), least⟩, ?_⟩
      rcases reached with same | later
      · rw [same]
        rcases Nat.le_total first item with low | high
        · exact .inl (Nat.min_eq_left low)
        · exact .inr (.inl (Nat.min_eq_right high))
      · exact .inr (.inr later)

/-- The places behind `start` where a script begins. -/
theorem mem_laterEntries {source : Section} {entry : Nat} :
    entry ∈ source.entities.toList.flatMap
        (fun entity => entity.entries.toList.filter (start < ·)) ↔
      start < entry ∧ ∃ entity slot, source.entryOf? entity slot = some entry := by
  simp only [List.mem_flatMap, List.mem_filter, decide_eq_true_eq, Array.mem_toList_iff,
    Array.mem_iff_getElem?, Vector.mem_toList_iff, Vector.mem_iff_getElem?, Section.entryOf?,
    Option.bind_eq_some_iff]
  constructor
  · rintro ⟨scripts, ⟨entity, found⟩, ⟨slot, here⟩, later⟩
    exact ⟨later, entity, slot, scripts, found, here⟩
  · rintro ⟨later, entity, slot, scripts, found, here⟩
    exact ⟨scripts, ⟨entity, found⟩, ⟨slot, here⟩, later⟩

/-- What the end of a script is found among. -/
theorem scriptEnd_spec (source : Section) (start : Nat) :
    scriptEnd source start ≤ source.codeEnd ∧
      (∀ entity slot entry, source.entryOf? entity slot = some entry → start < entry →
        scriptEnd source start ≤ entry) ∧
      (scriptEnd source start = source.codeEnd ∨ start < scriptEnd source start ∧
        ∃ entity slot, source.entryOf? entity slot = some (scriptEnd source start)) := by
  obtain ⟨within, least, reached⟩ := foldl_min_mem
    (source.entities.toList.flatMap fun entity => entity.entries.toList.filter (start < ·))
    source.codeEnd
  refine ⟨within, fun entity slot entry here later => ?_, reached.imp_right mem_laterEntries.mp⟩
  exact least entry (mem_laterEntries.mpr ⟨later, entity, slot, here⟩)

theorem scriptEnd_le (source : Section) (start : Nat) :
    scriptEnd source start ≤ source.codeEnd := (scriptEnd_spec source start).1

/-- A script ends where the bytecode does or another script begins, if none begins between. -/
theorem scriptEnd_eq {source : Section} {finish : Nat} (le : finish ≤ source.codeEnd)
    (below : ∀ entity slot entry, source.entryOf? entity slot = some entry → start < entry →
      finish ≤ entry)
    (reached : finish = source.codeEnd ∨
      start < finish ∧ ∃ entity slot, source.entryOf? entity slot = some finish) :
    scriptEnd source start = finish := by
  obtain ⟨within, least, found⟩ := scriptEnd_spec source start
  refine Nat.le_antisymm ?_ ?_
  · rcases reached with rfl | ⟨later, entity, slot, here⟩
    · exact within
    · exact least entity slot finish here later
  · rcases found with last | ⟨later, entity, slot, here⟩
    · rw [last]
      exact le
    · exact below entity slot _ here later

end Listing

/-! ## Scripts of a draft -/

namespace Draft

variable {draft : Draft}

theorem lt_of_given {entity slot : Nat} (given : draft.script entity slot ≠ []) :
    entity < draft.entities.length ∧ slot < (draft.given entity).length := by
  have present : slot < (draft.given entity).length :=
    Nat.lt_of_not_le fun behind => given (by simp [script, List.getElem?_eq_none behind])
  refine ⟨Nat.lt_of_not_le fun behind => ?_, present⟩
  rw [Draft.given, List.getElem?_eq_none behind] at present
  exact absurd present (Nat.not_lt_zero slot)

theorem slot_inside (small : ¬draft.TooLarge) {entity slot : Nat}
    (given : draft.script entity slot ≠ []) : slot < scriptCount := by
  obtain ⟨known, present⟩ := lt_of_given given
  have few := scripts_length_le small _ (List.getElem_mem known)
  have same : draft.given entity = draft.entities[entity].scripts := by
    rw [Draft.given, List.getElem?_eq_getElem known, Option.map_some, Option.getD_some]
  rw [same] at present
  exact Nat.lt_of_lt_of_le present few

/-- From a slot on, an entity has no script that is not empty, or the first of them is laid out
next. -/
theorem next_in_entity (draft : Draft) (entity slot : Nat) :
    draft.before entity slot = draft.before entity (draft.given entity).length ∨
      ∃ level, draft.script entity level ≠ [] ∧
        draft.before entity level = draft.before entity slot := by
  by_cases inside : slot < (draft.given entity).length
  · by_cases empty : draft.script entity slot = []
    · have skipped : draft.before entity (slot + 1) = draft.before entity slot := by
        rw [before_succ, empty, List.append_nil]
      rw [← skipped]
      exact draft.next_in_entity entity (slot + 1)
    · exact .inr ⟨slot, empty, rfl⟩
  · left
    rw [Nat.not_lt] at inside
    unfold before
    rw [List.take_of_length_le inside, List.take_length]
termination_by (draft.given entity).length - slot

/-- The same from an entity on. -/
theorem next_entity (draft : Draft) (entity : Nat) (known : entity ≤ draft.entities.length) :
    draft.before entity 0 = draft.before draft.entities.length 0 ∨
      ∃ other level, draft.script other level ≠ [] ∧
        draft.before other level = draft.before entity 0 := by
  rcases Nat.eq_or_lt_of_le known with rfl | few
  · exact .inl rfl
  · rcases draft.next_in_entity entity 0 with none | ⟨level, given, same⟩
    · rw [none, ← before_entity_succ few]
      exact draft.next_entity (entity + 1) few
    · exact .inr ⟨entity, level, given, same⟩
termination_by draft.entities.length - entity

/-- A script is followed by one that is not empty, or by the end of the bytecode. -/
theorem followed {entity : Nat} (known : entity < draft.entities.length) (slot : Nat) :
    draft.before entity slot ++ draft.script entity slot =
        draft.before draft.entities.length 0 ∨
      ∃ other level, draft.script other level ≠ [] ∧
        draft.before other level = draft.before entity slot ++ draft.script entity slot := by
  rw [← before_succ]
  rcases draft.next_in_entity entity (slot + 1) with none | ⟨level, given, same⟩
  · rw [none, ← before_entity_succ known]
    exact draft.next_entity (entity + 1) known
  · exact .inr ⟨entity, level, given, same⟩

namespace Placed

variable {bytes : Array UInt8} (placed : draft.Placed bytes) (small : ¬draft.TooLarge)

include placed small

/-- Only the slots of the draft have an entry. -/
theorem entry_of_entryOf? {entity slot entry : Nat}
    (here : (Section.ofBytes bytes).entryOf? entity slot = some entry) :
    entity < draft.entities.length ∧ slot < scriptCount ∧ entry = draft.entry entity slot := by
  obtain ⟨scripts, found, stored⟩ := Option.bind_eq_some_iff.mp here
  have known : entity < draft.entities.length := by
    obtain ⟨few, -⟩ := Array.getElem?_eq_some_iff.mp found
    simpa [Section.ofBytes, placed.entityTotal_eq small] using few
  obtain ⟨inside, -⟩ := Vector.getElem?_eq_some_iff.mp stored
  rw [placed.entryOf?_eq small known inside, Option.some.injEq] at here
  exact ⟨known, inside, here.symm⟩

/-- A script of the draft ends where the listing takes it to end. -/
theorem scriptEnd_entry {entity slot : Nat} (given : draft.script entity slot ≠ []) :
    Listing.scriptEnd (Section.ofBytes bytes) (draft.entry entity slot) =
      draft.entry entity slot + (draft.script entity slot).length := by
  obtain ⟨known, -⟩ := lt_of_given given
  have begins := entry_of_given given
  have size := draft.length_before_le known slot
  have ends : (Section.ofBytes bytes).codeEnd = draft.codeStart + draft.code.length :=
    placed.stringsStart_eq small
  refine Listing.scriptEnd_eq (by omega) ?_ ?_
  · intro other level entry here later
    obtain ⟨present, within, rfl⟩ := placed.entry_of_entryOf? small here
    by_cases filled : draft.script other level = []
    · rw [entry_of_missing filled] at later
      omega
    · by_cases same : (entity, slot) = (other, level)
      · cases same
        omega
      · have apart := entry_apart known present given filled same
        omega
  · rcases draft.followed known slot with last | ⟨other, level, filled, next⟩
    · left
      have long := congrArg List.length draft.code_eq
      rw [← last, List.length_append, List.length_append] at long
      rw [ends, long, begins, sharedScript, List.length_cons, List.length_singleton]
      omega
    · right
      have positive := List.length_pos_iff.mpr given
      obtain ⟨present, -⟩ := lt_of_given filled
      refine ⟨by omega, other, level, ?_⟩
      rw [placed.entryOf?_eq small present (slot_inside small filled), entry_of_given filled, next,
        begins, List.length_append, Nat.add_assoc (draft.codeStart + 2)]

/-- An assembled script is listed instruction by instruction. -/
theorem lists_script {entity slot : Nat} {items : List Assembly.Item}
    (given : draft.script entity slot ≠ [])
    (assembled : draft.script entity slot = Assembly.assemble items)
    (whole : ∀ item ∈ items, item.IsWhole) {scripts : EntityScripts}
    (found : (Section.ofBytes bytes).entities[entity]? = some scripts) :
    ∃ listed ∈ (Listing.scripts (Section.ofBytes bytes) (Listing.ownSlots scripts)).1,
      listed.slot = slot ∧ listed.offset = draft.entry entity slot ∧
      listed.instructions.map Listing.shown =
        Assembly.transcript (draft.entry entity slot) items ∧
      (Listing.instructions bytes (Listing.scriptEnd (Section.ofBytes bytes) listed.offset)
        listed.offset).2 = [] := by
  obtain ⟨known, -⟩ := lt_of_given given
  have inside := slot_inside small given
  have stored {level : Nat} (within : level < scriptCount) :
      scripts.entries[level]? = some (draft.entry entity level) := by
    have here := placed.entryOf?_eq small known within
    rwa [Section.entryOf?, found, Option.bind_some] at here
  have own : (slot, draft.entry entity slot) ∈ Listing.ownSlots scripts := by
    refine Listing.mem_ownSlots (stored inside) fun earlier before same => ?_
    rw [stored (Nat.lt_trans before inside), Option.some.injEq] at same
    have begins := entry_of_given given
    by_cases filled : draft.script entity earlier = []
    · rw [entry_of_missing filled] at same
      omega
    · have long := List.length_pos_iff.mpr given
      have full := List.length_pos_iff.mpr filled
      have apart := entry_apart known known given filled (by simp; omega)
      omega
  have stands := placed.holds_script known slot
  rw [← entry_of_given given, assembled] at stands
  have listed := Listing.instructions_assemble stands whole
  rw [← assembled, ← placed.scriptEnd_entry small given] at listed
  rw [Listing.scripts, List.map_map]
  exact ⟨_, List.mem_map.mpr ⟨_, own, rfl⟩, rfl, rfl, listed.1, listed.2⟩

end Placed

/-- Whatever draft is written, the section that is read back lists every script that was assembled
from whole instructions: at its entry, one line for each instruction, in their order, with the
mnemonic of its opcode and the bytes that were written behind it.  No line is logged about it. -/
theorem listing_of_encode (draft : Draft) {bytes : List UInt8}
    (written : draft.encode = .ok bytes) :
    ∃ source, Section.read bytes.toArray = .ok source ∧
      (Listing.entities source).1.length = draft.entities.length ∧
      ∀ entity slot items, draft.script entity slot = Assembly.assemble items → items ≠ [] →
        (∀ item ∈ items, item.IsWhole) →
        ∃ listed start, (Listing.entities source).1[entity]? = some listed ∧
          source.entryOf? entity slot = some start ∧
          (listed.scripts.map (·.slot)).Pairwise (· < ·) ∧
          ∃ script ∈ listed.scripts, script.slot = slot ∧ script.offset = start ∧
            script.instructions.map Listing.shown = Assembly.transcript start items ∧
            (Listing.instructions source.bytes (Listing.scriptEnd source start) start).2 = [] := by
  obtain ⟨small, rfl⟩ := encode_eq_ok.mp written
  have placed := placed_layout small
  refine ⟨_, Section.read_eq_ok.mpr ⟨placed.wellFormed small, rfl⟩, ?_, ?_⟩
  · simp [Listing.entities, Section.ofBytes, placed.entityTotal_eq small]
  · intro entity slot items assembled nonempty whole
    have given : draft.script entity slot ≠ [] := by
      rw [assembled]
      exact Assembly.assemble_ne_nil nonempty whole
    have known := (lt_of_given given).1
    have entry := placed.entryOf?_eq small known (slot_inside small given)
    obtain ⟨scripts, found, -⟩ := Option.bind_eq_some_iff.mp entry
    obtain ⟨script, among, own, begins, shows, silent⟩ :=
      placed.lists_script small given assembled whole found
    rw [begins] at silent
    refine ⟨_, _, Listing.getElem?_entities found, entry, ?_, script, among, own, begins, shows,
      silent⟩
    exact Listing.pairwise_scripts _ scripts

/-- Two entities, of which the first one has a question to ask and a script of its own to wait. -/
def inn : Draft where
  name := "inn"
  entities := [
    { name := "keeper"
      scripts := [
        Assembly.assemble
          [.compareWords ⟨2, 32⟩ ⟨0, 700⟩ .less 9, .ask 3 0 1 0 2 48, .jumpBackward 8, .ret],
        [], Assembly.assemble [.wait 300, .ret]] },
    { name := "guest", scripts := [Assembly.assemble [.call .reqew 0 3 2, .ret]] }]

theorem inn_lists_wait :
    ∃ source, Section.read inn.layout.toArray = .ok source ∧
      ∃ listed start, (Listing.entities source).1[0]? = some listed ∧
        source.entryOf? 0 2 = some start ∧
        ∃ script ∈ listed.scripts, script.slot = 2 ∧ script.offset = start ∧
          script.instructions.map Listing.shown =
            [(start, "WAIT", [44, 1]), (start + 3, "RET", [])] := by
  have written : inn.encode = .ok inn.layout := by rfl
  obtain ⟨source, accepted, -, lists⟩ := listing_of_encode inn written
  have whole : ∀ item ∈ [Assembly.Item.wait 300, .ret], item.IsWhole := by
    simp [Assembly.Item.IsWhole]
  obtain ⟨listed, start, found, entry, -, script, among, own, begins, shows, -⟩ :=
    lists 0 2 [.wait 300, .ret] rfl (List.cons_ne_nil _ _) whole
  exact ⟨source, accepted, listed, start, found, entry, script, among, own, begins, shows⟩

end Draft

end FieldMachine
