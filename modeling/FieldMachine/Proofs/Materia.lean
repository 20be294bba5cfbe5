import FieldMachine.Proofs.Limits

/-!
# Pieces of materia

Three instructions name a piece of materia, by an identity and its ability points: one
adds such a piece behind all others, one takes some of the pieces away that equal it, and
one counts the pieces of its identity that have at least its points.  All three take the
piece from their operands in the same way (`Company.materiaAt`).

Taking pieces away takes the first ones (`Materia.FirstTaken`): of the pieces that equal the
named one as many as are asked for, as long as there are any, and no other piece.  So when
there is one piece too many to be left, what is counted afterwards are the pieces with more
points (`Machine.materia_comes_and_goes`).
-/

namespace FieldMachine

set_option autoImplicit false

open Section (byteAt wordAt)

/-! ## Pieces in their order -/

namespace Materia

variable {piece : Materia} {quantity : Nat} {before after : List Materia}

/-- Of some pieces the first `quantity` ones that equal `piece` are gone, or all of them if there
are fewer; all others are left, in their order. -/
def FirstTaken (piece : Materia) (quantity : Nat) (before after : List Materia) : Prop :=
  ∃ front back, before = front ++ back ∧ front.count piece = min quantity (before.count piece) ∧
    after = front.filter (· ≠ piece) ++ back

theorem firstTaken_withoutMateria (piece : Materia) (quantity : Nat) (before : List Materia) :
    FirstTaken piece quantity before (Session.withoutMateria piece quantity before) := by
  induction before generalizing quantity with
  | nil => exact ⟨[], [], rfl, by simp, rfl⟩
  | cons held rest ih =>
      unfold Session.withoutMateria
      split
      · next same =>
          cases quantity with
          | zero => exact ⟨[], held :: rest, rfl, by simp, rfl⟩
          | succ less =>
              obtain ⟨front, back, parts, taken, left⟩ := ih less
              refine ⟨held :: front, back, by rw [parts, List.cons_append], ?_, ?_⟩
              · rw [same, List.count_cons_self, List.count_cons_self, taken]
                omega
              · rw [List.filter_cons_of_neg (by simpa using same)]
                exact left
      · next other =>
          obtain ⟨front, back, parts, taken, left⟩ := ih quantity
          refine ⟨held :: front, back, by rw [parts, List.cons_append], ?_, ?_⟩
          · rw [List.count_cons_of_ne other, List.count_cons_of_ne other, taken]
          · rw [left, List.filter_cons_of_pos (by simpa using other), List.cons_append]

/-- How many pieces are left that equal the one that was taken away. -/
theorem FirstTaken.count (taken : FirstTaken piece quantity before after) :
    after.count piece = before.count piece - quantity := by
  obtain ⟨front, back, rfl, count, rfl⟩ := taken
  have none : (front.filter (· ≠ piece)).count piece = 0 := by
    rw [List.count_eq_zero]
    simp
  rw [List.count_append, none]
  rw [List.count_append] at count ⊢
  omega

/-- Where no fewer are taken away than there are, none is left. -/
theorem FirstTaken.not_mem (taken : FirstTaken piece quantity before after)
    (enough : before.count piece ≤ quantity) : piece ∉ after := by
  rw [← List.count_eq_zero, taken.count]
  omega

/-- A piece has the identity of another one and no fewer points. -/
def AtLeast (least held : Materia) : Prop := held.id = least.id ∧ least.ap ≤ held.ap

instance (least held : Materia) : Decidable (AtLeast least held) :=
  inferInstanceAs (Decidable (_ ∧ _))

/-- A piece has the identity of another one and more points. -/
def More (least held : Materia) : Prop := held.id = least.id ∧ least.ap < held.ap

instance (least held : Materia) : Decidable (More least held) :=
  inferInstanceAs (Decidable (_ ∧ _))

/-- A piece with no fewer points that is another one has more. -/
theorem more_iff_of_ne {least held : Materia} (other : held ≠ least) :
    More least held ↔ AtLeast least held := by
  refine and_congr_right fun same => ⟨UInt32.le_of_lt, fun enough => ?_⟩
  rcases UInt32.lt_or_eq_of_le enough with more | equal
  · exact more
  · obtain ⟨id, ap⟩ := held
    exact absurd (Materia.mk.injEq .. ▸ ⟨same, equal.symm⟩ : (⟨id, ap⟩ : Materia) = least) other

/-- Where there is no piece like the one that is asked for, all that have no fewer points have
more. -/
theorem countP_atLeast_of_not_mem {least : Materia} {pieces : List Materia}
    (gone : least ∉ pieces) :
    pieces.countP (AtLeast least ·) = pieces.countP (More least ·) := by
  refine List.countP_congr fun held among => ?_
  have other : held ≠ least := fun same => gone (same ▸ among)
  simp only [decide_eq_true_eq, more_iff_of_ne other]

end Materia

/-! ## Operands -/

namespace Section

/-- The number in three bytes, low byte first. -/
def tripleAt (bytes : Array UInt8) (offset : Nat) : Nat :=
  wordAt bytes offset + 65536 * (byteAt bytes (offset + 2)).toNat

end Section

open Section (tripleAt)

/-- Three bytes put together, low byte first. -/
theorem or_shiftLeft_triple (low middle high : UInt8) :
    low.toUInt32 ||| (middle.toUInt32 <<< 8) ||| (high.toUInt32 <<< 16) =
      (low.toNat + 256 * middle.toNat + 65536 * high.toNat).toUInt32 := by
  have small := low.toNat_lt
  have large := middle.toNat_lt
  have pair : low.toUInt32 ||| (middle.toUInt32 <<< 8) =
      (low.toUInt16 ||| (middle.toUInt16 <<< 8)).toUInt32 := by
    have fits : middle.toNat <<< 8 < 65536 := by rw [Nat.shiftLeft_eq]; omega
    apply UInt32.toNat_inj.mp
    rw [UInt16.toNat_toUInt32, UInt32.toNat_or, UInt16.toNat_or, UInt32.toNat_shiftLeft,
      UInt16.toNat_shiftLeft, UInt8.toNat_toUInt32, UInt8.toNat_toUInt32, UInt8.toNat_toUInt16,
      UInt8.toNat_toUInt16]
    show _ ||| middle.toNat <<< 8 % 4294967296 = _ ||| middle.toNat <<< 8 % 65536
    rw [Nat.mod_eq_of_lt fits, Nat.mod_eq_of_lt (by omega)]
  have number : (low.toNat + 256 * middle.toNat).toUInt16.toNat = low.toNat + 256 * middle.toNat :=
    Nat.mod_eq_of_lt (by omega)
  rw [pair, show high.toUInt32 = high.toUInt16.toUInt32 from rfl, or_shiftLeft_sixteen,
    or_shiftLeft_eight, number, UInt8.toNat_toUInt16]

namespace Reading

variable {scene : Scene} {cursor : Cursor}

theorem triple_of_le (inside : cursor.pc + 3 ≤ cursor.code.size) :
    triple scene cursor = .ok ((tripleAt cursor.code cursor.pc).toUInt32, cursor.forward 3) := by
  show (cursor.skip 3).map (((cursor.peek 0).toUInt32 ||| ((cursor.peek 1).toUInt32 <<< 8)
    ||| ((cursor.peek 2).toUInt32 <<< 16)), ·) = _
  rw [skip_of_le inside, or_shiftLeft_triple]
  rfl

theorem triple_forward {count : Nat} (inside : cursor.pc + (count + 3) ≤ cursor.code.size) :
    triple scene (cursor.forward count) =
      .ok ((tripleAt cursor.code (cursor.pc + count)).toUInt32, cursor.forward (count + 3)) := by
  have here : (cursor.forward count).pc + 3 ≤ (cursor.forward count).code.size := by
    rw [Cursor.pc_forward, Cursor.code_forward]; omega
  rw [triple_of_le here, Cursor.forward_forward, Cursor.pc_forward, Cursor.code_forward]

end Reading

namespace Company

open Reading Arithmetic

/-- A piece of materia whose selectors are those of a byte, and whose identity and points are named
by a byte and three bytes at a place.  Points from a cell have sixteen bits, and the low ones of
the three bytes name it. -/
def materiaAt (memory : Memory) (code : Array UInt8) (selectors : Selectors) (place : Nat) :
    Except ExecError Materia := do
  let id ← Control.operand memory selectors.high (byteAt code place).toUInt16
  let points := (tripleAt code (place + 1)).toUInt32
  if selectors.low = 0 then return { id := id.toUInt8, ap := points }
  else return { id := id.toUInt8,
                ap := (← Control.operand memory selectors.low points.toUInt16).toUInt32 }

/-- Reading a piece of materia whose bytes are all there. -/
theorem materia_forward {scene : Scene} {cursor : Cursor} {α : Type} {next : Materia → Reading α}
    (selectors : Selectors) {count : Nat} (inside : cursor.pc + (count + 4) ≤ cursor.code.size) :
    (materia selectors >>= next) scene (cursor.forward count) =
      (materiaAt scene.session.memory cursor.code selectors (cursor.pc + count)).bind fun piece =>
        next piece scene (cursor.forward (count + 4)) := by
  have first : cursor.pc + (count + 1) ≤ cursor.code.size := by omega
  have second : cursor.pc + (count + 1 + 3) ≤ cursor.code.size := by omega
  simp only [materia, bind_assoc, bind_of_ok (byte_forward first),
    bind_of_ok (triple_forward second), bind_of_operand (loadByte_eq _ _)]
  rw [materiaAt]
  refine bind_eq_bind_bind fun id => ?_
  dsimp only
  split
  · rfl
  · rw [bind_assoc, bind_of_operand (load_eq _ _)]
    exact bind_eq_bind_bind fun points => rfl

/-- The piece that is given: its selectors in the first of two bytes, the piece behind them. -/
def givenAt (memory : Memory) (code : Array UInt8) (place : Nat) : Except ExecError Materia :=
  materiaAt memory code { byte := byteAt code place } (place + 2)

/-- The piece that is taken away, and how many of it: the selectors of both in two bytes, then the
piece and a byte. -/
def takenAt (memory : Memory) (code : Array UInt8) (place : Nat) :
    Except ExecError (Materia × UInt16) := do
  let second : Selectors := { byte := byteAt code (place + 1) }
  let piece ← materiaAt memory code { byte := byteAt code place } (place + 2)
  let quantity ← Control.operand memory second.high (byteAt code (place + 6)).toUInt16
  return (piece, quantity)

/-- The piece that is counted, and the cell that takes the number: the selectors in three bytes,
then the piece, a byte that tells nothing, and the byte of the cell. -/
def countedAt (memory : Memory) (code : Array UInt8) (place : Nat) :
    Except ExecError (Materia × (UInt8 × UInt8)) := do
  let second : Selectors := { byte := byteAt code (place + 1) }
  let least ← materiaAt memory code { byte := byteAt code place } (place + 3)
  return (least, (second.low, byteAt code (place + 8)))

theorem smtra_changes : Opcode.smtra.Changes (fun scene => givenAt scene.session.memory)
    .addMateria := by
  refine .of_works 6 rfl fun scene cursor inside => ?_
  have first : cursor.pc + 1 ≤ cursor.code.size := by omega
  have second : cursor.pc + (1 + 1) ≤ cursor.code.size := by omega
  simp only [addMateria, bind_of_ok (selectors_of_le first), bind_of_ok (selectors_forward second),
    materia_forward _ inside]
  rfl

theorem dmtra_changes : Opcode.dmtra.Changes (fun scene => takenAt scene.session.memory)
    fun told => .dropMateria told.1 told.2.toNat := by
  refine .of_works 7 rfl fun scene cursor inside => ?_
  have first : cursor.pc + 1 ≤ cursor.code.size := by omega
  have second : cursor.pc + (1 + 1) ≤ cursor.code.size := by omega
  have piece : cursor.pc + (2 + 4) ≤ cursor.code.size := by omega
  simp only [dropMateria, bind_of_ok (selectors_of_le first),
    bind_of_ok (selectors_forward second), materia_forward _ piece,
    bind_of_ok (byte_forward inside), bind_of_operand (load_eq _ _)]
  exact bind_eq_bind_bind fun piece => bind_eq_bind_bind fun quantity => rfl

/-- The number of some pieces, with the cell that takes it. -/
def countWrite (session : Session) (counted : Materia × (UInt8 × UInt8)) : Deposit :=
  ⟨counted.2.1, counted.2.2, (min (session.countMateria counted.1) 0xFFFF).toUInt16⟩

theorem plans_cmtra : Opcode.cmtra.Plans (fun scene => countedAt scene.session.memory)
    fun scene counted => .next ([countWrite scene.session counted].map Deposit.effect) := by
  refine .of_works 9 rfl fun scene cursor inside => ?_
  have first : cursor.pc + 1 ≤ cursor.code.size := by omega
  have second : cursor.pc + (1 + 1) ≤ cursor.code.size := by omega
  have third : cursor.pc + (2 + 1) ≤ cursor.code.size := by omega
  have piece : cursor.pc + (3 + 4) ≤ cursor.code.size := by omega
  have idle : cursor.pc + (7 + 1) ≤ cursor.code.size := by omega
  simp only [storeMateriaCount, bind_of_ok (selectors_of_le first),
    bind_of_ok (selectors_forward second), bind_of_ok (selectors_forward third),
    materia_forward _ piece, bind_of_ok (byte_forward idle), bind_of_ok (byte_forward inside),
    bind_session]
  exact bind_eq_bind_bind fun least => rfl

end Company

theorem Session.countMateria_eq (session : Session) (least : Materia) :
    session.countMateria least = session.materia.toList.countP (least.AtLeast ·) := by
  rw [countMateria, ← Array.countP_toList]
  refine List.countP_congr fun held among => ?_
  simp only [Bool.and_eq_true, beq_iff_eq, decide_eq_true_eq]
  exact Iff.rfl

/-! ## Steps -/

namespace Machine

open Company

variable {σ α : Type} {setting : Setting σ} {machine : Machine σ} {id : EntityId}
  {priority place : Nat} {lane : Lane}

/-- A step that counts pieces. -/
theorem count_of_step (here : machine.world.lane? id priority = some lane)
    (begins : lane.Begins setting.source.code place .cmtra) :
    let stepped := machine.step setting id priority
    let read := countedAt machine.session.memory setting.source.code (place + 1)
    (stepped.2 = .goOn ↔ place + Opcode.cmtra.size ≤ setting.source.code.size ∧
      ∃ least cell, read = .ok (least, cell) ∧ machine.session.memory.Takes cell) ∧
    (stepped.2 = .goOn → ∃ least cell value, read = .ok (least, cell) ∧
      stepped.1.session = machine.session.putCell cell.1 cell.2.toUInt16 value ∧
      stepped.1.session.memory.read cell.1 cell.2.toUInt16 = .ok value ∧
      value.toNat = min (machine.session.materia.toList.countP (least.AtLeast ·)) 65535) := by
  obtain ⟨goesOn, done⟩ := goOn_of_deposits plans_cmtra here begins
  intro stepped read
  refine ⟨goesOn.trans (and_congr_right fun _ => ?_), fun went => ?_⟩
  · simp only [List.forall_mem_singleton, Prod.exists]
    exact Iff.rfl
  · obtain ⟨-, told, found, takes⟩ := goesOn.mp went
    obtain ⟨⟨least, cell⟩, same, wrote⟩ := done went
    cases found.symm.trans same
    refine ⟨least, cell, _, same, wrote, ?_, ?_⟩
    · have stands := (takes _ (List.mem_singleton_self _)).2
      refine (congrArg (fun session : Session => session.memory.read _ _) wrote).trans ?_
      exact (Memory.read_put _ stands _ _).trans (if_pos ⟨rfl, rfl⟩)
    · rw [← Session.countMateria_eq]
      exact Nat.mod_eq_of_lt (by omega)

/-- A lane carries out an instruction whose operands tell something, and goes on. -/
def CarriesOut (setting : Setting σ) (machine : Machine σ) (op : Opcode)
    (operands : Memory → Array UInt8 → Nat → Except ExecError α) (told : α)
    (after : Machine σ) : Prop :=
  ∃ id priority place lane, machine.world.lane? id priority = some lane ∧
    lane.Begins setting.source.code place op ∧
    operands machine.session.memory setting.source.code (place + 1) = .ok told ∧
    machine.step setting id priority = (after, .goOn)

variable {after : Machine σ}

/-- What a change of the session has become once it was carried out. -/
theorem CarriesOut.session_of_changes {op : Opcode}
    {operands : Memory → Array UInt8 → Nat → Except ExecError α} {change : α → SessionChange}
    {told : α} (carries : machine.CarriesOut setting op operands told after)
    (changes : op.Changes (fun scene => operands scene.session.memory) change) :
    after.session = (change told).apply machine.session := by
  obtain ⟨id, priority, place, lane, here, begins, read, stepped⟩ := carries
  obtain ⟨-, done, -⟩ := Machine.session_of_changes changes here begins
  rw [stepped] at done
  obtain ⟨other, found, same⟩ := done rfl
  cases read.symm.trans found
  exact same

/-- Pieces of materia come and go one by one, and are told apart by their identity and points.

A lane goes on behind an instruction that gives a piece, takes pieces away or counts them just if
the instruction lies inside the code, its operands can be read and the cell for the number exists.
Then the given piece is behind all others; of the pieces that equal the one that is taken away the
first ones are gone, as many as were asked for or as there are, and all other pieces are left in
their order; the cell holds how many pieces have the identity and no fewer points, up to 65535.
Nothing else in the session has changed.

If a piece is given, and it is then taken away at least as often as it is there, none like it is
left, and what is counted for it then are the pieces of its identity with more points; whatever
lanes do so, and whatever happens meanwhile to anything but the materia. -/
theorem materia_comes_and_goes (setting : Setting σ) :
    (∀ {machine : Machine σ} {id : EntityId} {priority place : Nat} {lane : Lane},
      machine.world.lane? id priority = some lane → lane.Begins setting.source.code place .smtra →
      let stepped := machine.step setting id priority
      let read := givenAt machine.session.memory setting.source.code (place + 1)
      (stepped.2 = .goOn ↔
        place + Opcode.smtra.size ≤ setting.source.code.size ∧ ∃ piece, read = .ok piece) ∧
      (stepped.2 = .goOn → ∃ piece, read = .ok piece ∧ stepped.1.session =
        { machine.session with materia := machine.session.materia.push piece }) ∧
      (stepped.2 ≠ .goOn → stepped.1.session = machine.session)) ∧
    (∀ {machine : Machine σ} {id : EntityId} {priority place : Nat} {lane : Lane},
      machine.world.lane? id priority = some lane → lane.Begins setting.source.code place .dmtra →
      let stepped := machine.step setting id priority
      let read := takenAt machine.session.memory setting.source.code (place + 1)
      (stepped.2 = .goOn ↔
        place + Opcode.dmtra.size ≤ setting.source.code.size ∧ ∃ told, read = .ok told) ∧
      (stepped.2 = .goOn → ∃ piece quantity materia, read = .ok (piece, quantity) ∧
        stepped.1.session = { machine.session with materia } ∧
        piece.FirstTaken quantity.toNat machine.session.materia.toList materia.toList) ∧
      (stepped.2 ≠ .goOn → stepped.1.session = machine.session)) ∧
    (∀ {machine : Machine σ} {id : EntityId} {priority place : Nat} {lane : Lane},
      machine.world.lane? id priority = some lane → lane.Begins setting.source.code place .cmtra →
      let stepped := machine.step setting id priority
      let read := countedAt machine.session.memory setting.source.code (place + 1)
      (stepped.2 = .goOn ↔ place + Opcode.cmtra.size ≤ setting.source.code.size ∧
        ∃ least cell, read = .ok (least, cell) ∧ machine.session.memory.Takes cell) ∧
      (stepped.2 = .goOn → ∃ least cell value, read = .ok (least, cell) ∧
        stepped.1.session = machine.session.putCell cell.1 cell.2.toUInt16 value ∧
        stepped.1.session.memory.read cell.1 cell.2.toUInt16 = .ok value ∧
        value.toNat = min (machine.session.materia.toList.countP (least.AtLeast ·)) 65535)) ∧
    (∀ {first second given taken : Machine σ} {piece : Materia} {quantity : UInt16},
      first.CarriesOut setting .smtra givenAt piece given →
      second.CarriesOut setting .dmtra takenAt (piece, quantity) taken →
      second.session.materia = given.session.materia →
      first.session.materia.toList.count piece + 1 ≤ quantity.toNat →
      piece ∉ taken.session.materia.toList ∧
      ∀ {third counted : Machine σ} {cell : UInt8 × UInt8},
        third.CarriesOut setting .cmtra countedAt (piece, cell) counted →
        third.session.materia = taken.session.materia →
        ∃ value, counted.session.memory.read cell.1 cell.2.toUInt16 = .ok value ∧
          value.toNat = min (taken.session.materia.toList.countP (piece.More ·)) 65535) := by
  refine ⟨session_of_changes smtra_changes, fun here begins => ?_, count_of_step, ?_⟩
  · obtain ⟨goesOn, done, spared⟩ := session_of_changes dmtra_changes here begins
    refine ⟨goesOn, fun went => ?_, spared⟩
    obtain ⟨⟨piece, quantity⟩, read, same⟩ := done went
    exact ⟨piece, quantity, _, read, same, Materia.firstTaken_withoutMateria ..⟩
  · intro first second given taken piece quantity gives takes kept enough
    have gave := gives.session_of_changes smtra_changes
    have took := takes.session_of_changes dmtra_changes
    have gone : piece ∉ taken.session.materia.toList := by
      rw [took]
      refine (Materia.firstTaken_withoutMateria piece quantity.toNat _).not_mem ?_
      rw [kept, gave]
      simpa [SessionChange.apply, Session.addMateria] using enough
    refine ⟨gone, ?_⟩
    rintro third counted cell ⟨id, priority, place, lane, here, begins, read, stepped⟩ same
    obtain ⟨-, done⟩ := count_of_step here begins
    rw [stepped] at done
    obtain ⟨least, other, value, found, -, holds, number⟩ := done rfl
    cases read.symm.trans found
    rw [same, Materia.countP_atLeast_of_not_mem gone] at number
    exact ⟨value, holds, number⟩

end Machine

/-! ## A piece that is given and taken away -/

namespace Crystal

/-- A piece is given, then taken away three times by cells that name its points and how often, and
then it is counted. -/
def setting : Setting Unit := .ofScripts
  [[0x5B, 0x00, 0x00, 0x05, 0x2C, 0x01, 0x00, 0x5C, 0x01, 0x20, 0x05, 0x04, 0x00, 0x00, 0x06,
    0x5D, 0x00, 0x01, 0x00, 0x05, 0x2C, 0x01, 0x00, 0x00, 0x08, 0x00, 0x00]]

/-- The piece. -/
def piece : Materia := { id := 5, ap := 300 }

/-- Two such pieces, one with more points, and one of another identity. -/
def session : Session :=
  { ((Session.fresh setting.config).putCell 1 4 300).putCell 2 6 3 with
    materia := #[piece, { id := 5, ap := 301 }, piece, { id := 6, ap := 300 }] }

/-- The field after so many instructions. -/
def after (count : Nat) : Machine Unit := (setting.entered session).afterSteps setting 0 0 count

/-- All three pieces are gone, the others are left in their order, and one of them has more
points. -/
theorem given_and_taken :
    (after 2).session.materia.toList = [{ id := 5, ap := 301 }, { id := 6, ap := 300 }] ∧
      piece ∉ (after 2).session.materia.toList ∧
      ∃ value, (after 3).session.memory.read 1 8 = .ok value ∧ value.toNat = 1 := by
  obtain ⟨⟨give, take, count⟩, ⟨gives, takes, counts⟩, ⟨gave, took, counted⟩, left⟩ :
      (setting.source.code[106]? = some Opcode.smtra.byte ∧
        setting.source.code[113]? = some Opcode.dmtra.byte ∧
        setting.source.code[121]? = some Opcode.cmtra.byte) ∧
      ((Company.givenAt (after 0).session.memory setting.source.code 107).toOption = some piece ∧
        (Company.takenAt (after 1).session.memory setting.source.code 114).toOption =
          some (piece, 3) ∧
        (Company.countedAt (after 2).session.memory setting.source.code 122).toOption =
          some (piece, (1, 8))) ∧
      (((after 0).world.lane? 0 0 = some (.at 106) ∧ ((after 0).step setting 0 0).2 = .goOn) ∧
        ((after 1).world.lane? 0 0 = some (.at 113) ∧ ((after 1).step setting 0 0).2 = .goOn) ∧
        ((after 2).world.lane? 0 0 = some (.at 121) ∧ ((after 2).step setting 0 0).2 = .goOn)) ∧
      (after 2).session.materia.toList = [{ id := 5, ap := 301 }, { id := 6, ap := 300 }] := by
    decide +kernel
  have carries {α : Type} {count place : Nat} {op : Opcode} {told : α}
      {operands : Memory → Array UInt8 → Nat → Except ExecError α}
      (named : setting.source.code[place]? = some op.byte)
      (read : (operands (after count).session.memory setting.source.code (place + 1)).toOption =
        some told)
      (went : (after count).world.lane? 0 0 = some (.at place) ∧
        ((after count).step setting 0 0).2 = .goOn) :
      (after count).CarriesOut setting op operands told (after (count + 1)) :=
    ⟨0, 0, place, _, went.1, Lane.begins_at named, eq_ok_of_toOption read, Prod.ext rfl went.2⟩
  obtain ⟨-, -, -, chain⟩ := Machine.materia_comes_and_goes setting
  obtain ⟨gone, counting⟩ := chain (carries give gives gave) (carries take takes took) rfl
    (by decide +kernel)
  obtain ⟨value, holds, number⟩ := counting (carries count counts counted) rfl
  exact ⟨left, gone, value, holds, by rw [number, left]; decide⟩

end Crystal

end FieldMachine
