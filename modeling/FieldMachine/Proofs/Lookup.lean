import FieldMachine.Proofs.Failure

/-!
# Instructions that name an entity by its index

Twelve opcodes have the index of an entity among their operands
(`Opcode.entityOperand?`).  Where no entity is registered at that index, an
instruction whose operands are all there comes to nothing: it fails as soon as the
entity is looked up, and nothing has happened by then
(`Machine.failure?_of_absent`).

`Reading.Stops` follows a reading up to the place where it gives up.  It is told
how many bytes there are, and of the operands that come first it needs no value.
-/

namespace FieldMachine

set_option autoImplicit false

/-! ## Readings that give up -/

namespace Reading

variable {α β : Type}

/-- Nobody is registered at the index. -/
theorem entityAt_of_absent {scene : Scene} {index : UInt8}
    (absent : scene.world.entity? index.toNat = none) (cursor : Cursor) :
    entityAt index scene cursor = .error (.noSuchEntity index.toNat) := by
  rw [entityAt, bind_apply]
  simp only [Reading.scene, Except.bind, absent]
  rfl

theorem actorAt_of_absent {scene : Scene} {index : UInt8}
    (absent : scene.world.entity? index.toNat = none) (cursor : Cursor) :
    actorAt index scene cursor = .error (.noSuchEntity index.toNat) := by
  rw [actorAt, bind_apply, entityAt_of_absent absent]
  rfl

/-- If `count` more bytes are there, the reading gives up, for such a reason. -/
def Stops (reading : Reading α) (scene : Scene) (cursor : Cursor) (count : Nat)
    (tells : ExecError → Prop) : Prop :=
  cursor.pc + count ≤ cursor.code.size →
    ∃ error, reading scene cursor = .error error ∧ tells error

namespace Stops

variable {scene : Scene} {cursor : Cursor} {count : Nat} {tells : ExecError → Prop}

theorem byte {next : UInt8 → Reading β}
    (rest : (next (cursor.peek 0)).Stops scene (cursor.forward 1) count tells) :
    (Reading.byte >>= next).Stops scene cursor (count + 1) tells := by
  intro inside
  have read : Reading.byte scene cursor = .ok (cursor.peek 0, cursor.forward 1) := by
    unfold Reading.byte Cursor.byte
    rw [Cursor.skip_eq_ok.mpr ⟨by omega, rfl⟩]
    rfl
  rw [bind_apply, read]
  exact rest (by simp only [Cursor.pc_forward, Cursor.code_forward]; omega)

theorem word {next : UInt16 → Reading β}
    (rest : ∀ value, (next value).Stops scene (cursor.forward 2) count tells) :
    (Reading.word >>= next).Stops scene cursor (count + 2) tells := by
  intro inside
  obtain ⟨value, read⟩ : ∃ value, Reading.word scene cursor = .ok (value, cursor.forward 2) := by
    unfold Reading.word Cursor.word
    rw [Cursor.skip_eq_ok.mpr ⟨by omega, rfl⟩]
    exact ⟨_, rfl⟩
  rw [bind_apply, read]
  exact rest value (by simp only [Cursor.pc_forward, Cursor.code_forward]; omega)

theorem selectors {next : Selectors → Reading β}
    (rest : (next { byte := cursor.peek 0 }).Stops scene (cursor.forward 1) count tells) :
    (Reading.selectors >>= next).Stops scene cursor (count + 1) tells := by
  rw [Reading.selectors, bind_assoc]
  exact byte rest

theorem load {selector : UInt8} {raw : UInt16} {next : UInt16 → Reading β}
    (missing : ∀ error, tells (.address error))
    (rest : ∀ value, (next value).Stops scene cursor count tells) :
    (Reading.load selector raw >>= next).Stops scene cursor count tells := by
  intro inside
  rw [bind_apply]
  unfold Reading.load
  split
  · exact rest raw inside
  · split
    · next value read => exact rest value inside
    · next error refused => exact ⟨_, rfl, missing error⟩

theorem entityAt {index : UInt8} {next : EntityId → Reading β}
    (absent : scene.world.entity? index.toNat = none)
    (unknown : tells (.noSuchEntity index.toNat)) :
    (Reading.entityAt index >>= next).Stops scene cursor count tells := by
  intro inside
  exact ⟨_, by rw [bind_apply, entityAt_of_absent absent]; rfl, unknown⟩

theorem actorAt {index : UInt8} {next : Actor → Reading β}
    (absent : scene.world.entity? index.toNat = none)
    (unknown : tells (.noSuchEntity index.toNat)) :
    (Reading.actorAt index >>= next).Stops scene cursor count tells := by
  intro inside
  exact ⟨_, by rw [bind_apply, actorAt_of_absent absent]; rfl, unknown⟩

end Stops

end Reading

/-! ## The opcodes -/

/-- Where an opcode has the index of an entity, counted from its first operand. -/
def Opcode.entityOperand? : Opcode → Option Nat
  | .req | .reqsw | .reqew | .mova | .tura | .dira | .cc => some 0
  | .getaxy | .getai | .getdir => some 1
  | .axyzi => some 2
  | .scrla => some 3
  | _ => none

/-- Why an instruction fails that names an entity which is not registered; a scroll may find no
cell to take its frames from before it comes to the entity. -/
def Opcode.MissesEntity (op : Opcode) (index : Nat) (error : ExecError) : Prop :=
  error = .noSuchEntity index ∨ op = .scrla ∧ ∃ cell, error = .address cell

section Handlers

variable {scene : Scene} {cursor : Cursor} {tells : ExecError → Prop}

theorem Control.callEntity_stops (strength : CallStrength)
    (absent : scene.world.entity? (cursor.peek 0).toNat = none)
    (unknown : tells (.noSuchEntity (cursor.peek 0).toNat)) :
    (callEntity strength).Stops scene cursor 2 tells := by
  refine .byte ?_
  rw [callee, bind_assoc]
  refine .byte ?_
  rw [pure_bind]
  exact .entityAt absent unknown

namespace Movement

theorem walkToEntity_stops (absent : scene.world.entity? (cursor.peek 0).toNat = none)
    (unknown : tells (.noSuchEntity (cursor.peek 0).toNat)) :
    walkToEntity.Stops scene cursor 1 tells :=
  .byte (.entityAt absent unknown)

theorem turnToEntity_stops (absent : scene.world.entity? (cursor.peek 0).toNat = none)
    (unknown : tells (.noSuchEntity (cursor.peek 0).toNat)) :
    turnToEntity.Stops scene cursor 3 tells :=
  .byte (.byte (.byte (.entityAt absent unknown)))

theorem faceEntity_stops (absent : scene.world.entity? (cursor.peek 0).toNat = none)
    (unknown : tells (.noSuchEntity (cursor.peek 0).toNat)) :
    faceEntity.Stops scene cursor 1 tells :=
  .byte (.entityAt absent unknown)

theorem setPlayer_stops (absent : scene.world.entity? (cursor.peek 0).toNat = none)
    (unknown : tells (.noSuchEntity (cursor.peek 0).toNat)) :
    setPlayer.Stops scene cursor 1 tells :=
  .byte (.entityAt absent unknown)

theorem storeGround_stops (absent : scene.world.entity? (cursor.peek 1).toNat = none)
    (unknown : tells (.noSuchEntity (cursor.peek 1).toNat)) :
    storeGround.Stops scene cursor 4 tells :=
  .selectors (.byte (.byte (.byte (.actorAt absent unknown))))

theorem storeTriangle_stops (absent : scene.world.entity? (cursor.peek 1).toNat = none)
    (unknown : tells (.noSuchEntity (cursor.peek 1).toNat)) :
    storeTriangle.Stops scene cursor 3 tells :=
  .selectors (.byte (.byte (.actorAt absent unknown)))

theorem storeDirection_stops (absent : scene.world.entity? (cursor.peek 1).toNat = none)
    (unknown : tells (.noSuchEntity (cursor.peek 1).toNat)) :
    storeDirection.Stops scene cursor 3 tells :=
  .selectors (.byte (.byte (.actorAt absent unknown)))

theorem storePlace_stops (absent : scene.world.entity? (cursor.peek 2).toNat = none)
    (unknown : tells (.noSuchEntity (cursor.peek 2).toNat)) :
    storePlace.Stops scene cursor 7 tells :=
  .selectors (.selectors (.byte (.byte (.byte (.byte (.byte (.actorAt absent unknown)))))))

end Movement

theorem Screen.scrollToEntity_stops (absent : scene.world.entity? (cursor.peek 3).toNat = none)
    (unknown : tells (.noSuchEntity (cursor.peek 3).toNat))
    (missing : ∀ error, tells (.address error)) :
    (scrollToEntity Reading.entityAt).Stops scene cursor 5 tells :=
  .selectors (.word fun _ => .byte (.byte (.load missing fun _ => .entityAt absent unknown)))

end Handlers

/-- An instruction that names an entity which is not registered gives up. -/
theorem Opcode.stops_of_absent {op : Opcode} {offset : Nat} {scene : Scene} {cursor : Cursor}
    (operand : op.entityOperand? = some offset)
    (absent : scene.world.entity? (cursor.peek offset).toNat = none) :
    ∃ reading operands, op.plan? = some reading ∧ op.size = operands + 1 ∧
      reading.Stops scene cursor operands (op.MissesEntity (cursor.peek offset).toNat) := by
  have unknown {op : Opcode} : op.MissesEntity (cursor.peek offset).toNat
      (.noSuchEntity (cursor.peek offset).toNat) := .inl rfl
  unfold entityOperand? at operand
  split at operand <;> cases operand
  · exact ⟨_, 2, rfl, by decide +kernel, Control.callEntity_stops _ absent unknown⟩
  · exact ⟨_, 2, rfl, by decide +kernel, Control.callEntity_stops _ absent unknown⟩
  · exact ⟨_, 2, rfl, by decide +kernel, Control.callEntity_stops _ absent unknown⟩
  · exact ⟨_, 1, rfl, by decide +kernel, Movement.walkToEntity_stops absent unknown⟩
  · exact ⟨_, 3, rfl, by decide +kernel, Movement.turnToEntity_stops absent unknown⟩
  · exact ⟨_, 1, rfl, by decide +kernel, Movement.faceEntity_stops absent unknown⟩
  · exact ⟨_, 1, rfl, by decide +kernel, Movement.setPlayer_stops absent unknown⟩
  · exact ⟨_, 4, rfl, by decide +kernel, Movement.storeGround_stops absent unknown⟩
  · exact ⟨_, 3, rfl, by decide +kernel, Movement.storeTriangle_stops absent unknown⟩
  · exact ⟨_, 3, rfl, by decide +kernel, Movement.storeDirection_stops absent unknown⟩
  · exact ⟨_, 7, rfl, by decide +kernel, Movement.storePlace_stops absent unknown⟩
  · exact ⟨_, 5, rfl, by decide +kernel,
      Screen.scrollToEntity_stops absent unknown fun cell => .inr ⟨rfl, cell, rfl⟩⟩

/-! ## Lanes -/

namespace Machine

variable {σ : Type} {setting : Setting σ} {machine : Machine σ} {id : EntityId} {priority ip : Nat}
  {lane : Lane}

/-- A lane on a whole instruction that names an entity which is not registered fails, and the
instruction has done nothing by then. -/
theorem failure?_of_absent {op : Opcode} {offset : Nat} {index : UInt8}
    (operand : op.entityOperand? = some offset) (fresh : lane.suspended? = none)
    (stands : setting.source.code[ip]? = some op.byte)
    (whole : ip + op.size ≤ setting.source.code.size)
    (named : setting.source.code[ip + 1 + offset]? = some index)
    (absent : machine.world.entity? index.toNat = none) :
    ∃ error, op.MissesEntity index.toNat error ∧
      machine.failure? setting id priority ip lane =
        some (machine.onRecord setting id priority ip lane, error) := by
  let cursor := (Cursor.atStart setting.source.code ip).forward 1
  have here : cursor.peek offset = index := by
    show (setting.source.code[ip + 1 + offset]?).getD 0 = index
    rw [named]
    rfl
  rw [← here] at absent ⊢
  let scene := machine.sceneOf setting id priority ip lane
  have absent : scene.world.entity? (cursor.peek offset).toNat = none := absent
  obtain ⟨reading, operands, known, size, stops⟩ := Opcode.stops_of_absent operand absent
  rw [size] at whole
  have inside : cursor.pc + operands ≤ cursor.code.size := by
    show ip + 1 + operands ≤ setting.source.code.size
    omega
  obtain ⟨error, gaveUp, misses⟩ := stops inside
  have fetched : fetch setting.source.code ip = .ok (op.byte, reading, cursor) :=
    fetch_eq_ok.mpr ⟨stands, planOfByte?_eq_some.mpr ⟨op, rfl, known⟩, rfl⟩
  have worked : workOut setting.source.code scene ip lane.suspended? = .error error := by
    rw [fresh]
    simp only [workOut, fetched, bind, Except.bind, gaveUp]
  refine ⟨error, misses, ?_⟩
  unfold failure?
  dsimp only
  rw [worked]

end Machine

end FieldMachine
