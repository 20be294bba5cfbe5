import FieldMachine.Proofs.Prudence
import FieldMachine.Instruction.Arithmetic

/-!
# Operands and effects of the arithmetic on cells
-/

namespace FieldMachine.Arithmetic

set_option autoImplicit false

open Reading

variable {scene : Scene} {cursor : Cursor}

/-- The bytes of a source operand. -/
def Width.bytes : Width → Nat
  | .byte => 1
  | .word => 2

theorem storeResult_isPlain (selector address : UInt8) (result : Option UInt16) :
    (storeResult selector address result).IsPlain nothingHeld := by
  simp [storeResult, Effect.isPlain]

/-- A result is one write, and without one nothing happens. -/
theorem storeResult_isPrudent (selector address : UInt8) (result : Option UInt16) :
    (storeResult selector address result).IsPrudent False := by
  cases result with
  | none => exact .idle
  | some value => exact .store selector address value

theorem source_takes (width : Width) : (source width).Takes scene width.bytes fun _ => True := by
  cases width with
  | byte => exact .byte fun _ => .pure trivial
  | word => exact word_takes

theorem binary_takes (width : Width) (operation : Operation) :
    (binary width operation).Takes scene (width.bytes + 2) (Plan.IsPlain nothingHeld) :=
  .selectors fun _ => .byte fun _ =>
    (source_takes width).bind fun _ _ => .load fun _ => .load fun _ =>
      .pure (storeResult_isPlain _ _ _)

theorem binary_prudent (width : Width) (operation : Operation) :
    (binary width operation).Gives scene cursor (Plan.IsPrudent False) :=
  .past fun _ => .past fun _ => .past fun _ => .past fun _ => .past fun _ => .pure
    (storeResult_isPrudent _ _ _)

theorem unary_takes (width : Width) (operation : Operation) :
    (unary width operation).Takes scene 2 (Plan.IsPlain nothingHeld) :=
  .selectors fun _ => .byte fun _ => .load fun _ => .pure (storeResult_isPlain _ _ _)

theorem unary_prudent (width : Width) (operation : Operation) :
    (unary width operation).Gives scene cursor (Plan.IsPrudent False) :=
  .past fun _ => .past fun _ => .past fun _ => .pure (storeResult_isPrudent _ _ _)

theorem bit_takes (change : UInt16 → UInt16 → UInt16) :
    (bit change).Takes scene 3 (Plan.IsPlain nothingHeld) :=
  .selectors fun _ => .byte fun _ => .byte fun _ => .load fun _ =>
    .ite (fun _ => .invalid) fun _ => .load fun _ => .pure (by simp [Effect.isPlain])

theorem bit_prudent (change : UInt16 → UInt16 → UInt16) :
    (bit change).Gives scene cursor (Plan.IsPrudent False) :=
  .past fun _ => .past fun _ => .past fun _ => .past fun _ => .ite (fun _ => .invalid) fun _ =>
    .past fun _ => .pure (.store _ _ _)

theorem pack_takes : pack.Takes scene 5 (Plan.IsPlain nothingHeld) :=
  .selectors fun _ => .selectors fun _ => .byte fun _ => .byte fun _ => .byte fun _ =>
    .loadByte fun _ => .loadByte fun _ => .pure (by simp [Effect.isPlain])

theorem pack_prudent : pack.Gives scene cursor (Plan.IsPrudent False) :=
  .past fun _ => .past fun _ => .past fun _ => .past fun _ => .past fun _ => .past fun _ => .past
    fun _ => .pure (.store _ _ _)

theorem reseed_takes : reseed.Takes scene 2 (Plan.IsPlain nothingHeld) :=
  .selectors fun _ => .byte fun _ => .load fun _ => .pure (by simp [Effect.isPlain])

theorem reseed_prudent : reseed.Gives scene cursor (Plan.IsPrudent False) :=
  .past fun _ => .past fun _ => .past fun _ => .pure (.sure (by simp [Effect.isSure]))

theorem random_takes : random.Takes scene 2 (Plan.IsPlain nothingHeld) :=
  .selectors fun _ => .byte fun _ => .pure (by simp [Effect.isPlain])

/-- A draw comes before the cell is looked at, so that it is not prudent. -/
theorem random_draws : random.Gives scene cursor fun plan =>
    ∃ selector address, plan = .next [.drawByte selector address] :=
  .past fun _ => .past fun _ => .pure ⟨_, _, rfl⟩

theorem angular_takes (curve : Float32 → Float32) :
    (angular curve).Takes scene 9 (Plan.IsPlain nothingHeld) :=
  .selectors fun _ => .selectors fun _ => .word fun _ => .signed fun _ => .signed fun _ =>
    .byte fun _ => .load fun _ => .loadSigned fun _ => .loadCoordinate fun _ =>
      .pure (by simp [Effect.isPlain])

theorem angular_prudent (curve : Float32 → Float32) :
    (angular curve).Gives scene cursor (Plan.IsPrudent False) :=
  .past fun _ => .past fun _ => .past fun _ => .past fun _ => .past fun _ => .past fun _ => .past
    fun _ => .past fun _ => .past fun _ => .pure (.store _ _ _)

end FieldMachine.Arithmetic
