import FieldMachine.Proofs.Prudence
import FieldMachine.Instruction.Background

/-!
# Operands and effects of the background and palette instructions
-/

namespace FieldMachine.Background

set_option autoImplicit false

open Reading

variable {scene : Scene} {cursor : Cursor}

/-! ## Layers -/

theorem toggleLayer_takes (on : Bool) :
    (toggleLayer on).Takes scene 3 (Plan.IsPlain nothingHeld) :=
  .selectors fun _ => .byte fun _ => .byte fun _ => .loadByte fun _ => .load fun _ =>
    .ite (fun _ => .invalid) fun _ =>
      .look stage_takes fun _ _ => .pure (by simp [Effect.isPlain])

theorem toggleLayer_prudent (on : Bool) :
    (toggleLayer on).Gives scene cursor (Plan.IsPrudent False) :=
  .past fun _ => .past fun _ => .past fun _ => .past fun _ => .past fun _ => .ite (fun _ =>
    .invalid) fun _ => .past fun _ => .pure (.sure (by simp [Effect.isSure]))

theorem changeMask_takes (change : UInt32 → UInt32) :
    (changeMask change).Takes scene 2 (Plan.IsPlain nothingHeld) :=
  .selectors fun _ => .byte fun _ => .loadByte fun _ =>
    .look stage_takes fun _ _ => .pure (by simp [Effect.isPlain])

theorem changeMask_prudent (change : UInt32 → UInt32) :
    (changeMask change).Gives scene cursor (Plan.IsPrudent False) :=
  .past fun _ => .past fun _ => .past fun _ => .past fun _ => .pure (.sure (by simp
    [Effect.isSure]))

theorem setDepth_takes : setDepth.Takes scene 4 (Plan.IsPlain nothingHeld) :=
  .selectors fun _ => .byte fun _ => .signed fun _ => .loadSigned fun _ =>
    .pure (by simp [Effect.isPlain])

theorem setDepth_prudent : setDepth.Gives scene cursor (Plan.IsPrudent False) :=
  .past fun _ => .past fun _ => .past fun _ => .past fun _ => .pure (.sure (by simp
    [Effect.isSure]))

theorem setScroll_takes : setScroll.Takes scene 6 (Plan.IsPlain nothingHeld) :=
  .selectors fun _ => .byte fun _ => .signed fun _ => .signed fun _ => .loadSigned fun _ =>
    .loadSigned fun _ => .pure (by simp [Effect.isPlain])

theorem setScroll_prudent : setScroll.Gives scene cursor (Plan.IsPrudent False) :=
  .past fun _ => .past fun _ => .past fun _ => .past fun _ => .past fun _ => .past fun _ => .pure
    (.sure (by simp [Effect.isSure]))

/-! ## Palettes -/

theorem putPalette_isPlain (shelf : PaletteShelf) (id : UInt8) (palette : Palette) :
    (putPalette shelf id palette).isPlain := by
  cases shelf <;> rfl

theorem putPalette_isSure (shelf : PaletteShelf) (id : UInt8) (palette : Palette) :
    (putPalette shelf id palette).isSure := by
  cases shelf <;> rfl

theorem transfer_takes (origin target : PaletteShelf) (source goal : UInt8) (start count : Nat) :
    (transfer origin target source goal start count).Takes scene 0 (Plan.IsPlain nothingHeld) :=
  .look stage_takes fun _ _ => .pure (by simp [putPalette_isPlain])

theorem transfer_prudent (origin target : PaletteShelf) (source goal : UInt8) (start count : Nat) :
    (transfer origin target source goal start count).Gives scene cursor (Plan.IsPrudent False) :=
  .past fun _ => .pure (.sure (by simp [putPalette_isSure]))

theorem copyPalette_takes (origin target : PaletteShelf) :
    (copyPalette origin target).Takes scene 4 (Plan.IsPlain nothingHeld) :=
  .selectors fun _ => .byte fun _ => .byte fun _ => .byte fun _ => .loadByte fun _ =>
    .loadByte fun _ => transfer_takes _ _ _ _ _ _

theorem copyPalette_prudent (origin target : PaletteShelf) :
    (copyPalette origin target).Gives scene cursor (Plan.IsPrudent False) :=
  .past fun _ => .past fun _ => .past fun _ => .past fun _ => .past fun _ => .past fun _ =>
    transfer_prudent _ _ _ _ _ _

theorem copyRange_takes (origin target : PaletteShelf) :
    (copyRange origin target).Takes scene 4 (Plan.IsPlain nothingHeld) :=
  .byte fun _ => .byte fun _ => .byte fun _ => .byte fun _ => transfer_takes _ _ _ _ _ _

theorem copyRange_prudent (origin target : PaletteShelf) :
    (copyRange origin target).Gives scene cursor (Plan.IsPrudent False) :=
  .past fun _ => .past fun _ => .past fun _ => .past fun _ => transfer_prudent _ _ _ _ _ _

theorem rotatePalette_takes : rotatePalette.Takes scene 6 (Plan.IsPlain nothingHeld) :=
  .selectors fun _ => .selectors fun _ => .byte fun _ => .byte fun _ => .byte fun _ =>
    .byte fun _ => .loadByte fun _ => .loadByte fun _ => .load fun _ => .load fun _ =>
      .ite (fun _ => .invalid) fun _ =>
        .look stage_takes fun _ _ => .pure (by simp [Effect.isPlain])

theorem rotatePalette_prudent : rotatePalette.Gives scene cursor (Plan.IsPrudent False) :=
  .past fun _ => .past fun _ => .past fun _ => .past fun _ => .past fun _ => .past fun _ => .past
    fun _ => .past fun _ => .past fun _ => .past fun _ => .ite (fun _ => .invalid) fun _ => .past
    fun _ => .pure (.sure (by simp [Effect.isSure]))

theorem colorPalette_takes (change : Int → UInt8 → Int) :
    (colorPalette change).Takes scene 9 (Plan.IsPlain nothingHeld) :=
  .selectors fun _ => .selectors fun _ => .selectors fun _ => .byte fun _ => .byte fun _ =>
    .byte fun _ => .byte fun _ => .byte fun _ => .byte fun _ => .loadByte fun _ =>
      .loadByte fun _ => .loadByte fun _ => .loadByte fun _ => .loadByte fun _ => .load fun _ =>
        .look stage_takes fun _ _ => .pure (by simp [Effect.isPlain])

theorem colorPalette_prudent (change : Int → UInt8 → Int) :
    (colorPalette change).Gives scene cursor (Plan.IsPrudent False) :=
  .past fun _ => .past fun _ => .past fun _ => .past fun _ => .past fun _ => .past fun _ => .past
    fun _ => .past fun _ => .past fun _ => .past fun _ => .past fun _ => .past fun _ => .past fun
    _ => .past fun _ => .past fun _ => .past fun _ => .pure (.sure (by simp [Effect.isSure]))

end FieldMachine.Background
