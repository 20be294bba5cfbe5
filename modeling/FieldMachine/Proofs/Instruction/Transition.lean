import FieldMachine.Proofs.Prudence
import FieldMachine.Instruction.Transition

/-!
# Operands and effects of the instructions that leave the field
-/

namespace FieldMachine.Transition

set_option autoImplicit false

open Reading

variable {scene : Scene} {cursor : Cursor}

/-! ## Battles -/

theorem battle_takes : battle.Takes scene 3 (Plan.IsPlain (asking .battle)) :=
  .selectors fun _ => .word fun _ => .load fun _ => .pure ⟨by simp, _, _, rfl, .battle _⟩

theorem battle_prudent : battle.Gives scene cursor (Plan.IsPrudent False) :=
  .past fun _ => .past fun _ => .past fun _ => .pure .idle

theorem allowEncounters_takes : allowEncounters.Takes scene 1 (Plan.IsPlain nothingHeld) :=
  .inverseSwitch fun _ => .pure (by simp [Effect.isPlain])

theorem allowEncounters_prudent : allowEncounters.Gives scene cursor (Plan.IsPrudent False) :=
  .past fun _ => .pure (.sure (by simp [Effect.isSure]))

theorem setBattleMode_takes : setBattleMode.Takes scene 2 (Plan.IsPlain nothingHeld) :=
  .word fun _ => .pure (by simp [Effect.isPlain])

theorem setBattleMode_prudent : setBattleMode.Gives scene cursor (Plan.IsPrudent False) :=
  .past fun _ => .pure (.sure (by simp [Effect.isSure]))

theorem setLongBattleMode_takes : setLongBattleMode.Takes scene 4 (Plan.IsPlain nothingHeld) :=
  .long fun _ => .pure (by simp [Effect.isPlain])

theorem setLongBattleMode_prudent : setLongBattleMode.Gives scene cursor (Plan.IsPrudent False) :=
  .past fun _ => .pure (.sure (by simp [Effect.isSure]))

theorem storeBattleResult_takes : storeBattleResult.Takes scene 2 (Plan.IsPlain nothingHeld) :=
  .selectors fun _ => .byte fun _ =>
    .withSession (fun _ => rfl) fun _ _ => .pure (by simp [Effect.isPlain])

theorem storeBattleResult_prudent : storeBattleResult.Gives scene cursor (Plan.IsPrudent False) :=
  .past fun _ => .past fun _ => .past fun _ => .pure (.store _ _ _)

theorem setBattleTable_takes : setBattleTable.Takes scene 1 (Plan.IsPlain nothingHeld) :=
  .byte fun _ => .pure (by simp [Effect.isPlain])

theorem setBattleTable_prudent : setBattleTable.Gives scene cursor (Plan.IsPrudent False) :=
  .past fun _ => .pure (.sure (by simp [Effect.isSure]))

/-! ## Fields -/

theorem leaveField_takes :
    leaveField.Takes scene 9 (Plan.IsPlain (· = .pause .fieldJump)) :=
  .word fun _ => .signed fun _ => .signed fun _ => .word fun _ => .byte fun _ =>
    .withScene (fun _ => rfl) fun _ _ => .pure (by simp [Effect.isPlain, Ending.IsPlain])

theorem leaveField_prudent : leaveField.Gives scene cursor (Plan.IsPrudent False) :=
  .past fun _ => .past fun _ => .past fun _ => .past fun _ => .past fun _ => .past fun _ => .pure
    (.sure (by simp [Effect.isSure]))

theorem allowMapJumps_takes : allowMapJumps.Takes scene 1 (Plan.IsPlain nothingHeld) :=
  .inverseSwitch fun _ => .pure (by simp [Effect.isPlain])

theorem allowMapJumps_prudent : allowMapJumps.Gives scene cursor (Plan.IsPrudent False) :=
  .past fun _ => .pure (.sure (by simp [Effect.isSure]))

theorem prepareField_takes : prepareField.Takes scene 2 (Plan.IsPlain nothingHeld) :=
  .word fun _ => .pure (by simp [Effect.isPlain])

theorem prepareField_prudent : prepareField.Gives scene cursor (Plan.IsPrudent False) :=
  .past fun _ => .pure (.sure (by simp [Effect.isSure]))

theorem hintField_takes : hintField.Takes scene 0 (Plan.IsPlain nothingHeld) :=
  .withScene (fun _ => rfl) fun _ _ => .pure (by simp [Effect.isPlain])

theorem hintField_prudent : hintField.Gives scene cursor (Plan.IsPrudent False) :=
  .past fun _ => .pure (.sure (by simp [Effect.isSure]))

theorem storeLastField_takes : storeLastField.Takes scene 2 (Plan.IsPlain nothingHeld) :=
  .selectors fun _ => .byte fun _ =>
    .withSession (fun _ => rfl) fun _ _ => .pure (by simp [Effect.isPlain])

theorem storeLastField_prudent : storeLastField.Gives scene cursor (Plan.IsPrudent False) :=
  .past fun _ => .past fun _ => .past fun _ => .pure (.store _ _ _)

theorem showMinimap_takes : showMinimap.Takes scene 1 (Plan.IsPlain nothingHeld) :=
  .switch fun _ => .pure (by simp [Effect.isPlain])

theorem showMinimap_prudent : showMinimap.Gives scene cursor (Plan.IsPrudent False) :=
  .past fun _ => .pure (.sure (by simp [Effect.isSure]))

/-! ## Other parts of the game -/

theorem changeDisc_takes : changeDisc.Takes scene 1 (Plan.IsPlain (asking .dskcg)) :=
  .byte fun _ => .pure ⟨by simp [Effect.isPlain], _, _, rfl, .disc _⟩

theorem changeDisc_prudent : changeDisc.Gives scene cursor (Plan.IsPrudent False) :=
  .past fun _ => .pure (.sure (by simp [Effect.isSure]))

theorem minigame_takes : minigame.Takes scene 10 (Plan.IsPlain (asking .minigame)) :=
  .word fun _ => .signed fun _ => .signed fun _ => .word fun _ => .byte fun _ => .byte fun _ =>
    .pure ⟨by simp, _, _, rfl, .minigame _⟩

theorem minigame_prudent : minigame.Gives scene cursor (Plan.IsPrudent False) :=
  .past fun _ => .past fun _ => .past fun _ => .past fun _ => .past fun _ => .past fun _ => .pure
    .idle

theorem tutorial_takes : tutorial.Takes scene 1 (Plan.IsPlain (asking .tutor)) :=
  .byte fun _ => .pure ⟨by simp, _, _, rfl, .tutorial _⟩

theorem tutorial_prudent : tutorial.Gives scene cursor (Plan.IsPrudent False) :=
  .past fun _ => .pure .idle

theorem gameOver_takes : gameOver.Takes scene 0 (Plan.IsPlain nothingHeld) :=
  .pure (by simp [Effect.isPlain, Ending.IsPlain])

theorem gameOver_prudent : gameOver.Gives scene cursor (Plan.IsPrudent False) :=
  .pure (.sure (by simp [Effect.isSure]))

end FieldMachine.Transition
