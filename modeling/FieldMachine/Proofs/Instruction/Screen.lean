import FieldMachine.Proofs.Prudence
import FieldMachine.Instruction.Screen

/-!
# Operands and effects of the camera, fade, sound and movie instructions
-/

namespace FieldMachine.Screen

set_option autoImplicit false

open Reading

variable {scene : Scene} {cursor : Cursor}

/-! ## Sound -/

theorem playMusic_takes : playMusic.Takes scene 1 (Plan.IsPlain nothingHeld) :=
  .byte fun _ => .look stage_takes fun _ _ =>
    .ite (fun _ => .pure (by simp [Effect.isPlain])) fun _ =>
      .pure (by simp [Effect.isPlain])

theorem playMusic_prudent : playMusic.Gives scene cursor (Plan.IsPrudent False) :=
  .past fun _ => .past fun _ => .ite (fun _ => .pure (.sure (by simp [Effect.isSure]))) fun _ =>
    .pure (.sure (by simp [Effect.isSure]))

theorem commandMusic_takes (command : UInt8 → MusicCommand) :
    (commandMusic command).Takes scene 1 (Plan.IsPlain nothingHeld) :=
  .byte fun _ => .pure (by simp [Effect.isPlain])

theorem commandMusic_prudent (command : UInt8 → MusicCommand) :
    (commandMusic command).Gives scene cursor (Plan.IsPrudent False) :=
  .past fun _ => .pure (.sure (by simp [Effect.isSure]))

theorem lockMusic_takes : lockMusic.Takes scene 1 (Plan.IsPlain nothingHeld) :=
  .switch fun _ => .pure (by simp [Effect.isPlain])

theorem lockMusic_prudent : lockMusic.Gives scene cursor (Plan.IsPrudent False) :=
  .past fun _ => .pure (.sure (by simp [Effect.isSure]))

theorem setBattleMusic_takes : setBattleMusic.Takes scene 1 (Plan.IsPlain nothingHeld) :=
  .byte fun _ => .pure (by simp [Effect.isPlain])

theorem setBattleMusic_prudent : setBattleMusic.Gives scene cursor (Plan.IsPrudent False) :=
  .past fun _ => .pure (.sure (by simp [Effect.isSure]))

theorem storeMusicPlaying_takes : storeMusicPlaying.Takes scene 2 (Plan.IsPlain nothingHeld) :=
  .selectors fun _ => .byte fun _ =>
    .look senses_takes fun _ _ => .pure (by simp [Effect.isPlain])

theorem storeMusicPlaying_prudent : storeMusicPlaying.Gives scene cursor (Plan.IsPrudent False) :=
  .past fun _ => .past fun _ => .past fun _ => .pure (.store _ _ _)

theorem playSound_takes : playSound.Takes scene 4 (Plan.IsPlain nothingHeld) :=
  .selectors fun _ => .word fun _ => .byte fun _ => .load fun _ => .loadByte fun _ =>
    .pure (by simp [Effect.isPlain])

theorem playSound_prudent : playSound.Gives scene cursor (Plan.IsPrudent False) :=
  .past fun _ => .past fun _ => .past fun _ => .past fun _ => .past fun _ => .pure (.sure (by
    simp [Effect.isSure]))

theorem narrowParameter_takes : (UInt8.toUInt16 <$> byte).Takes scene 1 fun _ => True :=
  byte_takes.bind fun _ _ => .pure trivial

/-- The first parameter has two bytes in the wide form and one in the other. -/
theorem commandSound_takes (wide : Bool) :
    (commandSound wide).Takes scene (wide.toNat + 13) (Plan.IsPlain nothingHeld) := by
  refine .selectors fun _ => .selectors fun _ => .selectors fun _ => .byte fun _ => ?_
  cases wide with
  | false =>
      exact narrowParameter_takes.bind fun _ _ => .word fun _ => .word fun _ => .word fun _ =>
        .word fun _ => .load fun _ => .load fun _ => .load fun _ => .load fun _ => .load fun _ =>
          .pure (by simp [Effect.isPlain])
  | true =>
      exact .word fun _ => .word fun _ => .word fun _ => .word fun _ => .word fun _ =>
        .load fun _ => .load fun _ => .load fun _ => .load fun _ => .load fun _ =>
          .pure (by simp [Effect.isPlain])

theorem commandSound_prudent (wide : Bool) :
    (commandSound wide).Gives scene cursor (Plan.IsPrudent False) := by
  refine .past fun _ => .past fun _ => .past fun _ => .past fun _ => ?_
  cases wide with
  | false =>
      exact .past fun _ => .past fun _ => .past fun _ => .past fun _ => .past fun _ => .past fun
              _ => .past fun _ => .past fun _ => .past fun _ => .past fun _ => .pure (.sure (by
              simp [Effect.isSure]))
  | true =>
      exact .past fun _ => .past fun _ => .past fun _ => .past fun _ => .past fun _ => .past fun
              _ => .past fun _ => .past fun _ => .past fun _ => .past fun _ => .pure (.sure (by
              simp [Effect.isSure]))

/-! ## Movies and tremors -/

theorem prepareMovie_takes : prepareMovie.Takes scene 1 (Plan.IsPlain nothingHeld) :=
  .byte fun _ => .pure (by simp [Effect.isPlain])

theorem prepareMovie_prudent : prepareMovie.Gives scene cursor (Plan.IsPrudent False) :=
  .past fun _ => .pure (.sure (by simp [Effect.isSure]))

theorem playMovie_takes : playMovie.Takes scene 0 (Plan.IsPlain (asking .movie)) := by
  refine .look stage_takes fun stage _ => ?_
  split
  · exact .withScene (fun _ => rfl) fun _ _ => .pure (by simp [Effect.isPlain])
  · exact .pure ⟨by simp, _, _, rfl, .movie _⟩

theorem playMovie_prudent : playMovie.Gives scene cursor (Plan.IsPrudent False) := by
  refine .past fun stage => ?_
  cases stage.movie with
  | none => exact .past fun _ => .pure (.sure (by simp [Effect.isSure]))
  | some id => exact .pure .idle

theorem storeMovieFrame_takes : storeMovieFrame.Takes scene 2 (Plan.IsPlain nothingHeld) :=
  .selectors fun _ => .byte fun _ =>
    .look senses_takes fun _ _ => .pure (by simp [Effect.isPlain])

theorem storeMovieFrame_prudent : storeMovieFrame.Gives scene cursor (Plan.IsPrudent False) :=
  .past fun _ => .past fun _ => .past fun _ => .pure (.store _ _ _)

theorem setMovieCamera_takes : setMovieCamera.Takes scene 1 (Plan.IsPlain nothingHeld) :=
  .inverseSwitch fun _ => .pure (by simp [Effect.isPlain])

theorem setMovieCamera_prudent : setMovieCamera.Gives scene cursor (Plan.IsPrudent False) :=
  .past fun _ => .pure (.sure (by simp [Effect.isSure]))

theorem shake_takes : shake.Takes scene 7 (Plan.IsPlain nothingHeld) :=
  .word fun _ => .byte fun _ => .byte fun _ => .byte fun _ => .byte fun _ => .byte fun _ =>
    .pure (by simp [Effect.isPlain])

theorem shake_prudent : shake.Gives scene cursor (Plan.IsPrudent False) :=
  .past fun _ => .past fun _ => .past fun _ => .past fun _ => .past fun _ => .past fun _ => .pure
    (.sure (by simp [Effect.isSure]))

/-! ## Fades -/

theorem fade_takes : fade.Takes scene 8 (Plan.IsPlain nothingHeld) :=
  .selectors fun _ => .selectors fun _ => .byte fun _ => .byte fun _ => .byte fun _ =>
    .byte fun _ => .byte fun _ => .byte fun _ => .loadByte fun _ => .loadByte fun _ =>
      .loadByte fun _ =>
        .ite (fun _ => .pure (by simp [Effect.isPlain])) fun _ =>
          .ite (fun _ => .pure (by simp [Effect.isPlain])) fun _ =>
            .ite (fun _ => .pure (by simp [Effect.isPlain])) fun _ =>
              .pure (by simp [Effect.isPlain])

theorem fade_prudent : fade.Gives scene cursor (Plan.IsPrudent False) :=
  .past fun _ => .past fun _ => .past fun _ => .past fun _ => .past fun _ => .past fun _ => .past
    fun _ => .past fun _ => .past fun _ => .past fun _ => .past fun _ => .ite (fun _ => .pure
    (.sure (by simp [Effect.isSure]))) fun _ => .ite (fun _ => .pure (.sure (by simp
    [Effect.isSure]))) fun _ => .ite (fun _ => .pure (.sure (by simp [Effect.isSure]))) fun _ =>
    .pure (.sure (by simp [Effect.isSure]))

theorem fadeOver_takes : fadeOver.Takes scene 8 (Plan.IsPlain nothingHeld) :=
  .selectors fun _ => .selectors fun _ => .byte fun _ => .byte fun _ => .byte fun _ =>
    .byte fun _ => .byte fun _ => .byte fun _ => .loadByte fun _ => .loadByte fun _ =>
      .loadByte fun _ =>
        .ite (fun _ => .pure (by simp [Effect.isPlain])) fun _ =>
          .look stage_takes fun _ _ => .pure (by simp [Effect.isPlain])

theorem fadeOver_prudent : fadeOver.Gives scene cursor (Plan.IsPrudent False) :=
  .past fun _ => .past fun _ => .past fun _ => .past fun _ => .past fun _ => .past fun _ => .past
    fun _ => .past fun _ => .past fun _ => .past fun _ => .past fun _ => .ite (fun _ => .pure
    (.sure (by simp [Effect.isSure]))) fun _ => .past fun _ => .pure (.sure (by simp
    [Effect.isSure]))

theorem awaitFade_takes : awaitFade.Takes scene 0 (Plan.IsPlain nothingHeld) :=
  .look stage_takes fun _ _ => .ite (fun _ => .pure (by simp)) fun _ => .pure (by simp)

/-- The wait for a fade is tried again while one is under way. -/
theorem awaitFade_polls :
    awaitFade.Gives scene cursor (Plan.IsPrudent scene.world.stage.fade.active) :=
  .withStage <| .ite (fun active => .pure (.retry [] active)) fun _ => .pure .idle

/-! ## Scrolls -/

theorem followPlayer_takes : followPlayer.Takes scene 1 (Plan.IsPlain nothingHeld) :=
  .byte fun _ => .pure (by simp [Effect.isPlain])

theorem followPlayer_prudent : followPlayer.Gives scene cursor (Plan.IsPrudent False) :=
  .past fun _ => .pure (.sure (by simp [Effect.isSure]))

theorem scrollToPlayer_takes : scrollToPlayer.Takes scene 4 (Plan.IsPlain nothingHeld) := by
  refine .selectors fun _ => .word fun _ => .byte fun _ => .load fun _ =>
    .look stage_takes fun stage _ => ?_
  split <;> exact .pure (by simp [Effect.isPlain])

theorem scrollToPlayer_prudent : scrollToPlayer.Gives scene cursor (Plan.IsPrudent False) := by
  refine .past fun _ => .past fun _ => .past fun _ => .past fun _ => .past fun stage => ?_
  cases stage.player <;> exact .pure (.sure (by simp [Effect.isSure]))

theorem scrollToEntity_takes {find : UInt8 → Reading EntityId} {known : EntityId → Prop}
    (found : ∀ index, (find index).Takes scene 0 known) :
    (scrollToEntity find).Takes scene 5 (Plan.IsPlain nothingHeld) :=
  .selectors fun _ => .word fun _ => .byte fun _ => .byte fun _ => .load fun _ =>
    .look (found _) fun _ _ => .pure (by simp [Effect.isPlain])

theorem scrollToEntity_prudent (find : UInt8 → Reading EntityId) :
    (scrollToEntity find).Gives scene cursor (Plan.IsPrudent False) :=
  .past fun _ => .past fun _ => .past fun _ => .past fun _ => .past fun _ => .past fun _ => .pure
    (.sure (by simp [Effect.isSure]))

theorem point_takes (selectors : Selectors) : (point selectors).Takes scene 4 fun _ => True :=
  .signed fun _ => .signed fun _ => .loadCoordinate fun _ => .loadCoordinate fun _ =>
    .pure trivial

theorem jumpToPoint_takes : jumpToPoint.Takes scene 5 (Plan.IsPlain nothingHeld) :=
  .selectors fun _ => (point_takes _).bind fun _ _ => .pure (by simp [Effect.isPlain])

theorem jumpToPoint_prudent : jumpToPoint.Gives scene cursor (Plan.IsPrudent False) :=
  .past fun _ => .past fun _ => .pure (.sure (by simp [Effect.isSure]))

theorem jumpToPlayer_takes : jumpToPlayer.Takes scene 0 (Plan.IsPlain nothingHeld) := by
  refine .look stage_takes fun stage _ => ?_
  split <;> exact .pure (by simp [Effect.isPlain])

theorem jumpToPlayer_prudent : jumpToPlayer.Gives scene cursor (Plan.IsPrudent False) := by
  refine .past fun stage => ?_
  cases stage.player <;> exact .pure (.sure (by simp [Effect.isSure]))

theorem scrollToPoint_takes (easing : Easing) :
    (scrollToPoint easing).Takes scene 8 (Plan.IsPlain nothingHeld) :=
  .selectors fun _ => .selectors fun _ => (point_takes _).bind fun _ _ => .word fun _ =>
    .load fun _ => .pure (by simp [Effect.isPlain])

theorem scrollToPoint_prudent (easing : Easing) :
    (scrollToPoint easing).Gives scene cursor (Plan.IsPrudent False) :=
  .past fun _ => .past fun _ => .past fun _ => .past fun _ => .past fun _ => .pure (.sure (by
    simp [Effect.isSure]))

theorem awaitScroll_takes : awaitScroll.Takes scene 0 (Plan.IsPlain nothingHeld) :=
  .look stage_takes fun _ _ => .ite (fun _ => .pure (by simp)) fun _ => .pure (by simp)

/-- The wait for a scroll is tried again while one is under way. -/
theorem awaitScroll_polls :
    awaitScroll.Gives scene cursor (Plan.IsPrudent scene.world.stage.camera.scrolling) :=
  .withStage <| .ite (fun scrolling => .pure (.retry [] scrolling)) fun _ => .pure .idle

end FieldMachine.Screen
