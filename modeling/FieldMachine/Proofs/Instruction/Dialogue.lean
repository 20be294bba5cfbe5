import FieldMachine.Proofs.Prudence
import FieldMachine.Instruction.Dialogue

/-!
# Operands and effects of the window and dialog instructions
-/

namespace FieldMachine.Dialogue

set_option autoImplicit false

open Reading

variable {scene : Scene} {cursor : Cursor}

theorem windowAt_takes (id : UInt8) : (windowAt id).Takes scene 0 fun _ => True := by
  refine stage_takes.look fun stage _ => ?_
  split
  · exact .pure trivial
  · exact .invalid

/-- Changes of a window that leave it alone whether a dialog is waiting there, or close it. -/
theorem changeWindow_takes (id : UInt8) (changes : List WindowChange)
    (opensNone : ∀ change ∈ changes, ∀ isOpen, change ≠ .setOpen isOpen) :
    (changeWindow id changes).Takes scene 0 fun effects =>
      ∀ effect ∈ effects, effect.isPlain := by
  refine .look (windowAt_takes id) fun _ _ => .pure fun effect member => ?_
  obtain ⟨change, listed, rfl⟩ := List.mem_map.mp member
  cases change with
  | setOpen isOpen => exact absurd rfl (opensNone _ listed isOpen)
  | _ => rfl

theorem changeWindow_gives (id : UInt8) (changes : List WindowChange) :
    (changeWindow id changes).Gives scene cursor fun effects =>
      ∀ effect ∈ effects, effect.isSure :=
  .past fun _ => .pure (by simp [Effect.isSure])

/-! ## Shape -/

theorem setGeometry_takes : setGeometry.Takes scene 9 (Plan.IsPlain nothingHeld) :=
  .byte fun _ => .word fun _ => .word fun _ => .word fun _ => .word fun _ =>
    .look (changeWindow_takes _ _ (by simp)) fun _ spared => .pure (by simpa using spared)

theorem setGeometry_prudent : setGeometry.Gives scene cursor (Plan.IsPrudent False) :=
  .past fun _ => .past fun _ => .past fun _ => .past fun _ => .past fun _ => .bind
    (changeWindow_gives _ _) fun _ sure => .pure (.sure sure)

theorem moveWindow_takes : moveWindow.Takes scene 5 (Plan.IsPlain nothingHeld) :=
  .byte fun _ => .signed fun _ => .signed fun _ =>
    .look (changeWindow_takes _ _ (by simp)) fun _ spared => .pure (by simpa using spared)

theorem moveWindow_prudent : moveWindow.Gives scene cursor (Plan.IsPrudent False) :=
  .past fun _ => .past fun _ => .past fun _ => .bind (changeWindow_gives _ _) fun _ sure => .pure
    (.sure sure)

theorem setMode_takes : setMode.Takes scene 3 (Plan.IsPlain nothingHeld) :=
  .byte fun _ => .byte fun _ => .inverseSwitch fun _ =>
    .look (changeWindow_takes _ _ (by simp)) fun _ spared => .pure (by simpa using spared)

theorem setMode_prudent : setMode.Gives scene cursor (Plan.IsPrudent False) :=
  .past fun _ => .past fun _ => .past fun _ => .bind (changeWindow_gives _ _) fun _ sure => .pure
    (.sure sure)

theorem resetWindow_takes : resetWindow.Takes scene 1 (Plan.IsPlain nothingHeld) :=
  .byte fun _ =>
    .look (changeWindow_takes _ _ (by simp)) fun _ spared => .pure (by simpa using spared)

theorem resetWindow_prudent : resetWindow.Gives scene cursor (Plan.IsPrudent False) :=
  .past fun _ => .bind (changeWindow_gives _ _) fun _ sure => .pure (.sure sure)

theorem closeWindow_takes (reset : Bool) :
    (closeWindow reset).Takes scene 1 (Plan.IsPlain nothingHeld) :=
  .byte fun _ => .look (changeWindow_takes _ _ (by cases reset <;> simp)) fun _ spared =>
    .pure (by
      rw [Plan.isPlain_next, List.forall_mem_append]
      exact ⟨spared, by simp [Effect.isPlain]⟩)

theorem closeWindow_prudent (reset : Bool) :
    (closeWindow reset).Gives scene cursor (Plan.IsPrudent False) :=
  .past fun _ => .bind (changeWindow_gives _ _) fun _ sure => .pure (.sure (by
    rw [List.forall_mem_append]
    exact ⟨sure, by simp [Effect.isSure]⟩))

theorem setRows_takes : setRows.Takes scene 2 (Plan.IsPlain nothingHeld) :=
  .byte fun _ => .byte fun _ =>
    .look (changeWindow_takes _ _ (by simp)) fun _ spared => .pure (by simpa using spared)

theorem setRows_prudent : setRows.Gives scene cursor (Plan.IsPrudent False) :=
  .past fun _ => .past fun _ => .bind (changeWindow_gives _ _) fun _ sure => .pure (.sure sure)

theorem setSpecial_takes : setSpecial.Takes scene 4 (Plan.IsPlain nothingHeld) := by
  refine .byte fun _ => .byte fun kind => .byte fun _ => .byte fun _ => ?_
  cases specialOfByte? kind with
  | none => exact .invalid
  | some special =>
      exact .look (changeWindow_takes _ _ (by simp)) fun _ spared => .pure (by simpa using spared)

theorem setSpecial_prudent : setSpecial.Gives scene cursor (Plan.IsPrudent False) := by
  refine .past fun _ => .past fun kind => .past fun _ => .past fun _ => ?_
  cases specialOfByte? kind with
  | none => exact .invalid
  | some special => exact .bind (changeWindow_gives _ _) fun _ sure => .pure (.sure sure)

theorem setNumber_takes : setNumber.Takes scene 7 (Plan.IsPlain nothingHeld) :=
  .selectors fun _ => .byte fun _ => .splitLong fun _ => .byte fun _ =>
    .look (changeWindow_takes _ _ (by simp)) fun _ spared => .pure (by simpa using spared)

theorem setNumber_prudent : setNumber.Gives scene cursor (Plan.IsPrudent False) :=
  .past fun _ => .past fun _ => .past fun _ => .past fun _ => .bind (changeWindow_gives _ _) fun
    _ sure => .pure (.sure sure)

theorem setVariable_takes (window slot : UInt8) (value : UInt16) :
    (setVariable window slot value).Takes scene 0 (Plan.IsPlain nothingHeld) :=
  .ite (fun _ => .invalid) fun _ =>
    .look (changeWindow_takes _ _ (by simp)) fun _ spared => .pure (by simpa using spared)

theorem setVariable_prudent (window slot : UInt8) (value : UInt16) :
    (setVariable window slot value).Gives scene cursor (Plan.IsPrudent False) :=
  .ite (fun _ => .invalid) fun _ => .bind (changeWindow_gives _ _) fun _ sure => .pure (.sure
    sure)

theorem setByteVariable_takes : setByteVariable.Takes scene 4 (Plan.IsPlain nothingHeld) :=
  .selectors fun _ => .byte fun _ => .byte fun _ => .byte fun _ => .loadByte fun _ =>
    setVariable_takes _ _ _

theorem setByteVariable_prudent : setByteVariable.Gives scene cursor (Plan.IsPrudent False) :=
  .past fun _ => .past fun _ => .past fun _ => .past fun _ => .past fun _ => setVariable_prudent
    _ _ _

theorem setWordVariable_takes : setWordVariable.Takes scene 5 (Plan.IsPlain nothingHeld) :=
  .selectors fun _ => .byte fun _ => .byte fun _ => .word fun _ => .load fun _ =>
    setVariable_takes _ _ _

theorem setWordVariable_prudent : setWordVariable.Gives scene cursor (Plan.IsPrudent False) :=
  .past fun _ => .past fun _ => .past fun _ => .past fun _ => .past fun _ => setVariable_prudent
    _ _ _

/-! ## Texts, questions and menus -/

theorem dialogIn_takes (window text : UInt8) (choices : Option (UInt8 × UInt8)) :
    (dialogIn window text choices).Takes scene 0 fun dialog =>
      dialog.window = window ∧ dialog.choices = choices :=
  .look (windowAt_takes window) fun _ _ => .withScene (fun _ => rfl) fun _ _ => .pure ⟨rfl, rfl⟩

theorem message_takes : message.Takes scene 2 (Plan.IsPlain (asking .message)) := by
  refine .byte fun _ => .byte fun _ => .look (dialogIn_takes _ _ _) fun dialog shown => .pure ?_
  obtain ⟨rfl, told⟩ := shown
  exact ⟨by simp, _, _, rfl, .message dialog told⟩

theorem message_prudent : message.Gives scene cursor (Plan.IsPrudent False) :=
  .past fun _ => .past fun _ => .past fun _ => .pure .idle

theorem ask_takes : ask.Takes scene 6 (Plan.IsPlain (asking .ask)) := by
  refine .selectors fun _ => .byte fun _ => .byte fun _ => .byte fun _ => .byte fun _ =>
    .byte fun address => .ite (fun _ => .fail) fun named =>
      .look (dialogIn_takes _ _ _) fun dialog shown => .pure ?_
  obtain ⟨rfl, asked⟩ := shown
  exact ⟨by simp, _, _, rfl, .ask dialog address (by rw [asked, Option.isSome_some]) named⟩

/-- A question does nothing but ask. -/
theorem ask_gives : ask.Gives scene cursor fun plan => ∃ ending, plan = .act [] ending :=
  .past fun _ => .past fun _ => .past fun _ => .past fun _ => .past fun _ => .past fun _ =>
    .ite (fun _ => .fail) fun _ => .past fun _ => .pure ⟨_, rfl⟩

theorem ask_prudent : ask.Gives scene cursor (Plan.IsPrudent False) :=
  ask_gives.mono fun _ ⟨_, same⟩ => same ▸ .idle

theorem menu_takes : menu.Takes scene 3 (Plan.IsPlain (asking .menu)) :=
  .selectors fun _ => .byte fun _ => .byte fun _ => .loadByte fun _ => .loadByte fun _ =>
    .pure ⟨by simp, _, _, rfl, .menu _ _⟩

theorem menu_prudent : menu.Gives scene cursor (Plan.IsPrudent False) :=
  .past fun _ => .past fun _ => .past fun _ => .past fun _ => .past fun _ => .pure .idle

theorem allowMenu_takes : allowMenu.Takes scene 1 (Plan.IsPlain nothingHeld) :=
  .inverseSwitch fun _ => .pure (by simp [Effect.isPlain])

theorem allowMenu_prudent : allowMenu.Gives scene cursor (Plan.IsPrudent False) :=
  .past fun _ => .pure (.sure (by simp [Effect.isSure]))

theorem nameLocation_takes : nameLocation.Takes scene 1 (Plan.IsPlain nothingHeld) :=
  .byte fun _ => .pure (by simp [Effect.isPlain])

theorem nameLocation_prudent : nameLocation.Gives scene cursor (Plan.IsPrudent False) :=
  .past fun _ => .pure (.sure (by simp [Effect.isSure]))

theorem setTimer_takes : setTimer.Takes scene 5 (Plan.IsPlain nothingHeld) :=
  .selectors fun _ => .selectors fun _ => .byte fun _ => .byte fun _ => .byte fun _ =>
    .loadByte fun _ => .loadByte fun _ => .loadByte fun _ =>
      .pure (by simp [Effect.isPlain])

theorem setTimer_prudent : setTimer.Gives scene cursor (Plan.IsPrudent False) :=
  .past fun _ => .past fun _ => .past fun _ => .past fun _ => .past fun _ => .past fun _ => .past
    fun _ => .past fun _ => .pure (.sure (by simp [Effect.isSure]))

end FieldMachine.Dialogue
