import FieldMachine.Proofs.Instruction.Movement
import FieldMachine.Instruction.Acting

/-!
# Operands and effects of the animation instructions
-/

namespace FieldMachine.Acting

set_option autoImplicit false

open Reading

variable {scene : Scene} {cursor : Cursor}

theorem setIdle_takes : setIdle.Takes scene 2 (Plan.IsPlain nothingHeld) :=
  .byte fun _ => .byte fun _ => .look (Movement.loopedAnimation_takes _) fun _ _ =>
    .look (changeSelf_takes _) fun _ spared => .pure (by simpa using spared)

theorem setIdle_prudent : setIdle.Gives scene cursor (Plan.IsPrudent False) :=
  .past fun _ => .past fun _ => .past fun _ => .changeSelf

/-- What is left of an animation that is waited for is the wait. -/
theorem playFrames_takes (id : UInt8) (first last : UInt16) (speed : UInt8)
    (returnToIdle wait : Bool) :
    (playFrames id first last speed returnToIdle wait).Takes scene 0
      (Plan.IsPlain (leaving fun rest => wait ∧ rest = .animation)) :=
  .look (changeSelf_takes _) fun _ spared =>
    .pure (by cases wait <;> exact ⟨spared, by simp [Ending.IsPlain, leaving]⟩)

theorem playFrames_prudent (id : UInt8) (first last : UInt16) (speed : UInt8) (returnToIdle wait : Bool) :
    (playFrames id first last speed returnToIdle wait).Gives scene cursor (Plan.IsPrudent False) :=
  .changeSelf

theorem play_takes (returnToIdle wait : Bool) :
    (play returnToIdle wait).Takes scene 2
      (Plan.IsPlain (leaving fun rest => wait ∧ rest = .animation)) :=
  .byte fun _ => .byte fun _ => .look senses_takes fun _ _ => .look self_takes fun _ _ =>
    playFrames_takes _ _ _ _ _ _

theorem play_prudent (returnToIdle wait : Bool) :
    (play returnToIdle wait).Gives scene cursor (Plan.IsPrudent False) :=
  .past fun _ => .past fun _ => .past fun _ => .past fun _ => playFrames_prudent _ _ _ _ _ _

theorem playRange_takes (returnToIdle wait : Bool) :
    (playRange returnToIdle wait).Takes scene 4
      (Plan.IsPlain (leaving fun rest => wait ∧ rest = .animation)) :=
  .byte fun _ => .byte fun _ => .byte fun _ => .byte fun _ => playFrames_takes _ _ _ _ _ _

theorem playRange_prudent (returnToIdle wait : Bool) :
    (playRange returnToIdle wait).Gives scene cursor (Plan.IsPrudent False) :=
  .past fun _ => .past fun _ => .past fun _ => .past fun _ => playFrames_prudent _ _ _ _ _ _

theorem playLooped_takes : playLooped.Takes scene 3 (Plan.IsPlain nothingHeld) :=
  .byte fun _ => .byte fun _ => .byte fun _ =>
    .look (Movement.loopedAnimation_takes _) fun _ _ =>
      .look (changeSelf_takes _) fun _ spared => .pure (by simpa using spared)

theorem playLooped_prudent : playLooped.Gives scene cursor (Plan.IsPrudent False) :=
  .past fun _ => .past fun _ => .past fun _ => .past fun _ => .changeSelf

theorem stop_takes : stop.Takes scene 0 (Plan.IsPlain nothingHeld) :=
  .look (changeSelf_takes _) fun _ spared => .pure (by simpa using spared)

theorem stop_prudent : stop.Gives scene cursor (Plan.IsPrudent False) :=
  .changeSelf

theorem awaitEnd_takes :
    awaitEnd.Takes scene 0 (Plan.IsPlain (leaving (· = .animation))) :=
  .look self_takes fun _ _ =>
    .ite (fun _ => .pure (by simp [Ending.IsPlain, leaving])) fun _ => .pure (by simp)

theorem awaitEnd_prudent : awaitEnd.Gives scene cursor (Plan.IsPrudent False) :=
  .past fun _ => .ite (fun _ => .pure .idle) fun _ => .pure .idle

end FieldMachine.Acting
