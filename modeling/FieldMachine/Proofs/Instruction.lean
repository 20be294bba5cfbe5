import FieldMachine.Proofs.Instruction.Control
import FieldMachine.Proofs.Instruction.Arithmetic
import FieldMachine.Proofs.Instruction.Background
import FieldMachine.Proofs.Instruction.Dialogue
import FieldMachine.Proofs.Instruction.Transition
import FieldMachine.Proofs.Instruction.Company
import FieldMachine.Proofs.Instruction.Movement
import FieldMachine.Proofs.Instruction.Acting
import FieldMachine.Proofs.Instruction.Screen
import FieldMachine.Instruction

/-!
# Instructions and the length table

The table of lengths and the operands that an instruction reads were written
down separately.  They agree: every instruction that can be carried out takes
exactly the operands that the table leaves it, and goes on behind them unless
it jumps (`Opcode.agrees`).

Here it also says which instructions may hold their lane up, and how: they leave
a rest of themselves, and the rest is always of the same kind, or they wait
(`Opcode.HoldsUp`).
-/

namespace FieldMachine

set_option autoImplicit false

/-- The opcodes that may leave such a rest of themselves. -/
def Continuation.owners : Continuation → List Opcode
  | .move (.point _) .walk => [.move]
  | .move (.point _) .keepFacing => [.cmove]
  | .move (.point _) .silent => [.fmove]
  | .move (.entity _) .walk => [.mova, .pmova]
  | .move (.entity _) _ => []
  | .jump _ => [.jump]
  | .ladder _ => [.lader]
  | .animation => [.anime1, .anime2, .canim1, .canim2, .animw]

namespace Opcode

/-- Whether a condition, read from the cursor on, fails. -/
def fails (condition : Reading Bool) (scene : Scene) (cursor : Cursor) : Prop :=
  ∃ after, condition scene cursor = .ok (false, after)

/-- When an instruction does not go on behind its operands. -/
def jumps (op : Opcode) (scene : Scene) : Cursor → Prop :=
  match op with
  | .ret => fun _ => Control.comesHome scene
  | .jmpf | .jmpfl | .jmpb | .jmpbl => fun _ => True
  | .ifub | .ifubl => fails (Control.comparison .byte) scene
  | .ifsw | .ifswl => fails (Control.comparison .signedWord) scene
  | .ifuw | .ifuwl => fails (Control.comparison .word) scene
  | .ifkey => fails (Control.keysAmong Keys.held) scene
  | .ifkeyon => fails (Control.keysAmong Keys.pressed) scene
  | .ifkeyoff => fails (Control.keysAmong Keys.released) scene
  | .ifprtyq => fails Control.inParty scene
  | .ifmembq => fails Control.available scene
  | _ => fun _ => False

/-- How an instruction may hold its lane up. -/
def HoldsUp (op : Opcode) : Ending → Prop
  | .suspend continuation => op ∈ continuation.owners
  | .pause reason => op = .mapjump ∧ reason = .fieldJump
  | .request request reason => op.Asks request reason
  | _ => False

/-- A reading takes the operands that the length table leaves an opcode, and jumps only when it
should. -/
def Agrees (op : Opcode) (scene : Scene) (jumps : Cursor → Prop)
    (reading : Reading Plan) : Prop :=
  ∃ operands, op.size = operands + 1 ∧ reading.Follows scene operands jumps op.HoldsUp

/-!
For each of the rules, that the operands fit the length table is a closed fact about one opcode,
decided where the rule is used.
-/

namespace Agrees

variable {op : Opcode} {scene : Scene} {operands : Nat} {handler reading : Reading Plan}

theorem of_follows {jumps : Cursor → Prop}
    (follows : handler.Follows scene operands jumps nothingHeld)
    (known : some handler = some reading)
    (length : op.size = operands + 1 := by decide +kernel) : op.Agrees scene jumps reading := by
  cases known
  exact ⟨operands, length, follows.mono fun plan fit => fit.mono fun _ => False.elim⟩

theorem of_fits (takes : handler.Takes scene operands (Plan.Fits scene nothingHeld))
    (known : some handler = some reading)
    (length : op.size = operands + 1 := by decide +kernel) :
    op.Agrees scene (fun _ => False) reading :=
  .of_follows (.of_takes takes) known length

theorem of_plain (takes : handler.Takes scene operands (Plan.IsPlain nothingHeld))
    (known : some handler = some reading)
    (length : op.size = operands + 1 := by decide +kernel) :
    op.Agrees scene (fun _ => False) reading :=
  .of_follows (.of_plain takes) known length

/-- A conditional jump. -/
theorem of_condition {condition : Reading Bool} {wide : Bool}
    (same : handler = condition >>= Control.jumpUnless wide)
    (takes : condition.Takes scene operands fun _ => True) (known : some handler = some reading)
    (length : op.size = operands + (wide.toNat + 1) + 1 := by decide +kernel) :
    op.Agrees scene (fails condition scene) reading :=
  .of_follows (same ▸ Control.unless_follows wide takes) known length

/-- An instruction that may hold its lane up. -/
theorem of_held {held : Ending → Prop}
    (takes : handler.Takes scene operands (Plan.IsPlain held))
    (owned : ∀ ending, held ending → op.HoldsUp ending) (known : some handler = some reading)
    (length : op.size = operands + 1 := by decide +kernel) :
    op.Agrees scene (fun _ => False) reading := by
  cases known
  exact ⟨operands, length, .of_plain (takes.mono fun plan plain => plain.mono owned)⟩

/-- An instruction that may take several ticks. -/
theorem of_lasting {left : Continuation → Prop}
    (takes : handler.Takes scene operands (Plan.IsPlain (leaving left)))
    (owned : ∀ continuation, left continuation → op ∈ continuation.owners)
    (known : some handler = some reading)
    (length : op.size = operands + 1 := by decide +kernel) :
    op.Agrees scene (fun _ => False) reading :=
  .of_held takes (fun _ ⟨rest, same, held⟩ => same ▸ owned rest held) known length

/-- An instruction that makes a request. -/
theorem of_asking (takes : handler.Takes scene operands (Plan.IsPlain (asking op)))
    (known : some handler = some reading)
    (length : op.size = operands + 1 := by decide +kernel) :
    op.Agrees scene (fun _ => False) reading :=
  .of_held takes (fun _ ⟨_, _, same, asks⟩ => same ▸ asks) known length

end Agrees

/-- Every instruction that can be carried out agrees with the length table. -/
theorem agrees (op : Opcode) (scene : Scene) {reading : Reading Plan}
    (known : op.plan? = some reading) : op.Agrees scene (op.jumps scene) reading := by
  cases op with
  | ret => exact .of_follows Control.goBack_follows known
  | req | reqsw | reqew => exact .of_fits (Control.callEntity_takes _) known
  | preq | prqsw | prqew => exact .of_fits (Control.callMember_takes _) known
  | retto => exact .of_fits Control.handOver_takes known
  | jmpf | jmpfl => exact .of_follows (Control.jumpForward_follows _) known
  | jmpb | jmpbl => exact .of_follows (Control.jumpBackward_follows _) known
  | ifub | ifubl | ifsw | ifswl | ifuw | ifuwl =>
      exact .of_condition (Control.compare_eq _ _) (Control.comparison_takes _) known
  | wait => exact .of_plain Control.wait_takes known
  | ifkey | ifkeyon | ifkeyoff =>
      exact .of_condition (Control.compareKeys_eq _) (Control.keysAmong_takes _) known
  | ifprtyq => exact .of_condition Control.compareParty_eq Control.inParty_takes known
  | ifmembq => exact .of_condition Control.compareAvailable_eq Control.available_takes known
  | nop => exact .of_plain Control.nothing_takes known
  | plusSat | minusSat | setbyte | plus | minus | mul | div | mod | and | or | xor | lbyte =>
      exact .of_plain (Arithmetic.binary_takes .byte _) known
  | plus2Sat | minus2Sat | setword | plus2 | minus2 | mul2 | div2 | mod2 | and2 | or2 | xor2
  | hbyte => exact .of_plain (Arithmetic.binary_takes .word _) known
  | incSat | decSat | inc | dec => exact .of_plain (Arithmetic.unary_takes .byte _) known
  | inc2Sat | dec2Sat | inc2 | dec2 => exact .of_plain (Arithmetic.unary_takes .word _) known
  | rdmsd => exact .of_plain Arithmetic.reseed_takes known
  | biton | bitoff | bitxor => exact .of_plain (Arithmetic.bit_takes _) known
  | random => exact .of_plain Arithmetic.random_takes known
  | twoByte => exact .of_plain Arithmetic.pack_takes known
  | sin | cos => exact .of_plain (Arithmetic.angular_takes _) known
  | bgon | bgoff => exact .of_plain (Background.toggleLayer_takes _) known
  | bgrol | bgrol2 | bgclr => exact .of_plain (Background.changeMask_takes _) known
  | bgpdh => exact .of_plain Background.setDepth_takes known
  | bgscr => exact .of_plain Background.setScroll_takes known
  | stpal | ldpal | cppal => exact .of_plain (Background.copyPalette_takes _ _) known
  | rtpal => exact .of_plain Background.rotatePalette_takes known
  | adpal | mppal2 => exact .of_plain (Background.colorPalette_takes _) known
  | stpls | ldpls => exact .of_plain (Background.copyRange_takes _ _) known
  | window | wsizw => exact .of_plain Dialogue.setGeometry_takes known
  | wmove => exact .of_plain Dialogue.moveWindow_takes known
  | wmode => exact .of_plain Dialogue.setMode_takes known
  | wrest => exact .of_plain Dialogue.resetWindow_takes known
  | wcls | wclse => exact .of_plain (Dialogue.closeWindow_takes _) known
  | wrow => exact .of_plain Dialogue.setRows_takes known
  | wspcl => exact .of_plain Dialogue.setSpecial_takes known
  | wnumb => exact .of_plain Dialogue.setNumber_takes known
  | sttim => exact .of_plain Dialogue.setTimer_takes known
  | message => exact .of_asking Dialogue.message_takes known
  | mpara => exact .of_plain Dialogue.setByteVariable_takes known
  | mpra2 => exact .of_plain Dialogue.setWordVariable_takes known
  | mpnam => exact .of_plain Dialogue.nameLocation_takes known
  | ask => exact .of_asking Dialogue.ask_takes known
  | menu => exact .of_asking Dialogue.menu_takes known
  | menu2 => exact .of_plain Dialogue.allowMenu_takes known
  | battle => exact .of_asking Transition.battle_takes known
  | btlon => exact .of_plain Transition.allowEncounters_takes known
  | btlmd => exact .of_plain Transition.setBattleMode_takes known
  | btmd2 => exact .of_plain Transition.setLongBattleMode_takes known
  | btrld => exact .of_plain Transition.storeBattleResult_takes known
  | btltb => exact .of_plain Transition.setBattleTable_takes known
  | mapjump => exact .of_held Transition.leaveField_takes (by rintro _ rfl; exact ⟨rfl, rfl⟩) known
  | mpjpo => exact .of_plain Transition.allowMapJumps_takes known
  | pmjmp => exact .of_plain Transition.prepareField_takes known
  | pmjmp2 => exact .of_plain Transition.hintField_takes known
  | dskcg => exact .of_asking Transition.changeDisc_takes known
  | minigame => exact .of_asking Transition.minigame_takes known
  | tutor => exact .of_asking Transition.tutorial_takes known
  | gameover => exact .of_plain Transition.gameOver_takes known
  | lstmp => exact .of_plain Transition.storeLastField_takes known
  | mpdsp => exact .of_plain Transition.showMinimap_takes known
  | sptye => exact .of_plain Company.assignLoaded_takes known
  | gtpye => exact .of_plain Company.storeSlots_takes known
  | prtyp => exact .of_plain Company.add_takes known
  | prtym => exact .of_plain Company.remove_takes known
  | prtye => exact .of_plain Company.assign_takes known
  | mmbud => exact .of_plain Company.setAvailable_takes known
  | mmblk | mmbuk => exact .of_plain (Company.setLocked_takes _) known
  | goldUp | goldDown => exact .of_plain (Company.changeGil_takes _) known
  | chgld => exact .of_plain Company.storeGil_takes known
  | hmpmax1 | hmpmax2 | mhmmx | hmpmax3 => exact .of_plain (Company.change_takes _) known
  | mpUp | mpDown | hpUp | hpDown => exact .of_plain (Company.changePoints_takes _) known
  | stitm | dlitm => exact .of_plain (Company.changeItem_takes _) known
  | ckitm => exact .of_plain Company.storeItemCount_takes known
  | smtra => exact .of_plain Company.addMateria_takes known
  | dmtra => exact .of_plain Company.dropMateria_takes known
  | cmtra => exact .of_plain Company.storeMateriaCount_takes known
  | getpc => exact .of_plain Company.storeSlot_takes known
  | pxyzi => exact .of_plain Company.storePlace_takes known
  | pgtdr => exact .of_plain Company.storeDirection_takes known
  | join => exact .of_fits Company.gather_takes known
  | split => exact .of_fits Company.part_takes known
  | pc => exact .of_fits Movement.playCharacter_takes known
  | char => exact .of_plain Movement.setModel_takes known
  | visi | fcfix | linon => exact .of_plain (Movement.setFlag_takes _ Reading.switch_takes) known
  | xyzi => exact .of_plain Movement.place_takes known
  | xyi => exact .of_plain Movement.placeOnTriangle_takes known
  | xyz => exact .of_plain Movement.placeInSpace_takes known
  | axyzi => exact .of_plain Movement.storePlace_takes known
  | move | cmove | fmove =>
      exact .of_lasting (Movement.walkToPoint_takes _) (by simp [Continuation.owners]) known
  | mova => exact .of_lasting Movement.walkToEntity_takes (by simp [Continuation.owners]) known
  | pmova => exact .of_lasting Movement.walkToMember_takes (by simp [Continuation.owners]) known
  | tura => exact .of_plain Movement.turnToEntity_takes known
  | ptura => exact .of_plain Movement.turnToMember_takes known
  | dir => exact .of_plain Movement.face_takes known
  | dira => exact .of_plain Movement.faceEntity_takes known
  | pdira => exact .of_plain Movement.faceMember_takes known
  | turngen | turn => exact .of_plain Movement.turn_takes known
  | turnw => exact .of_plain Movement.awaitTurn_takes known
  | msped | asped | tlkr2 | sldr2 =>
      exact .of_plain (Movement.setNumber_takes _ Movement.loadedWord_takes) known
  | getdir => exact .of_plain Movement.storeDirection_takes known
  | getaxy => exact .of_plain Movement.storeGround_takes known
  | getai => exact .of_plain Movement.storeTriangle_takes known
  | cc => exact .of_fits Movement.setPlayer_takes known
  | jump => exact .of_lasting Movement.jump_takes (by simp [Continuation.owners]) known
  | lader => exact .of_lasting Movement.climb_takes (by simp [Continuation.owners]) known
  | ofst => exact .of_plain Movement.shift_takes known
  | ofstw => exact .of_plain Movement.awaitShift_takes known
  | talkr | slidr => exact .of_plain (Movement.setNumber_takes _ Movement.loadedByte_takes) known
  | solid | tlkon | blink =>
      exact .of_plain (Movement.setFlag_takes _ Reading.inverseSwitch_takes) known
  | uc => exact .of_plain Movement.allowControl_takes known
  | idlck => exact .of_plain Movement.lockTriangle_takes known
  | dfanm => exact .of_plain Acting.setIdle_takes known
  | anime1 | anime2 =>
      exact .of_lasting (Acting.play_takes _ _) (by simp [Continuation.owners]) known
  | animNow1 | animNow2 => exact .of_lasting (Acting.play_takes _ false) (by simp) known
  | canim1 | canim2 =>
      exact .of_lasting (Acting.playRange_takes _ _) (by simp [Continuation.owners]) known
  | canmNow1 | canmNow2 => exact .of_lasting (Acting.playRange_takes _ false) (by simp) known
  | animw => exact .of_lasting Acting.awaitEnd_takes (by simp [Continuation.owners]) known
  | ccanm => exact .of_plain Acting.playLooped_takes known
  | animb => exact .of_plain Acting.stop_takes known
  | music => exact .of_plain Screen.playMusic_takes known
  | sound => exact .of_plain Screen.playSound_takes known
  | akao | akao2 => exact .of_plain (Screen.commandSound_takes _) known
  | musvt | musvm | fmusc => exact .of_plain (Screen.commandMusic_takes _) known
  | mulck => exact .of_plain Screen.lockMusic_takes known
  | bmusc => exact .of_plain Screen.setBattleMusic_takes known
  | chmst => exact .of_plain Screen.storeMusicPlaying_takes known
  | pmvie => exact .of_plain Screen.prepareMovie_takes known
  | movie => exact .of_asking Screen.playMovie_takes known
  | mvief => exact .of_plain Screen.storeMovieFrame_takes known
  | mvcam => exact .of_plain Screen.setMovieCamera_takes known
  | shake => exact .of_plain Screen.shake_takes known
  | fade => exact .of_plain Screen.fade_takes known
  | nfade => exact .of_plain Screen.fadeOver_takes known
  | fadew => exact .of_plain Screen.awaitFade_takes known
  | scrlo => exact .of_plain Screen.followPlayer_takes known
  | scrlc => exact .of_plain Screen.scrollToPlayer_takes known
  | scrla => exact .of_plain (Screen.scrollToEntity_takes Reading.entityAt_takes) known
  | scr2d => exact .of_plain Screen.jumpToPoint_takes known
  | scrcc => exact .of_plain Screen.jumpToPlayer_takes known
  | scr2dc | scr2dl => exact .of_plain (Screen.scrollToPoint_takes _) known
  | scrlw => exact .of_plain Screen.awaitScroll_takes known
  | scrlp => exact .of_plain (Screen.scrollToEntity_takes Reading.partyEntity_takes) known
  | special | bgmovie | kawai | kawiw | slip | gwcol | swcol | vwoft | setx | getx | searchx
  | line | sline | mppal | cppal2 | rtpal2 | adpal2 | chmph | cmusc => cases known

end Opcode

/-- What is left of a rest belongs to the same opcodes. -/
theorem Continuation.plan_takes {scene : Scene} (continuation : Continuation) :
    continuation.plan.Takes scene 0
      (Plan.IsPlain (leaving fun rest => ∀ op ∈ continuation.owners, op ∈ rest.owners)) := by
  cases continuation with
  | move goal style =>
      refine (Movement.walk_takes goal style).mono fun plan plain => plain.mono ?_
      rintro ending ⟨rest, left, rfl⟩
      exact ⟨_, left, fun op owned => owned⟩
  | jump path =>
      refine (Movement.follow_takes path .jump).mono fun plan plain => plain.mono ?_
      rintro ending ⟨rest, left, further, rfl⟩
      exact ⟨_, left, fun op owned => owned⟩
  | ladder path =>
      refine (Movement.follow_takes path .ladder).mono fun plan plain => plain.mono ?_
      rintro ending ⟨rest, left, further, rfl⟩
      exact ⟨_, left, fun op owned => owned⟩
  | animation =>
      refine Acting.awaitEnd_takes.mono fun plan plain => plain.mono ?_
      rintro ending ⟨rest, left, rfl⟩
      exact ⟨_, left, fun op owned => owned⟩

end FieldMachine
