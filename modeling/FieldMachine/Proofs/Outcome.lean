import FieldMachine.Proofs.Instruction
import FieldMachine.Proofs.Length

/-!
# What an opcode can come to

Nine opcodes may be tried again in the next tick, and only while there is
something to wait for: frames, a lane that is taken, a turn, a fade, a scroll or
a shift (`Opcode.Polls`).  Five opcodes write several cells (`Opcode.cells`), and
one draws a random byte.  Whatever else an opcode comes to is carried out for
certain, or is the write of one cell (`Opcode.Outcome`).
-/

namespace FieldMachine

set_option autoImplicit false

namespace Opcode

/-- When an opcode waits for something; the cursor stands behind its byte. -/
def Polls (op : Opcode) (scene : Scene) (cursor : Cursor) : Prop :=
  match op with
  | .wait => ∃ frames after, cursor.word = .ok (frames, after) ∧
      scene.lane.retries < frames.toUInt32
  | .reqsw | .reqew => Control.refuses scene.world (cursor.peek 0).toNat (cursor.peek 1)
  | .prqsw | .prqew => ∃ target,
      Reading.partyMember scene.session scene.world (cursor.peek 0) = .ok target ∧
        Control.refuses scene.world target (cursor.peek 1)
  | .turnw => ∃ actor, scene.world.actor? scene.entity = some actor ∧ actor.turn.isSome
  | .fadew => scene.world.stage.fade.active
  | .scrlw => scene.world.stage.camera.scrolling
  | .ofstw => ∃ actor, scene.world.actor? scene.entity = some actor ∧ actor.offsetMoving
  | _ => False

/-- The opcodes that may be tried again. -/
def pollers : List Opcode :=
  [.wait, .reqsw, .reqew, .prqsw, .prqew, .turnw, .fadew, .scrlw, .ofstw]

theorem Polls.mem {op : Opcode} {scene : Scene} {cursor : Cursor} (polls : op.Polls scene cursor) :
    op ∈ pollers := by
  cases op with
  | wait | reqsw | reqew | prqsw | prqew | turnw | fadew | scrlw | ofstw => simp [pollers]
  | _ => exact polls.elim

/-- The opcodes that write several cells. -/
def storers : List Opcode := [.axyzi, .pxyzi, .gtpye, .getaxy, .chgld]

/-- The cells that an opcode of several writes names, in the order of its operands; the cursor stands
behind its byte. -/
def cells (op : Opcode) (cursor : Cursor) : List (UInt8 × UInt8) :=
  match op with
  | .axyzi | .pxyzi => cursor.cells 3 4
  | .gtpye => cursor.cells 2 3
  | .getaxy => cursor.cells 2 2
  | .chgld => cursor.cells 1 2
  | _ => []

theorem mem_storers {op : Opcode} {cursor : Cursor} (several : op.cells cursor ≠ []) :
    op ∈ storers := by
  cases op with
  | axyzi | pxyzi | gtpye | getaxy | chgld => simp [storers]
  | _ => exact absurd rfl several

/-- What an opcode can come to; the cursor stands behind its byte. -/
inductive Outcome (op : Opcode) (scene : Scene) (cursor : Cursor) : Plan → Prop
  | prudent {plan : Plan} (prudent : plan.IsPrudent (op.Polls scene cursor)) :
      Outcome op scene cursor plan
  | stores {plan : Plan} (stores : plan.Stores (op.cells cursor)) : Outcome op scene cursor plan
  | draw (random : op = .random) (selector address : UInt8) :
      Outcome op scene cursor (.next [.drawByte selector address])

namespace Outcome

variable {op : Opcode} {scene : Scene} {cursor : Cursor} {handler reading : Reading Plan}

theorem of_polls {waits : Prop} (gives : handler.Gives scene cursor (Plan.IsPrudent waits))
    (polls : waits → op.Polls scene cursor) (known : some handler = some reading) :
    reading.Gives scene cursor (op.Outcome scene cursor) := by
  cases known
  exact gives.mono fun plan prudent => .prudent (prudent.mono polls)

theorem of_prudent (gives : handler.Gives scene cursor (Plan.IsPrudent False))
    (known : some handler = some reading) :
    reading.Gives scene cursor (op.Outcome scene cursor) := .of_polls gives False.elim known

theorem of_stores (gives : handler.Gives scene cursor (Plan.Stores (op.cells cursor)))
    (known : some handler = some reading) :
    reading.Gives scene cursor (op.Outcome scene cursor) := by
  cases known
  exact gives.mono fun plan stores => .stores stores

end Outcome

open Outcome in
/-- Every opcode that can be carried out has such an outcome, from wherever it is read. -/
theorem outcome (op : Opcode) (scene : Scene) (cursor : Cursor) {reading : Reading Plan}
    (known : op.plan? = some reading) : reading.Gives scene cursor (op.Outcome scene cursor) := by
  cases op with
  | ret => exact of_prudent Control.goBack_prudent known
  | req => exact of_polls (Control.callEntity_polls .forget) (fun ⟨insists, _⟩ => insists rfl) known
  | reqsw => exact of_polls (Control.callEntity_polls .retry) And.right known
  | reqew => exact of_polls (Control.callEntity_polls .wait) And.right known
  | preq =>
      exact of_polls (Control.callMember_polls .forget) (fun ⟨insists, _⟩ => insists rfl) known
  | prqsw => exact of_polls (Control.callMember_polls .retry) And.right known
  | prqew => exact of_polls (Control.callMember_polls .wait) And.right known
  | retto => exact of_prudent Control.handOver_prudent known
  | jmpf | jmpfl => exact of_prudent (Control.jumpForward_prudent _) known
  | jmpb | jmpbl => exact of_prudent (Control.jumpBackward_prudent _) known
  | ifub | ifubl | ifsw | ifswl | ifuw | ifuwl =>
      exact of_prudent (Control.compare_eq _ _ ▸ Control.unless_prudent _) known
  | wait => exact of_polls Control.wait_polls id known
  | ifkey | ifkeyon | ifkeyoff =>
      exact of_prudent (Control.compareKeys_eq _ ▸ Control.unless_prudent _) known
  | ifprtyq => exact of_prudent (Control.compareParty_eq ▸ Control.unless_prudent _) known
  | ifmembq => exact of_prudent (Control.compareAvailable_eq ▸ Control.unless_prudent _) known
  | nop => exact of_prudent Control.nothing_prudent known
  | plusSat | minusSat | setbyte | plus | minus | mul | div | mod | and | or | xor | lbyte =>
      exact of_prudent (Arithmetic.binary_prudent .byte _) known
  | plus2Sat | minus2Sat | setword | plus2 | minus2 | mul2 | div2 | mod2 | and2 | or2 | xor2
  | hbyte =>
      exact of_prudent (Arithmetic.binary_prudent .word _) known
  | incSat | decSat | inc | dec => exact of_prudent (Arithmetic.unary_prudent .byte _) known
  | inc2Sat | dec2Sat | inc2 | dec2 => exact of_prudent (Arithmetic.unary_prudent .word _) known
  | rdmsd => exact of_prudent Arithmetic.reseed_prudent known
  | biton | bitoff | bitxor => exact of_prudent (Arithmetic.bit_prudent _) known
  | random =>
      cases known
      exact Arithmetic.random_draws.mono fun plan ⟨selector, address, same⟩ =>
        same ▸ .draw rfl selector address
  | twoByte => exact of_prudent Arithmetic.pack_prudent known
  | sin | cos => exact of_prudent (Arithmetic.angular_prudent _) known
  | bgon | bgoff => exact of_prudent (Background.toggleLayer_prudent _) known
  | bgrol | bgrol2 | bgclr => exact of_prudent (Background.changeMask_prudent _) known
  | bgpdh => exact of_prudent Background.setDepth_prudent known
  | bgscr => exact of_prudent Background.setScroll_prudent known
  | stpal | ldpal | cppal => exact of_prudent (Background.copyPalette_prudent _ _) known
  | rtpal => exact of_prudent Background.rotatePalette_prudent known
  | adpal | mppal2 => exact of_prudent (Background.colorPalette_prudent _) known
  | stpls | ldpls => exact of_prudent (Background.copyRange_prudent _ _) known
  | window | wsizw => exact of_prudent Dialogue.setGeometry_prudent known
  | wmove => exact of_prudent Dialogue.moveWindow_prudent known
  | wmode => exact of_prudent Dialogue.setMode_prudent known
  | wrest => exact of_prudent Dialogue.resetWindow_prudent known
  | wcls | wclse => exact of_prudent (Dialogue.closeWindow_prudent _) known
  | wrow => exact of_prudent Dialogue.setRows_prudent known
  | wspcl => exact of_prudent Dialogue.setSpecial_prudent known
  | wnumb => exact of_prudent Dialogue.setNumber_prudent known
  | sttim => exact of_prudent Dialogue.setTimer_prudent known
  | message => exact of_prudent Dialogue.message_prudent known
  | mpara => exact of_prudent Dialogue.setByteVariable_prudent known
  | mpra2 => exact of_prudent Dialogue.setWordVariable_prudent known
  | mpnam => exact of_prudent Dialogue.nameLocation_prudent known
  | ask => exact of_prudent Dialogue.ask_prudent known
  | menu => exact of_prudent Dialogue.menu_prudent known
  | menu2 => exact of_prudent Dialogue.allowMenu_prudent known
  | battle => exact of_prudent Transition.battle_prudent known
  | btlon => exact of_prudent Transition.allowEncounters_prudent known
  | btlmd => exact of_prudent Transition.setBattleMode_prudent known
  | btmd2 => exact of_prudent Transition.setLongBattleMode_prudent known
  | btrld => exact of_prudent Transition.storeBattleResult_prudent known
  | btltb => exact of_prudent Transition.setBattleTable_prudent known
  | mapjump => exact of_prudent Transition.leaveField_prudent known
  | mpjpo => exact of_prudent Transition.allowMapJumps_prudent known
  | pmjmp => exact of_prudent Transition.prepareField_prudent known
  | pmjmp2 => exact of_prudent Transition.hintField_prudent known
  | dskcg => exact of_prudent Transition.changeDisc_prudent known
  | minigame => exact of_prudent Transition.minigame_prudent known
  | tutor => exact of_prudent Transition.tutorial_prudent known
  | gameover => exact of_prudent Transition.gameOver_prudent known
  | lstmp => exact of_prudent Transition.storeLastField_prudent known
  | mpdsp => exact of_prudent Transition.showMinimap_prudent known
  | sptye => exact of_prudent Company.assignLoaded_prudent known
  | gtpye => exact of_stores Company.storeSlots_stores known
  | prtyp => exact of_prudent Company.add_prudent known
  | prtym => exact of_prudent Company.remove_prudent known
  | prtye => exact of_prudent Company.assign_prudent known
  | mmbud => exact of_prudent Company.setAvailable_prudent known
  | mmblk | mmbuk => exact of_prudent (Company.setLocked_prudent _) known
  | goldUp | goldDown => exact of_prudent (Company.changeGil_prudent _) known
  | chgld => exact of_stores Company.storeGil_stores known
  | hmpmax1 | hmpmax2 | mhmmx | hmpmax3 => exact of_prudent (Company.change_prudent _) known
  | mpUp | mpDown | hpUp | hpDown => exact of_prudent (Company.changePoints_prudent _) known
  | stitm | dlitm => exact of_prudent (Company.changeItem_prudent _) known
  | ckitm => exact of_prudent Company.storeItemCount_prudent known
  | smtra => exact of_prudent Company.addMateria_prudent known
  | dmtra => exact of_prudent Company.dropMateria_prudent known
  | cmtra => exact of_prudent Company.storeMateriaCount_prudent known
  | getpc => exact of_prudent Company.storeSlot_prudent known
  | pxyzi => exact of_stores Company.storePlace_stores known
  | pgtdr => exact of_prudent Company.storeDirection_prudent known
  | join => exact of_prudent Company.gather_prudent known
  | split => exact of_prudent Company.part_prudent known
  | pc => exact of_prudent Movement.playCharacter_prudent known
  | char => exact of_prudent Movement.setModel_prudent known
  | visi | fcfix | linon => exact of_prudent (Movement.setFlag_prudent _ _) known
  | xyzi => exact of_prudent Movement.place_prudent known
  | xyi => exact of_prudent Movement.placeOnTriangle_prudent known
  | xyz => exact of_prudent Movement.placeInSpace_prudent known
  | axyzi => exact of_stores Movement.storePlace_stores known
  | move | cmove | fmove => exact of_prudent (Movement.walkToPoint_prudent _) known
  | mova => exact of_prudent Movement.walkToEntity_prudent known
  | pmova => exact of_prudent Movement.walkToMember_prudent known
  | tura => exact of_prudent Movement.turnToEntity_prudent known
  | ptura => exact of_prudent Movement.turnToMember_prudent known
  | dir => exact of_prudent Movement.face_prudent known
  | dira => exact of_prudent Movement.faceEntity_prudent known
  | pdira => exact of_prudent Movement.faceMember_prudent known
  | turngen | turn => exact of_prudent Movement.turn_prudent known
  | turnw => exact of_polls Movement.awaitTurn_polls id known
  | msped | asped | tlkr2 | sldr2 => exact of_prudent (Movement.setNumber_prudent _ _) known
  | getdir => exact of_prudent Movement.storeDirection_prudent known
  | getaxy => exact of_stores Movement.storeGround_stores known
  | getai => exact of_prudent Movement.storeTriangle_prudent known
  | cc => exact of_prudent Movement.setPlayer_prudent known
  | jump => exact of_prudent Movement.jump_prudent known
  | lader => exact of_prudent Movement.climb_prudent known
  | ofst => exact of_prudent Movement.shift_prudent known
  | ofstw => exact of_polls Movement.awaitShift_polls id known
  | talkr | slidr => exact of_prudent (Movement.setNumber_prudent _ _) known
  | solid | tlkon | blink => exact of_prudent (Movement.setFlag_prudent _ _) known
  | uc => exact of_prudent Movement.allowControl_prudent known
  | idlck => exact of_prudent Movement.lockTriangle_prudent known
  | dfanm => exact of_prudent Acting.setIdle_prudent known
  | anime1 | anime2 => exact of_prudent (Acting.play_prudent _ _) known
  | animNow1 | animNow2 => exact of_prudent (Acting.play_prudent _ _) known
  | canim1 | canim2 => exact of_prudent (Acting.playRange_prudent _ _) known
  | canmNow1 | canmNow2 => exact of_prudent (Acting.playRange_prudent _ _) known
  | animw => exact of_prudent Acting.awaitEnd_prudent known
  | ccanm => exact of_prudent Acting.playLooped_prudent known
  | animb => exact of_prudent Acting.stop_prudent known
  | music => exact of_prudent Screen.playMusic_prudent known
  | sound => exact of_prudent Screen.playSound_prudent known
  | akao | akao2 => exact of_prudent (Screen.commandSound_prudent _) known
  | musvt | musvm | fmusc => exact of_prudent (Screen.commandMusic_prudent _) known
  | mulck => exact of_prudent Screen.lockMusic_prudent known
  | bmusc => exact of_prudent Screen.setBattleMusic_prudent known
  | chmst => exact of_prudent Screen.storeMusicPlaying_prudent known
  | pmvie => exact of_prudent Screen.prepareMovie_prudent known
  | movie => exact of_prudent Screen.playMovie_prudent known
  | mvief => exact of_prudent Screen.storeMovieFrame_prudent known
  | mvcam => exact of_prudent Screen.setMovieCamera_prudent known
  | shake => exact of_prudent Screen.shake_prudent known
  | fade => exact of_prudent Screen.fade_prudent known
  | nfade => exact of_prudent Screen.fadeOver_prudent known
  | fadew => exact of_polls Screen.awaitFade_polls id known
  | scrlo => exact of_prudent Screen.followPlayer_prudent known
  | scrlc => exact of_prudent Screen.scrollToPlayer_prudent known
  | scrla => exact of_prudent (Screen.scrollToEntity_prudent _) known
  | scr2d => exact of_prudent Screen.jumpToPoint_prudent known
  | scrcc => exact of_prudent Screen.jumpToPlayer_prudent known
  | scr2dc | scr2dl => exact of_prudent (Screen.scrollToPoint_prudent _) known
  | scrlw => exact of_polls Screen.awaitScroll_polls id known
  | scrlp => exact of_prudent (Screen.scrollToEntity_prudent _) known
  | special | bgmovie | kawai | kawiw | slip | gwcol | swcol | vwoft | setx | getx | searchx
  | line | sline | mppal | cppal2 | rtpal2 | adpal2 | chmph | cmusc =>
      cases known

end Opcode

/-- The rest of an instruction is carried out for certain. -/
theorem Continuation.plan_prudent {scene : Scene} {cursor : Cursor} (continuation : Continuation) :
    continuation.plan.Gives scene cursor (Plan.IsPrudent False) := by
  cases continuation with
  | move goal style => exact Movement.walk_prudent goal style
  | jump path => exact Movement.follow_prudent path .jump
  | ladder path => exact Movement.follow_prudent path .ladder
  | animation => exact Acting.awaitEnd_prudent

/-! ## What is worked out -/

namespace Machine

variable {code : Array UInt8} {scene : Scene} {ip next : Nat} {suspended? : Option Suspended}
  {plan : Plan}

/-- Whatever is worked out is the outcome of the opcode that stands there, or the rest of one. -/
theorem outcome_of_workOut (worked : workOut code scene ip suspended? = .ok (plan, next)) :
    (∃ op : Opcode, suspended? = none ∧ code[ip]? = some op.byte ∧
      op.Outcome scene ((Cursor.atStart code ip).forward 1) plan) ∨
    (suspended?.isSome ∧ plan.IsPrudent False) := by
  cases suspended? with
  | none =>
      obtain ⟨byte, reading, cursor, after, fetched, read, -⟩ := workOut_none_eq_ok.mp worked
      obtain ⟨stands, planned, rfl⟩ := fetch_eq_ok.mp fetched
      obtain ⟨op, rfl, known⟩ := planOfByte?_eq_some.mp planned
      exact .inl ⟨op, rfl, stands, op.outcome scene _ known plan after read⟩
  | some suspended =>
      obtain ⟨cursor, after, -, read, -⟩ := workOut_some_eq_ok.mp worked
      exact .inr ⟨rfl, suspended.continuation.plan_prudent plan after read⟩

/-- Only what polls is tried again, and never the rest of an instruction. -/
theorem polls_of_retry {entries : List Entry}
    (worked : workOut code scene ip suspended? = .ok (.retry entries, next)) :
    suspended? = none ∧ ∃ op : Opcode, code[ip]? = some op.byte ∧
      op.Polls scene ((Cursor.atStart code ip).forward 1) := by
  rcases outcome_of_workOut worked with ⟨op, fresh, stands, outcome⟩ | ⟨-, prudent⟩
  · refine ⟨fresh, op, stands, ?_⟩
    cases outcome with
    | prudent prudent =>
        cases prudent with
        | retry _ polls => exact polls
    | stores stores =>
        obtain ⟨deposits, -, same⟩ := stores
        cases same
  · cases prudent with
    | retry _ never => exact never.elim

/-- A question does nothing but ask. -/
theorem effects_of_ask {effects : List Effect} {ending : Ending}
    (stands : code[ip]? = some Opcode.ask.byte)
    (worked : workOut code scene ip none = .ok (.act effects ending, next)) : effects = [] := by
  obtain ⟨byte, reading, cursor, after, fetched, read, -⟩ := workOut_none_eq_ok.mp worked
  obtain ⟨here, planned, rfl⟩ := fetch_eq_ok.mp fetched
  obtain rfl : byte = Opcode.ask.byte := Option.some.inj (here.symm.trans stands)
  obtain ⟨op, same, known⟩ := planOfByte?_eq_some.mp planned
  obtain rfl : op = .ask := Opcode.byte_injective same
  cases known
  obtain ⟨ending, idle⟩ := Dialogue.ask_gives _ after read
  cases idle
  rfl

end Machine

end FieldMachine
