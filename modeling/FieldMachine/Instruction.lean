import FieldMachine.Instruction.Control
import FieldMachine.Instruction.Arithmetic
import FieldMachine.Instruction.Background
import FieldMachine.Instruction.Dialogue
import FieldMachine.Instruction.Transition
import FieldMachine.Instruction.Company
import FieldMachine.Instruction.Movement
import FieldMachine.Instruction.Acting
import FieldMachine.Instruction.Screen

/-!
# Instructions

What every opcode does.  Some named opcodes are only listed and never carried
out; for them there is no plan, just as for a byte without a name.
-/

namespace FieldMachine

set_option autoImplicit false

/-- How an opcode is worked out, if it can be carried out at all. -/
def Opcode.plan? : Opcode → Option (Reading Plan)
  | .ret => some Control.goBack
  | .req => some (Control.callEntity .forget)
  | .reqsw => some (Control.callEntity .retry)
  | .reqew => some (Control.callEntity .wait)
  | .preq => some (Control.callMember .forget)
  | .prqsw => some (Control.callMember .retry)
  | .prqew => some (Control.callMember .wait)
  | .retto => some Control.handOver
  | .jmpf => some (Control.jumpForward false)
  | .jmpfl => some (Control.jumpForward true)
  | .jmpb => some (Control.jumpBackward false)
  | .jmpbl => some (Control.jumpBackward true)
  | .ifub => some (Control.compare .byte false)
  | .ifubl => some (Control.compare .byte true)
  | .ifsw => some (Control.compare .signedWord false)
  | .ifswl => some (Control.compare .signedWord true)
  | .ifuw => some (Control.compare .word false)
  | .ifuwl => some (Control.compare .word true)
  | .wait => some Control.wait
  | .ifkey => some (Control.compareKeys Keys.held)
  | .ifkeyon => some (Control.compareKeys Keys.pressed)
  | .ifkeyoff => some (Control.compareKeys Keys.released)
  | .ifprtyq => some Control.compareParty
  | .ifmembq => some Control.compareAvailable
  | .nop => some Control.nothing
  | .plusSat => some (Arithmetic.binary .byte .addCapped)
  | .plus2Sat => some (Arithmetic.binary .word .addCapped)
  | .minusSat => some (Arithmetic.binary .byte .subFloored)
  | .minus2Sat => some (Arithmetic.binary .word .subFloored)
  | .incSat => some (Arithmetic.unary .byte .addCapped)
  | .inc2Sat => some (Arithmetic.unary .word .addCapped)
  | .decSat => some (Arithmetic.unary .byte .subFloored)
  | .dec2Sat => some (Arithmetic.unary .word .subFloored)
  | .rdmsd => some Arithmetic.reseed
  | .setbyte => some (Arithmetic.binary .byte .set)
  | .setword => some (Arithmetic.binary .word .set)
  | .biton => some Arithmetic.setBit
  | .bitoff => some Arithmetic.clearBit
  | .bitxor => some Arithmetic.flipBit
  | .plus => some (Arithmetic.binary .byte .add)
  | .plus2 => some (Arithmetic.binary .word .add)
  | .minus => some (Arithmetic.binary .byte .sub)
  | .minus2 => some (Arithmetic.binary .word .sub)
  | .mul => some (Arithmetic.binary .byte .mul)
  | .mul2 => some (Arithmetic.binary .word .mul)
  | .div => some (Arithmetic.binary .byte .div)
  | .div2 => some (Arithmetic.binary .word .div)
  | .mod => some (Arithmetic.binary .byte .mod)
  | .mod2 => some (Arithmetic.binary .word .mod)
  | .and => some (Arithmetic.binary .byte .and)
  | .and2 => some (Arithmetic.binary .word .and)
  | .or => some (Arithmetic.binary .byte .or)
  | .or2 => some (Arithmetic.binary .word .or)
  | .xor => some (Arithmetic.binary .byte .xor)
  | .xor2 => some (Arithmetic.binary .word .xor)
  | .inc => some (Arithmetic.unary .byte .add)
  | .inc2 => some (Arithmetic.unary .word .add)
  | .dec => some (Arithmetic.unary .byte .sub)
  | .dec2 => some (Arithmetic.unary .word .sub)
  | .random => some Arithmetic.random
  | .lbyte => some (Arithmetic.binary .byte .lowByte)
  | .hbyte => some (Arithmetic.binary .word .highByte)
  | .twoByte => some Arithmetic.pack
  | .sin => some (Arithmetic.angular Float32.sin)
  | .cos => some (Arithmetic.angular Float32.cos)
  | .bgon => some (Background.toggleLayer true)
  | .bgoff => some (Background.toggleLayer false)
  | .bgrol => some (Background.changeMask Background.rotateForward)
  | .bgrol2 => some (Background.changeMask Background.rotateBackward)
  | .bgclr => some (Background.changeMask fun _ => 0)
  | .bgpdh => some Background.setDepth
  | .bgscr => some Background.setScroll
  | .stpal => some (Background.copyPalette .live .store)
  | .ldpal => some (Background.copyPalette .store .live)
  | .cppal => some (Background.copyPalette .store .store)
  | .rtpal => some Background.rotatePalette
  | .adpal => some (Background.colorPalette Background.addToChannel)
  | .mppal2 => some (Background.colorPalette Background.scaleChannel)
  | .stpls => some (Background.copyRange .live .store)
  | .ldpls => some (Background.copyRange .store .live)
  | .window => some Dialogue.setGeometry
  | .wsizw => some Dialogue.setGeometry
  | .wmove => some Dialogue.moveWindow
  | .wmode => some Dialogue.setMode
  | .wrest => some Dialogue.resetWindow
  | .wcls => some (Dialogue.closeWindow false)
  | .wclse => some (Dialogue.closeWindow true)
  | .wrow => some Dialogue.setRows
  | .wspcl => some Dialogue.setSpecial
  | .wnumb => some Dialogue.setNumber
  | .sttim => some Dialogue.setTimer
  | .message => some Dialogue.message
  | .mpara => some Dialogue.setByteVariable
  | .mpra2 => some Dialogue.setWordVariable
  | .mpnam => some Dialogue.nameLocation
  | .ask => some Dialogue.ask
  | .menu => some Dialogue.menu
  | .menu2 => some Dialogue.allowMenu
  | .battle => some Transition.battle
  | .btlon => some Transition.allowEncounters
  | .btlmd => some Transition.setBattleMode
  | .btmd2 => some Transition.setLongBattleMode
  | .btrld => some Transition.storeBattleResult
  | .btltb => some Transition.setBattleTable
  | .mapjump => some Transition.leaveField
  | .mpjpo => some Transition.allowMapJumps
  | .pmjmp => some Transition.prepareField
  | .pmjmp2 => some Transition.hintField
  | .dskcg => some Transition.changeDisc
  | .minigame => some Transition.minigame
  | .tutor => some Transition.tutorial
  | .gameover => some Transition.gameOver
  | .lstmp => some Transition.storeLastField
  | .mpdsp => some Transition.showMinimap
  | .sptye => some Company.assignLoaded
  | .gtpye => some Company.storeSlots
  | .prtyp => some Company.add
  | .prtym => some Company.remove
  | .prtye => some Company.assign
  | .mmbud => some Company.setAvailable
  | .mmblk => some (Company.setLocked true)
  | .mmbuk => some (Company.setLocked false)
  | .goldUp => some (Company.changeGil .addGil)
  | .goldDown => some (Company.changeGil .takeGil)
  | .chgld => some Company.storeGil
  | .hmpmax1 => some (Company.change .restoreParty)
  | .hmpmax2 => some (Company.change .restoreAll)
  | .mhmmx => some (Company.change .restoreAll)
  | .hmpmax3 => some (Company.change .restoreParty)
  | .mpUp => some (Company.changePoints .raiseMp)
  | .mpDown => some (Company.changePoints .lowerMp)
  | .hpUp => some (Company.changePoints .raiseHp)
  | .hpDown => some (Company.changePoints .lowerHp)
  | .stitm => some (Company.changeItem .addItem)
  | .dlitm => some (Company.changeItem .removeItem)
  | .ckitm => some Company.storeItemCount
  | .smtra => some Company.addMateria
  | .dmtra => some Company.dropMateria
  | .cmtra => some Company.storeMateriaCount
  | .getpc => some Company.storeSlot
  | .pxyzi => some Company.storePlace
  | .pgtdr => some Company.storeDirection
  | .join => some Company.gather
  | .split => some Company.part
  | .pc => some Movement.playCharacter
  | .char => some Movement.setModel
  | .visi => some (Movement.setFlag .visible Reading.switch)
  | .xyzi => some Movement.place
  | .xyi => some Movement.placeOnTriangle
  | .xyz => some Movement.placeInSpace
  | .axyzi => some Movement.storePlace
  | .move => some (Movement.walkToPoint .walk)
  | .cmove => some (Movement.walkToPoint .keepFacing)
  | .fmove => some (Movement.walkToPoint .silent)
  | .mova => some Movement.walkToEntity
  | .pmova => some Movement.walkToMember
  | .tura => some Movement.turnToEntity
  | .ptura => some Movement.turnToMember
  | .dir => some Movement.face
  | .dira => some Movement.faceEntity
  | .pdira => some Movement.faceMember
  | .turngen => some Movement.turn
  | .turn => some Movement.turn
  | .turnw => some Movement.awaitTurn
  | .msped => some (Movement.setNumber Movement.loadedWord .setMoveSpeed)
  | .asped => some (Movement.setNumber Movement.loadedWord .setAnimationSpeed)
  | .getdir => some Movement.storeDirection
  | .getaxy => some Movement.storeGround
  | .getai => some Movement.storeTriangle
  | .cc => some Movement.setPlayer
  | .jump => some Movement.jump
  | .lader => some Movement.climb
  | .ofst => some Movement.shift
  | .ofstw => some Movement.awaitShift
  | .talkr => some (Movement.setNumber Movement.loadedByte .setTalkRange)
  | .slidr => some (Movement.setNumber Movement.loadedByte .setSolidRange)
  | .tlkr2 => some (Movement.setNumber Movement.loadedWord .setTalkRange)
  | .sldr2 => some (Movement.setNumber Movement.loadedWord .setSolidRange)
  | .solid => some (Movement.setFlag .solid Reading.inverseSwitch)
  | .tlkon => some (Movement.setFlag .talkable Reading.inverseSwitch)
  | .blink => some (Movement.setFlag .blink Reading.inverseSwitch)
  | .fcfix => some (Movement.setFlag .faceFixed Reading.switch)
  | .linon => some (Movement.setFlag .lineEnabled Reading.switch)
  | .uc => some Movement.allowControl
  | .idlck => some Movement.lockTriangle
  | .dfanm => some Acting.setIdle
  | .anime1 => some (Acting.play true true)
  | .anime2 => some (Acting.play false true)
  | .animNow1 => some (Acting.play true false)
  | .animNow2 => some (Acting.play false false)
  | .canim1 => some (Acting.playRange true true)
  | .canim2 => some (Acting.playRange false true)
  | .canmNow1 => some (Acting.playRange true false)
  | .canmNow2 => some (Acting.playRange false false)
  | .animw => some Acting.awaitEnd
  | .ccanm => some Acting.playLooped
  | .animb => some Acting.stop
  | .music => some Screen.playMusic
  | .sound => some Screen.playSound
  | .akao => some (Screen.commandSound false)
  | .akao2 => some (Screen.commandSound true)
  | .musvt => some (Screen.commandMusic .tempo)
  | .musvm => some (Screen.commandMusic .volume)
  | .mulck => some Screen.lockMusic
  | .bmusc => some Screen.setBattleMusic
  | .fmusc => some (Screen.commandMusic .setField)
  | .chmst => some Screen.storeMusicPlaying
  | .pmvie => some Screen.prepareMovie
  | .movie => some Screen.playMovie
  | .mvief => some Screen.storeMovieFrame
  | .mvcam => some Screen.setMovieCamera
  | .shake => some Screen.shake
  | .fade => some Screen.fade
  | .nfade => some Screen.fadeOver
  | .fadew => some Screen.awaitFade
  | .scrlo => some Screen.followPlayer
  | .scrlc => some Screen.scrollToPlayer
  | .scrla => some (Screen.scrollToEntity Reading.entityAt)
  | .scr2d => some Screen.jumpToPoint
  | .scrcc => some Screen.jumpToPlayer
  | .scr2dc => some (Screen.scrollToPoint .smooth)
  | .scrlw => some Screen.awaitScroll
  | .scr2dl => some (Screen.scrollToPoint .linear)
  | .scrlp => some (Screen.scrollToEntity Reading.partyEntity)
  | _ => none

/-- How the rest of an instruction is worked out. -/
def Continuation.plan : Continuation → Reading Plan
  | .move goal style => Movement.walk goal style
  | .jump path => Movement.follow path .jump
  | .ladder path => Movement.follow path .ladder
  | .animation => Acting.awaitEnd

/-- How the instruction that a byte starts is worked out. -/
def planOfByte? (byte : UInt8) : Option (Reading Plan) := (Opcode.ofByte? byte).bind Opcode.plan?

end FieldMachine
