import FieldMachine.Text.Numeral

/-!
# Opcodes

The named instructions of field scripts: the byte and the mnemonic of each, and
the length of the instruction that starts with a byte.  Bytes without a name
have a length all the same, so that a listing can step over them.
-/

namespace FieldMachine

set_option autoImplicit false

/-- The named instructions, in the order of their bytes. -/
inductive Opcode
  | ret | req | reqsw | reqew | preq | prqsw | prqew | retto | join | split | sptye | gtpye
  | dskcg | special | jmpf | jmpfl | jmpb | jmpbl | ifub | ifubl | ifsw | ifswl | ifuw | ifuwl
  | minigame | tutor | btmd2 | btrld | wait | nfade | blink | bgmovie | kawai | kawiw | pmova
  | slip | bgpdh | bgscr | wcls | wsizw | ifkey | ifkeyon | ifkeyoff | uc | pdira | ptura | wspcl
  | wnumb | sttim | goldUp | goldDown | chgld | hmpmax1 | hmpmax2 | mhmmx | hmpmax3 | message
  | mpara | mpra2 | mpnam | mpUp | mpDown | ask | menu | menu2 | btltb | hpUp | hpDown | window
  | wmove | wmode | wrest | wclse | wrow | gwcol | swcol | stitm | dlitm | ckitm | smtra | dmtra
  | cmtra | shake | nop | mapjump | scrlo | scrlc | scrla | scr2d | scrcc | scr2dc | scrlw
  | scr2dl | mpdsp | vwoft | fade | fadew | idlck | lstmp | scrlp | battle | btlon | btlmd
  | pgtdr | getpc | pxyzi | plusSat | plus2Sat | minusSat | minus2Sat | incSat | inc2Sat | decSat
  | dec2Sat | tlkon | rdmsd | setbyte | setword | biton | bitoff | bitxor | plus | plus2 | minus
  | minus2 | mul | mul2 | div | div2 | mod | mod2 | and | and2 | or | or2 | xor | xor2 | inc
  | inc2 | dec | dec2 | random | lbyte | hbyte | twoByte | setx | getx | searchx | pc | char
  | dfanm | anime1 | visi | xyzi | xyi | xyz | move | cmove | mova | tura | animw | fmove
  | anime2 | animNow1 | canim1 | canmNow1 | msped | dir | turngen | turn | dira | getdir | getaxy
  | getai | animNow2 | canim2 | canmNow2 | asped | cc | jump | axyzi | lader | ofst | ofstw
  | talkr | slidr | solid | prtyp | prtym | prtye | ifprtyq | ifmembq | mmbud | mmblk | mmbuk
  | line | linon | mpjpo | sline | sin | cos | tlkr2 | sldr2 | pmjmp | pmjmp2 | akao2 | fcfix
  | ccanm | animb | turnw | mppal | bgon | bgoff | bgrol | bgrol2 | bgclr | stpal | ldpal | cppal
  | rtpal | adpal | mppal2 | stpls | ldpls | cppal2 | rtpal2 | adpal2 | music | sound | akao
  | musvt | musvm | mulck | bmusc | chmph | pmvie | movie | mvief | mvcam | fmusc | cmusc | chmst
  | gameover
deriving DecidableEq

namespace Opcode

/-- The byte of an instruction. -/
def byte : Opcode → UInt8
  | .ret => 0x00 | .req => 0x01 | .reqsw => 0x02 | .reqew => 0x03 | .preq => 0x04
  | .prqsw => 0x05 | .prqew => 0x06 | .retto => 0x07 | .join => 0x08 | .split => 0x09
  | .sptye => 0x0A | .gtpye => 0x0B | .dskcg => 0x0E | .special => 0x0F | .jmpf => 0x10
  | .jmpfl => 0x11 | .jmpb => 0x12 | .jmpbl => 0x13 | .ifub => 0x14 | .ifubl => 0x15
  | .ifsw => 0x16 | .ifswl => 0x17 | .ifuw => 0x18 | .ifuwl => 0x19 | .minigame => 0x20
  | .tutor => 0x21 | .btmd2 => 0x22 | .btrld => 0x23 | .wait => 0x24 | .nfade => 0x25
  | .blink => 0x26 | .bgmovie => 0x27 | .kawai => 0x28 | .kawiw => 0x29 | .pmova => 0x2A
  | .slip => 0x2B | .bgpdh => 0x2C | .bgscr => 0x2D | .wcls => 0x2E | .wsizw => 0x2F
  | .ifkey => 0x30 | .ifkeyon => 0x31 | .ifkeyoff => 0x32 | .uc => 0x33 | .pdira => 0x34
  | .ptura => 0x35 | .wspcl => 0x36 | .wnumb => 0x37 | .sttim => 0x38 | .goldUp => 0x39
  | .goldDown => 0x3A | .chgld => 0x3B | .hmpmax1 => 0x3C | .hmpmax2 => 0x3D | .mhmmx => 0x3E
  | .hmpmax3 => 0x3F | .message => 0x40 | .mpara => 0x41 | .mpra2 => 0x42 | .mpnam => 0x43
  | .mpUp => 0x45 | .mpDown => 0x47 | .ask => 0x48 | .menu => 0x49 | .menu2 => 0x4A
  | .btltb => 0x4B | .hpUp => 0x4D | .hpDown => 0x4F | .window => 0x50 | .wmove => 0x51
  | .wmode => 0x52 | .wrest => 0x53 | .wclse => 0x54 | .wrow => 0x55 | .gwcol => 0x56
  | .swcol => 0x57 | .stitm => 0x58 | .dlitm => 0x59 | .ckitm => 0x5A | .smtra => 0x5B
  | .dmtra => 0x5C | .cmtra => 0x5D | .shake => 0x5E | .nop => 0x5F | .mapjump => 0x60
  | .scrlo => 0x61 | .scrlc => 0x62 | .scrla => 0x63 | .scr2d => 0x64 | .scrcc => 0x65
  | .scr2dc => 0x66 | .scrlw => 0x67 | .scr2dl => 0x68 | .mpdsp => 0x69 | .vwoft => 0x6A
  | .fade => 0x6B | .fadew => 0x6C | .idlck => 0x6D | .lstmp => 0x6E | .scrlp => 0x6F
  | .battle => 0x70 | .btlon => 0x71 | .btlmd => 0x72 | .pgtdr => 0x73 | .getpc => 0x74
  | .pxyzi => 0x75 | .plusSat => 0x76 | .plus2Sat => 0x77 | .minusSat => 0x78
  | .minus2Sat => 0x79 | .incSat => 0x7A | .inc2Sat => 0x7B | .decSat => 0x7C | .dec2Sat => 0x7D
  | .tlkon => 0x7E | .rdmsd => 0x7F | .setbyte => 0x80 | .setword => 0x81 | .biton => 0x82
  | .bitoff => 0x83 | .bitxor => 0x84 | .plus => 0x85 | .plus2 => 0x86 | .minus => 0x87
  | .minus2 => 0x88 | .mul => 0x89 | .mul2 => 0x8A | .div => 0x8B | .div2 => 0x8C | .mod => 0x8D
  | .mod2 => 0x8E | .and => 0x8F | .and2 => 0x90 | .or => 0x91 | .or2 => 0x92 | .xor => 0x93
  | .xor2 => 0x94 | .inc => 0x95 | .inc2 => 0x96 | .dec => 0x97 | .dec2 => 0x98 | .random => 0x99
  | .lbyte => 0x9A | .hbyte => 0x9B | .twoByte => 0x9C | .setx => 0x9D | .getx => 0x9E
  | .searchx => 0x9F | .pc => 0xA0 | .char => 0xA1 | .dfanm => 0xA2 | .anime1 => 0xA3
  | .visi => 0xA4 | .xyzi => 0xA5 | .xyi => 0xA6 | .xyz => 0xA7 | .move => 0xA8 | .cmove => 0xA9
  | .mova => 0xAA | .tura => 0xAB | .animw => 0xAC | .fmove => 0xAD | .anime2 => 0xAE
  | .animNow1 => 0xAF | .canim1 => 0xB0 | .canmNow1 => 0xB1 | .msped => 0xB2 | .dir => 0xB3
  | .turngen => 0xB4 | .turn => 0xB5 | .dira => 0xB6 | .getdir => 0xB7 | .getaxy => 0xB8
  | .getai => 0xB9 | .animNow2 => 0xBA | .canim2 => 0xBB | .canmNow2 => 0xBC | .asped => 0xBD
  | .cc => 0xBF | .jump => 0xC0 | .axyzi => 0xC1 | .lader => 0xC2 | .ofst => 0xC3
  | .ofstw => 0xC4 | .talkr => 0xC5 | .slidr => 0xC6 | .solid => 0xC7 | .prtyp => 0xC8
  | .prtym => 0xC9 | .prtye => 0xCA | .ifprtyq => 0xCB | .ifmembq => 0xCC | .mmbud => 0xCD
  | .mmblk => 0xCE | .mmbuk => 0xCF | .line => 0xD0 | .linon => 0xD1 | .mpjpo => 0xD2
  | .sline => 0xD3 | .sin => 0xD4 | .cos => 0xD5 | .tlkr2 => 0xD6 | .sldr2 => 0xD7
  | .pmjmp => 0xD8 | .pmjmp2 => 0xD9 | .akao2 => 0xDA | .fcfix => 0xDB | .ccanm => 0xDC
  | .animb => 0xDD | .turnw => 0xDE | .mppal => 0xDF | .bgon => 0xE0 | .bgoff => 0xE1
  | .bgrol => 0xE2 | .bgrol2 => 0xE3 | .bgclr => 0xE4 | .stpal => 0xE5 | .ldpal => 0xE6
  | .cppal => 0xE7 | .rtpal => 0xE8 | .adpal => 0xE9 | .mppal2 => 0xEA | .stpls => 0xEB
  | .ldpls => 0xEC | .cppal2 => 0xED | .rtpal2 => 0xEE | .adpal2 => 0xEF | .music => 0xF0
  | .sound => 0xF1 | .akao => 0xF2 | .musvt => 0xF3 | .musvm => 0xF4 | .mulck => 0xF5
  | .bmusc => 0xF6 | .chmph => 0xF7 | .pmvie => 0xF8 | .movie => 0xF9 | .mvief => 0xFA
  | .mvcam => 0xFB | .fmusc => 0xFC | .cmusc => 0xFD | .chmst => 0xFE | .gameover => 0xFF

/-- The mnemonic of an instruction. -/
def mnemonic : Opcode → String
  | .ret => "RET" | .req => "REQ" | .reqsw => "REQSW" | .reqew => "REQEW" | .preq => "PREQ"
  | .prqsw => "PRQSW" | .prqew => "PRQEW" | .retto => "RETTO" | .join => "JOIN"
  | .split => "SPLIT" | .sptye => "SPTYE" | .gtpye => "GTPYE" | .dskcg => "DSKCG"
  | .special => "SPECIAL" | .jmpf => "JMPF" | .jmpfl => "JMPFL" | .jmpb => "JMPB"
  | .jmpbl => "JMPBL" | .ifub => "IFUB" | .ifubl => "IFUBL" | .ifsw => "IFSW" | .ifswl => "IFSWL"
  | .ifuw => "IFUW" | .ifuwl => "IFUWL" | .minigame => "MINIGAME" | .tutor => "TUTOR"
  | .btmd2 => "BTMD2" | .btrld => "BTRLD" | .wait => "WAIT" | .nfade => "NFADE"
  | .blink => "BLINK" | .bgmovie => "BGMOVIE" | .kawai => "KAWAI" | .kawiw => "KAWIW"
  | .pmova => "PMOVA" | .slip => "SLIP" | .bgpdh => "BGPDH" | .bgscr => "BGSCR" | .wcls => "WCLS"
  | .wsizw => "WSIZW" | .ifkey => "IFKEY" | .ifkeyon => "IFKEYON" | .ifkeyoff => "IFKEYOFF"
  | .uc => "UC" | .pdira => "PDIRA" | .ptura => "PTURA" | .wspcl => "WSPCL" | .wnumb => "WNUMB"
  | .sttim => "STTIM" | .goldUp => "GOLDu" | .goldDown => "GOLDd" | .chgld => "CHGLD"
  | .hmpmax1 => "HMPMAX1" | .hmpmax2 => "HMPMAX2" | .mhmmx => "MHMMX" | .hmpmax3 => "HMPMAX3"
  | .message => "MESSAGE" | .mpara => "MPARA" | .mpra2 => "MPRA2" | .mpnam => "MPNAM"
  | .mpUp => "MPu" | .mpDown => "MPd" | .ask => "ASK" | .menu => "MENU" | .menu2 => "MENU2"
  | .btltb => "BTLTB" | .hpUp => "HPu" | .hpDown => "HPd" | .window => "WINDOW"
  | .wmove => "WMOVE" | .wmode => "WMODE" | .wrest => "WREST" | .wclse => "WCLSE"
  | .wrow => "WROW" | .gwcol => "GWCOL" | .swcol => "SWCOL" | .stitm => "STITM"
  | .dlitm => "DLITM" | .ckitm => "CKITM" | .smtra => "SMTRA" | .dmtra => "DMTRA"
  | .cmtra => "CMTRA" | .shake => "SHAKE" | .nop => "NOP" | .mapjump => "MAPJUMP"
  | .scrlo => "SCRLO" | .scrlc => "SCRLC" | .scrla => "SCRLA" | .scr2d => "SCR2D"
  | .scrcc => "SCRCC" | .scr2dc => "SCR2DC" | .scrlw => "SCRLW" | .scr2dl => "SCR2DL"
  | .mpdsp => "MPDSP" | .vwoft => "VWOFT" | .fade => "FADE" | .fadew => "FADEW"
  | .idlck => "IDLCK" | .lstmp => "LSTMP" | .scrlp => "SCRLP" | .battle => "BATTLE"
  | .btlon => "BTLON" | .btlmd => "BTLMD" | .pgtdr => "PGTDR" | .getpc => "GETPC"
  | .pxyzi => "PXYZI" | .plusSat => "PLUS!" | .plus2Sat => "PLUS2!" | .minusSat => "MINUS!"
  | .minus2Sat => "MINUS2!" | .incSat => "INC!" | .inc2Sat => "INC2!" | .decSat => "DEC!"
  | .dec2Sat => "DEC2!" | .tlkon => "TLKON" | .rdmsd => "RDMSD" | .setbyte => "SETBYTE"
  | .setword => "SETWORD" | .biton => "BITON" | .bitoff => "BITOFF" | .bitxor => "BITXOR"
  | .plus => "PLUS" | .plus2 => "PLUS2" | .minus => "MINUS" | .minus2 => "MINUS2" | .mul => "MUL"
  | .mul2 => "MUL2" | .div => "DIV" | .div2 => "DIV2" | .mod => "MOD" | .mod2 => "MOD2"
  | .and => "AND" | .and2 => "AND2" | .or => "OR" | .or2 => "OR2" | .xor => "XOR"
  | .xor2 => "XOR2" | .inc => "INC" | .inc2 => "INC2" | .dec => "DEC" | .dec2 => "DEC2"
  | .random => "RANDOM" | .lbyte => "LBYTE" | .hbyte => "HBYTE" | .twoByte => "2BYTE"
  | .setx => "SETX" | .getx => "GETX" | .searchx => "SEARCHX" | .pc => "PC" | .char => "CHAR"
  | .dfanm => "DFANM" | .anime1 => "ANIME1" | .visi => "VISI" | .xyzi => "XYZI" | .xyi => "XYI"
  | .xyz => "XYZ" | .move => "MOVE" | .cmove => "CMOVE" | .mova => "MOVA" | .tura => "TURA"
  | .animw => "ANIMW" | .fmove => "FMOVE" | .anime2 => "ANIME2" | .animNow1 => "ANIM!1"
  | .canim1 => "CANIM1" | .canmNow1 => "CANM!1" | .msped => "MSPED" | .dir => "DIR"
  | .turngen => "TURNGEN" | .turn => "TURN" | .dira => "DIRA" | .getdir => "GETDIR"
  | .getaxy => "GETAXY" | .getai => "GETAI" | .animNow2 => "ANIM!2" | .canim2 => "CANIM2"
  | .canmNow2 => "CANM!2" | .asped => "ASPED" | .cc => "CC" | .jump => "JUMP" | .axyzi => "AXYZI"
  | .lader => "LADER" | .ofst => "OFST" | .ofstw => "OFSTW" | .talkr => "TALKR"
  | .slidr => "SLIDR" | .solid => "SOLID" | .prtyp => "PRTYP" | .prtym => "PRTYM"
  | .prtye => "PRTYE" | .ifprtyq => "IFPRTYQ" | .ifmembq => "IFMEMBQ" | .mmbud => "MMBud"
  | .mmblk => "MMBLK" | .mmbuk => "MMBUK" | .line => "LINE" | .linon => "LINON"
  | .mpjpo => "MPJPO" | .sline => "SLINE" | .sin => "SIN" | .cos => "COS" | .tlkr2 => "TLKR2"
  | .sldr2 => "SLDR2" | .pmjmp => "PMJMP" | .pmjmp2 => "PMJMP2" | .akao2 => "AKAO2"
  | .fcfix => "FCFIX" | .ccanm => "CCANM" | .animb => "ANIMB" | .turnw => "TURNW"
  | .mppal => "MPPAL" | .bgon => "BGON" | .bgoff => "BGOFF" | .bgrol => "BGROL"
  | .bgrol2 => "BGROL2" | .bgclr => "BGCLR" | .stpal => "STPAL" | .ldpal => "LDPAL"
  | .cppal => "CPPAL" | .rtpal => "RTPAL" | .adpal => "ADPAL" | .mppal2 => "MPPAL2"
  | .stpls => "STPLS" | .ldpls => "LDPLS" | .cppal2 => "CPPAL2" | .rtpal2 => "RTPAL2"
  | .adpal2 => "ADPAL2" | .music => "MUSIC" | .sound => "SOUND" | .akao => "AKAO"
  | .musvt => "MUSVT" | .musvm => "MUSVM" | .mulck => "MULCK" | .bmusc => "BMUSC"
  | .chmph => "CHMPH" | .pmvie => "PMVIE" | .movie => "MOVIE" | .mvief => "MVIEF"
  | .mvcam => "MVCAM" | .fmusc => "FMUSC" | .cmusc => "CMUSC" | .chmst => "CHMST"
  | .gameover => "GAMEOVER"

/-- The instruction of every byte, in the order of the bytes. -/
def table : Array (Option Opcode) := #[
    -- from 0x00
    some .ret, some .req, some .reqsw, some .reqew, some .preq, some .prqsw, some .prqew,
    some .retto, some .join, some .split, some .sptye, some .gtpye, none, none, some .dskcg,
    some .special,
    -- from 0x10
    some .jmpf, some .jmpfl, some .jmpb, some .jmpbl, some .ifub, some .ifubl, some .ifsw,
    some .ifswl, some .ifuw, some .ifuwl, none, none, none, none, none, none,
    -- from 0x20
    some .minigame, some .tutor, some .btmd2, some .btrld, some .wait, some .nfade, some .blink,
    some .bgmovie, some .kawai, some .kawiw, some .pmova, some .slip, some .bgpdh, some .bgscr,
    some .wcls, some .wsizw,
    -- from 0x30
    some .ifkey, some .ifkeyon, some .ifkeyoff, some .uc, some .pdira, some .ptura, some .wspcl,
    some .wnumb, some .sttim, some .goldUp, some .goldDown, some .chgld, some .hmpmax1,
    some .hmpmax2, some .mhmmx, some .hmpmax3,
    -- from 0x40
    some .message, some .mpara, some .mpra2, some .mpnam, none, some .mpUp, none, some .mpDown,
    some .ask, some .menu, some .menu2, some .btltb, none, some .hpUp, none, some .hpDown,
    -- from 0x50
    some .window, some .wmove, some .wmode, some .wrest, some .wclse, some .wrow, some .gwcol,
    some .swcol, some .stitm, some .dlitm, some .ckitm, some .smtra, some .dmtra, some .cmtra,
    some .shake, some .nop,
    -- from 0x60
    some .mapjump, some .scrlo, some .scrlc, some .scrla, some .scr2d, some .scrcc, some .scr2dc,
    some .scrlw, some .scr2dl, some .mpdsp, some .vwoft, some .fade, some .fadew, some .idlck,
    some .lstmp, some .scrlp,
    -- from 0x70
    some .battle, some .btlon, some .btlmd, some .pgtdr, some .getpc, some .pxyzi, some .plusSat,
    some .plus2Sat, some .minusSat, some .minus2Sat, some .incSat, some .inc2Sat, some .decSat,
    some .dec2Sat, some .tlkon, some .rdmsd,
    -- from 0x80
    some .setbyte, some .setword, some .biton, some .bitoff, some .bitxor, some .plus,
    some .plus2, some .minus, some .minus2, some .mul, some .mul2, some .div, some .div2,
    some .mod, some .mod2, some .and,
    -- from 0x90
    some .and2, some .or, some .or2, some .xor, some .xor2, some .inc, some .inc2, some .dec,
    some .dec2, some .random, some .lbyte, some .hbyte, some .twoByte, some .setx, some .getx,
    some .searchx,
    -- from 0xA0
    some .pc, some .char, some .dfanm, some .anime1, some .visi, some .xyzi, some .xyi,
    some .xyz, some .move, some .cmove, some .mova, some .tura, some .animw, some .fmove,
    some .anime2, some .animNow1,
    -- from 0xB0
    some .canim1, some .canmNow1, some .msped, some .dir, some .turngen, some .turn, some .dira,
    some .getdir, some .getaxy, some .getai, some .animNow2, some .canim2, some .canmNow2,
    some .asped, none, some .cc,
    -- from 0xC0
    some .jump, some .axyzi, some .lader, some .ofst, some .ofstw, some .talkr, some .slidr,
    some .solid, some .prtyp, some .prtym, some .prtye, some .ifprtyq, some .ifmembq,
    some .mmbud, some .mmblk, some .mmbuk,
    -- from 0xD0
    some .line, some .linon, some .mpjpo, some .sline, some .sin, some .cos, some .tlkr2,
    some .sldr2, some .pmjmp, some .pmjmp2, some .akao2, some .fcfix, some .ccanm, some .animb,
    some .turnw, some .mppal,
    -- from 0xE0
    some .bgon, some .bgoff, some .bgrol, some .bgrol2, some .bgclr, some .stpal, some .ldpal,
    some .cppal, some .rtpal, some .adpal, some .mppal2, some .stpls, some .ldpls, some .cppal2,
    some .rtpal2, some .adpal2,
    -- from 0xF0
    some .music, some .sound, some .akao, some .musvt, some .musvm, some .mulck, some .bmusc,
    some .chmph, some .pmvie, some .movie, some .mvief, some .mvcam, some .fmusc, some .cmusc,
    some .chmst, some .gameover]

/-- The instruction that a byte names. -/
def ofByte? (byte : UInt8) : Option Opcode := table[byte.toNat]?.join

/-- The bytes and the table name the same instructions. -/
theorem ofByte?_byte (op : Opcode) : ofByte? op.byte = some op := by
  cases op <;> decide +kernel

/-- The lengths of the instructions by their bytes, the byte itself included. -/
def lengths : Array Nat := #[
    -- from 0x00
    1, 3, 3, 3, 3, 3, 3, 2, 2, 15, 6, 6, 1, 1, 2, 2,
    -- from 0x10
    2, 3, 2, 3, 6, 7, 8, 9, 8, 9, 10, 3, 6, 1, 1, 1,
    -- from 0x20
    11, 2, 5, 3, 3, 9, 2, 2, 3, 1, 2, 2, 5, 7, 2, 10,
    -- from 0x30
    4, 4, 4, 2, 2, 4, 5, 8, 6, 6, 6, 4, 1, 1, 1, 1,
    -- from 0x40
    3, 5, 6, 2, 1, 5, 1, 5, 7, 4, 2, 2, 1, 5, 1, 5,
    -- from 0x50
    10, 6, 4, 2, 2, 3, 7, 7, 5, 5, 5, 7, 8, 10, 8, 1,
    -- from 0x60
    10, 2, 5, 6, 6, 1, 9, 1, 9, 2, 7, 9, 1, 4, 3, 6,
    -- from 0x70
    4, 2, 3, 4, 4, 8, 4, 5, 4, 5, 3, 3, 3, 3, 2, 3,
    -- from 0x80
    4, 5, 4, 4, 4, 4, 5, 4, 5, 4, 5, 4, 5, 4, 5, 4,
    -- from 0x90
    5, 4, 5, 4, 5, 3, 3, 3, 3, 3, 4, 5, 6, 7, 7, 11,
    -- from 0xA0
    2, 2, 3, 3, 2, 11, 9, 9, 6, 6, 2, 4, 1, 6, 3, 3,
    -- from 0xB0
    5, 5, 4, 3, 6, 6, 2, 4, 5, 4, 3, 5, 5, 4, 1, 2,
    -- from 0xC0
    11, 8, 15, 12, 1, 3, 3, 2, 2, 2, 4, 3, 3, 3, 2, 2,
    -- from 0xD0
    13, 2, 2, 16, 10, 10, 4, 4, 3, 1, 15, 2, 4, 1, 1, 11,
    -- from 0xE0
    4, 4, 3, 3, 3, 5, 5, 5, 7, 10, 10, 5, 5, 8, 8, 11,
    -- from 0xF0
    2, 5, 14, 2, 2, 2, 2, 4, 2, 1, 3, 2, 2, 8, 3, 1]

/-- The length of an instruction whose length does not depend on its operands. -/
def fixedLength (byte : UInt8) : Nat := lengths[byte.toNat]?.getD 0

/-- The length of the instruction, as the table has it. -/
def size (op : Opcode) : Nat := fixedLength op.byte

end Opcode

/-- The mnemonic of a byte; a byte without a name has a placeholder. -/
def mnemonicOf (byte : UInt8) : String :=
  match Opcode.ofByte? byte with
  | some op => op.mnemonic
  | none => "UNUSED_" ++ Numeral.hexUpper 2 byte.toNat

/-- The most bytes that the trailing payload of instruction 0x1C can have. -/
def payloadLimit : Nat := 128

/-- The length of the instruction at `start`, and none if it would not end inside `code`.
Instruction 0x1C carries a payload that its fifth operand measures, and `KAWAI` states its own
length unless that is zero. -/
def instructionLength? (code : Array UInt8) (start : Nat) : Option Nat := do
  let byte ← code[start]?
  let length ←
    if byte = 0x1C then do
      let payload ← code[start + 5]?
      some (Opcode.fixedLength byte + min payload.toNat payloadLimit)
    else if byte = Opcode.kawai.byte then do
      let own ← code[start + 1]?
      some (if own = 0 then Opcode.fixedLength byte else own.toNat)
    else some (Opcode.fixedLength byte)
  if start + length ≤ code.size then some length else none

/-- The places of at most `count` instructions one after the other, with their lengths; the last
place is one where no instruction fits. -/
def instructionLengths (code : Array UInt8) : Nat → Nat → List (Nat × Option Nat)
  | 0, _ => []
  | count + 1, place =>
      let length? := instructionLength? code place
      (place, length?) :: match length? with
        | none | some 0 => []
        | some length => instructionLengths code count (place + length)

end FieldMachine
