import FieldMachine.Proofs.Palette
import Mathlib.Data.Nat.Bitwise

/-!
# Colour arithmetic

A colour is its three channels of five bits and its highest bit (`Background.color_ext`).
Two opcodes change the colours of a stored palette channel by channel and paint them over
another one, or over the same: one adds a signed amount to each channel, the other one
scales it (`Background.blended`).
-/

namespace FieldMachine

set_option autoImplicit false

open Section (byteAt)

namespace Background

/-! ## Channels -/

/-- A channel of a colour. -/
inductive Channel
  | red
  | green
  | blue
deriving DecidableEq

/-- The lowest bit of a channel. -/
def Channel.shift : Channel → Nat
  | .red => 0
  | .green => 5
  | .blue => 10

/-- What a colour has in a channel. -/
def Channel.field (channel : Channel) (color : UInt16) : Nat :=
  color.toNat / 2 ^ channel.shift % 32

/-- The highest bit of a colour, which belongs to no channel. -/
def highBit (color : UInt16) : Nat := color.toNat / 32768

/-- A colour put together. -/
theorem toNat_eq_fields (color : UInt16) : color.toNat = Channel.red.field color +
    32 * Channel.green.field color + 1024 * Channel.blue.field color + 32768 * highBit color := by
  simp only [Channel.field, Channel.shift, highBit]
  omega

/-- A colour is told by its channels and its highest bit. -/
theorem color_ext {first second : UInt16}
    (fields : ∀ channel : Channel, channel.field first = channel.field second)
    (high : highBit first = highBit second) : first = second := by
  rw [← UInt16.toNat_inj, toNat_eq_fields first, toNat_eq_fields second, fields, fields, fields,
    high]

theorem channel_eq_field (channel : Channel) (color : UInt16) :
    Background.channel color channel.shift.toUInt16 = channel.field color := by
  have mask (value : Nat) : value &&& 31 = value % 32 := Nat.and_two_pow_sub_one_eq_mod value 5
  rw [Background.channel, UInt16.toNat_and, UInt16.toNat_shiftRight,
    show (0x1F : UInt16).toNat = 31 from rfl, mask, Nat.shiftRight_eq_div_pow]
  cases channel <;> rfl

theorem toNat_clampChannel (value : Int) :
    (clampChannel value).toNat = (max 0 (min value 31)).toNat := by
  rw [clampChannel, Nat.toUInt16_eq, UInt16.toNat_ofNat']
  omega

/-- A number in the low bits and another one above them. -/
theorem or_shiftLeft {low high shift : Nat} (small : low < 2 ^ shift) :
    low ||| high <<< shift = low + 2 ^ shift * high := by
  rw [Nat.or_comm, ← Nat.shiftLeft_add_eq_or_of_lt small, Nat.shiftLeft_eq, Nat.mul_comm,
    Nat.add_comm]

theorem toNat_clampChannel_lt (value : Int) : (clampChannel value).toNat < 32 := by
  rw [toNat_clampChannel]
  omega

theorem toNat_clampChannel_shiftLeft (value : Int) {shift : UInt16} (low : shift.toNat < 11) :
    (clampChannel value <<< shift).toNat = (clampChannel value).toNat <<< shift.toNat := by
  have power : 2 ^ shift.toNat ≤ 2 ^ 10 := Nat.pow_le_pow_right (by decide) (by omega)
  have within : (clampChannel value).toNat <<< shift.toNat < 2 ^ 16 := by
    have product := Nat.mul_le_mul (Nat.le_of_lt_succ (toNat_clampChannel_lt value)) power
    rw [Nat.shiftLeft_eq]
    omega
  rw [UInt16.toNat_shiftLeft, Nat.mod_eq_of_lt (show shift.toNat < 16 by omega),
    Nat.mod_eq_of_lt within]

theorem toNat_rgb (red green blue : Int) : (rgb red green blue).toNat =
    (clampChannel red).toNat + 32 * (clampChannel green).toNat +
      1024 * (clampChannel blue).toNat := by
  have first := toNat_clampChannel_lt red
  have second := toNat_clampChannel_lt green
  rw [rgb, UInt16.toNat_or, UInt16.toNat_or, toNat_clampChannel_shiftLeft green (by decide),
    toNat_clampChannel_shiftLeft blue (by decide), show (5 : UInt16).toNat = 5 from rfl,
    show (10 : UInt16).toNat = 10 from rfl,
    or_shiftLeft (show (clampChannel red).toNat < 2 ^ 5 from first), or_shiftLeft (by omega)]
  rfl

theorem toNat_and_highBit (color : UInt16) : (color &&& 0x8000).toNat = 32768 * highBit color := by
  have small := color.toNat_lt
  rw [UInt16.toNat_and, show (0x8000 : UInt16).toNat = 2 ^ 15 from rfl, Nat.and_two_pow,
    Nat.toNat_testBit, highBit]
  omega

/-- What a change makes of what a colour has in a channel. -/
def Channel.changed (change : Int → UInt8 → Int) (amount : Channel → UInt8) (color : UInt16)
    (channel : Channel) : Nat :=
  (clampChannel (change (channel.field color) (amount channel))).toNat

/-- A colour that was changed, put together from what its channels have become. -/
theorem toNat_changeColor (change : Int → UInt8 → Int) (amount : Channel → UInt8) (color : UInt16) :
    (changeColor change (amount .red) (amount .green) (amount .blue) color).toNat =
      Channel.red.changed change amount color + 32 * Channel.green.changed change amount color +
        1024 * Channel.blue.changed change amount color + 32768 * highBit color := by
  have small (channel : Channel) : channel.changed change amount color < 32 :=
    toNat_clampChannel_lt _
  have low : Channel.red.changed change amount color +
      32 * Channel.green.changed change amount color +
        1024 * Channel.blue.changed change amount color < 2 ^ 15 := by
    have red := small .red
    have green := small .green
    have blue := small .blue
    omega
  have high : 32768 * highBit color = highBit color <<< 15 := by
    rw [Nat.shiftLeft_eq, Nat.mul_comm]
  rw [changeColor, show Background.channel color 0 = _ from channel_eq_field .red color,
    show Background.channel color 5 = _ from channel_eq_field .green color,
    show Background.channel color 10 = _ from channel_eq_field .blue color, UInt16.toNat_or,
    toNat_rgb, toNat_and_highBit, high]
  refine (or_shiftLeft low).trans ?_
  rw [← high]
  rfl

/-- Each channel changes by itself, and the highest bit stays. -/
theorem fields_changeColor (change : Int → UInt8 → Int) (amount : Channel → UInt8)
    (color : UInt16) :
    let changed := changeColor change (amount .red) (amount .green) (amount .blue) color
    (∀ channel : Channel, channel.field changed = channel.changed change amount color) ∧
      highBit changed = highBit color := by
  intro changed
  have whole : changed.toNat = _ := toNat_changeColor change amount color
  have small (channel : Channel) : channel.changed change amount color < 32 :=
    toNat_clampChannel_lt _
  have red := small .red
  have green := small .green
  have blue := small .blue
  refine ⟨fun channel => ?_, ?_⟩
  · rw [Channel.field, whole]
    cases channel <;> simp only [Channel.shift] <;> omega
  · rw [highBit, whole]
    omega

/-! ## Blending -/

/-- The opcodes that change the colours of a stored palette. -/
def coloring : List Opcode := [.adpal, .mppal2]

/-- What an instruction makes of what a colour has in a channel: it adds a signed amount, or takes
so many parts of 128. -/
def blended (op : Opcode) (field : Nat) (amount : UInt8) : Nat :=
  match op with
  | .adpal => (max 0 (min (field + Int.bmod amount.toNat 256) 31)).toNat
  | _ => min (field * amount.toNat / 128) 31

/-- The change of a channel that an instruction makes before the result is kept in range. -/
def changeOf : Opcode → Int → UInt8 → Int
  | .adpal => addToChannel
  | _ => scaleChannel

theorem toNat_toInt8 (amount : UInt8) : amount.toInt8.toInt = Int.bmod amount.toNat 256 :=
  BitVec.toInt_eq_toNat_bmod amount.toBitVec

theorem toNat_clampChannel_changeOf {op : Opcode} (member : op ∈ coloring) (field : Nat)
    (amount : UInt8) :
    (clampChannel (changeOf op field amount)).toNat = blended op field amount := by
  rw [toNat_clampChannel]
  simp only [coloring, List.mem_cons, List.not_mem_nil, or_false] at member
  rcases member with rfl | rfl
  · show (max 0 (min (addToChannel field amount) 31)).toNat =
      (max 0 (min (field + Int.bmod amount.toNat 256) 31)).toNat
    rw [addToChannel, toNat_toInt8]
  · have scaled : scaleChannel field amount = (field * amount.toNat / 128 : Nat) := by
      rw [scaleChannel]
      omega
    show (max 0 (min (scaleChannel field amount) 31)).toNat = min (field * amount.toNat / 128) 31
    rw [scaled]
    omega

/-- Twenty and a hundred are too much, one less than nothing is nothing, and half of nine is four.
-/
example : blended .adpal 20 100 = 31 ∧ blended .adpal 0 0xFF = 0 ∧ blended .mppal2 9 64 = 4 := by
  decide

/-! ## Operands -/

open Reading Arithmetic

/-- A change of the first colours of a stored palette into another one. -/
structure Recoloring where
  source : UInt8
  goal : UInt8
  blue : UInt8
  green : UInt8
  red : UInt8
  count : Nat
deriving DecidableEq

namespace Recoloring

/-- The amount for a channel. -/
def amount (recoloring : Recoloring) : Channel → UInt8
  | .red => recoloring.red
  | .green => recoloring.green
  | .blue => recoloring.blue

/-- How many colours are written; no more than a full palette has. -/
def finish (recoloring : Recoloring) : Nat := min recoloring.count paletteColors

/-- A colour that is written comes from the source, channel by channel, with its highest bit; behind
them the palette keeps its own. -/
def Paints (recoloring : Recoloring) (op : Opcode) (before : Palettes) (index : Nat)
    (color : UInt16) : Prop :=
  if index < recoloring.finish then
    (∀ channel : Channel, channel.field color =
      blended op (channel.field (before.color .store recoloring.source index))
        (recoloring.amount channel)) ∧
    highBit color = highBit (before.color .store recoloring.source index)
  else color = before.color .store recoloring.goal index

/-- The first colours of a palette have been blended. -/
def Blends (recoloring : Recoloring) (op : Opcode) (before after : Palettes) : Prop :=
  before.Repaints .store recoloring.goal recoloring.finish (recoloring.Paints op before) after

/-- The colours that an instruction puts into the store. -/
def colors (recoloring : Recoloring) (op : Opcode) (before : Palettes) : Palette :=
  changeColors (changeColor (changeOf op) recoloring.red recoloring.green recoloring.blue)
    (before.getOrBlack .store recoloring.source) (before.getOrBlack .store recoloring.goal)
    recoloring.count

theorem blends_put {op : Opcode} (member : op ∈ coloring) (recoloring : Recoloring)
    (before : Palettes) : recoloring.Blends op before
      (before.put .store recoloring.goal (recoloring.colors op before)) := by
  refine Palettes.repaints_put (by simp [colors, changeColors, finish]) fun index inside => ?_
  -- Both palettes are read before the goal is written: they may be the same slot.
  simp only [colors, changeColors, Array.getElem_ofFn]
  rw [Paints, finish]
  split
  · obtain ⟨fields, high⟩ := fields_changeColor (changeOf op) recoloring.amount
      (before.color .store recoloring.source index)
    refine ⟨fun channel => (fields channel).trans ?_, high⟩
    rw [Channel.changed, toNat_clampChannel_changeOf member]
  · rfl

end Recoloring

/-- The change that an instruction tells: two palettes, an amount for each channel, and a number of
colours less one, all behind three bytes of selectors. -/
def recoloringAt (memory : Memory) (code : Array UInt8) (place : Nat) :
    Except ExecError Recoloring := do
  let first : Selectors := { byte := byteAt code place }
  let second : Selectors := { byte := byteAt code (place + 1) }
  let third : Selectors := { byte := byteAt code (place + 2) }
  let source ← Control.operand memory first.high (byteAt code (place + 3)).toUInt16
  let goal ← Control.operand memory first.low (byteAt code (place + 4)).toUInt16
  let blue ← Control.operand memory second.high (byteAt code (place + 5)).toUInt16
  let green ← Control.operand memory second.low (byteAt code (place + 6)).toUInt16
  let red ← Control.operand memory third.high (byteAt code (place + 7)).toUInt16
  let count ← Control.operand memory third.low (byteAt code (place + 8)).toUInt16
  return { source := source.toUInt8, goal := goal.toUInt8, blue := blue.toUInt8,
           green := green.toUInt8, red := red.toUInt8, count := count.toNat + 1 }

/-- The plan of a change of colours. -/
def recoloringPlan (op : Opcode) (scene : Scene) (recoloring : Recoloring) : Plan :=
  .next [putPalette .store recoloring.goal (recoloring.colors op scene.world.stage.palettes)]

theorem colorPalette_of_le (op : Opcode) {scene : Scene} {cursor : Cursor}
    (inside : cursor.pc + 9 ≤ cursor.code.size) :
    colorPalette (changeOf op) scene cursor =
      (recoloringAt scene.session.memory cursor.code cursor.pc).bind fun recoloring =>
        .ok (recoloringPlan op scene recoloring, cursor.forward 9) := by
  have at1 : cursor.pc + 1 ≤ cursor.code.size := by omega
  have at2 : cursor.pc + (1 + 1) ≤ cursor.code.size := by omega
  have at3 : cursor.pc + (2 + 1) ≤ cursor.code.size := by omega
  have at4 : cursor.pc + (3 + 1) ≤ cursor.code.size := by omega
  have at5 : cursor.pc + (4 + 1) ≤ cursor.code.size := by omega
  have at6 : cursor.pc + (5 + 1) ≤ cursor.code.size := by omega
  have at7 : cursor.pc + (6 + 1) ≤ cursor.code.size := by omega
  have at8 : cursor.pc + (7 + 1) ≤ cursor.code.size := by omega
  simp only [colorPalette, bind_of_ok (selectors_of_le at1), bind_of_ok (selectors_forward at2),
    bind_of_ok (selectors_forward at3), bind_of_ok (byte_forward at4),
    bind_of_ok (byte_forward at5), bind_of_ok (byte_forward at6), bind_of_ok (byte_forward at7),
    bind_of_ok (byte_forward at8), bind_of_ok (byte_forward inside),
    bind_of_operand (loadByte_eq _ _), bind_of_operand (load_eq _ _)]
  rw [recoloringAt]
  exact bind_eq_bind_bind fun source => bind_eq_bind_bind fun goal => bind_eq_bind_bind fun blue =>
    bind_eq_bind_bind fun green => bind_eq_bind_bind fun red => bind_eq_bind_bind fun count => rfl

theorem plans_of_coloring {op : Opcode} (member : op ∈ coloring) :
    op.Plans (fun scene => recoloringAt scene.session.memory) (recoloringPlan op) := by
  simp only [coloring, List.mem_cons, List.not_mem_nil, or_false] at member
  rcases member with rfl | rfl
  · exact .of_works 9 rfl fun scene cursor => colorPalette_of_le .adpal
  · exact .of_works 9 rfl fun scene cursor => colorPalette_of_le .mppal2

end Background

/-! ## Steps -/

namespace Machine

open Background

/-- Colour arithmetic works channel by channel.

A lane goes on behind an instruction that changes the colours of a stored palette just if its bytes
are all there and its operands can be read.  Then it has repainted one palette of the store, and
nothing else in the world has changed: each of the first colours has in each channel what the
instruction makes of that channel of the source with the amount for it, and the highest bit of the
source; the source is read as it was, also if it is the palette that is repainted.  Otherwise the
palettes stay as they were.  A colour is told by its channels and its highest bit, so that this says
all about the colours. -/
theorem channels_are_blended {σ : Type} (setting : Setting σ) :
    (∀ {first second : UInt16}, (∀ channel : Channel, channel.field first = channel.field second) →
      highBit first = highBit second → first = second) ∧
    (∀ {machine : Machine σ} {id : EntityId} {priority place : Nat} {lane : Lane} {op : Opcode},
      machine.world.lane? id priority = some lane → lane.Begins setting.source.code place op →
      op ∈ coloring →
      let stepped := machine.step setting id priority
      let read := recoloringAt machine.session.memory setting.source.code (place + 1)
      (stepped.2 = .goOn ↔
        place + op.size ≤ setting.source.code.size ∧ ∃ recoloring, read = .ok recoloring) ∧
      (stepped.2 = .goOn → ∃ recoloring palettes, read = .ok recoloring ∧
        recoloring.Blends op machine.palettes palettes ∧
        machine.Recolors id priority (place + op.size) palettes stepped.1) ∧
      (stepped.2 ≠ .goOn → stepped.1.palettes = machine.palettes)) := by
  refine ⟨color_ext, ?_⟩
  intro machine id priority place lane op here begins member stepped read
  obtain ⟨goesOn, done, stops⟩ := recolors_of_plans (plans_of_coloring member) here begins
  refine ⟨goesOn, fun went => ?_, stops⟩
  obtain ⟨recoloring, found, recolors⟩ := done went
  exact ⟨recoloring, _, found, recoloring.blends_put member machine.palettes, recolors⟩

end Machine

/-! ## Two colours -/

namespace Tint

/-- A palette is put into the store, changed where it is by adding, and scaled into another slot. -/
def setting : Setting Unit := .ofScripts
  [[0xE5, 0x00, 0x01, 0x02, 0x03, 0xE9, 0x00, 0x00, 0x00, 0x02, 0x02, 0xFF, 0x05, 0x64, 0x01,
    0xEA, 0x00, 0x00, 0x00, 0x02, 0x04, 0x40, 0x80, 0xFF, 0x01, 0x00, 0x00]]

/-- The field after so many instructions; the first of the two colours has its highest bit set. -/
def after (count : Nat) : Machine Unit :=
  ((setting.entered (Session.fresh setting.config)).loadPalette 1
    #[20 + 32 * 30 + 32768, 2 + 32 * 3 + 1024 * 10]).afterSteps setting 0 0 count

/-- One is taken off the blue of both colours, five are added to the green and a hundred to the red,
where they are; then the blue is halved in another slot, the green is left alone and the red nearly
doubled. -/
theorem added_and_scaled :
    (Background.Recoloring.mk 2 2 0xFF 5 100 2).Blends .adpal (after 1).palettes
        (after 2).palettes ∧
      (Background.Recoloring.mk 2 4 64 128 0xFF 2).Blends .mppal2 (after 2).palettes
        (after 3).palettes := by
  obtain ⟨⟨add, scale⟩, ⟨here, there⟩, ⟨added, scaled⟩, first, second⟩ :
      (setting.source.code[111]? = some Opcode.adpal.byte ∧
        setting.source.code[121]? = some Opcode.mppal2.byte) ∧
      ((after 1).world.lane? 0 0 = some (.at 111) ∧
        (after 2).world.lane? 0 0 = some (.at 121)) ∧
      (((after 1).step setting 0 0).2 = .goOn ∧ ((after 2).step setting 0 0).2 = .goOn) ∧
      (Background.recoloringAt (after 1).session.memory setting.source.code 112).toOption =
        some ⟨2, 2, 0xFF, 5, 100, 2⟩ ∧
      (Background.recoloringAt (after 2).session.memory setting.source.code 122).toOption =
        some ⟨2, 4, 64, 128, 0xFF, 2⟩ := by decide +kernel
  obtain ⟨-, steps⟩ := Machine.channels_are_blended setting
  obtain ⟨-, adds, -⟩ := steps here (Lane.begins_at add) (by decide)
  obtain ⟨-, scales, -⟩ := steps there (Lane.begins_at scale) (by decide)
  obtain ⟨sum, _, readSum, blendsSum, stepsSum⟩ := adds added
  obtain ⟨product, _, readProduct, blendsProduct, stepsProduct⟩ := scales scaled
  cases readSum.symm.trans (eq_ok_of_toOption first)
  cases readProduct.symm.trans (eq_ok_of_toOption second)
  rw [← stepsSum.palettes] at blendsSum
  rw [← stepsProduct.palettes] at blendsProduct
  exact ⟨blendsSum, blendsProduct⟩

end Tint

end FieldMachine
