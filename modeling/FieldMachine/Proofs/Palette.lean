import FieldMachine.Proofs.Operand

/-!
# Palettes and the store

Scripts keep palettes in the slots of a store while they change those of the background.
An instruction that writes colours repaints a single palette on one of the two shelves
(`Palettes.Repaints`): it grows as far as colours are written, and what else it holds and
all other palettes stay as they are.

Five opcodes copy a range of colours from one palette to another, on the same shelf or on
the other one (`Background.transferring`).  A range that is put away in the store and
taken back over the same indices is as it was, whatever the lengths of the palettes are
and wherever the range ends (`Background.Transfer.Copies.roundTrip`).
-/

namespace FieldMachine

set_option autoImplicit false

open Section (byteAt wordAt)

/-! ## Colours -/

namespace Palettes

variable {before after palettes : Palettes} {shelf target : PaletteShelf} {id goal : UInt8}

/-- A colour of a palette.  An absent palette is black, and so is what lies past the end of one. -/
def color (palettes : Palettes) (shelf : PaletteShelf) (id : UInt8) (index : Nat) : UInt16 :=
  Background.colorAt (palettes.getOrBlack shelf id) index

theorem color_of_held {palette : Palette} (held : (palettes.shelf shelf)[id]? = some palette)
    (index : Nat) : palettes.color shelf id index = Background.colorAt palette index := by
  rw [color, getOrBlack, held, Option.getD_some]

theorem color_of_size_le {index : Nat} (past : (palettes.getOrBlack shelf id).size ≤ index) :
    palettes.color shelf id index = 0 := by
  rw [color, Background.colorAt, Array.getElem?_eq_none past, Option.getD_none]

theorem getOrBlack_congr (same : (after.shelf shelf)[id]? = (before.shelf shelf)[id]?) :
    after.getOrBlack shelf id = before.getOrBlack shelf id := by
  rw [getOrBlack, getOrBlack, same]

theorem color_congr (same : (after.shelf shelf)[id]? = (before.shelf shelf)[id]?) (index : Nat) :
    after.color shelf id index = before.color shelf id index := by
  rw [color, color, getOrBlack_congr same]

theorem shelf_put (palettes : Palettes) (target shelf : PaletteShelf) (goal : UInt8)
    (palette : Palette) : (palettes.put target goal palette).shelf shelf =
      if shelf = target then (palettes.shelf shelf).insert goal palette
      else palettes.shelf shelf := by
  cases target <;> cases shelf <;> rfl

/-- One palette has been repainted: it is as long as before, or reaches as far as colours were
written, and each of its colours is as it is to be painted.  All others are as before. -/
structure Repaints (before : Palettes) (target : PaletteShelf) (goal : UInt8) (finish : Nat)
    (paints : Nat → UInt16 → Prop) (after : Palettes) : Prop where
  painted : ∃ palette, (after.shelf target)[goal]? = some palette ∧
    palette.size = max (before.getOrBlack target goal).size finish ∧
    ∀ (index : Nat) (inside : index < palette.size), paints index palette[index]
  others : ∀ shelf id, shelf ≠ target ∨ id ≠ goal →
    (after.shelf shelf)[id]? = (before.shelf shelf)[id]?

theorem repaints_put {palette : Palette} {finish : Nat} {paints : Nat → UInt16 → Prop}
    (size : palette.size = max (before.getOrBlack target goal).size finish)
    (painted : ∀ (index : Nat) (inside : index < palette.size), paints index palette[index]) :
    before.Repaints target goal finish paints (before.put target goal palette) where
  painted := by
    refine ⟨palette, ?_, size, painted⟩
    rw [shelf_put, if_pos rfl, Std.ExtTreeMap.getElem?_insert_self]
  others shelf id other := by
    rw [shelf_put]
    split
    case isTrue own =>
      have apart : compare goal id ≠ .eq := by
        rw [ne_eq, Std.LawfulEqCmp.compare_eq_iff_eq]
        exact fun same => other.elim (· own) (· same.symm)
      rw [Std.ExtTreeMap.getElem?_insert, if_neg apart]
    case isFalse => rfl

/-- The colours of a palette that is painted index by index, and black past its end. -/
theorem Repaints.color {finish : Nat} {colors : Nat → UInt16}
    (repaints : before.Repaints target goal finish (fun index color => color = colors index) after)
    (past : ∀ index, max (before.getOrBlack target goal).size finish ≤ index → colors index = 0)
    (index : Nat) : after.color target goal index = colors index := by
  obtain ⟨palette, held, size, painted⟩ := repaints.painted
  rw [color_of_held held, Background.colorAt]
  by_cases inside : index < palette.size
  · rw [Array.getElem?_eq_getElem inside, Option.getD_some, painted index inside]
  · rw [Array.getElem?_eq_none (Nat.le_of_not_lt inside), Option.getD_none,
      past index (size ▸ Nat.le_of_not_lt inside)]

end Palettes

/-! ## Ranges that are copied -/

namespace Background

/-- A range of colours that is copied from one palette to another. -/
structure Transfer where
  source : UInt8
  goal : UInt8
  start : Nat
  count : Nat
deriving DecidableEq

namespace Transfer

variable {origin target : PaletteShelf} {before middle after : Palettes}

/-- Where the range ends; it reaches no further than a full palette. -/
def finish (transfer : Transfer) : Nat := min (transfer.start + transfer.count) paletteColors

/-- The colours of the palette that is copied to: in the range those of the source, elsewhere those
that it had. -/
def colors (transfer : Transfer) (origin target : PaletteShelf) (before : Palettes) (index : Nat) :
    UInt16 :=
  if transfer.start ≤ index ∧ index < transfer.finish then before.color origin transfer.source index
  else before.color target transfer.goal index

/-- A range has been copied. -/
def Copies (transfer : Transfer) (origin target : PaletteShelf) (before after : Palettes) : Prop :=
  before.Repaints target transfer.goal transfer.finish
    (fun index color => color = transfer.colors origin target before index) after

theorem copies_put (transfer : Transfer) (origin target : PaletteShelf) (before : Palettes) :
    transfer.Copies origin target before (before.put target transfer.goal
      (copyColors (before.getOrBlack origin transfer.source)
        (before.getOrBlack target transfer.goal) transfer.start transfer.count)) := by
  refine Palettes.repaints_put (by simp [copyColors, finish]) fun index inside => ?_
  simp only [copyColors, Array.getElem_ofFn, Bool.and_eq_true, decide_eq_true_iff]
  rfl

theorem Copies.color {transfer : Transfer} (copies : transfer.Copies origin target before after)
    (index : Nat) :
    after.color target transfer.goal index = transfer.colors origin target before index := by
  refine Palettes.Repaints.color copies (fun index past => ?_) index
  have outside : ¬(transfer.start ≤ index ∧ index < transfer.finish) := by omega
  rw [colors, if_neg outside, Palettes.color_of_size_le (by omega)]

/-- A palette of which a range is copied onto itself keeps its colours, and all others do. -/
theorem Copies.color_self {transfer : Transfer}
    (copies : transfer.Copies target target before after) (same : transfer.source = transfer.goal)
    (shelf : PaletteShelf) (id : UInt8) (index : Nat) :
    after.color shelf id index = before.color shelf id index := by
  by_cases own : shelf = target ∧ id = transfer.goal
  · obtain ⟨rfl, rfl⟩ := own
    rw [copies.color, colors, same, ite_self]
  · exact Palettes.color_congr (copies.others shelf id (Decidable.not_and_iff_or_not.mp own)) index

/-- What is left of two transfers, the second of which takes back what the first one has put away.
In the range the palette has the colours of the one that was put away, and elsewhere its own; but
for the slot of the store, all others are as before. -/
structure RoundTrip (stored loaded : Transfer) (before after : Palettes) : Prop where
  painted : ∃ palette, after.live[loaded.goal]? = some palette ∧
    palette.size = max (before.getOrBlack .live loaded.goal).size stored.finish ∧
    ∀ (index : Nat) (inside : index < palette.size), palette[index] =
      if stored.start ≤ index ∧ index < stored.finish then before.color .live stored.source index
      else before.color .live loaded.goal index
  live : ∀ id ≠ loaded.goal, after.live[id]? = before.live[id]?
  store : ∀ id ≠ stored.goal, after.store[id]? = before.store[id]?

theorem Copies.roundTrip {stored loaded : Transfer}
    (out : stored.Copies .live .store before middle)
    (back : loaded.Copies .store .live middle after) (slot : loaded.source = stored.goal)
    (start : loaded.start = stored.start) (count : loaded.count = stored.count) :
    RoundTrip stored loaded before after := by
  have finish : loaded.finish = stored.finish := by
    rw [Transfer.finish, start, count, Transfer.finish]
  have kept (id : UInt8) : (middle.shelf .live)[id]? = (before.shelf .live)[id]? :=
    out.others .live id (.inl nofun)
  refine ⟨?_, fun id other => ?_, fun id other => ?_⟩
  · obtain ⟨palette, held, size, painted⟩ := back.painted
    refine ⟨palette, held, ?_, fun index inside => ?_⟩
    · rw [size, Palettes.getOrBlack_congr (kept _), finish]
    · -- The colours that were put away are told also past the end of the stored palette, so that
      -- it does not matter how long any of the palettes are.
      rw [painted index inside, colors, start, finish, slot, out.color, colors,
        Palettes.color_congr (kept _)]
      split <;> rfl
  · exact (back.others .live id (.inr other)).trans (kept id)
  · exact (back.others .store id (.inl nofun)).trans (out.others .store id (.inr other))

end Transfer

/-! ## Operands -/

open Reading Arithmetic

/-- The opcodes that copy colours. -/
def transferring : List Opcode := [.stpal, .ldpal, .cppal, .stpls, .ldpls]

/-- The shelf that an instruction takes colours from. -/
def originOf : Opcode → PaletteShelf
  | .stpal | .stpls => .live
  | _ => .store

/-- The shelf on which an instruction repaints a palette. -/
def targetOf : Opcode → PaletteShelf
  | .ldpal | .ldpls => .live
  | _ => .store

/-- Two palettes that are named behind a byte of selectors, and a number of colours less one. -/
def loadedTransferAt (memory : Memory) (code : Array UInt8) (place : Nat) :
    Except ExecError Transfer := do
  let selectors : Selectors := { byte := byteAt code place }
  let source ← Control.operand memory selectors.high (byteAt code (place + 1)).toUInt16
  let goal ← Control.operand memory selectors.low (byteAt code (place + 2)).toUInt16
  return { source := source.toUInt8, goal := goal.toUInt8, start := 0,
           count := (byteAt code (place + 3)).toNat + 1 }

/-- The range that an instruction copies, and between which palettes. -/
def transferAt (op : Opcode) (memory : Memory) (code : Array UInt8) (place : Nat) :
    Except ExecError Transfer :=
  match op with
  | .stpal | .ldpal | .cppal => loadedTransferAt memory code place
  | .stpls | .ldpls =>
      .ok { source := byteAt code place, goal := byteAt code (place + 1),
            start := (byteAt code (place + 2)).toNat,
            count := (byteAt code (place + 3)).toNat + 1 }
  | _ => .error (.unknownOpcode op.byte place)

/-- The plan of a transfer. -/
def transferPlan (op : Opcode) (scene : Scene) (transfer : Transfer) : Plan :=
  let palettes := scene.world.stage.palettes
  .next [putPalette (targetOf op) transfer.goal
    (copyColors (palettes.getOrBlack (originOf op) transfer.source)
      (palettes.getOrBlack (targetOf op) transfer.goal) transfer.start transfer.count)]

variable {scene : Scene} {cursor : Cursor}

theorem copyPalette_of_le (op : Opcode) (inside : cursor.pc + 4 ≤ cursor.code.size) :
    copyPalette (originOf op) (targetOf op) scene cursor =
      (loadedTransferAt scene.session.memory cursor.code cursor.pc).bind fun transfer =>
        .ok (transferPlan op scene transfer, cursor.forward 4) := by
  have first : cursor.pc + 1 ≤ cursor.code.size := by omega
  have second : cursor.pc + (1 + 1) ≤ cursor.code.size := by omega
  have third : cursor.pc + (2 + 1) ≤ cursor.code.size := by omega
  simp only [copyPalette, bind_of_ok (selectors_of_le first), bind_of_ok (byte_forward second),
    bind_of_ok (byte_forward third), bind_of_ok (byte_forward inside),
    bind_of_operand (loadByte_eq _ _)]
  exact bind_eq_bind_bind fun source => bind_eq_bind_bind fun goal => rfl

theorem copyRange_of_le (op : Opcode) (inside : cursor.pc + 4 ≤ cursor.code.size) :
    copyRange (originOf op) (targetOf op) scene cursor =
      .ok (transferPlan op scene
        { source := byteAt cursor.code cursor.pc, goal := byteAt cursor.code (cursor.pc + 1),
          start := (byteAt cursor.code (cursor.pc + 2)).toNat,
          count := (byteAt cursor.code (cursor.pc + 3)).toNat + 1 }, cursor.forward 4) := by
  have first : cursor.pc + 1 ≤ cursor.code.size := by omega
  have second : cursor.pc + (1 + 1) ≤ cursor.code.size := by omega
  have third : cursor.pc + (2 + 1) ≤ cursor.code.size := by omega
  rw [copyRange, bind_of_ok (byte_of_le first), bind_of_ok (byte_forward second),
    bind_of_ok (byte_forward third), bind_of_ok (byte_forward inside)]
  rfl

theorem plans_of_transferring {op : Opcode} (member : op ∈ transferring) :
    op.Plans (fun scene => transferAt op scene.session.memory) (transferPlan op) := by
  simp only [transferring, List.mem_cons, List.not_mem_nil, or_false] at member
  rcases member with rfl | rfl | rfl | rfl | rfl
  · exact .of_works 4 rfl fun scene cursor => copyPalette_of_le .stpal
  · exact .of_works 4 rfl fun scene cursor => copyPalette_of_le .ldpal
  · exact .of_works 4 rfl fun scene cursor => copyPalette_of_le .cppal
  · exact .of_works 4 rfl fun scene cursor => copyRange_of_le .stpls
  · exact .of_works 4 rfl fun scene cursor => copyRange_of_le .ldpls

end Background

/-! ## Steps -/

namespace Machine

open Background

variable {σ : Type} {setting : Setting σ} {machine : Machine σ} {id : EntityId}
  {priority place : Nat} {lane : Lane} {op : Opcode}

/-- The palettes of the stage. -/
def palettes (machine : Machine σ) : Palettes := machine.world.stage.palettes

/-- A step that goes on and has replaced the palettes, and has changed nothing else in the world. -/
def Recolors (machine : Machine σ) (id : EntityId) (priority next : Nat) (palettes : Palettes)
    (after : Machine σ) : Prop :=
  after.session = machine.session ∧ after.world =
    (machine.world.updateStage fun stage => { stage with palettes }).updateLane id priority
      (·.advance next)

theorem Recolors.palettes {next : Nat} {palettes : Palettes} {after : Machine σ}
    (recolors : machine.Recolors id priority next palettes after) : after.palettes = palettes := by
  rw [Machine.palettes, recolors.2]
  rfl

/-- A lane goes on after a palette has been put on a shelf. -/
theorem carryOut_putPalette (setting : Setting σ) (machine : Machine σ) (next : Nat)
    (shelf : PaletteShelf) (goal : UInt8) (palette : Palette) :
    let stepped := machine.carryOut setting id priority place next lane
      (.next [putPalette shelf goal palette])
    stepped.2 = .goOn ∧
      machine.Recolors id priority next (machine.palettes.put shelf goal palette) stepped.1 := by
  cases shelf with
  | store => exact ⟨rfl, rfl, rfl⟩
  | live =>
      let painted := machine.updateWorld fun world => world.updateStage fun stage =>
        { stage with palettes := stage.palettes.put .live goal palette }
      obtain ⟨host, journal, same⟩ := notify_eq setting painted (.changed (.palette goal))
      have performed : Effect.performAll setting machine [putPalette .live goal palette] =
          ({ painted with host, journal }, none) :=
        congrArg (·, none) same
      simp only [carryOut, Plan.next, performed]
      exact ⟨rfl, rfl, rfl⟩

/-- A step on an instruction that repaints a palette.  The lane goes on just if the instruction lies
inside the code and its operands can be read; otherwise the palettes stay as they were. -/
theorem recolors_of_plans {α : Type} {operands : Scene → Array UInt8 → Nat → Except ExecError α}
    {shelf : PaletteShelf} {goal : α → UInt8} {colors : Scene → α → Palette}
    (plans : op.Plans operands fun scene told =>
      .next [putPalette shelf (goal told) (colors scene told)])
    (here : machine.world.lane? id priority = some lane)
    (begins : lane.Begins setting.source.code place op) :
    let stepped := machine.step setting id priority
    let scene := machine.sceneOf setting id priority place lane
    let read := operands scene setting.source.code (place + 1)
    (stepped.2 = .goOn ↔
      place + op.size ≤ setting.source.code.size ∧ ∃ told, read = .ok told) ∧
    (stepped.2 = .goOn → ∃ told, read = .ok told ∧
      machine.Recolors id priority (place + op.size)
        (machine.palettes.put shelf (goal told) (colors scene told)) stepped.1) ∧
    (stepped.2 ≠ .goOn → stepped.1.palettes = machine.palettes) := by
  obtain ⟨goesOn, done, stops⟩ := goOn_of_plans plans here begins fun machine scene told =>
    (carryOut_putPalette setting machine _ shelf (goal told) (colors scene told)).1
  intro stepped scene read
  refine ⟨goesOn, fun went => ?_, fun stopped => ?_⟩
  · obtain ⟨told, found, same⟩ := done went
    refine ⟨told, found, ?_⟩
    rw [show stepped = _ from same]
    exact (carryOut_putPalette setting _ _ shelf (goal told) (colors scene told)).2
  · obtain ⟨error, same⟩ := stops stopped
    obtain ⟨host, journal, given⟩ := giveUp_eq setting
      (machine.note (.executing id priority place op.byte)) id priority place error
    rw [show stepped.1 = _ from congrArg Prod.fst same, given]
    rfl

/-- A lane stands on an instruction that copies colours, all of whose bytes are there and whose
operands can be read. -/
structure Transfers (setting : Setting σ) (machine : Machine σ) (id : EntityId) (priority : Nat)
    (op : Opcode) (transfer : Transfer) : Prop where
  stands : ∃ lane place, machine.world.lane? id priority = some lane ∧
    lane.Begins setting.source.code place op ∧ place + op.size ≤ setting.source.code.size ∧
    transferAt op machine.session.memory setting.source.code (place + 1) = .ok transfer

/-- A step on an instruction that copies colours. -/
theorem step_of_transferring (here : machine.world.lane? id priority = some lane)
    (begins : lane.Begins setting.source.code place op) (member : op ∈ transferring) :
    let stepped := machine.step setting id priority
    let read := transferAt op machine.session.memory setting.source.code (place + 1)
    (stepped.2 = .goOn ↔
      place + op.size ≤ setting.source.code.size ∧ ∃ transfer, read = .ok transfer) ∧
    (stepped.2 = .goOn → ∃ transfer palettes, read = .ok transfer ∧
      transfer.Copies (originOf op) (targetOf op) machine.palettes palettes ∧
      machine.Recolors id priority (place + op.size) palettes stepped.1) ∧
    (stepped.2 ≠ .goOn → stepped.1.palettes = machine.palettes) := by
  obtain ⟨goesOn, done, stops⟩ := recolors_of_plans (plans_of_transferring member) here begins
  refine ⟨goesOn, fun went => ?_, stops⟩
  obtain ⟨transfer, found, recolors⟩ := done went
  exact ⟨transfer, _, found, transfer.copies_put (originOf op) (targetOf op) machine.palettes,
    recolors⟩

/-- A lane that stands on an instruction that copies colours has copied them after its step. -/
theorem Transfers.copies {transfer : Transfer} (member : op ∈ transferring)
    (transfers : machine.Transfers setting id priority op transfer) :
    transfer.Copies (originOf op) (targetOf op) machine.palettes
      (machine.step setting id priority).1.palettes := by
  obtain ⟨lane, place, here, begins, inside, read⟩ := transfers.stands
  obtain ⟨goesOn, done, -⟩ := step_of_transferring here begins member
  obtain ⟨other, palettes, found, copies, recolors⟩ := done (goesOn.mpr ⟨inside, transfer, read⟩)
  cases read.symm.trans found
  rw [recolors.palettes]
  exact copies

/-- Ranges of colours survive a trip through the store.

A lane goes on behind an instruction that copies colours just if its bytes are all there and its
operands can be read, and then the range that they tell has been copied, and nothing else in the
world has changed; otherwise the palettes stay as they were.

If a range of a live palette has been put away in the store, and the same range of that slot is
taken back into the same live palette or another one, by whatever lanes and whatever has happened
meanwhile to anything but the palettes, that palette has in the range the colours of the first one.
A range that is copied from a slot of the store into itself changes no colour. -/
theorem ranges_survive_store (setting : Setting σ) :
    (∀ {machine : Machine σ} {id : EntityId} {priority place : Nat} {lane : Lane} {op : Opcode},
      machine.world.lane? id priority = some lane → lane.Begins setting.source.code place op →
      op ∈ transferring →
      let stepped := machine.step setting id priority
      let read := transferAt op machine.session.memory setting.source.code (place + 1)
      (stepped.2 = .goOn ↔
        place + op.size ≤ setting.source.code.size ∧ ∃ transfer, read = .ok transfer) ∧
      (stepped.2 = .goOn → ∃ transfer palettes, read = .ok transfer ∧
        transfer.Copies (originOf op) (targetOf op) machine.palettes palettes ∧
        machine.Recolors id priority (place + op.size) palettes stepped.1) ∧
      (stepped.2 ≠ .goOn → stepped.1.palettes = machine.palettes)) ∧
    (∀ {machine later : Machine σ} {id other : EntityId} {priority level : Nat}
        {out back : Opcode} {stored loaded : Transfer},
      out ∈ [.stpal, .stpls] → back ∈ [.ldpal, .ldpls] →
      machine.Transfers setting id priority out stored →
      later.Transfers setting other level back loaded →
      later.palettes = (machine.step setting id priority).1.palettes →
      loaded.source = stored.goal → loaded.start = stored.start → loaded.count = stored.count →
      Transfer.RoundTrip stored loaded machine.palettes
        (later.step setting other level).1.palettes) ∧
    (∀ {machine : Machine σ} {id : EntityId} {priority : Nat} {transfer : Transfer},
      machine.Transfers setting id priority .cppal transfer → transfer.source = transfer.goal →
      ∀ (shelf : PaletteShelf) (slot : UInt8) (index : Nat),
        (machine.step setting id priority).1.palettes.color shelf slot index =
          machine.palettes.color shelf slot index) := by
  refine ⟨step_of_transferring, ?_, fun transfers same =>
    (transfers.copies (by decide)).color_self same⟩
  intro machine later id other priority level out back stored loaded outward backward puts takes
    kept slot start count
  have away : out ∈ transferring ∧ originOf out = .live ∧ targetOf out = .store := by
    simp only [List.mem_cons, List.not_mem_nil, or_false] at outward
    rcases outward with rfl | rfl <;> decide
  have home : back ∈ transferring ∧ originOf back = .store ∧ targetOf back = .live := by
    simp only [List.mem_cons, List.not_mem_nil, or_false] at backward
    rcases backward with rfl | rfl <;> decide
  have first := puts.copies away.1
  have second := takes.copies home.1
  rw [away.2.1, away.2.2, ← kept] at first
  rw [home.2.1, home.2.2] at second
  exact first.roundTrip second slot start count

end Machine

/-! ## A range that comes back -/

namespace Stash

open Background

/-- Two colours are put away and taken back into another palette; then the slot is copied onto
itself. -/
def setting : Setting Unit := .ofScripts
  [[0xEB, 0x01, 0x02, 0x01, 0x02, 0xEC, 0x02, 0x03, 0x01, 0x02, 0xE7, 0x00, 0x02, 0x02, 0x05, 0x00,
    0x00]]

/-- The field after so many instructions, with a short palette and one of two colours. -/
def after (count : Nat) : Machine Unit :=
  (((setting.entered (Session.fresh setting.config)).loadPalette 1 #[10, 11, 12]).loadPalette 3
    #[20, 21]).afterSteps setting 0 0 count

/-- The range reaches past the end of both palettes: the second one grows, with a black colour where
the first one had none. -/
theorem comes_back :
    Transfer.RoundTrip ⟨1, 2, 1, 3⟩ ⟨2, 3, 1, 3⟩ (after 0).palettes (after 2).palettes ∧
      (after 2).palettes.live[(3 : UInt8)]? = some #[20, 11, 12, 0] ∧
      ∀ shelf slot index,
        (after 3).palettes.color shelf slot index = (after 2).palettes.color shelf slot index := by
  obtain ⟨-, comesBack, stays⟩ := Machine.ranges_survive_store setting
  obtain ⟨⟨here, there, last⟩, ⟨put, take, copy⟩, ⟨puts, takes, copies⟩, inside, painted⟩ :
      ((after 0).world.lane? 0 0 = some (.at 106) ∧ (after 1).world.lane? 0 0 = some (.at 111) ∧
        (after 2).world.lane? 0 0 = some (.at 116)) ∧
      (setting.source.code[106]? = some Opcode.stpls.byte ∧
        setting.source.code[111]? = some Opcode.ldpls.byte ∧
        setting.source.code[116]? = some Opcode.cppal.byte) ∧
      ((transferAt .stpls (after 0).session.memory setting.source.code 107).toOption =
          some ⟨1, 2, 1, 3⟩ ∧
        (transferAt .ldpls (after 1).session.memory setting.source.code 112).toOption =
          some ⟨2, 3, 1, 3⟩ ∧
        (transferAt .cppal (after 2).session.memory setting.source.code 117).toOption =
          some ⟨2, 2, 0, 6⟩) ∧
      123 ≤ setting.source.code.size ∧
      (after 2).palettes.live[(3 : UInt8)]? = some #[20, 11, 12, 0] := by decide +kernel
  have stands {count place : Nat} {op : Opcode} {transfer : Transfer} (size : op.size = 5)
      (here : (after count).world.lane? 0 0 = some (.at place))
      (named : setting.source.code[place]? = some op.byte) (early : place + 5 ≤ 123)
      (told : (transferAt op (after count).session.memory setting.source.code
        (place + 1)).toOption = some transfer) :
      (after count).Transfers setting 0 0 op transfer :=
    ⟨.at place, place, here, Lane.begins_at named, size ▸ Nat.le_trans early inside,
      eq_ok_of_toOption told⟩
  exact ⟨comesBack (by decide) (by decide) (stands (by decide +kernel) here put (by decide) puts)
      (stands (by decide +kernel) there take (by decide) takes) rfl rfl rfl rfl, painted,
    stays (stands (by decide +kernel) last copy (by decide) copies) rfl⟩

end Stash

end FieldMachine
