import FieldMachine.Proofs.Arithmetic

/-!
# Destinations that are no cells

A selector of 0 stands for an immediate operand, and an immediate operand cannot be
written.  An instruction that names such a destination is given up: it fails while
it is worked out, or its plan has a write that fails
(`Machine.step_of_immediate_destination`).

There is one exception.  A division by zero has no result, so nothing is written,
and the destination is not looked at: with a destination that is an immediate
operand, a division by zero lets its lane go on.
-/

namespace FieldMachine

set_option autoImplicit false

open Section (byteAt)

/-! ## Writes of a plan -/

/-- The selector of the destination that an effect writes to. -/
def Effect.selector? : Effect → Option UInt8
  | .store selector .. => some selector
  | .drawByte selector _ => some selector
  | _ => none

/-- The selectors of the destinations that a plan writes to, in their order. -/
def Plan.writes : Plan → List UInt8
  | .retry _ => []
  | .act effects _ => effects.filterMap Effect.selector?

namespace Plan

/-- A plan of writes has the selectors of its cells. -/
theorem Stores.writes {cells : List (UInt8 × UInt8)} {plan : Plan} (stores : plan.Stores cells) :
    plan.writes = cells.map Prod.fst := by
  obtain ⟨deposits, rfl, rfl⟩ := stores
  have named : Effect.selector? ∘ Deposit.effect = some ∘ (Prod.fst ∘ Deposit.cell) := rfl
  rw [Plan.next, Plan.writes.eq_def]
  dsimp only
  rw [List.filterMap_map, List.map_map, named, List.filterMap_eq_map]

/-- The selectors of some cells stand at the cursor, one after the other. -/
theorem Stores.writes_cells {cursor : Cursor} {offset count : Nat} {plan : Plan}
    (stores : plan.Stores (cursor.cells offset count)) :
    plan.writes = (List.range count).map cursor.selectorAt := by
  rw [stores.writes, Cursor.cells, List.map_map]
  rfl

end Plan

namespace Effect

variable {σ : Type} (setting : Setting σ) (machine : Machine σ)

/-- A write to an immediate operand fails. -/
theorem perform_of_immediate {effect : Effect} (immediate : effect.selector? = some 0) :
    (effect.perform setting machine).2 = some (.address .immediateDestination) := by
  cases effect with
  | store selector address value =>
      cases immediate
      rfl
  | drawByte selector address =>
      cases immediate
      rfl
  | _ => cases immediate

/-- Effects among which there is one that always fails do not all succeed. -/
theorem performAll_of_immediate {effects : List Effect}
    (immediate : 0 ∈ effects.filterMap Effect.selector?) :
    ∃ reached error, performAll setting machine effects = (reached, some error) := by
  induction effects generalizing machine with
  | nil => cases immediate
  | cons effect rest fails =>
      rw [performAll]
      cases done : effect.perform setting machine with
      | mk reached refused =>
          cases refused with
          | some error => exact ⟨reached, error, rfl⟩
          | none =>
              -- The effect has succeeded, so it is not the one that fails.
              refine fails reached ?_
              cases named : effect.selector? with
              | none => rwa [List.filterMap_cons_none named] at immediate
              | some selector =>
                  rw [List.filterMap_cons_some named] at immediate
                  rcases List.mem_cons.mp immediate with rfl | later
                  · have refused := perform_of_immediate setting machine named
                    rw [done] at refused
                    cases refused
                  · exact later

end Effect

/-! ## Destinations of the opcodes -/

namespace Opcode

/-- The selectors that name destinations of what an instruction looks up, counted from the first byte
behind the opcode, two in a byte. -/
def lookups : Opcode → List Nat
  | .axyzi | .pxyzi => [0, 1, 2, 3]
  | .gtpye => [0, 1, 2]
  | .getaxy | .chgld => [0, 1]
  | .ckitm => [1]
  | .cmtra | .sin | .cos => [3]
  | .random | .ask | .chmst | .mvief | .btrld | .lstmp | .getdir | .getai | .pgtdr | .getpc => [0]
  | _ => []

/-- The selectors that name destinations.  An instruction that computes has its destination first. -/
def destinations (op : Opcode) : List Nat := if op ∈ computing then [0] else op.lookups

/-- The instructions that have no result for some operands. -/
def dividing : List Opcode := [.div, .div2, .mod, .mod2]

/-- A division by zero, which lies inside the code and whose source can be read. -/
structure DividesByZero (op : Opcode) (memory : Memory) (code : Array UInt8) (place : Nat) :
    Prop where
  member : op ∈ dividing
  inside : place + op.size ≤ code.size
  zero : ∃ s, op.sourceAt memory code (place + 1) = .ok s ∧ s % op.width.size = 0

/-- Only a division by zero has no result. -/
theorem ideal?_eq_none (op : Opcode) (d s : Nat) :
    op.ideal? d s = none ↔ op ∈ dividing ∧ s = 0 := by
  cases op with
  | div | div2 | mod | mod2 => simp [ideal?, dividing]
  | _ => exact ⟨nofun, fun both => absurd both.1 (by decide)⟩

theorem new?_eq_none (op : Opcode) (d : UInt16) (s : Nat) :
    op.new? d s = none ↔ op ∈ dividing ∧ s % op.width.size = 0 := by
  rw [new?, Option.map_eq_none_iff, ideal?_eq_none]

end Opcode

/-! ## What the instructions write -/

section Writes

open Reading

variable {scene : Scene} {cursor : Cursor}

theorem Arithmetic.random_writes :
    Arithmetic.random.Gives scene cursor fun plan => plan.writes = [cursor.selectorAt 0] :=
  .selectors <| .past fun _ => .pure rfl

theorem Arithmetic.angular_writes (curve : Float32 → Float32) :
    (Arithmetic.angular curve).Gives scene cursor fun plan =>
      plan.writes = [cursor.selectorAt 3] :=
  .selectors <| .selectors <| .past fun _ => .past fun _ => .past fun _ => .past fun _ => .past
    fun _ => .past fun _ => .past fun _ => .pure (by rfl)

theorem Screen.storeMusicPlaying_writes :
    Screen.storeMusicPlaying.Gives scene cursor fun plan => plan.writes = [cursor.selectorAt 0] :=
  .selectors <| .past fun _ => .past fun _ => .pure rfl

theorem Screen.storeMovieFrame_writes :
    Screen.storeMovieFrame.Gives scene cursor fun plan => plan.writes = [cursor.selectorAt 0] :=
  .selectors <| .past fun _ => .past fun _ => .pure rfl

theorem Transition.storeBattleResult_writes :
    Transition.storeBattleResult.Gives scene cursor fun plan =>
      plan.writes = [cursor.selectorAt 0] :=
  .selectors <| .past fun _ => .past fun _ => .pure rfl

theorem Transition.storeLastField_writes :
    Transition.storeLastField.Gives scene cursor fun plan =>
      plan.writes = [cursor.selectorAt 0] :=
  .selectors <| .past fun _ => .past fun _ => .pure rfl

theorem Movement.storeDirection_writes :
    Movement.storeDirection.Gives scene cursor fun plan => plan.writes = [cursor.selectorAt 0] :=
  .selectors <| .past fun _ => .past fun _ => .past fun _ => .pure rfl

theorem Movement.storeTriangle_writes :
    Movement.storeTriangle.Gives scene cursor fun plan => plan.writes = [cursor.selectorAt 0] :=
  .selectors <| .past fun _ => .past fun _ => .past fun _ => .pure rfl

theorem Company.storeSlot_writes :
    Company.storeSlot.Gives scene cursor fun plan => plan.writes = [cursor.selectorAt 0] :=
  .selectors <| .past fun _ => .past fun _ => .past fun _ => .pure rfl

theorem Company.storeDirection_writes :
    Company.storeDirection.Gives scene cursor fun plan => plan.writes = [cursor.selectorAt 0] :=
  .selectors <| .past fun _ => .past fun _ => .past fun _ => .past fun _ => .pure rfl

theorem Company.storeItemCount_writes :
    Company.storeItemCount.Gives scene cursor fun plan => plan.writes = [cursor.selectorAt 1] :=
  .selectors <| .past fun _ => .past fun _ => .past fun _ => .past fun _ => .pure rfl

theorem Company.storeMateriaCount_writes :
    Company.storeMateriaCount.Gives scene cursor fun plan =>
      plan.writes = [cursor.selectorAt 3] :=
  .selectors <| .selectors <| .past fun _ => .past fun _ => .past fun _ => .past fun _ => .past
    fun _ => .pure (by rfl)

/-- A question is not asked without a cell for the answer. -/
theorem Dialogue.ask_destination :
    Dialogue.ask.Gives scene cursor fun _ => cursor.selectorAt 0 ≠ 0 :=
  .selectors <| .past fun _ => .past fun _ => .past fun _ => .past fun _ => .past fun _ =>
    .ite (fun _ => .fail) fun named => .past fun _ => .pure named

end Writes

namespace Opcode

open Reading

variable {op : Opcode} {scene : Scene} {cursor : Cursor} {handler reading : Reading Plan}
  {index : Nat}

theorem writes_immediate_of_writes
    (gives : handler.Gives scene cursor fun plan =>
      plan.writes = op.lookups.map cursor.selectorAt)
    (names : index ∈ op.lookups) (immediate : cursor.selectorAt index = 0)
    (known : some handler = some reading) :
    reading.Gives scene cursor fun plan => 0 ∈ plan.writes := by
  cases known
  refine gives.mono fun plan writes => ?_
  rw [writes, ← immediate]
  exact List.mem_map_of_mem names

/-- An instruction that does not compute writes to every destination that it names; one that asks
comes to nothing without a cell. -/
theorem writes_immediate (names : index ∈ op.lookups)
    (immediate : cursor.selectorAt index = 0) (known : op.plan? = some reading) :
    reading.Gives scene cursor fun plan => 0 ∈ plan.writes := by
  have writes {handler : Reading Plan}
      (gives : handler.Gives scene cursor fun plan =>
        plan.writes = op.lookups.map cursor.selectorAt)
      (same : some handler = some reading) :=
    writes_immediate_of_writes gives names immediate same
  cases op with
  | random => exact writes Arithmetic.random_writes known
  | sin | cos => exact writes (Arithmetic.angular_writes _) known
  | chmst => exact writes Screen.storeMusicPlaying_writes known
  | mvief => exact writes Screen.storeMovieFrame_writes known
  | btrld => exact writes Transition.storeBattleResult_writes known
  | lstmp => exact writes Transition.storeLastField_writes known
  | getdir => exact writes Movement.storeDirection_writes known
  | getai => exact writes Movement.storeTriangle_writes known
  | getaxy => exact writes (Movement.storeGround_stores.mono fun _ => Plan.Stores.writes_cells) known
  | axyzi => exact writes (Movement.storePlace_stores.mono fun _ => Plan.Stores.writes_cells) known
  | pxyzi => exact writes (Company.storePlace_stores.mono fun _ => Plan.Stores.writes_cells) known
  | gtpye => exact writes (Company.storeSlots_stores.mono fun _ => Plan.Stores.writes_cells) known
  | chgld => exact writes (Company.storeGil_stores.mono fun _ => Plan.Stores.writes_cells) known
  | getpc => exact writes Company.storeSlot_writes known
  | pgtdr => exact writes Company.storeDirection_writes known
  | ckitm => exact writes Company.storeItemCount_writes known
  | cmtra => exact writes Company.storeMateriaCount_writes known
  | ask =>
      cases known
      obtain rfl := List.mem_singleton.mp names
      exact Dialogue.ask_destination.mono fun plan named => absurd immediate named
  | _ =>
      cases names

end Opcode

namespace Arithmetic

variable {op : Opcode} {scene : Scene} {code : Array UInt8} {place : Nat} {plan : Plan}

/-- An instruction that computes with an immediate operand as its destination comes to the write of
its result, if there is one. -/
theorem planAt_of_immediate (immediate : (op.destinationAt code place).1 = 0)
    (comes : planAt op scene code place = .ok plan) :
    ∃ s d, op.sourceAt scene.session.memory code place = .ok s ∧
      plan = storeResult 0 (op.destinationAt code place).2 (op.new? d s) := by
  unfold planAt at comes
  dsimp only at comes
  rw [immediate] at comes
  cases source : op.sourceAt scene.session.memory code place with
  | error error =>
      rw [source] at comes
      cases comes
  | ok s =>
      rw [source, Except.bind] at comes
      split at comes
      · cases comes
      · split at comes <;> exact ⟨s, _, rfl, (Except.ok.inj comes).symm⟩

/-- A division by zero comes to nothing. -/
theorem planAt_of_divides {s : Nat} (immediate : (op.destinationAt code place).1 = 0)
    (member : op ∈ Opcode.dividing) (source : op.sourceAt scene.session.memory code place = .ok s)
    (zero : s % op.width.size = 0) : planAt op scene code place = .ok (.next []) := by
  have plain : ∀ op ∈ Opcode.dividing, op.changesBit = false ∧ op ≠ .twoByte := by decide
  obtain ⟨whole, other⟩ := plain op member
  have none (d : UInt16) : op.new? d s = none := (op.new?_eq_none d s).mpr ⟨member, zero⟩
  unfold planAt
  dsimp only
  rw [source, immediate, Except.bind, if_neg (by simp [whole]), if_neg other]
  simp only [none]
  rfl

end Arithmetic

namespace Machine

open Arithmetic

variable {σ : Type} {setting : Setting σ} {machine : Machine σ} {id : EntityId}
  {priority place index : Nat} {lane : Lane} {op : Opcode} {plan : Plan}

/-- A plan with a write to an immediate operand cannot be carried out. -/
theorem carryOut_of_immediate (next : Nat) (immediate : 0 ∈ plan.writes) :
    ∃ (reached : Machine σ) (error : ExecError),
      machine.carryOut setting id priority place next lane plan =
        (reached.giveUp setting id priority place error, .released) := by
  cases plan with
  | retry entries => cases immediate
  | act effects ending =>
      obtain ⟨reached, error, fails⟩ :=
        Effect.performAll_of_immediate setting machine immediate
      refine ⟨reached, error, ?_⟩
      rw [carryOut, fails]

section Steps

variable (here : machine.world.lane? id priority = some lane)
  (begins : lane.Begins setting.source.code place op)
include here begins

/-- An instruction that looks something up and names a destination that is no cell is given up. -/
theorem step_of_lookup (names : index ∈ op.lookups)
    (immediate : ((Cursor.atStart setting.source.code place).forward 1).selectorAt index = 0) :
    ∃ (reached : Machine σ) (error : ExecError), machine.step setting id priority =
      (reached.giveUp setting id priority place error, .released) := by
  have carried : op.plan?.isSome := by
    cases op with
    | axyzi | pxyzi | gtpye | getaxy | chgld | ckitm | cmtra | sin | cos | random | ask | chmst
    | mvief | btrld | lstmp | getdir | getai | pgtdr | getpc => rfl
    | _ => cases names
  obtain ⟨reading, known⟩ := Option.isSome_iff_exists.mp carried
  rw [step_of_plan? here begins.active begins.stands begins.fresh begins.named known]
  cases worked : reading (machine.sceneOf setting id priority place lane)
    ((Cursor.atStart setting.source.code place).forward 1) with
  | error error => exact ⟨_, error, rfl⟩
  | ok came =>
      exact carryOut_of_immediate _
        (Opcode.writes_immediate names immediate known came.1 came.2 worked)

/-- An instruction that computes and has an immediate operand as its destination is given up, unless
it divides by zero. -/
theorem step_of_immediate (member : op ∈ Opcode.computing)
    (immediate : (op.destinationAt setting.source.code (place + 1)).1 = 0) :
    (op.DividesByZero machine.session.memory setting.source.code place →
      machine.step setting id priority =
        ((machine.note (.executing id priority place op.byte)).updateLane id priority
          (·.advance (place + op.size)), .goOn)) ∧
    (¬op.DividesByZero machine.session.memory setting.source.code place →
      ∃ (reached : Machine σ) (error : ExecError), machine.step setting id priority =
        (reached.giveUp setting id priority place error, .released)) := by
  constructor
  · rintro ⟨divides, inside, s, source, zero⟩
    have comes : planAt op (machine.sceneOf setting id priority place lane) setting.source.code
        (place + 1) = _ := planAt_of_divides immediate divides source zero
    rw [step_of_computing here begins member inside, comes]
    rfl
  · intro unlike
    by_cases inside : place + op.size ≤ setting.source.code.size
    · rw [step_of_computing here begins member inside]
      cases comes : planAt op (machine.sceneOf setting id priority place lane) setting.source.code
        (place + 1) with
      | error error => exact ⟨_, error, rfl⟩
      | ok plan =>
          obtain ⟨s, d, source, rfl⟩ := planAt_of_immediate immediate comes
          refine carryOut_of_immediate _ ?_
          cases made : op.new? d s with
          | some value => exact List.mem_singleton.mpr rfl
          | none =>
              obtain ⟨divides, zero⟩ := (op.new?_eq_none d s).mp made
              exact absurd ⟨divides, inside, s, source, zero⟩ unlike
    · obtain ⟨error, same⟩ := step_of_cut here begins member inside
      exact ⟨_, error, same⟩

/-- A destination selector of 0 is an error, unless the instruction divides by zero.

An instruction that names a destination by the selector 0 is given up, whatever its other operands
are; other destinations of the same instruction may have been written by then.  A division by zero
has no result to write, so that it lets the lane go on and changes nothing. -/
theorem step_of_immediate_destination (names : index ∈ op.destinations)
    (immediate : ((Cursor.atStart setting.source.code place).forward 1).selectorAt index = 0) :
    (op.DividesByZero machine.session.memory setting.source.code place →
      machine.step setting id priority =
        ((machine.note (.executing id priority place op.byte)).updateLane id priority
          (·.advance (place + op.size)), .goOn)) ∧
    (¬op.DividesByZero machine.session.memory setting.source.code place →
      ∃ (reached : Machine σ) (error : ExecError), machine.step setting id priority =
        (reached.giveUp setting id priority place error, .released)) := by
  unfold Opcode.destinations at names
  split at names
  · next member =>
      obtain rfl := List.mem_singleton.mp names
      exact step_of_immediate here begins member immediate
  · next other =>
      have divides : ∀ op ∈ Opcode.dividing, op ∈ Opcode.computing := by decide
      exact ⟨fun exception => absurd (divides op exception.member) other,
        fun _ => step_of_lookup here begins names immediate⟩

end Steps

end Machine

/-! ## A quotient without a destination -/

namespace Quotient

/-- Zero is divided by zero, and then five is put, into immediate operands. -/
def bytes : Array UInt8 :=
  (([2, 5, 1, 0, 114, 0, 0, 0, 0, 2] ++ List.replicate 22 0 ++ List.replicate 8 0
    ++ [104, 0] ++ (List.replicate 31 [112, 0]).flatten
    ++ [0x8B, 0x00, 0x00, 0x00, 0x80, 0x00, 0x05, 0x07, 0x00, 0x00] : List UInt8)).toArray

def setting : Setting Unit :=
  { source := Section.ofBytes bytes, config := { opsPerTick := 8 }, host := Host.accepting }

/-- The field that has been entered. -/
def entered : Machine Unit :=
  (Machine.enter setting (Session.fresh setting.config) (.ofSeed 0) ()).start

/-- The lane at a place of the code. -/
def lane (place : Nat) : Lane := { status := .active place 0 none none, script := 0, epoch := 1 }

/-- The division lets the lane go on, and then the lane is given up. -/
theorem divides_and_fails :
    entered.step setting 0 0 =
        ((entered.note (.executing 0 0 104 0x8B)).updateLane 0 0 (·.advance 108), .goOn) ∧
      ∃ (reached : Machine Unit) (error : ExecError),
        ((entered.step setting 0 0).1).step setting 0 0 =
          (reached.giveUp setting 0 0 108 error, .released) := by
  have here : entered.world.lane? 0 0 = some (lane 104) := by decide +kernel
  have next : (entered.step setting 0 0).1.world.lane? 0 0 = some (lane 108) := by decide +kernel
  have bytes : byteAt setting.source.code 105 = 0 ∧ byteAt setting.source.code 107 = 0 := by
    decide +kernel
  have source : Opcode.div.sourceAt entered.session.memory setting.source.code 105 = .ok 0 := by
    have whole : Opcode.div.changesBit = false := by decide
    simp only [Opcode.sourceAt, Opcode.width, Arithmetic.Width.rawAt, bytes, whole]
    rfl
  have divides : Opcode.div.DividesByZero entered.session.memory setting.source.code 104 :=
    ⟨by decide, by decide +kernel, 0, source, by decide⟩
  have begins : (lane 104).Begins setting.source.code 104 .div :=
    ⟨rfl, rfl, rfl, by decide +kernel⟩
  have immediate : ((Cursor.atStart setting.source.code 104).forward 1).selectorAt 0 = 0 := by
    decide +kernel
  obtain ⟨quotient, -⟩ :=
    Machine.step_of_immediate_destination here begins (by decide) immediate
  have begins : (lane 108).Begins setting.source.code 108 .setbyte :=
    ⟨rfl, rfl, rfl, by decide +kernel⟩
  have immediate : ((Cursor.atStart setting.source.code 108).forward 1).selectorAt 0 = 0 := by
    decide +kernel
  obtain ⟨-, fails⟩ :=
    Machine.step_of_immediate_destination next begins (by decide) immediate
  refine ⟨?_, fails fun exception => absurd exception.member (by decide)⟩
  have size : Opcode.div.size = 4 := by decide +kernel
  have stepped := quotient divides
  rw [size] at stepped
  exact stepped

/-- The destination of the division is no cell, and yet the lane is not given up. -/
theorem quotient_is_no_fault :
    0 ∈ Opcode.div.destinations ∧ setting.source.code[104]? = some Opcode.div.byte ∧
      ((Cursor.atStart setting.source.code 104).forward 1).selectorAt 0 = 0 ∧
      ¬∃ (reached : Machine Unit) (error : ExecError),
        entered.step setting 0 0 = (reached.giveUp setting 0 0 104 error, .released) := by
  refine ⟨by decide, by decide +kernel, by decide +kernel, ?_⟩
  rintro ⟨reached, error, stepped⟩
  have went : (entered.step setting 0 0).2 = .goOn := by decide +kernel
  rw [stepped] at went
  cases went

end Quotient

end FieldMachine
