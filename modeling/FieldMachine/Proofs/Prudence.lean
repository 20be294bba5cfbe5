import FieldMachine.Proofs.Plan

/-!
# Plans that fail whole

Once an instruction has been worked out, it can only fail at a write of a cell.
A plan that has no write, or is one write and nothing else, is prudent
(`Plan.IsPrudent`): where it fails, nothing of it was carried out.  Five opcodes
write several cells (`Plan.Stores`); of these a part may be written before one
is refused, in the order of the operands.

A prudent plan is also told what there must be to wait for, if the instruction
is to be tried again.

`Reading.Gives` follows this through a reading.  It counts no bytes and says
nothing of a reading that gives the instruction up; where an operand matters, the
rules tell at which place of the code it was read.
-/

namespace FieldMachine

set_option autoImplicit false

/-! ## Effects that cannot fail -/

/-- Whether an effect is carried out for certain. -/
def Effect.isSure : Effect → Bool
  | .store .. | .drawByte .. => false
  | _ => true

namespace Effect

variable {σ : Type} (setting : Setting σ) (machine : Machine σ)

theorem perform_of_isSure {effect : Effect} (sure : effect.isSure) :
    (effect.perform setting machine).2 = none := by
  cases effect with
  | store selector address value => cases sure
  | drawByte selector address => cases sure
  | _ => rfl

theorem performAll_of_isSure {effects : List Effect} (sure : ∀ effect ∈ effects, effect.isSure) :
    (performAll setting machine effects).2 = none := by
  induction effects generalizing machine with
  | nil => rfl
  | cons effect rest ih =>
      rw [List.forall_mem_cons] at sure
      have done := perform_of_isSure setting machine sure.1
      simp only [performAll]
      split
      · next carried same => exact ih carried sure.2
      · next carried error same => simp [same] at done

end Effect

/-! ## Writes -/

/-- A value and the cell that it is written to, as a destination operand names it. -/
structure Deposit where
  selector : UInt8
  address : UInt8
  value : UInt16
deriving DecidableEq

namespace Deposit

variable {σ : Type}

/-- The operands that name the cell. -/
def cell (deposit : Deposit) : UInt8 × UInt8 := (deposit.selector, deposit.address)

/-- The write of the value. -/
def effect (deposit : Deposit) : Effect := .store deposit.selector deposit.address deposit.value

/-- The write of the value to a cell that is there. -/
def put (setting : Setting σ) (machine : Machine σ) (deposit : Deposit) : Machine σ :=
  machine.putCell setting deposit.selector deposit.address deposit.value

/-- A write that is refused changes nothing. -/
theorem perform_effect (setting : Setting σ) (machine : Machine σ) (deposit : Deposit) :
    deposit.effect.perform setting machine = (deposit.put setting machine, none) ∨
      ∃ error, deposit.effect.perform setting machine = (machine, some error) := by
  simp only [effect, Effect.perform, Machine.store, Machine.writeCell]
  split
  · exact .inr ⟨_, rfl⟩
  · split
    · exact .inr ⟨_, rfl⟩
    · exact .inl rfl

/-- Writes are carried out one after the other, up to the first that is refused. -/
theorem performAll_effects (setting : Setting σ) (machine : Machine σ) (deposits : List Deposit) :
    ∃ writes, writes <+: deposits ∧
      (Effect.performAll setting machine (deposits.map effect)).1 =
        writes.foldl (put setting) machine := by
  induction deposits generalizing machine with
  | nil => exact ⟨[], List.nil_prefix, rfl⟩
  | cons deposit rest ih =>
      simp only [List.map_cons, Effect.performAll]
      rcases deposit.perform_effect setting machine with done | ⟨error, refused⟩
      · obtain ⟨writes, first, same⟩ := ih (deposit.put setting machine)
        refine ⟨deposit :: writes, List.cons_prefix_cons.mpr ⟨rfl, first⟩, ?_⟩
        rw [done]
        exact same
      · refine ⟨[], List.nil_prefix, ?_⟩
        rw [refused]
        rfl

end Deposit

/-! ## Plans -/

/-- A plan that is carried out for certain, or is one write and nothing else; only if there is
something to wait for, the instruction is tried again. -/
inductive Plan.IsPrudent (waits : Prop) : Plan → Prop
  | retry (entries : List Entry) (polled : waits) : IsPrudent waits (.retry entries)
  | sure {effects : List Effect} {ending : Ending} (sure : ∀ effect ∈ effects, effect.isSure) :
      IsPrudent waits (.act effects ending)
  | store (selector address : UInt8) (value : UInt16) :
      IsPrudent waits (.next [.store selector address value])

/-- The plan of writing some cells in their order. -/
def Plan.Stores (cells : List (UInt8 × UInt8)) (plan : Plan) : Prop :=
  ∃ deposits : List Deposit, deposits.map Deposit.cell = cells ∧
    plan = .next (deposits.map Deposit.effect)

theorem Plan.IsPrudent.mono {waits more : Prop} {plan : Plan} (prudent : plan.IsPrudent waits)
    (weaker : waits → more) : plan.IsPrudent more := by
  cases prudent with
  | retry entries polled => exact .retry entries (weaker polled)
  | sure sure => exact .sure sure
  | store selector address value => exact .store selector address value

/-- A plan without effects is carried out for certain. -/
theorem Plan.IsPrudent.idle {waits : Prop} {ending : Ending} :
    (Plan.act [] ending).IsPrudent waits := .sure (by simp)

namespace Cursor

@[simp] theorem peek_forward (cursor : Cursor) (count offset : Nat) :
    (cursor.forward count).peek offset = cursor.peek (count + offset) := by
  simp [peek, Nat.add_assoc]

/-- One of the selectors that begin at the cursor, two in a byte. -/
def selectorAt (cursor : Cursor) (index : Nat) : UInt8 :=
  let pair : Selectors := { byte := cursor.peek (index / 2) }
  if index % 2 = 0 then pair.high else pair.low

/-- The cells that destination operands name: the selectors begin at the cursor, the addresses some
bytes further on. -/
def cells (cursor : Cursor) (offset count : Nat) : List (UInt8 × UInt8) :=
  (List.range count).map fun index => (cursor.selectorAt index, cursor.peek (offset + index))

end Cursor

/-! ## Readings -/

namespace Reading

variable {α β : Type}

/-- Whatever a reading comes to from a place on, fits. -/
def Gives (reading : Reading α) (scene : Scene) (cursor : Cursor) (fits : α → Prop) : Prop :=
  ∀ value after, reading scene cursor = .ok (value, after) → fits value

namespace Gives

variable {scene : Scene} {cursor : Cursor} {reading : Reading α} {next : α → Reading β}
  {fits mid : α → Prop} {ends : β → Prop}

theorem mono (gives : Gives reading scene cursor mid) (weaker : ∀ value, mid value → fits value) :
    Gives reading scene cursor fits :=
  fun value after worked => weaker value (gives value after worked)

theorem pure {value : α} (fit : fits value) : Gives (pure value) scene cursor fits := by
  intro found after worked
  cases worked
  exact fit

theorem error {failing : Reading α} {error : ExecError}
    (fails : failing scene cursor = .error error) : Gives failing scene cursor fits := by
  intro value after worked
  rw [fails] at worked
  cases worked

theorem fail {error : ExecError} : Gives (Reading.fail error) scene cursor fits := .error rfl

theorem invalid {what : String} {number : UInt32} :
    Gives (Reading.invalid what number) scene cursor fits := .error rfl

/-- One reading after the other. -/
theorem both (rest : ∀ value after, reading scene cursor = .ok (value, after) →
    Gives (next value) scene after ends) : Gives (reading >>= next) scene cursor ends := by
  intro found after worked
  rw [bind_apply] at worked
  cases read : reading scene cursor with
  | error error => rw [read] at worked; cases worked
  | ok first =>
      rw [read] at worked
      exact rest first.1 first.2 read found after worked

theorem bind (first : Gives reading scene cursor mid)
    (rest : ∀ {after} value, mid value → Gives (next value) scene after ends) :
    Gives (reading >>= next) scene cursor ends :=
  both fun value after read => rest value (first value after read)

/-- Whatever is read first makes no difference. -/
theorem past (rest : ∀ {after} value, Gives (next value) scene after ends) :
    Gives (reading >>= next) scene cursor ends :=
  both fun value _ _ => rest value

theorem ite {condition : Prop} [Decidable condition] {other : Reading α}
    (yes : condition → Gives reading scene cursor fits)
    (no : ¬condition → Gives other scene cursor fits) :
    Gives (if condition then reading else other) scene cursor fits := by
  split
  · exact yes ‹_›
  · exact no ‹_›

/-! ## Operands that matter -/

theorem byte {next : UInt8 → Reading β}
    (rest : Gives (next (cursor.peek 0)) scene (cursor.forward 1) ends) :
    Gives (Reading.byte >>= next) scene cursor ends := by
  refine both fun value after read => ?_
  unfold Reading.byte Cursor.byte at read
  cases moved : cursor.skip 1 with
  | error error => rw [moved] at read; cases read
  | ok behind =>
      obtain ⟨-, rfl⟩ := Cursor.skip_eq_ok.mp moved
      rw [moved] at read
      cases read
      exact rest

theorem selectors {next : Selectors → Reading β}
    (rest : Gives (next { byte := cursor.peek 0 }) scene (cursor.forward 1) ends) :
    Gives (Reading.selectors >>= next) scene cursor ends := by
  rw [Reading.selectors, bind_assoc]
  exact byte rest

/-! ## Looks at the scene -/

theorem withScene {next : Scene → Reading β} (rest : Gives (next scene) scene cursor ends) :
    Gives (Reading.scene >>= next) scene cursor ends := rest

theorem withStage {next : Stage → Reading β}
    (rest : Gives (next scene.world.stage) scene cursor ends) :
    Gives (Reading.stage >>= next) scene cursor ends := rest

end Gives

variable {scene : Scene} {cursor : Cursor}

/-- The running body is that of the running entity. -/
theorem self_gives :
    self.Gives scene cursor fun actor => scene.world.actor? scene.entity = some actor := by
  refine .withScene (.withScene ?_)
  split
  · next actor known => exact .pure known
  · exact .fail

/-- An entity is registered at its own index. -/
theorem entityAt_gives (index : UInt8) :
    (entityAt index).Gives scene cursor (· = index.toNat) := by
  refine .withScene ?_
  split
  · exact .pure rfl
  · exact .fail

theorem partyEntity_gives (slot : UInt8) :
    (partyEntity slot).Gives scene cursor fun id =>
      partyMember scene.session scene.world slot = .ok id := by
  refine .withScene ?_
  split
  · next id known => exact .pure known
  · exact .fail

theorem changeSelf_gives (changes : List ActorChange) :
    (changeSelf changes).Gives scene cursor fun effects => ∀ effect ∈ effects, effect.isSure :=
  .past fun _ => .pure (by simp [Effect.isSure])

/-- A plan that does nothing but change the running body. -/
theorem Gives.changeSelf {waits : Prop} {changes : List ActorChange} {ending : Ending} :
    (Reading.changeSelf changes >>= fun effects => Pure.pure (Plan.act effects ending)).Gives scene cursor
      (Plan.IsPrudent waits) :=
  .bind (changeSelf_gives changes) fun _ sure => .pure (.sure sure)

end Reading

end FieldMachine
