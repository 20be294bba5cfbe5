import FieldMachine.Proofs.Belongings

/-!
# The limits of a session

Points stay within the maxima of their character and gil below its cap, because every
step of a session keeps them there, and none touches the maxima (`Session.Step.keeps`).

An instruction that changes points changes those of the character in a party slot and
of nobody else, by as much as the maximum or zero allows (`Session.PointsChanged`), and
one that trades changes the gil by its exact amount, clamped to the limits
(`Opcode.gilAfter`).  An amount has 32 bits and comes in two halves, and so does gil that
is stored in cells: what two different cells have taken makes up the gil again.

`Machine.limits_hold` states all of this.
-/

namespace FieldMachine

set_option autoImplicit false

open Section (byteAt wordAt)

/-! ## Points of one character -/

namespace Character

/-- The points are at most their maxima. -/
structure WithinLimits (character : Character) : Prop where
  hp : character.hp ≤ character.maxHp
  mp : character.mp ≤ character.maxMp

/-- The maxima stay, and the points stay within them if they were. -/
structure Keeps (before after : Character) : Prop where
  maxHp : after.maxHp = before.maxHp
  maxMp : after.maxMp = before.maxMp
  limits : before.WithinLimits → after.WithinLimits

/-- Both kinds of points, as numbers. -/
def points (character : Character) : Nat × Nat := (character.hp.toNat, character.mp.toNat)

theorem toNat_raise (level amount maximum : UInt16) :
    (raise level amount maximum).toNat = min (level.toNat + amount.toNat) maximum.toNat := by
  have small : maximum.toNat < 65536 := maximum.toNat_lt
  have capped : min (min (level.toNat + amount.toNat) 0xFFFF) maximum.toNat < 65536 := by omega
  show min (min (level.toNat + amount.toNat) 0xFFFF) maximum.toNat % 65536 = _
  rw [Nat.mod_eq_of_lt capped]
  omega

theorem toNat_lower (level amount : UInt16) :
    (lower level amount).toNat = level.toNat - amount.toNat := by
  unfold lower
  split
  · next least =>
      rw [UInt16.le_iff_toNat_le] at least
      exact (Nat.sub_eq_zero_of_le least).symm
  · next more =>
      have above : amount ≤ level := UInt16.le_of_lt (UInt16.not_le.mp more)
      exact UInt16.toNat_sub_of_le level amount above

variable {first second third : Character}

theorem Keeps.refl : Keeps first first := ⟨rfl, rfl, id⟩

theorem Keeps.trans (kept : first.Keeps second) (further : second.Keeps third) :
    first.Keeps third :=
  ⟨further.maxHp.trans kept.maxHp, further.maxMp.trans kept.maxMp, further.limits ∘ kept.limits⟩

theorem keeps_restore (character : Character) : character.Keeps character.restore :=
  ⟨rfl, rfl, fun _ => ⟨UInt16.le_refl _, UInt16.le_refl _⟩⟩

/-- Points that are lowered stay within their limits. -/
theorem lower_le {level maximum : UInt16} (amount : UInt16) (within : level ≤ maximum) :
    lower level amount ≤ maximum := by
  rw [UInt16.le_iff_toNat_le] at within ⊢
  rw [toNat_lower]
  omega

/-- Points that are raised stay within their limits. -/
theorem raise_le (level amount maximum : UInt16) : raise level amount maximum ≤ maximum := by
  rw [UInt16.le_iff_toNat_le, toNat_raise]
  omega

end Character

/-! ## A session -/

namespace Session

/-- The points of all characters are at most their maxima, and the gil is at most its cap. -/
structure WithinLimits (session : Session) : Prop where
  characters : ∀ (index : Nat) (known : index < characterCount),
    session.characters[index].WithinLimits
  gil : session.gil.toNat ≤ maxGil

/-- The maxima of the points of a character, of each kind. -/
def maxima (session : Session) : Vector (UInt16 × UInt16) characterCount :=
  session.characters.map fun character => (character.maxHp, character.maxMp)

/-- The maxima stay, and whatever was within its limits stays within them. -/
structure Keeps (before after : Session) : Prop where
  characters : ∀ (index : Nat) (known : index < characterCount),
    before.characters[index].Keeps after.characters[index]
  gil : before.gil.toNat ≤ maxGil → after.gil.toNat ≤ maxGil

variable {first second third : Session}

namespace Keeps

/-- What does not concern the characters and the gil. -/
theorem of_eq (characters : second.characters = first.characters) (gil : second.gil = first.gil) :
    first.Keeps second := by
  refine ⟨fun index known => ?_, fun within => gil ▸ within⟩
  rw [characters]
  exact .refl

theorem trans (kept : first.Keeps second) (further : second.Keeps third) : first.Keeps third :=
  ⟨fun index known => (kept.characters index known).trans (further.characters index known),
    further.gil ∘ kept.gil⟩

theorem foldl {α : Type} {change : Session → α → Session}
    (each : ∀ session item, Keeps session (change session item)) (items : List α)
    (session : Session) : Keeps session (items.foldl change session) :=
  List.foldlRecOn items change (.of_eq rfl rfl) fun reached kept item _ =>
    kept.trans (each reached item)

theorem maxima_eq (kept : first.Keeps second) : second.maxima = first.maxima := by
  refine Vector.ext fun index known => ?_
  have same := kept.characters index known
  simp only [maxima, Vector.getElem_map, same.maxHp, same.maxMp]

theorem withinLimits (kept : first.Keeps second) (within : first.WithinLimits) :
    second.WithinLimits :=
  ⟨fun index known => (kept.characters index known).limits (within.characters index known),
    kept.gil within.gil⟩

end Keeps

/-! ## Changes -/

section Changes

variable (session : Session)

/-- A change of one character leaves the others as they are. -/
theorem getElem_updateCharacter (id : UInt8) (change : Character → Character) (index : Nat)
    (known : index < characterCount) :
    (session.updateCharacter id change).characters[index] =
      if id.toNat = index then change session.characters[index] else session.characters[index] := by
  unfold updateCharacter
  split
  · next absent =>
      have outside := Vector.getElem?_eq_none_iff.mp absent
      rw [if_neg (by omega)]
  · next character found =>
      obtain ⟨_, rfl⟩ := Vector.getElem?_eq_some_iff.mp found
      rw [Vector.getElem_setIfInBounds]
      split
      · next same => subst same; rfl
      · rfl

theorem updateCharacter_keeps (id : UInt8) {change : Character → Character}
    (each : ∀ character : Character, character.Keeps (change character)) :
    session.Keeps (session.updateCharacter id change) := by
  refine ⟨fun index known => ?_, fun within => ?_⟩
  · rw [getElem_updateCharacter]
    split
    · exact each _
    · exact .refl
  · obtain ⟨characters, same⟩ := session.updateCharacter_eq id change
    rw [same]
    exact within

theorem restoreParty_keeps : session.Keeps session.restoreParty := by
  refine .foldl (fun session held => ?_) _ session
  cases held with
  | none => exact .of_eq rfl rfl
  | some id => exact session.updateCharacter_keeps id Character.keeps_restore

theorem restoreAll_keeps : session.Keeps session.restoreAll := by
  refine ⟨fun index known => ?_, id⟩
  simp only [restoreAll, Vector.getElem_map]
  exact Character.keeps_restore _

theorem toNat_addGil (amount : UInt32) :
    (session.addGil amount).gil.toNat = min (session.gil.toNat + amount.toNat) maxGil := by
  have capped : min (session.gil.toNat + amount.toNat) maxGil < UInt32.size :=
    Nat.lt_of_le_of_lt (Nat.min_le_right ..) (by decide)
  exact Nat.mod_eq_of_lt capped

theorem toNat_takeGil (amount : UInt32) :
    (session.takeGil amount).gil.toNat = session.gil.toNat - amount.toNat := by
  unfold takeGil
  dsimp only
  split
  · next least =>
      rw [UInt32.le_iff_toNat_le] at least
      exact (Nat.sub_eq_zero_of_le least).symm
  · next more =>
      have above : amount ≤ session.gil := UInt32.le_of_lt (UInt32.not_le.mp more)
      exact UInt32.toNat_sub_of_le session.gil amount above

/-- Every change of the session keeps the limits. -/
theorem change_keeps (change : SessionChange) : session.Keeps (change.apply session) := by
  cases change with
  | addGil amount =>
      refine ⟨fun _ _ => .refl, fun _ => ?_⟩
      show (session.addGil amount).gil.toNat ≤ maxGil
      rw [toNat_addGil]
      exact Nat.min_le_right ..
  | takeGil amount =>
      refine ⟨fun _ _ => .refl, fun within => ?_⟩
      show (session.takeGil amount).gil.toNat ≤ maxGil
      rw [toNat_takeGil]
      exact Nat.le_trans (Nat.sub_le ..) within
  | restoreParty => exact session.restoreParty_keeps
  | restoreAll => exact session.restoreAll_keeps
  | raiseHp character amount =>
      exact session.updateCharacter_keeps character fun character =>
        ⟨rfl, rfl, fun within => ⟨Character.raise_le .., within.mp⟩⟩
  | lowerHp character amount =>
      exact session.updateCharacter_keeps character fun character =>
        ⟨rfl, rfl, fun within => ⟨Character.lower_le amount within.hp, within.mp⟩⟩
  | raiseMp character amount =>
      exact session.updateCharacter_keeps character fun character =>
        ⟨rfl, rfl, fun within => ⟨within.hp, Character.raise_le ..⟩⟩
  | lowerMp character amount =>
      exact session.updateCharacter_keeps character fun character =>
        ⟨rfl, rfl, fun within => ⟨within.hp, Character.lower_le amount within.mp⟩⟩
  | _ => exact .of_eq rfl rfl

theorem advanceTimer_keeps (elapsed : UInt64) : session.Keeps (session.advanceTimer elapsed) := by
  unfold advanceTimer
  split <;> exact .of_eq rfl rfl

end Changes

/-- Every step of a session keeps the limits. -/
theorem Step.keeps {before after : Session} (step : before.Step after) : before.Keeps after := by
  cases step with
  | change change => exact before.change_keeps change
  | party change => exact .of_eq rfl rfl
  | cell bank address value => exact .of_eq rfl rfl
  | time elapsed => exact before.advanceTimer_keeps elapsed
  | enter => exact .of_eq rfl rfl

end Session

/-! ## Instructions that change points -/

/-- The points of the character that an instruction names, from what they were and an amount. -/
def Opcode.pointsAfter (op : Opcode) (character : Character) (amount : Nat) : Nat × Nat :=
  let (hp, mp) := character.points
  match op with
  | .hpUp => (min (hp + amount) character.maxHp.toNat, mp)
  | .hpDown => (hp - amount, mp)
  | .mpUp => (hp, min (mp + amount) character.maxMp.toNat)
  | .mpDown => (hp, mp - amount)
  | _ => (hp, mp)

/-- What an instruction does to the points of all characters, one of which it names. -/
def Session.PointsChanged (op : Opcode) (before after : Session) (character : UInt8)
    (amount : UInt16) : Prop :=
  ∀ (index : Nat) (known : index < characterCount),
    after.characters[index].points =
      if character.toNat = index then op.pointsAfter before.characters[index] amount.toNat
      else before.characters[index].points

namespace Company

/-- The instructions that raise points, and those that lower them. -/
def raising : List Opcode := [.hpUp, .mpUp]

@[inherit_doc raising]
def lowering : List Opcode := [.hpDown, .mpDown]

variable {op : Opcode}

/-- An instruction that changes points comes to a change of the character in a party slot. -/
theorem changes_of_points (member : op ∈ raising ++ lowering) :
    ∃ change : UInt8 → UInt16 → SessionChange,
      op.Changes pointsAt (fun told => change told.1 told.2) ∧
      ∀ (session : Session) (character : UInt8) (amount : UInt16),
        Session.PointsChanged op session ((change character amount).apply session) character
          amount := by
  have each (change : Character → Character) (amount : UInt16)
      (same : ∀ held : Character, (change held).points = op.pointsAfter held amount.toNat)
      (session : Session) (id : UInt8) :
      Session.PointsChanged op session (session.updateCharacter id change) id amount := by
    intro index known
    rw [Session.getElem_updateCharacter, apply_ite Character.points, same]
  simp only [raising, lowering, List.cons_append, List.nil_append, List.mem_cons, List.not_mem_nil,
    or_false] at member
  rcases member with rfl | rfl | rfl | rfl
  · refine ⟨.raiseHp, changePoints_changes rfl, fun session character amount => ?_⟩
    exact each (fun held => { held with hp := Character.raise held.hp amount held.maxHp }) amount
      (fun held => Prod.ext (Character.toNat_raise ..) rfl) session character
  · refine ⟨.raiseMp, changePoints_changes rfl, fun session character amount => ?_⟩
    exact each (fun held => { held with mp := Character.raise held.mp amount held.maxMp }) amount
      (fun held => Prod.ext rfl (Character.toNat_raise ..)) session character
  · refine ⟨.lowerHp, changePoints_changes rfl, fun session character amount => ?_⟩
    exact each (fun held => { held with hp := Character.lower held.hp amount }) amount
      (fun held => Prod.ext (Character.toNat_lower ..) rfl) session character
  · refine ⟨.lowerMp, changePoints_changes rfl, fun session character amount => ?_⟩
    exact each (fun held => { held with mp := Character.lower held.mp amount }) amount
      (fun held => Prod.ext rfl (Character.toNat_lower ..)) session character

end Company

namespace Session

/-- Nobody has more points of either kind before than after. -/
def PointsLe (before after : Session) : Prop :=
  ∀ (index : Nat) (known : index < characterCount),
    before.characters[index].hp ≤ after.characters[index].hp ∧
      before.characters[index].mp ≤ after.characters[index].mp

variable {before after : Session} {op : Opcode} {character : UInt8} {amount : UInt16}

theorem pointsLe_of_points (points : ∀ (index : Nat) (known : index < characterCount),
    before.characters[index].points.1 ≤ after.characters[index].points.1 ∧
      before.characters[index].points.2 ≤ after.characters[index].points.2) :
    before.PointsLe after := fun index known =>
  ⟨UInt16.le_iff_toNat_le.mpr (points index known).1,
    UInt16.le_iff_toNat_le.mpr (points index known).2⟩

theorem PointsLe.refl (session : Session) : session.PointsLe session :=
  fun _ _ => ⟨UInt16.le_refl _, UInt16.le_refl _⟩

/-- Points that are within their limits are not lowered where an instruction raises them. -/
theorem PointsChanged.raised (changed : PointsChanged op before after character amount)
    (within : before.WithinLimits) (member : op ∈ Company.raising) : before.PointsLe after := by
  refine pointsLe_of_points fun index known => ?_
  rw [changed index known]
  obtain ⟨hp, mp⟩ := within.characters index known
  rw [UInt16.le_iff_toNat_le] at hp mp
  simp only [Company.raising, List.mem_cons, List.not_mem_nil, or_false] at member
  split
  · rcases member with rfl | rfl <;>
      simp only [Opcode.pointsAfter, Character.points] <;> omega
  · exact ⟨Nat.le_refl _, Nat.le_refl _⟩

/-- Points are not raised where an instruction lowers them. -/
theorem PointsChanged.lowered (changed : PointsChanged op before after character amount)
    (member : op ∈ Company.lowering) : after.PointsLe before := by
  refine pointsLe_of_points fun index known => ?_
  rw [changed index known]
  simp only [Company.lowering, List.mem_cons, List.not_mem_nil, or_false] at member
  split
  · rcases member with rfl | rfl <;>
      simp only [Opcode.pointsAfter, Character.points] <;> omega
  · exact ⟨Nat.le_refl _, Nat.le_refl _⟩

end Session

/-! ## Gil -/

/-- The gil after an instruction, from what there was and an amount: the exact result, clamped to
the limits. -/
def Opcode.gilAfter (op : Opcode) (gil amount : Int) : Int :=
  max 0 (min (if op = .goldUp then gil + amount else gil - amount) maxGil)

namespace Company

/-- The instructions that add gil or take it away. -/
def trading : List Opcode := [.goldUp, .goldDown]

/-- An instruction that adds gil or takes it away comes to a change of the gil alone. -/
theorem changes_of_gil {op : Opcode} (member : op ∈ trading) :
    ∃ change : UInt32 → SessionChange,
      op.Changes (fun scene => amountAt scene.session.memory) (change ·.toUInt32) ∧
      ∀ (session : Session) (amount : UInt32), session.gil.toNat ≤ maxGil →
        ∃ gil : UInt32, (change amount).apply session = { session with gil } ∧
          (gil.toNat : Int) = op.gilAfter session.gil.toNat amount.toNat := by
  simp only [trading, List.mem_cons, List.not_mem_nil, or_false] at member
  rcases member with rfl | rfl
  · refine ⟨.addGil, changeGil_changes rfl, fun session amount within => ⟨_, rfl, ?_⟩⟩
    have added := session.toNat_addGil amount
    simp only [Session.addGil] at added
    rw [added]
    simp only [Opcode.gilAfter, if_true]
    omega
  · refine ⟨.takeGil, changeGil_changes rfl, fun session amount within => ⟨_, rfl, ?_⟩⟩
    have taken := session.toNat_takeGil amount
    simp only [Session.takeGil] at taken
    rw [taken]
    have other : Opcode.goldDown ≠ .goldUp := by decide
    simp only [Opcode.gilAfter, if_neg other]
    omega

end Company

namespace Machine

open Company

variable {σ : Type} {setting : Setting σ} {machine : Machine σ} {id : EntityId}
  {priority place : Nat} {lane : Lane} {op : Opcode}

section Steps

variable (here : machine.world.lane? id priority = some lane)
  (begins : lane.Begins setting.source.code place op)
include here begins

/-- A step on an instruction that changes points. -/
theorem points_of_step (member : op ∈ raising ++ lowering) :
    let stepped := machine.step setting id priority
    let read :=
      pointsAt (machine.sceneOf setting id priority place lane) setting.source.code (place + 1)
    (stepped.2 = .goOn ↔ place + op.size ≤ setting.source.code.size ∧ ∃ told, read = .ok told) ∧
    (stepped.2 = .goOn → ∃ character amount, read = .ok (character, amount) ∧
      Session.PointsChanged op machine.session stepped.1.session character amount) ∧
    (stepped.2 ≠ .goOn → stepped.1.session = machine.session) := by
  obtain ⟨change, changes, changed⟩ := changes_of_points member
  obtain ⟨goesOn, done, spared⟩ := session_of_changes changes here begins
  intro stepped read
  refine ⟨goesOn, fun went => ?_, spared⟩
  obtain ⟨⟨character, amount⟩, told, same⟩ := done went
  refine ⟨character, amount, told, ?_⟩
  rw [same]
  exact changed machine.session character amount

/-- Raising never lowers points that are within their limits, and lowering never raises any. -/
theorem pointsLe_of_step (member : op ∈ raising ++ lowering) :
    let after := (machine.step setting id priority).1.session
    (op ∈ raising → machine.session.WithinLimits → machine.session.PointsLe after) ∧
      (op ∈ lowering → after.PointsLe machine.session) := by
  obtain ⟨-, done, spared⟩ := points_of_step here begins member
  intro after
  by_cases went : (machine.step setting id priority).2 = .goOn
  · obtain ⟨character, amount, -, changed⟩ := done went
    exact ⟨fun raises within => changed.raised within raises, changed.lowered⟩
  · have same : after = machine.session := spared went
    rw [same]
    exact ⟨fun _ _ => .refl _, fun _ => .refl _⟩

/-- A step on an instruction that adds gil or takes it away. -/
theorem gil_of_step (within : machine.session.gil.toNat ≤ maxGil) (member : op ∈ trading) :
    let stepped := machine.step setting id priority
    let read := amountAt machine.session.memory setting.source.code (place + 1)
    (stepped.2 = .goOn ↔ place + op.size ≤ setting.source.code.size ∧ ∃ amount, read = .ok amount) ∧
    (stepped.2 = .goOn → ∃ (amount : Nat) (gil : UInt32), read = .ok amount ∧
      stepped.1.session = { machine.session with gil } ∧
      (gil.toNat : Int) = op.gilAfter machine.session.gil.toNat amount) ∧
    (stepped.2 ≠ .goOn → stepped.1.session = machine.session) := by
  obtain ⟨change, changes, traded⟩ := changes_of_gil member
  obtain ⟨goesOn, done, spared⟩ := session_of_changes changes here begins
  intro stepped read
  refine ⟨goesOn, fun went => ?_, spared⟩
  obtain ⟨amount, told, same⟩ := done went
  obtain ⟨gil, changed, clamped⟩ := traded machine.session amount.toUInt32 within
  have number : amount.toUInt32.toNat = amount := Nat.mod_eq_of_lt (amountAt_lt told)
  rw [number] at clamped
  exact ⟨amount, gil, told, same.trans changed, clamped⟩

end Steps

end Machine

/-! ## Gil in cells -/

/-- A destination operand names a cell that exists. -/
def Memory.Takes (memory : Memory) (cell : UInt8 × UInt8) : Prop :=
  cell.1 ≠ 0 ∧ memory.locate cell.1 cell.2.toUInt16 = .ok ()

namespace Deposit

variable {σ : Type} (setting : Setting σ) (machine : Machine σ)

theorem perform_of_takes {deposit : Deposit} (takes : machine.session.memory.Takes deposit.cell) :
    deposit.effect.perform setting machine = (deposit.put setting machine, none) := by
  obtain ⟨bank, stands⟩ : deposit.selector ≠ 0 ∧
    machine.session.memory.locate deposit.selector deposit.address.toUInt16 = .ok () := takes
  simp only [effect, Effect.perform, Machine.store, if_neg bank, Machine.writeCell, stands]
  rfl

theorem perform_of_not_takes {deposit : Deposit}
    (refuses : ¬machine.session.memory.Takes deposit.cell) :
    ∃ error, deposit.effect.perform setting machine = (machine, some error) := by
  simp only [effect, Effect.perform, Machine.store, Machine.writeCell]
  split
  · exact ⟨_, rfl⟩
  · next bank =>
      split
      · exact ⟨_, rfl⟩
      · next stands => exact absurd ⟨bank, stands⟩ refuses

/-- A write leaves the cells there are. -/
theorem takes_put (deposit : Deposit) (cell : UInt8 × UInt8) :
    (deposit.put setting machine).session.memory.Takes cell ↔
      machine.session.memory.Takes cell := by
  rw [put, Machine.session_putCell]
  exact Iff.rfl

/-- Writes are carried out if all their cells exist, and otherwise one of them is refused. -/
theorem performAll_cases (deposits : List Deposit) :
    ((∀ deposit ∈ deposits, machine.session.memory.Takes deposit.cell) ∧
      Effect.performAll setting machine (deposits.map effect) =
        (deposits.foldl (put setting) machine, none)) ∨
    (¬∀ deposit ∈ deposits, machine.session.memory.Takes deposit.cell) ∧
      ∃ reached error,
        Effect.performAll setting machine (deposits.map effect) = (reached, some error) := by
  induction deposits generalizing machine with
  | nil => exact .inl ⟨nofun, rfl⟩
  | cons deposit rest ih =>
      simp only [List.map_cons, Effect.performAll, List.forall_mem_cons]
      by_cases takes : machine.session.memory.Takes deposit.cell
      · rw [perform_of_takes setting machine takes]
        have further := ih (deposit.put setting machine)
        simp only [takes_put] at further
        simpa only [takes, true_and, List.foldl_cons] using further
      · obtain ⟨error, refused⟩ := perform_of_not_takes setting machine takes
        exact .inr ⟨fun all => takes all.1, machine, error, by rw [refused]⟩

end Deposit

namespace Company

open Reading Arithmetic

/-- Where the gil goes, low half first: the cells that two bytes behind a byte of selectors name. -/
def gilCellsAt (code : Array UInt8) (place : Nat) : (UInt8 × UInt8) × (UInt8 × UInt8) :=
  let selectors : Selectors := { byte := byteAt code place }
  ((selectors.high, byteAt code (place + 1)), (selectors.low, byteAt code (place + 2)))

/-- The halves of the gil with the cells that take them. -/
def gilWrites (gil : UInt32) (cells : (UInt8 × UInt8) × (UInt8 × UInt8)) : List Deposit :=
  [⟨cells.1.1, cells.1.2, gil.toUInt16⟩, ⟨cells.2.1, cells.2.2, (gil >>> 16).toUInt16⟩]

theorem plans_chgld : Opcode.chgld.Plans (fun _ code place => .ok (gilCellsAt code place))
    fun scene cells => .next ((gilWrites scene.session.gil cells).map Deposit.effect) := by
  refine .of_works 3 rfl fun scene cursor inside => ?_
  have first : cursor.pc + 1 ≤ cursor.code.size := by omega
  have second : cursor.pc + (1 + 1) ≤ cursor.code.size := by omega
  simp only [storeGil, bind_of_ok (selectors_of_le first), bind_of_ok (byte_forward second),
    bind_of_ok (byte_forward inside), bind_session]
  rfl

end Company

namespace Session

/-- The halves of the gil make it up again. -/
theorem halves_gil (gil : UInt32) :
    gil.toUInt16.toNat + 65536 * (gil >>> 16).toUInt16.toNat = gil.toNat := by
  have small : gil.toNat < 4294967296 := gil.toNat_lt
  have high : (gil >>> 16).toNat = gil.toNat / 65536 := by
    rw [UInt32.toNat_shiftRight]
    exact Nat.shiftRight_eq_div_pow ..
  rw [UInt32.toNat_toUInt16, UInt32.toNat_toUInt16, high]
  omega

/-- Two cells that took the halves of the gil hold them, unless they are the same. -/
theorem read_gilWrites {session : Session} {cells : (UInt8 × UInt8) × (UInt8 × UInt8)}
    (takes : session.memory.Takes cells.1 ∧ session.memory.Takes cells.2)
    (apart : cells.1 ≠ cells.2) :
    let written := ((Company.gilWrites session.gil cells).foldl deposit session).memory
    written.read cells.1.1 cells.1.2.toUInt16 = .ok session.gil.toUInt16 ∧
      written.read cells.2.1 cells.2.2.toUInt16 = .ok (session.gil >>> 16).toUInt16 := by
  have other : ¬(cells.2.1 = cells.1.1 ∧ cells.2.2.toUInt16 = cells.1.2.toUInt16) := fun same =>
    apart (Prod.ext same.1.symm (by
      have number := congrArg UInt16.toNat same.2
      rw [UInt8.toNat_toUInt16, UInt8.toNat_toUInt16] at number
      exact UInt8.toNat_inj.mp number.symm))
  let first := session.memory.put cells.1.1 cells.1.2.toUInt16 session.gil.toUInt16
  have stands : first.locate cells.2.1 cells.2.2.toUInt16 = .ok () := takes.2.2
  refine ⟨?_, ?_⟩
  · refine (Memory.read_put _ stands _ _).trans ((if_neg other).trans ?_)
    exact (Memory.read_put _ takes.1.2 _ _).trans (if_pos ⟨rfl, rfl⟩)
  · exact (Memory.read_put _ stands _ _).trans (if_pos ⟨rfl, rfl⟩)

/-- An amount from cells that hold the halves of the gil is the gil. -/
theorem amountAt_of_halves {memory : Memory} {cells : (UInt8 × UInt8) × (UInt8 × UInt8)}
    {gil : UInt32} (banks : cells.1.1 ≠ 0 ∧ cells.2.1 ≠ 0)
    (low : memory.read cells.1.1 cells.1.2.toUInt16 = .ok gil.toUInt16)
    (high : memory.read cells.2.1 cells.2.2.toUInt16 = .ok (gil >>> 16).toUInt16)
    {code : Array UInt8} {place : Nat}
    (sources : Company.amountSourcesAt code place =
      ((cells.1.1, cells.1.2.toUInt16), (cells.2.1, cells.2.2.toUInt16))) :
    Company.amountAt memory code place = .ok gil.toNat := by
  rw [Company.amountAt, sources, ← halves_gil gil]
  dsimp only
  rw [Control.operand, if_neg banks.1, low, Control.operand, if_neg banks.2, high]
  rfl

end Session

namespace Machine

open Company

variable {σ : Type} {setting : Setting σ} {machine : Machine σ} {id : EntityId}
  {priority place : Nat} {lane : Lane}

/-- A step on an instruction that comes to writes.  The lane goes on just if the instruction lies
inside the code, its operands can be read and the cells exist, and then the writes were made. -/
theorem goOn_of_deposits {α : Type} {op : Opcode}
    {operands : Scene → Array UInt8 → Nat → Except ExecError α} {writes : Scene → α → List Deposit}
    (plans : op.Plans operands fun scene told => .next ((writes scene told).map Deposit.effect))
    (here : machine.world.lane? id priority = some lane)
    (begins : lane.Begins setting.source.code place op) :
    let stepped := machine.step setting id priority
    let scene := machine.sceneOf setting id priority place lane
    let read := operands scene setting.source.code (place + 1)
    (stepped.2 = .goOn ↔ place + op.size ≤ setting.source.code.size ∧ ∃ told, read = .ok told ∧
      ∀ deposit ∈ writes scene told, machine.session.memory.Takes deposit.cell) ∧
    (stepped.2 = .goOn → ∃ told, read = .ok told ∧
      stepped.1.session = (writes scene told).foldl Session.deposit machine.session) := by
  intro stepped scene read
  by_cases inside : place + op.size ≤ setting.source.code.size
  · have same := step_of_plans plans here begins inside
    dsimp only at same
    cases found : read with
    | error error =>
        rw [show operands scene setting.source.code (place + 1) = .error error from found] at same
        have stopped : stepped.2 ≠ .goOn := fun went => by
          cases (congrArg Prod.snd same).symm.trans went
        refine ⟨⟨fun went => absurd went stopped, ?_⟩, fun went => absurd went stopped⟩
        rintro ⟨-, told, unread, -⟩
        cases unread
    | ok told =>
        rw [show operands scene setting.source.code (place + 1) = .ok told from found] at same
        simp only [Plan.next, carryOut] at same
        rcases Deposit.performAll_cases setting
          (machine.note (.executing id priority place op.byte)) (writes scene told) with
          ⟨takes, performed⟩ | ⟨refused, reached, error, performed⟩
        · obtain ⟨host, journal, written⟩ := putAll_eq setting
            (machine.note (.executing id priority place op.byte)) (writes scene told)
          rw [performed, written] at same
          exact ⟨⟨fun _ => ⟨inside, told, rfl, takes⟩, fun _ => congrArg Prod.snd same⟩,
            fun _ => ⟨told, rfl, congrArg (·.1.session) same⟩⟩
        · rw [performed] at same
          have stopped : stepped.2 ≠ .goOn := fun went => by
            cases (congrArg Prod.snd same).symm.trans went
          refine ⟨⟨fun went => absurd went stopped, ?_⟩, fun went => absurd went stopped⟩
          rintro ⟨-, _, ⟨⟩, takes⟩
          exact absurd takes refused
  · obtain ⟨reading, known, -⟩ := plans
    obtain ⟨error, same⟩ := step_of_overrun here begins known inside
    have stopped : stepped.2 ≠ .goOn := fun went => by
      cases (congrArg Prod.snd same).symm.trans went
    exact ⟨⟨fun went => absurd went stopped, fun both => absurd both.1 inside⟩,
      fun went => absurd went stopped⟩

/-- A step that stores the gil. -/
theorem step_of_storeGil (here : machine.world.lane? id priority = some lane)
    (begins : lane.Begins setting.source.code place .chgld) :
    let stepped := machine.step setting id priority
    let cells := gilCellsAt setting.source.code (place + 1)
    (stepped.2 = .goOn ↔ place + Opcode.chgld.size ≤ setting.source.code.size ∧
      machine.session.memory.Takes cells.1 ∧ machine.session.memory.Takes cells.2) ∧
    (stepped.2 = .goOn → stepped.1.session =
      (gilWrites machine.session.gil cells).foldl Session.deposit machine.session) := by
  obtain ⟨goesOn, done⟩ := goOn_of_deposits plans_chgld here begins
  intro stepped cells
  refine ⟨goesOn.trans (and_congr_right fun _ => ⟨?_, fun takes => ⟨cells, rfl, ?_⟩⟩),
    fun went => ?_⟩
  · rintro ⟨told, ⟨⟩, takes⟩
    simp only [gilWrites, List.forall_mem_cons] at takes
    exact ⟨takes.1, takes.2.1⟩
  · simp only [gilWrites, List.forall_mem_cons]
    exact ⟨takes.1, takes.2, List.forall_mem_nil _⟩
  · obtain ⟨told, ⟨⟩, same⟩ := done went
    exact same

variable {later : Machine σ} {other : EntityId} {level further : Nat} {waiting : Lane}
  {low high : UInt8 × UInt8}

/-- Gil that was stored in two cells, and is then taken away by what the cells hold, is gone. -/
theorem gil_of_stored (here : machine.world.lane? id priority = some lane)
    (begins : lane.Begins setting.source.code place .chgld)
    (named : gilCellsAt setting.source.code (place + 1) = (low, high)) (apart : low ≠ high)
    (went : (machine.step setting id priority).2 = .goOn)
    (held : later.session.gil = machine.session.gil)
    (same : ∀ cell ∈ [low, high], later.session.memory.read cell.1 cell.2.toUInt16 =
      (machine.step setting id priority).1.session.memory.read cell.1 cell.2.toUInt16)
    (there : later.world.lane? other level = some waiting)
    (begun : waiting.Begins setting.source.code further .goldDown)
    (inside : further + Opcode.goldDown.size ≤ setting.source.code.size)
    (sources : amountSourcesAt setting.source.code (further + 1) =
      ((low.1, low.2.toUInt16), (high.1, high.2.toUInt16))) :
    (later.step setting other level).2 = .goOn ∧
      (later.step setting other level).1.session.gil = 0 := by
  obtain ⟨goesOn, stored⟩ := step_of_storeGil here begins
  rw [named] at goesOn stored
  obtain ⟨-, takes⟩ := goesOn.mp went
  simp only [List.forall_mem_cons] at same
  rw [stored went] at same
  obtain ⟨lowRead, highRead⟩ := Session.read_gilWrites takes apart
  have amount : amountAt later.session.memory setting.source.code (further + 1) =
      .ok machine.session.gil.toNat :=
    Session.amountAt_of_halves ⟨takes.1.1, takes.2.1⟩ (same.1.trans lowRead)
      (same.2.1.trans highRead) sources
  have changes : Opcode.goldDown.Changes (fun scene => amountAt scene.session.memory)
    (fun amount => .takeGil amount.toUInt32) := changeGil_changes rfl
  obtain ⟨spends, spent, -⟩ := session_of_changes changes there begun
  have gone := spends.mpr ⟨inside, _, amount⟩
  refine ⟨gone, ?_⟩
  obtain ⟨told, read, after⟩ := spent gone
  cases amount.symm.trans read
  have number : machine.session.gil.toNat.toUInt32.toNat = machine.session.gil.toNat :=
    Nat.mod_eq_of_lt machine.session.gil.toNat_lt
  rw [after]
  apply UInt32.toNat_inj.mp
  refine (Session.toNat_takeGil ..).trans ?_
  rw [held, number]
  exact Nat.sub_self _

variable (setting) in
/-- The limits of a session hold over whole runs.

Whatever moves are made, points that are within their maxima stay within them, the gil stays at or
below its cap, and the maxima never change.

An instruction that changes points lets its lane go on if it lies inside the code and its operands
can be read, and then the points of the character in the party slot are exactly what they should
be; raising never lowers points that are within their limits, and lowering never raises any.

An instruction that adds gil or takes it away changes nothing else, and the gil by exactly the
amount, clamped to the limits.

Gil that was stored in two different cells, and is then taken away by what the cells hold, is
gone. -/
theorem limits_hold :
    (∀ (machine : Machine σ) (moves : List Move), machine.session.WithinLimits →
      let after := (machine.follow setting moves).session
      after.WithinLimits ∧ after.maxima = machine.session.maxima) ∧
    (∀ {machine : Machine σ} {id : EntityId} {priority place : Nat} {lane : Lane} {op : Opcode},
      machine.world.lane? id priority = some lane → lane.Begins setting.source.code place op →
      op ∈ raising ++ lowering →
      let stepped := machine.step setting id priority
      let read :=
        pointsAt (machine.sceneOf setting id priority place lane) setting.source.code (place + 1)
      (stepped.2 = .goOn ↔
        place + op.size ≤ setting.source.code.size ∧ ∃ told, read = .ok told) ∧
      (stepped.2 = .goOn → ∃ character amount, read = .ok (character, amount) ∧
        Session.PointsChanged op machine.session stepped.1.session character amount) ∧
      (stepped.2 ≠ .goOn → stepped.1.session = machine.session) ∧
      (op ∈ raising → machine.session.WithinLimits → machine.session.PointsLe stepped.1.session) ∧
      (op ∈ lowering → stepped.1.session.PointsLe machine.session)) ∧
    (∀ {machine : Machine σ} {id : EntityId} {priority place : Nat} {lane : Lane} {op : Opcode},
      machine.world.lane? id priority = some lane → lane.Begins setting.source.code place op →
      op ∈ trading → machine.session.gil.toNat ≤ maxGil →
      let stepped := machine.step setting id priority
      let read := amountAt machine.session.memory setting.source.code (place + 1)
      (stepped.2 = .goOn ↔
        place + op.size ≤ setting.source.code.size ∧ ∃ amount, read = .ok amount) ∧
      (stepped.2 = .goOn → ∃ (amount : Nat) (gil : UInt32), read = .ok amount ∧
        stepped.1.session = { machine.session with gil } ∧
        (gil.toNat : Int) = op.gilAfter machine.session.gil.toNat amount) ∧
      (stepped.2 ≠ .goOn → stepped.1.session = machine.session)) ∧
    (∀ {machine : Machine σ} {id : EntityId} {priority place : Nat} {lane : Lane}
      {low high : UInt8 × UInt8},
      machine.world.lane? id priority = some lane → lane.Begins setting.source.code place .chgld →
      gilCellsAt setting.source.code (place + 1) = (low, high) → low ≠ high →
      let stepped := machine.step setting id priority
      (stepped.2 = .goOn ↔ place + Opcode.chgld.size ≤ setting.source.code.size ∧
        machine.session.memory.Takes low ∧ machine.session.memory.Takes high) ∧
      (stepped.2 = .goOn →
        ∀ {later : Machine σ} {other : EntityId} {level further : Nat} {waiting : Lane},
        later.session.gil = stepped.1.session.gil →
        (∀ cell ∈ [low, high], later.session.memory.read cell.1 cell.2.toUInt16 =
          stepped.1.session.memory.read cell.1 cell.2.toUInt16) →
        later.world.lane? other level = some waiting →
        waiting.Begins setting.source.code further .goldDown →
        further + Opcode.goldDown.size ≤ setting.source.code.size →
        amountSourcesAt setting.source.code (further + 1) =
          ((low.1, low.2.toUInt16), (high.1, high.2.toUInt16)) →
        (later.step setting other level).2 = .goOn ∧
          (later.step setting other level).1.session.gil = 0)) := by
  refine ⟨fun machine moves within => ?_, fun here begins member => ?_,
    fun here begins member within => gil_of_step here begins within member,
    fun here begins named apart => ?_⟩
  · have kept : machine.session.Keeps (machine.follow setting moves).session :=
      (machine.follow_deals setting moves).invariant
        (fun _ _ step kept => kept.trans step.keeps) (.of_eq rfl rfl)
    exact ⟨kept.withinLimits within, kept.maxima_eq⟩
  · obtain ⟨goesOn, done, spared⟩ := points_of_step here begins member
    exact ⟨goesOn, done, spared, pointsLe_of_step here begins member⟩
  · obtain ⟨goesOn, stored⟩ := step_of_storeGil here begins
    rw [named] at goesOn
    refine ⟨goesOn, fun went later other level further waiting held same there begun => ?_⟩
    rw [stored went] at held
    exact gil_of_stored here begins named apart went held same there begun

end Machine

/-! ## A treasury that is spent at once -/

namespace Treasury

/-- Points are raised past their maximum and gil past its cap; then the gil is stored in two cells
and taken away by them. -/
def bytes : Array UInt8 :=
  (([2, 5, 1, 0, 131, 0, 0, 0, 0, 2] ++ List.replicate 22 0 ++ List.replicate 8 0
    ++ [104, 0] ++ (List.replicate 31 [125, 0]).flatten
    ++ [0x4D, 0x00, 0x00, 0x1E, 0x00, 0x39, 0x00, 0xA0, 0x86, 0x01, 0x00, 0x3B, 0x11, 0x04, 0x06,
      0x3A, 0x11, 0x04, 0x00, 0x06, 0x00, 0x00]
    : List UInt8)).toArray

def setting : Setting Unit :=
  { source := Section.ofBytes bytes, config := { opsPerTick := 8 }, host := Host.accepting }

def session : Session :=
  { Session.fresh setting.config with
    party := { slots := #v[some 0, none, none] }
    characters := Vector.replicate characterCount { hp := 10, maxHp := 25 }
    gil := 99999990 }

/-- The field after so many instructions. -/
def after : Nat → Machine Unit
  | 0 => Machine.follow setting (Machine.enter setting session (.ofSeed 0) ()) [.start]
  | count + 1 => ((after count).step setting 0 0).1

/-- The lane at a place of the code. -/
def lane (place : Nat) : Lane := { status := .active place 0 none none, script := 0, epoch := 1 }

theorem session_withinLimits : session.WithinLimits := by
  refine ⟨fun index known => ?_, by decide⟩
  have same : session.characters[index] = { hp := 10, maxHp := 25 } := Vector.getElem_replicate _
  rw [same]
  exact ⟨by decide, by decide⟩

/-- The points stop at their maximum and the gil at its cap, and then the gil is gone. -/
theorem raised_stored_and_spent :
    (after 0).session.WithinLimits ∧ (after 0).session.PointsLe (after 1).session ∧
      (∃ gil : UInt32, (after 2).session = { (after 1).session with gil } ∧
        gil.toNat = 99999999) ∧
      ((after 3).step setting 0 0).2 = .goOn ∧ (after 4).session.gil = 0 := by
  obtain ⟨run, points, gil, stored⟩ := Machine.limits_hold setting
  have first : ((after 0).step setting 0 0).1 = after 1 := rfl
  have second : ((after 1).step setting 0 0).1 = after 2 := rfl
  have third : ((after 2).step setting 0 0).1 = after 3 := rfl
  have fourth : ((after 3).step setting 0 0).1 = after 4 := rfl
  obtain ⟨raising, adding, storing, taking, wentAdding, wentStoring⟩ :
      (after 0).world.lane? 0 0 = some (lane 104) ∧ (after 1).world.lane? 0 0 = some (lane 109) ∧
        (after 2).world.lane? 0 0 = some (lane 115) ∧
        (after 3).world.lane? 0 0 = some (lane 119) ∧
        ((after 1).step setting 0 0).2 = .goOn ∧ ((after 2).step setting 0 0).2 = .goOn := by
    decide +kernel
  obtain ⟨raise, add, store, take, inside, cells, sources⟩ :
      setting.source.code[104]? = some Opcode.hpUp.byte ∧
        setting.source.code[109]? = some Opcode.goldUp.byte ∧
        setting.source.code[115]? = some Opcode.chgld.byte ∧
        setting.source.code[119]? = some Opcode.goldDown.byte ∧
        119 + Opcode.goldDown.size ≤ setting.source.code.size ∧
        Company.gilCellsAt setting.source.code 116 = ((1, 4), (1, 6)) ∧
        Company.amountSourcesAt setting.source.code 120 = ((1, 4), (1, 6)) := by decide +kernel
  have begins {place : Nat} {op : Opcode} (named : setting.source.code[place]? = some op.byte) :
      (lane place).Begins setting.source.code place op := ⟨rfl, rfl, rfl, named⟩
  have within : (after 0).session.WithinLimits :=
    (run (Machine.enter setting session (.ofSeed 0) ()) [.start] session_withinLimits).1
  obtain ⟨-, -, -, raised, -⟩ := points raising (begins raise) (by decide)
  have higher := raised (by decide) within
  rw [first] at higher
  refine ⟨within, higher, ?_, ?_⟩
  · obtain ⟨-, added, -⟩ := gil adding (begins add) (by decide) (by decide +kernel)
    obtain ⟨amount, held, read, same, clamped⟩ := added wentAdding
    rw [second] at same
    have told : (Company.amountAt (after 1).session.memory setting.source.code 110).toOption =
      some 100000 := by decide +kernel
    have before : (after 1).session.gil.toNat = 99999990 := by decide +kernel
    rw [read] at told
    cases told
    rw [before] at clamped
    exact ⟨held, same, Int.ofNat.inj (clamped.trans (by decide))⟩
  · obtain ⟨-, spent⟩ := stored storing (begins store) cells (by decide)
    rw [third] at spent
    have gone := spent wentStoring rfl (fun _ _ => rfl) taking (begins take) inside sources
    rw [fourth] at gone
    exact gone

end Treasury

end FieldMachine
