import FieldMachine.Proofs.Ledger

/-!
# Replicas of a field

A listener that holds a copy of the banks, the background masks and the locked
triangles, and repeats every change that is announced to it, keeps a replica of
the field: wherever the field is between two instructions, the replica agrees
with it on every replicated bank, on the masks and on the triangles
(`Machine.replicas_follow`).

The scratch bank is left out, since entering a field empties it without a word.
The party and the palettes are announced without their contents; all that can be
asked of their announcements is that none is missing.
-/

namespace FieldMachine

set_option autoImplicit false

open Std (ExtTreeMap ExtTreeSet)

/-! ## Banks -/

/-- The bank with a value in one of its cells; addresses past its end name none. -/
def Bank.put (bank : Bank) (address value : UInt16) : Bank :=
  { bank with cells := bank.cells.setIfInBounds address.toNat value }

namespace Memory

variable (memory : Memory)

theorem bank_eq (number : UInt8) :
    memory.bank number = (memory.locate number 0).map fun _ =>
      { size := memory.bankSize, cells := memory.rows[number.toNat]?.getD #[] } := by
  unfold bank
  cases memory.locate number 0 <;> rfl

theorem bank_modifyRow_other {number written : UInt8} (other : number ≠ written)
    (change : Array UInt16 → Array UInt16)
    (kept : ∀ row : Array UInt16, (change row).size = row.size) :
    (memory.modifyRow written change kept).bank number = memory.bank number := by
  have apart : written.toNat ≠ number.toNat := fun same => other (UInt8.toNat_inj.mp same).symm
  have same : (memory.modifyRow written change kept).rows[number.toNat]? =
      memory.rows[number.toNat]? := by
    simp only [modifyRow, Array.getElem?_modify, if_neg apart]
  rw [bank_eq, bank_eq, same]
  rfl

theorem bank_put_other {number written : UInt8} (other : number ≠ written)
    (address value : UInt16) :
    (memory.put written address value).bank number = memory.bank number :=
  memory.bank_modifyRow_other other _ _

theorem bank_put_self (number : UInt8) (address value : UInt16) :
    (memory.put number address value).bank number =
      (memory.bank number).map (·.put address value) := by
  have changed : (memory.put number address value).rows[number.toNat]? =
      memory.rows[number.toNat]?.map (·.setIfInBounds address.toNat value) := by
    simp only [put, modifyRow, Array.getElem?_modify, if_true]
  rw [bank_eq, bank_eq, changed]
  change (memory.locate number 0).map _ = _
  cases memory.locate number 0 with
  | error error => rfl
  | ok found => cases memory.rows[number.toNat]? <;> rfl

theorem bank_resetScratch {number : UInt8} (other : number ≠ scratchBank) :
    memory.resetScratch.bank number = memory.bank number :=
  memory.bank_modifyRow_other other _ _

end Memory

/-! ## Replicas -/

/-- What a listener keeps of a field. -/
structure Replica where
  memory : Memory
  backgrounds : ExtTreeMap UInt8 UInt32
  lockedTriangles : ExtTreeSet UInt16

/-- The copy that a listener can take of a field. -/
def Machine.replica {σ : Type} (machine : Machine σ) : Replica :=
  { memory := machine.session.memory
    backgrounds := machine.world.stage.backgrounds
    lockedTriangles := machine.world.stage.lockedTriangles }

namespace Replica

/-- A listener repeats a change.  What it hears of palettes and of the party has no contents. -/
def hear (replica : Replica) : StateChange → Replica
  | .cell bank address value =>
      { replica with memory := replica.memory.put bank address.toUInt16 value }
  | .background area mask =>
      { replica with backgrounds := replica.backgrounds.insert area mask }
  | .walkmesh triangle locked =>
      { replica with
        lockedTriangles :=
          if locked then replica.lockedTriangles.insert triangle
          else replica.lockedTriangles.erase triangle }
  | .palette _ | .party => replica

/-- The replica after some changes, the earliest one first. -/
def replay (replica : Replica) (changes : List StateChange) : Replica := changes.foldl hear replica

/-- A replica agrees with a field on all that is replicated. -/
structure Agrees (config : Config) (replica original : Replica) : Prop where
  banks : ∀ bank, bank ≠ Memory.scratchBank → config.isReplicated bank →
    replica.memory.bank bank = original.memory.bank bank
  backgrounds : replica.backgrounds = original.backgrounds
  lockedTriangles : replica.lockedTriangles = original.lockedTriangles

namespace Agrees

variable {config : Config} {replica original : Replica}

theorem refl (config : Config) (replica : Replica) : replica.Agrees config replica :=
  ⟨fun _ _ _ => rfl, rfl, rfl⟩

/-- Agreement survives a change that both make. -/
theorem hear (agrees : replica.Agrees config original) (change : StateChange) :
    (replica.hear change).Agrees config (original.hear change) := by
  obtain ⟨banks, backgrounds, triangles⟩ := agrees
  cases change with
  | cell written address value =>
      refine ⟨fun bank other listed => ?_, backgrounds, triangles⟩
      have before := banks bank other listed
      by_cases same : bank = written
      · subst same
        simp only [Replica.hear, Memory.bank_put_self, before]
      · simp only [Replica.hear, Memory.bank_put_other _ same, before]
  | background area mask =>
      exact ⟨banks, by simp only [Replica.hear, backgrounds], triangles⟩
  | walkmesh triangle locked =>
      exact ⟨banks, backgrounds, by simp only [Replica.hear, triangles]⟩
  | palette id => exact ⟨banks, backgrounds, triangles⟩
  | party => exact ⟨banks, backgrounds, triangles⟩

/-- Agreement survives what happens to a bank that is not replicated. -/
theorem unlisted (agrees : replica.Agrees config original) {written : UInt8}
    (unlisted : ¬config.isReplicated written) (address value : UInt16) :
    replica.Agrees config
      { original with memory := original.memory.put written address value } := by
  refine ⟨fun bank other listed => ?_, agrees.backgrounds, agrees.lockedTriangles⟩
  have apart : bank ≠ written := fun same => unlisted (same ▸ listed)
  rw [agrees.banks bank other listed]
  exact (original.memory.bank_put_other apart address value).symm

/-- Agreement survives what happens to the scratch bank. -/
theorem resetScratch (agrees : replica.Agrees config original) :
    replica.Agrees config { original with memory := original.memory.resetScratch } := by
  refine ⟨fun bank other listed => ?_, agrees.backgrounds, agrees.lockedTriangles⟩
  rw [agrees.banks bank other listed]
  exact (original.memory.bank_resetScratch other).symm

end Agrees

end Replica

/-! ## Writes that are repeated -/

namespace Ledger

variable {config : Config}

/-- What a listener would copy of a ledger. -/
def replica (ledger : Ledger) : Replica :=
  { memory := ledger.memory
    backgrounds := ledger.backgrounds
    lockedTriangles := ledger.lockedTriangles }

/-- A listener that began with a copy and heard of all changes agrees with the ledger, and heard of
no bank that is not replicated. -/
structure Followed (config : Config) (copy : Replica) (ledger : Ledger) : Prop where
  agrees : (copy.replay ledger.told).Agrees config ledger.replica
  listed : ∀ bank address value, .cell bank address value ∈ ledger.told → config.isReplicated bank

theorem Write.followed {copy : Replica} {before after : Ledger} (write : before.Write config after)
    (followed : before.Followed config copy) : after.Followed config copy := by
  obtain ⟨agrees, listed⟩ := followed
  -- A write with an announcement: the listener hears one change more, and makes it.
  have heard (change : StateChange) (same : after.told = before.told ++ [change])
      (made : after.replica = before.replica.hear change)
      (known : ∀ bank address value, change = .cell bank address value →
        config.isReplicated bank) : after.Followed config copy := by
    refine ⟨?_, fun bank address value member => ?_⟩
    · rw [same, made, Replica.replay, List.foldl_append]
      exact agrees.hear change
    · rw [same, List.mem_append, List.mem_singleton] at member
      rcases member with earlier | rfl
      · exact listed bank address value earlier
      · exact known bank address value rfl
  cases write with
  | cell bank address value replicated =>
      refine heard _ rfl rfl ?_
      rintro _ _ _ ⟨⟩
      exact replicated
  | hidden bank address value unlisted => exact ⟨agrees.unlisted unlisted _ value, listed⟩
  | party slots => exact heard _ rfl rfl nofun
  | background area mask => exact heard _ rfl rfl nofun
  | palette id palette => exact heard _ rfl rfl nofun
  | walkmesh triangle locked => exact heard _ rfl rfl nofun

/-- Party slots and palettes that differ from an earlier ledger have been announced. -/
structure Tells (first ledger : Ledger) : Prop where
  party : ledger.slots ≠ first.slots → .party ∈ ledger.told
  palette : ∀ id : UInt8, ledger.palettes[id]? ≠ first.palettes[id]? → .palette id ∈ ledger.told

theorem Write.tells {first before after : Ledger} (write : before.Write config after)
    (tells : first.Tells before) : first.Tells after := by
  obtain ⟨party, palette⟩ := tells
  cases write with
  | hidden bank address value unlisted => exact ⟨party, palette⟩
  | party slots =>
      exact ⟨fun _ => by simp, fun id changed => by simp [palette id changed]⟩
  | palette written colors =>
      refine ⟨fun changed => by simp [party changed], fun id changed => ?_⟩
      by_cases same : written = id
      · simp [same]
      · rw [ExtTreeMap.getElem?_insert, if_neg (by simpa using same)] at changed
        simp [palette id changed]
  | cell | background | walkmesh =>
      exact ⟨fun changed => by simp [party changed], fun id changed => by simp [palette id changed]⟩

theorem Writes.tells {first after : Ledger} (writes : first.Writes config after) :
    first.Tells after := by
  induction writes with
  | refl => exact ⟨fun changed => absurd rfl changed, fun _ changed => absurd rfl changed⟩
  | step _ write ih => exact write.tells ih

end Ledger

/-! ## Runs -/

namespace Machine

variable {σ : Type} (setting : Setting σ) (machine : Machine σ)

/-- The changes that are announced during some moves, the earliest one first. -/
def told (moves : List Move) : List StateChange :=
  (machine.recorded.follow setting.recording moves).host.2

/-- Keeping the record changes nothing else. -/
theorem see_follow_recorded (moves : List Move) :
    (machine.recorded.follow setting.recording moves).see Prod.fst = machine.follow setting moves :=
  (see_follow setting.host.recording_shows machine.recorded moves).symm

/-- What is announced during further moves comes after what was announced before. -/
theorem told_append (moves more : List Move) :
    machine.told setting (moves ++ more) =
      machine.told setting moves ++ (machine.follow setting moves).told setting more := by
  let reached := machine.recorded.follow setting.recording moves
  have resumed : (machine.follow setting moves).recorded.see (fun state =>
      (state.1, reached.host.2 ++ state.2)) = reached := by
    rw [← see_follow_recorded]
    simp [recorded, see, reached]
  have shows : setting.recording.host.Shows (fun state => (state.1, reached.host.2 ++ state.2))
      setting.host.recording := setting.host.recording_shows_later reached.host.2
  have later := see_follow shows (machine.follow setting moves).recorded more
  rw [resumed] at later
  unfold told follow at *
  rw [List.foldl_append]
  exact congrArg (fun machine => machine.host.2) later

/-- What writes preserve, and besides the entry of the field and palettes that are put into use,
every move preserves. -/
theorem make_ledger (holds : Ledger → Prop)
    (written : ∀ before after : Ledger, before.Write setting.config after → holds before →
      holds after)
    (emptied : ∀ ledger : Ledger, holds ledger →
      holds { ledger with memory := ledger.memory.resetScratch })
    (loaded : ∀ (ledger : Ledger) palettes, holds ledger → holds { ledger with palettes })
    {machine : Machine (σ × List StateChange)} (held : holds machine.ledger) (move : Move) :
    holds (machine.make setting.recording move).ledger := by
  have kept {after : Machine (σ × List StateChange)} (writes : Writes setting machine after) :
      holds after.ledger := writes.preserves written held
  cases move with
  | start =>
      simp only [make, ledger_start]
      exact emptied _ held
  | tick elapsed => exact kept (machine.tick_writes setting elapsed)
  | invoke index priority script =>
      simp only [make, invoke, ledger_startScript]
      exact held
  | giveBack token answer => exact held
  | remove index =>
      simp only [make, ledger_remove]
      exact held
  | spawn activity => exact held
  | loadPalette id palette => exact loaded _ _ held
  | begin elapsed entities lanes => exact kept (machine.duringTick_writes setting elapsed entities lanes)
  | step id priority => exact kept (machine.step_writes setting id priority)

theorem make_followed {copy : Replica} {machine : Machine (σ × List StateChange)}
    (followed : machine.ledger.Followed setting.config copy) (move : Move) :
    (machine.make setting.recording move).ledger.Followed setting.config copy :=
  make_ledger setting (·.Followed setting.config copy)
    (fun _ _ write followed => write.followed followed)
    (fun _ followed => ⟨followed.agrees.resetScratch, followed.listed⟩)
    (fun _ _ followed => ⟨followed.agrees, followed.listed⟩) followed move

theorem follow_followed {copy : Replica} (moves : List Move)
    {machine : Machine (σ × List StateChange)}
    (followed : machine.ledger.Followed setting.config copy) :
    (machine.follow setting.recording moves).ledger.Followed setting.config copy := by
  induction moves generalizing machine with
  | nil => exact followed
  | cons move rest ih => exact ih (make_followed setting followed move)

/-- Whoever copies a field and repeats what is announced from then on agrees with the field at every
place between two instructions.  Only replicated banks are announced, and an instruction announces
every change of the party slots and of a palette in use. -/
theorem replicas_follow (first : Machine σ) (moves : List Move) :
    let reached := first.follow setting moves
    let told := first.told setting moves
    (first.recorded.follow setting.recording moves).see Prod.fst = reached ∧
    (first.replica.replay told).Agrees setting.config reached.replica ∧
    (∀ bank address value, .cell bank address value ∈ told → setting.config.isReplicated bank) ∧
    ∀ id priority,
      let after := (reached.step setting id priority).1
      let announced := reached.told setting [.step id priority]
      first.told setting (moves ++ [.step id priority]) = told ++ announced ∧
      (after.session.party.slots ≠ reached.session.party.slots → .party ∈ announced) ∧
      ∀ palette : UInt8,
        after.world.stage.palettes.live[palette]? ≠
          reached.world.stage.palettes.live[palette]? → .palette palette ∈ announced := by
  intro reached told
  have begun : first.recorded.ledger.Followed setting.config first.replica :=
    ⟨.refl setting.config first.replica, by simp [ledger, recorded, see]⟩
  have followed := follow_followed setting moves begun
  have reaches : (first.recorded.follow setting.recording moves).see Prod.fst = reached :=
    first.see_follow_recorded setting moves
  refine ⟨reaches, ?_, followed.listed, fun id priority => ?_⟩
  · rw [← reaches]
    exact followed.agrees
  · intro after announced
    have tells := (reached.recorded.step_writes setting id priority).tells
    have steps : (reached.recorded.step setting.recording id priority).1.see Prod.fst = after :=
      reached.see_follow_recorded setting [.step id priority]
    refine ⟨first.told_append setting moves _, ?_, ?_⟩
    · rw [← steps]
      exact tells.party
    · rw [← steps]
      exact tells.palette

end Machine

/-! ## A field that announces all kinds of changes -/

/-!
An entity that writes a cell of a replicated bank and one of another bank, shows a background layer,
locks a triangle, takes a character into the party and puts a palette into use.
-/

namespace Broadcast

/-- The header, a name without a character, a script table and twenty-four bytes of code. -/
def bytes : Array UInt8 :=
  (([2, 5, 1, 0, 128, 0, 0, 0, 0, 2] ++ List.replicate 22 0 ++ List.replicate 8 0
    ++ [104, 0] ++ (List.replicate 31 [127, 0]).flatten
    ++ [0x80, 0x10, 0x05, 0x2A, 0x80, 0x20, 0x05, 0x07, 0xE0, 0x00, 0x03, 0x01]
    ++ [0x6D, 0x09, 0x00, 0x01, 0xC8, 0x04, 0xE6, 0x00, 0x02, 0x05, 0x00, 0x00] :
      List UInt8)).toArray

def source : Section := (Section.read bytes).toOption.getD Sample.source

def setting : Setting Unit :=
  { source, config := { opsPerTick := 8, replicatedBanks := [1] }, host := Host.accepting }

def entered : Machine Unit :=
  (Machine.enter setting (Session.fresh setting.config) (.ofSeed 0) ()).start

/-- The first four instructions, up to the one that takes the character in. -/
def untilParty : List Machine.Move :=
  [.begin 0 0 0, .step 0 0, .step 0 0, .step 0 0, .step 0 0]

end Broadcast

namespace Machine

/-- In the first tick five changes are announced.  A replica that repeats them agrees with the
field, though it has not heard of the bank that is not replicated; and the party is announced by the
very instruction that changes it. -/
theorem broadcast_replayed :
    let reached := Broadcast.entered.follow Broadcast.setting [.tick 0]
    let told := Broadcast.entered.told Broadcast.setting [.tick 0]
    told = [.cell 1 5 42, .background 3 2, .walkmesh 9 true, .party, .palette 5] ∧
    (Broadcast.entered.replica.replay told).Agrees Broadcast.setting.config reached.replica ∧
    reached.session.memory.cellAt 2 5 = 7 ∧
    (Broadcast.entered.replica.replay told).memory.cellAt 2 5 = 0 ∧
    let before := Broadcast.entered.follow Broadcast.setting Broadcast.untilParty
    (before.step Broadcast.setting 0 0).1.session.party.slots ≠ before.session.party.slots ∧
    .party ∈ before.told Broadcast.setting [.step 0 0] := by
  intro reached told
  have announced : told =
      [.cell 1 5 42, .background 3 2, .walkmesh 9 true, .party, .palette 5] := by
    decide +kernel
  have agrees := (replicas_follow Broadcast.setting Broadcast.entered [.tick 0]).2.1
  refine ⟨announced, agrees, by decide +kernel, by decide +kernel, ?_⟩
  have joined : let before := Broadcast.entered.follow Broadcast.setting Broadcast.untilParty
      (before.step Broadcast.setting 0 0).1.session.party.slots ≠ before.session.party.slots := by
    decide +kernel
  have steps := (replicas_follow Broadcast.setting Broadcast.entered Broadcast.untilParty).2.2.2 0 0
  dsimp only at joined steps
  exact ⟨joined, steps.2.1 joined⟩

end Machine

end FieldMachine
