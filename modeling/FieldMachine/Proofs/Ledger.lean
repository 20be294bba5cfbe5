import FieldMachine.Proofs.Observer
import FieldMachine.Proofs.Turn

/-!
# What is written and what is announced

A host can keep a record of the changes that are announced to it
(`Host.recording`).  The ledger of a machine is that record, next to all that
announcements are about: the memory, the party slots, the background masks, the
palettes in use and the locked triangles.

Whatever a machine does, its ledger changes by writes alone (`Ledger.Write`), and
every write but one of a cell that is not replicated comes with its
announcement.  This is shown for the operations one by one, up to a whole
instruction (`Machine.step_writes`) and a whole tick (`Machine.tick_writes`).
-/

namespace FieldMachine

set_option autoImplicit false

open Std (ExtTreeMap ExtTreeSet)

/-! ## The record of a host -/

/-- The changes that a notice announces. -/
def Notice.changes : Notice → List StateChange
  | .changed change => [change]
  | _ => []

/-- The host with a record of the changes announced to it, the earliest one first. -/
def Host.recording {σ : Type} (host : Host σ) : Host (σ × List StateChange) where
  senses state := host.senses state.1
  request request token state :=
    let (completion, next, lines) := host.request request token state.1
    (completion, (next, state.2), lines)
  notify notice state :=
    let (next, lines) := host.notify notice state.1
    ((next, state.2 ++ notice.changes), lines)

/-- Without its record it is the host itself. -/
theorem Host.recording_shows {σ : Type} (host : Host σ) : host.recording.Shows Prod.fst host where
  senses _ := rfl
  request _ _ _ := rfl
  notify _ _ := rfl

/-- What stands in the record already makes no difference. -/
theorem Host.recording_shows_later {σ : Type} (host : Host σ) (earlier : List StateChange) :
    host.recording.Shows (fun state => (state.1, earlier ++ state.2)) host.recording where
  senses _ := rfl
  request _ _ _ := rfl
  notify notice state := by simp only [recording, List.append_assoc]

/-- The setting whose host keeps a record. -/
def Setting.recording {σ : Type} (setting : Setting σ) : Setting (σ × List StateChange) :=
  setting.withHost setting.host.recording

/-- The machine whose host is about to begin a record. -/
def Machine.recorded {σ : Type} (machine : Machine σ) : Machine (σ × List StateChange) :=
  machine.see fun state => (state, [])

/-! ## Ledgers -/

/-- What listeners are told about, and what they were told. -/
structure Ledger where
  memory : Memory
  slots : Vector (Option UInt8) partySize
  backgrounds : ExtTreeMap UInt8 UInt32
  palettes : ExtTreeMap UInt8 Palette
  lockedTriangles : ExtTreeSet UInt16
  told : List StateChange

namespace Ledger

variable (config : Config)

/-- One write, with its announcement. -/
inductive Write (ledger : Ledger) : Ledger → Prop
  | cell (bank address : UInt8) (value : UInt16) (listed : config.isReplicated bank) :
      Write ledger
        { ledger with
          memory := ledger.memory.put bank address.toUInt16 value
          told := ledger.told ++ [.cell bank address value] }
  /-- A cell that is not replicated is written without a word. -/
  | hidden (bank address : UInt8) (value : UInt16) (unlisted : ¬config.isReplicated bank) :
      Write ledger { ledger with memory := ledger.memory.put bank address.toUInt16 value }
  | party (slots : Vector (Option UInt8) partySize) :
      Write ledger { ledger with slots, told := ledger.told ++ [.party] }
  | background (area : UInt8) (mask : UInt32) :
      Write ledger
        { ledger with
          backgrounds := ledger.backgrounds.insert area mask
          told := ledger.told ++ [.background area mask] }
  | palette (id : UInt8) (palette : Palette) :
      Write ledger
        { ledger with
          palettes := ledger.palettes.insert id palette
          told := ledger.told ++ [.palette id] }
  | walkmesh (triangle : UInt16) (locked : Bool) :
      Write ledger
        { ledger with
          lockedTriangles :=
            if locked then ledger.lockedTriangles.insert triangle
            else ledger.lockedTriangles.erase triangle
          told := ledger.told ++ [.walkmesh triangle locked] }

/-- Writes, one after the other. -/
inductive Writes : Ledger → Ledger → Prop
  | refl (ledger : Ledger) : Writes ledger ledger
  | step {first second third : Ledger} (writes : Writes first second)
      (write : Write config second third) : Writes first third

variable {config}

theorem Write.writes {before after : Ledger} (write : before.Write config after) :
    before.Writes config after := .step (.refl before) write

theorem Writes.trans {first second third : Ledger} (writes : first.Writes config second)
    (further : second.Writes config third) : first.Writes config third := by
  induction further with
  | refl => exact writes
  | step _ write ih => exact ih.step write

/-- What one write preserves, all of them preserve. -/
theorem Writes.preserves {holds : Ledger → Prop}
    (written : ∀ before after : Ledger, before.Write config after → holds before → holds after)
    {before after : Ledger} (writes : before.Writes config after) (held : holds before) :
    holds after := by
  induction writes with
  | refl => exact held
  | step _ write ih => exact written _ _ write ih

end Ledger

/-! ## What leaves the ledger alone -/

/-- The ledger of a machine whose host keeps a record. -/
def Machine.ledger {σ : Type} (machine : Machine (σ × List StateChange)) : Ledger :=
  { memory := machine.session.memory
    slots := machine.session.party.slots
    backgrounds := machine.world.stage.backgrounds
    palettes := machine.world.stage.palettes.live
    lockedTriangles := machine.world.stage.lockedTriangles
    told := machine.host.2 }

/-- The parts of the stage that changes are announced of. -/
def Stage.announced (stage : Stage) :
    ExtTreeMap UInt8 UInt32 × ExtTreeMap UInt8 Palette × ExtTreeSet UInt16 :=
  (stage.backgrounds, stage.palettes.live, stage.lockedTriangles)

/-- The parts of the session that changes are announced of. -/
def Session.announced (session : Session) : Memory × Vector (Option UInt8) partySize :=
  (session.memory, session.party.slots)

theorem Stage.announced_changeWindow (stage : Stage) (id : Nat) (change : WindowChange) :
    (stage.changeWindow id change).announced = stage.announced := by
  unfold changeWindow
  split <;> rfl

theorem StageChange.announced_apply (stage : Stage) (change : StageChange) :
    (change.apply stage).announced = stage.announced := by
  cases change <;> rfl

theorem Session.announced_updateCharacter (session : Session) (id : UInt8)
    (change : Character → Character) :
    (session.updateCharacter id change).announced = session.announced := by
  unfold updateCharacter
  split <;> rfl

theorem Session.announced_foldl {α : Type} {change : Session → α → Session}
    (each : ∀ session item, (change session item).announced = session.announced) (items : List α)
    (session : Session) : (items.foldl change session).announced = session.announced :=
  List.foldlRecOn (motive := fun reached => reached.announced = session.announced) items change rfl
    fun reached same item _ => (each reached item).trans same

theorem Session.announced_restoreParty (session : Session) :
    session.restoreParty.announced = session.announced := by
  refine announced_foldl (fun session held => ?_) _ session
  cases held with
  | none => rfl
  | some id => exact session.announced_updateCharacter id _

theorem SessionChange.announced_apply (session : Session) (change : SessionChange) :
    (change.apply session).announced = session.announced := by
  cases change with
  | restoreParty => exact session.announced_restoreParty
  | raiseHp character amount | lowerHp character amount | raiseMp character amount
  | lowerMp character amount => exact session.announced_updateCharacter character _
  | _ => rfl

theorem Session.announced_advanceTimer (session : Session) (elapsed : UInt64) :
    (session.advanceTimer elapsed).announced = session.announced := by
  unfold advanceTimer
  split <;> rfl

namespace World

variable (world : World)

theorem stage_wake (token : ResumeToken) : (world.wake token).1.stage = world.stage := by
  unfold wake
  split <;> rfl

theorem announced_beginFade (color : FadeColor) (start target step : UInt16)
    (subtractive : Bool) :
    (world.beginFade color start target step subtractive).stage.announced =
      world.stage.announced := by
  unfold beginFade
  dsimp only
  split <;> rfl

theorem announced_beginScroll (target : ScrollTarget) (frames : UInt16) (easing : Easing) :
    (world.beginScroll target frames easing).stage.announced = world.stage.announced := by
  unfold beginScroll
  dsimp only
  split <;> rfl

theorem stage_beginShift (id : EntityId) (goal : Displacement) (frames : UInt16)
    (easing : Easing) : (world.beginShift id goal frames easing).stage = world.stage := by
  unfold beginShift
  split
  · rfl
  · dsimp only
    split <;> rfl

end World

theorem Scroll.announced_run (scroll : Scroll) (frame : Nat) (world : World) :
    (scroll.run frame world).1.stage.announced = world.stage.announced := by
  obtain ⟨camera, same⟩ := scroll.world_run frame world
  rw [same]
  rfl

theorem Fading.announced_run (fading : Fading) (frame : Nat) (world : World) :
    (fading.run frame world).1.stage.announced = world.stage.announced := by
  obtain ⟨fade, same⟩ := fading.world_run frame world
  rw [same]
  rfl

theorem Shift.stage_run (shift : Shift) (world : World) :
    (shift.run world).1.stage = world.stage := by
  rcases shift.world_run world with same | ⟨change, same⟩ <;> rw [same]
  rfl

theorem Walk.stage_run (walk : Walk) (share : Float32) (world : World) :
    (walk.run share world).1.stage = world.stage := by
  rcases walk.world_run share world with same | ⟨change, same⟩ <;> rw [same]
  rfl

theorem Walk.stage_runAll (share : Float32) (walks : List Walk) (world : World) :
    (Walk.runAll share walks world).1.stage = world.stage := by
  induction walks generalizing world with
  | nil => rfl
  | cons walk rest ih =>
      unfold Walk.runAll
      dsimp only
      rw [ih, walk.stage_run]

namespace Machine

variable {σ : Type} (machine : Machine (σ × List StateChange))

theorem ledger_withWorld {world : World}
    (same : world.stage.announced = machine.world.stage.announced) :
    { machine with world }.ledger = machine.ledger := by
  simp only [Stage.announced, Prod.mk.injEq] at same
  obtain ⟨backgrounds, palettes, triangles⟩ := same
  simp only [ledger, backgrounds, palettes, triangles]

theorem ledger_withSession {session : Session}
    (same : session.announced = machine.session.announced) :
    { machine with session }.ledger = machine.ledger := by
  simp only [Session.announced, Prod.mk.injEq] at same
  obtain ⟨memory, slots⟩ := same
  simp only [ledger, memory, slots]

theorem ledger_withRandom (random : Random) :
    { machine with random }.ledger = machine.ledger := rfl

theorem ledger_noteAny (entry : Option Entry) :
    (entry.elim machine machine.note).ledger = machine.ledger := by
  cases entry <;> rfl

theorem ledger_foldl {α : Type}
    {change : Machine (σ × List StateChange) → α → Machine (σ × List StateChange)}
    (each : ∀ machine item, (change machine item).ledger = machine.ledger) (items : List α) :
    (items.foldl change machine).ledger = machine.ledger :=
  List.foldlRecOn (motive := fun reached => reached.ledger = machine.ledger) items change rfl
    fun reached same item _ => (each reached item).trans same

theorem ledger_note (entry : Entry) : (machine.note entry).ledger = machine.ledger := rfl

theorem ledger_noteAll (entries : List Entry) :
    (entries.foldl note machine).ledger = machine.ledger :=
  machine.ledger_foldl ledger_note entries

theorem ledger_noteHost (lines : List LogLine) :
    (machine.noteHost lines).ledger = machine.ledger :=
  machine.ledger_foldl (fun machine line => machine.ledger_note (.host line)) lines

theorem ledger_notify (setting : Setting σ) (notice : Notice) :
    (machine.notify setting.recording notice).ledger =
      { machine.ledger with told := machine.ledger.told ++ notice.changes } :=
  ledger_noteHost _ _

theorem ledger_notify_of_silent (setting : Setting σ) {notice : Notice}
    (silent : notice.changes = []) :
    (machine.notify setting.recording notice).ledger = machine.ledger := by
  rw [ledger_notify, silent, List.append_nil]

theorem ledger_request (setting : Setting σ) (request : Request) (token : ResumeToken) :
    (machine.request setting.recording request token).2.ledger = machine.ledger :=
  ledger_noteHost _ _

theorem ledger_wake (token : ResumeToken) : (machine.wake token).1.ledger = machine.ledger := by
  unfold wake
  split
  · rfl
  · exact machine.ledger_withWorld (congrArg Stage.announced (machine.world.stage_wake token))

theorem ledger_complete (onStop : Option ResumeToken) :
    (machine.complete onStop).ledger = machine.ledger := by
  cases onStop with
  | none => rfl
  | some token => exact machine.ledger_wake token

theorem ledger_startScript (id : EntityId) (priority script : Nat) (onStop : Option ResumeToken) :
    (machine.startScript id priority script onStop).1.ledger = machine.ledger := by
  unfold startScript
  split
  · rfl
  · split <;> rfl

theorem ledger_setAwaitedWindow (reason : PauseReason) (isOpen : Bool) :
    (machine.setAwaitedWindow reason isOpen).ledger = machine.ledger := by
  unfold setAwaitedWindow
  split
  · rfl
  · exact machine.ledger_withWorld (machine.world.stage.announced_changeWindow _ _)

theorem ledger_giveUp (setting : Setting σ) (id : EntityId) (priority ip : Nat)
    (error : ExecError) :
    (machine.giveUp setting.recording id priority ip error).ledger = machine.ledger := by
  unfold giveUp
  rw [ledger_notify_of_silent _ _ rfl]
  rfl

theorem ledger_passOn (id : EntityId) (priority : Nat) (lane : Lane) (level script : Nat) :
    (machine.passOn id priority lane level script).1.ledger = machine.ledger := by
  unfold passOn
  dsimp only
  rw [ledger_startScript, ledger_complete]
  rfl

theorem ledger_remove (index : Nat) : (machine.remove index).1.ledger = machine.ledger := by
  unfold remove
  split
  · rfl
  · exact ledger_foldl _ (fun machine token => machine.ledger_wake token) _

/-- Entering a field empties the scratch bank without a word. -/
theorem ledger_start :
    machine.start.ledger =
      { machine.ledger with memory := machine.ledger.memory.resetScratch } :=
  ledger_foldl _ (fun machine id => machine.ledger_startScript id 0 0 none) _

/-! ## What writes to it -/

/-- The ledger changes by writes alone. -/
def Writes (setting : Setting σ) (before after : Machine (σ × List StateChange)) : Prop :=
  before.ledger.Writes setting.config after.ledger

section Operations

variable {setting : Setting σ}

theorem Writes.refl (machine : Machine (σ × List StateChange)) : Writes setting machine machine :=
  Ledger.Writes.refl machine.ledger

theorem Writes.trans {first second third : Machine (σ × List StateChange)}
    (writes : Writes setting first second) (further : Writes setting second third) :
    Writes setting first third := Ledger.Writes.trans writes further

theorem Writes.of_eq {before after : Machine (σ × List StateChange)}
    (same : after.ledger = before.ledger) : Writes setting before after := by
  unfold Writes
  rw [same]
  exact .refl before.ledger

/-- Nothing that follows is written. -/
theorem Writes.before {first second third : Machine (σ × List StateChange)}
    (writes : Writes setting first second) (same : third.ledger = second.ledger) :
    Writes setting first third := writes.trans (.of_eq same)

theorem Writes.foldl {α : Type}
    {change : Machine (σ × List StateChange) → α → Machine (σ × List StateChange)}
    (each : ∀ machine item, Writes setting machine (change machine item)) (items : List α)
    (machine : Machine (σ × List StateChange)) :
    Writes setting machine (items.foldl change machine) :=
  List.foldlRecOn items change (.refl machine) fun reached writes item _ =>
    writes.trans (each reached item)

variable (setting)

theorem putCell_writes (bank address : UInt8) (value : UInt16) :
    Writes setting machine (machine.putCell setting.recording bank address value) := by
  unfold putCell
  dsimp only
  split
  · next listed =>
      unfold Writes
      rw [ledger_notify]
      exact (Ledger.Write.cell bank address value listed).writes
  · next unlisted => exact (Ledger.Write.hidden bank address value unlisted).writes

theorem writeCell_writes (bank address : UInt8) (value : UInt16) :
    Writes setting machine (machine.writeCell setting.recording bank address value).1 := by
  unfold writeCell
  split
  · exact .refl machine
  · exact machine.putCell_writes setting bank address value

theorem store_writes (selector address : UInt8) (value : UInt16) :
    Writes setting machine (machine.store setting.recording selector address value).1 := by
  unfold store
  split
  · exact .refl machine
  · exact machine.writeCell_writes setting selector address value

theorem settle_writes (reason : PauseReason) (value : Option UInt16) :
    Writes setting machine (machine.settle setting.recording reason value).1 := by
  unfold settle
  split
  · exact machine.store_writes setting ..
  · exact .of_eq rfl
  · exact .refl machine

end Operations

end Machine

/-! ## Effects -/

namespace Effect

/-- Whether an effect announces something that it does not do. -/
def isHearsay : Effect → Bool
  | .notify (.changed _) => true
  | _ => false

variable {σ : Type} (setting : Setting σ) (machine : Machine (σ × List StateChange))

/-- Effects announce what they write. -/
theorem perform_writes {effect : Effect} (own : !effect.isHearsay) :
    Machine.Writes setting machine (effect.perform setting.recording machine).1 := by
  cases effect with
  | store selector address value => exact machine.store_writes setting ..
  | drawByte selector address =>
      simp only [perform]
      generalize machine.random.nextByte = drawn
      exact Machine.store_writes { machine with random := drawn.1 } setting ..
  | reseed seed => exact .of_eq (machine.ledger_withRandom (.ofSeed seed))
  | window id change =>
      exact .of_eq (machine.ledger_withWorld (machine.world.stage.announced_changeWindow id change))
  | stage change =>
      exact .of_eq (machine.ledger_withWorld (change.announced_apply machine.world.stage))
  | session change =>
      exact .of_eq (machine.ledger_withSession (change.announced_apply machine.session))
  | party change =>
      simp only [perform, Machine.Writes]
      rw [Machine.ledger_notify]
      exact (Ledger.Write.party (change.apply machine.session.party).slots).writes
  | background area mask =>
      simp only [perform, Machine.Writes]
      rw [Machine.ledger_notify]
      exact (Ledger.Write.background area mask).writes
  | livePalette id palette =>
      simp only [perform, Machine.Writes]
      rw [Machine.ledger_notify]
      exact (Ledger.Write.palette id palette).writes
  | lockTriangle triangle locked =>
      simp only [perform, Machine.Writes]
      rw [Machine.ledger_notify]
      exact (Ledger.Write.walkmesh triangle locked).writes
  | fade color start target step subtractive =>
      exact .of_eq (machine.ledger_withWorld (machine.world.announced_beginFade ..))
  | scroll target frames easing =>
      exact .of_eq (machine.ledger_withWorld (machine.world.announced_beginScroll ..))
  | shift id goal frames easing =>
      exact .of_eq
        (machine.ledger_withWorld (congrArg Stage.announced (machine.world.stage_beginShift ..)))
  | notify notice =>
      cases notice with
      | changed change => cases own
      | _ => exact .of_eq (machine.ledger_notify_of_silent setting rfl)
  | _ => exact .of_eq rfl

theorem performAll_writes {effects : List Effect} (own : ∀ effect ∈ effects, !effect.isHearsay) :
    Machine.Writes setting machine (performAll setting.recording machine effects).1 := by
  induction effects generalizing machine with
  | nil => exact .refl machine
  | cons effect rest ih =>
      have first := perform_writes setting machine (own effect (by simp))
      unfold performAll
      split
      · next next performed =>
          rw [performed] at first
          exact first.trans (ih next fun other member => own other (by simp [member]))
      · next next error performed =>
          rw [performed] at first
          exact first

/-- Plain effects announce nothing by themselves. -/
theorem own_of_isPlain {effect : Effect} (plain : effect.isPlain) : !effect.isHearsay := by
  cases effect with
  | notify notice => cases notice <;> first | rfl | cases plain
  | _ => rfl

end Effect

/-- No instruction announces a change by itself. -/
theorem Plan.Fits.own {scene : Scene} {held : Ending → Prop} {effects : List Effect}
    {ending : Ending} (fits : (Plan.act effects ending).Fits scene held) :
    ∀ effect ∈ effects, !effect.isHearsay := by
  cases fits with
  | plain plain => exact fun effect member => Effect.own_of_isPlain (plain.1 effect member)
  | dance spared | lead spared known =>
      rw [List.forall_mem_append, List.forall_mem_singleton]
      exact ⟨fun effect member => Effect.own_of_isPlain (spared effect member), rfl⟩
  | _ => simp [Effect.isHearsay]

/-! ## Instructions and turns -/

namespace Machine

variable {σ : Type} (setting : Setting σ) (machine : Machine (σ × List StateChange))

theorem makeRequest_writes (id : EntityId) (priority ip next : Nat) (lane : Lane)
    (request : Request) (reason : PauseReason) :
    Writes setting machine
      (machine.makeRequest setting.recording id priority ip next lane request reason).1 := by
  have asked := machine.ledger_request setting request (lane.token id priority)
  unfold Lane.token at asked
  unfold makeRequest
  dsimp only
  split
  · next answered made =>
      rw [made] at asked
      exact .of_eq ((answered.ledger_setAwaitedWindow reason true).trans asked)
  · next value answered made =>
      rw [made] at asked
      have closed : Writes setting machine (answered.setAwaitedWindow reason false) :=
        .of_eq ((answered.ledger_setAwaitedWindow reason false).trans asked)
      have settled := closed.trans (settle_writes _ setting reason value)
      split
      · next done taken =>
          rw [taken] at settled
          exact settled.before rfl
      · next done error taken =>
          rw [taken] at settled
          exact settled.before (ledger_giveUp done setting ..)

theorem conclude_writes (id : EntityId) (priority ip next : Nat) (lane : Lane) (ending : Ending) :
    Writes setting machine
      (machine.conclude setting.recording id priority ip next lane ending).1 := by
  cases ending with
  | stop => exact .of_eq (ledger_complete (machine.updateLane id priority Lane.finish) lane.onStop?)
  | handOver level script => exact .of_eq (machine.ledger_passOn id priority lane level script)
  | request request reason => exact machine.makeRequest_writes setting ..
  | fault error => exact .of_eq (machine.ledger_giveUp setting ..)
  | _ => exact .of_eq rfl

theorem carryOut_writes {scene : Scene} {held : Ending → Prop} {plan : Plan}
    (fits : plan.Fits scene held) (id : EntityId) (priority ip next : Nat) (lane : Lane) :
    Writes setting machine
      (machine.carryOut setting.recording id priority ip next lane plan).1 := by
  cases plan with
  | retry entries => exact .of_eq (machine.ledger_noteAll entries)
  | act effects ending =>
      have performed := Effect.performAll_writes setting machine fits.own
      simp only [carryOut]
      split
      · next done taken =>
          rw [taken] at performed
          exact performed.trans (done.conclude_writes setting ..)
      · next done error taken =>
          rw [taken] at performed
          exact performed.before (done.ledger_giveUp setting ..)

/-- An instruction announces what it writes. -/
theorem step_writes (id : EntityId) (priority : Nat) :
    Writes setting machine (machine.step setting.recording id priority).1 := by
  cases active : machine.world.laneActive id priority with
  | false => exact .of_eq (congrArg ledger (step_of_inactive setting.recording active))
  | true =>
      obtain ⟨lane, here, active⟩ := (Option.any_eq_true _ _).mp active
      obtain ⟨ip, noted, stands, journal, same⟩ := step_eq setting.recording here active
      have unwritten : noted.ledger = machine.ledger := by
        rcases journal with rfl | ⟨byte, -, rfl⟩ <;> rfl
      rw [same]
      split
      · exact .of_eq ((noted.ledger_giveUp setting ..).trans unwritten)
      · next plan next worked =>
          have comesTo :
              (machine.sceneOf setting.recording id priority ip lane).ComesTo ip plan next :=
            Scene.comesTo_of_workOut worked
          exact (Writes.of_eq unwritten).trans
            (noted.carryOut_writes setting (comesTo.fits stands) id priority ip next lane)

theorem runLane_writes (id : EntityId) (priority budget : Nat) :
    Writes setting machine (machine.runLane setting.recording id priority budget).1 := by
  induction budget generalizing machine with
  | zero => exact .of_eq rfl
  | succ budget ih =>
      have first := machine.step_writes setting id priority
      unfold runLane
      split
      · next next goesOn =>
          rw [goesOn] at first
          exact first.trans (ih next)
      · exact first

theorem runLanes_writes (id : EntityId) (priorities : List Nat) :
    Writes setting machine (machine.runLanes setting.recording id priorities) := by
  induction priorities generalizing machine with
  | nil => exact .refl machine
  | cons priority rest ih =>
      have first := machine.runLane_writes setting id priority setting.recording.config.opsPerTick
      unfold runLanes
      split
      · split
        · next next released =>
            rw [released] at first
            exact first.trans (ih next)
        · next next turnover _ ended =>
            rw [ended] at first
            exact first
      · exact ih machine

theorem runEntity_writes (id : EntityId) :
    Writes setting machine (machine.runEntity setting.recording id) := by
  unfold runEntity
  split
  · exact .refl machine
  · exact machine.runLanes_writes setting id turnOrder

/-! ## Ticks -/

/-- An answer that comes later announces what it writes, too. -/
theorem applyResume_writes (token : ResumeToken) (answer : Option UInt16) :
    Writes setting machine (machine.applyResume setting.recording token answer) := by
  have unwritten := machine.ledger_wake token
  unfold applyResume
  split
  · next woken taken =>
      rw [taken] at unwritten
      exact .of_eq unwritten
  · next woken reason taken =>
      rw [taken] at unwritten
      have closed : Writes setting machine (woken.setAwaitedWindow reason false) :=
        .of_eq ((woken.ledger_setAwaitedWindow reason false).trans unwritten)
      dsimp only
      split
      · next window bank address value =>
          have written := closed.trans (writeCell_writes _ setting bank address value)
          split
          · next done taken =>
              rw [taken] at written
              exact written
          · next done error taken =>
              rw [taken] at written
              exact written.before rfl
      · exact closed.before rfl
      · exact closed

theorem ledger_beginTick (elapsed : UInt64) :
    (machine.beginTick setting.recording elapsed).ledger = machine.ledger :=
  machine.ledger_withSession (machine.session.announced_advanceTimer elapsed)

theorem ledger_advanceActors :
    (machine.advanceActors setting.recording).ledger = machine.ledger := rfl

theorem applyPending_writes :
    Writes setting machine (machine.applyPending setting.recording) := by
  have each : ∀ (machine : Machine (σ × List StateChange)) (given : ResumeToken × Option UInt16),
      Writes setting machine (machine.applyResume setting.recording given.1 given.2) :=
    fun machine given => machine.applyResume_writes setting given.1 given.2
  have emptied : Writes setting machine
      (machine.updateWorld fun world => { world with pending := [] }) := .of_eq rfl
  exact emptied.trans (.foldl each machine.world.pending _)

theorem runActivity_writes (frame : Nat) (activity : Activity) :
    Writes setting machine (activity.run setting.recording frame machine).1 := by
  cases activity with
  | scroll moving =>
      have unwritten := machine.ledger_withWorld (moving.announced_run frame machine.world)
      exact .of_eq ((ledger_noteAny _ _).trans unwritten)
  | fade fading =>
      have unwritten := machine.ledger_withWorld (fading.announced_run frame machine.world)
      exact .of_eq ((ledger_noteAny _ _).trans unwritten)
  | shift moving =>
      have unwritten := congrArg Stage.announced (moving.stage_run machine.world)
      exact .of_eq (machine.ledger_withWorld unwritten)
  | choreography dance =>
      have walked := Walk.stage_runAll (elapsedShare (dance.step + 1) dance.frames) dance.walks
        machine.world
      have unwritten := machine.ledger_withWorld (congrArg Stage.announced walked)
      simp only [Activity.run]
      split
      · exact .of_eq ((ledger_wake _ dance.token).trans unwritten)
      · exact .of_eq unwritten
  | countdown timer =>
      have told (machine : Machine (σ × List StateChange)) {notice : Notice}
          (silent : notice.changes = []) :
          Writes setting machine (machine.notify setting.recording notice) :=
        .of_eq (machine.ledger_notify_of_silent setting silent)
      simp only [Activity.run]
      split
      · cases timer.wake with
        | none => exact told machine rfl
        | some token =>
            dsimp only
            have woken := (told machine rfl).before
              (ledger_wake (machine.notify setting.recording (.countdown timer.id frame)) token)
            exact woken.trans (told _ rfl)
      · exact told machine rfl

theorem runActivities_writes (frame : Nat) (activities : List Activity) :
    Writes setting machine (machine.runActivities setting.recording frame activities).1 := by
  induction activities generalizing machine with
  | nil => exact .refl machine
  | cons activity rest ih =>
      unfold runActivities
      exact (machine.runActivity_writes setting frame activity).trans (ih _)

theorem begin_writes (elapsed : UInt64) :
    Writes setting machine
      ((machine.beginTick setting.recording elapsed).applyPending setting.recording) :=
  (Writes.of_eq (machine.ledger_beginTick setting elapsed)).trans (applyPending_writes setting _)

theorem runEntities_writes : Writes setting machine (machine.runEntities setting.recording) :=
  .foldl (runEntity_writes setting) _ machine

theorem finishTick_writes : Writes setting machine (machine.finishTick setting.recording) :=
  (machine.runActivities_writes setting machine.world.frame machine.world.activities).before rfl

/-- A tick announces what is written in it. -/
theorem tick_writes (elapsed : UInt64) :
    Writes setting machine (machine.tick setting.recording elapsed) := by
  have turns := (machine.begin_writes setting elapsed).trans (runEntities_writes setting _)
  have advanced := turns.before (ledger_advanceActors setting _)
  exact advanced.trans (finishTick_writes setting _)

theorem duringTick_writes (elapsed : UInt64) (entities lanes : Nat) :
    Writes setting machine (machine.duringTick setting.recording elapsed entities lanes) := by
  have turns := (machine.begin_writes setting elapsed).trans
    (.foldl (runEntity_writes setting) (List.range entities) _)
  exact turns.trans (runLanes_writes setting _ entities (turnOrder.take lanes))

end Machine

end FieldMachine
