import FieldMachine.Proofs.Ledger
import FieldMachine.Proofs.Token

/-!
# Answers at once and answers later

A request may be answered at once, and then its instruction does what the answer
calls for; or it is left open, its lane waits, and the same is done when the
token is given back.  The two ways were written down apart, and they come to the
same (`Machine.answers_agree`).

Nothing that an instruction does on the way to its request depends on the host,
so this holds for any two hosts, as long as both let the instruction see the
same.
-/

namespace FieldMachine

set_option autoImplicit false

/-! ## Windows that are changed twice -/

/-- Opening a window makes no difference to one that is closed then. -/
theorem Stage.changeWindow_setOpen (stage : Stage) (id : Nat) (first second : Bool) :
    (stage.changeWindow id (.setOpen first)).changeWindow id (.setOpen second) =
      stage.changeWindow id (.setOpen second) := by
  unfold changeWindow
  cases here : stage.windows[id]? with
  | none => simp [here]
  | some window =>
      obtain ⟨inside, -⟩ := Vector.getElem?_eq_some_iff.mp here
      simp [inside, WindowChange.apply]

/-- The request of a plan that does nothing else, with the reason that its lane may wait for. -/
def Plan.request? : Plan → Option (Request × PauseReason)
  | .act [] (.request request reason) => some (request, reason)
  | _ => none

theorem Plan.eq_of_request? {plan : Plan} {request : Request} {reason : PauseReason}
    (asks : plan.request? = some (request, reason)) :
    plan = .act [] (.request request reason) := by
  unfold request? at asks
  split at asks
  · cases asks
    rfl
  · cases asks

namespace Machine

variable {σ τ : Type}

/-! ## Machines that differ in their hosts -/

/-- Two machines with the same session and the same random numbers, whose hosts were told the same
changes. -/
structure Agree (first : Machine (σ × List StateChange)) (second : Machine (τ × List StateChange)) :
    Prop where
  session : first.session = second.session
  random : first.random = second.random
  told : first.host.2 = second.host.2

/-- Two machines that differ only in their journals and in what their hosts keep to themselves. -/
structure Matches (first : Machine (σ × List StateChange))
    (second : Machine (τ × List StateChange)) : Prop extends Agree first second where
  world : first.world = second.world

section Agreement

variable {setting : Setting σ} {other : Setting τ} {first : Machine (σ × List StateChange)}
  {second : Machine (τ × List StateChange)}

/-- A host that keeps a record does with a notice what it likes, and records the changes. -/
theorem notify_recording (setting : Setting σ) (machine : Machine (σ × List StateChange))
    (notice : Notice) :
    ∃ state journal, machine.notify setting.recording notice =
      { machine with host := (state, machine.host.2 ++ notice.changes), journal } := by
  obtain ⟨journal, same⟩ := noteHost_eq
    { machine with host := (setting.recording.host.notify notice machine.host).1 }
    (setting.recording.host.notify notice machine.host).2
  exact ⟨_, journal, same⟩

/-- A request changes the host and the journal. -/
theorem request_recording (setting : Setting σ) (machine : Machine (σ × List StateChange))
    (request : Request) (token : ResumeToken) :
    ∃ state journal, machine.request setting.recording request token =
      ((setting.host.request request token machine.host.1).1,
        { machine with host := (state, machine.host.2), journal }) := by
  obtain ⟨journal, same⟩ := noteHost_eq
    { machine with host := (setting.recording.host.request request token machine.host).2.1 }
    (setting.recording.host.request request token machine.host).2.2
  exact ⟨_, journal, congrArg (Prod.mk _) same⟩

theorem Agree.notify (agree : first.Agree second) (notice : Notice) :
    (first.notify setting.recording notice).Agree (second.notify other.recording notice) := by
  obtain ⟨state, journal, same⟩ := first.notify_recording setting notice
  obtain ⟨state', journal', same'⟩ := second.notify_recording other notice
  rw [same, same']
  exact ⟨agree.session, agree.random, congrArg (· ++ notice.changes) agree.told⟩

theorem Agree.updateSession (agree : first.Agree second) (change : Session → Session) :
    (first.updateSession change).Agree (second.updateSession change) :=
  ⟨congrArg change agree.session, agree.random, agree.told⟩

theorem Agree.putCell (agree : first.Agree second) (config : other.config = setting.config)
    (bank address : UInt8) (value : UInt16) :
    (first.putCell setting.recording bank address value).Agree
      (second.putCell other.recording bank address value) := by
  have put := agree.updateSession (·.putCell bank address.toUInt16 value)
  have listed : other.recording.config.isReplicated bank =
      setting.recording.config.isReplicated bank := congrArg (·.isReplicated bank) config
  unfold Machine.putCell
  dsimp only
  rw [listed]
  split
  · exact put.notify _
  · exact put

theorem Agree.writeCell (agree : first.Agree second) (config : other.config = setting.config)
    (bank address : UInt8) (value : UInt16) :
    (first.writeCell setting.recording bank address value).1.Agree
        (second.writeCell other.recording bank address value).1 ∧
      (first.writeCell setting.recording bank address value).2 =
        (second.writeCell other.recording bank address value).2 := by
  unfold Machine.writeCell
  rw [agree.session]
  split
  · exact ⟨agree, rfl⟩
  · exact ⟨agree.putCell config bank address value, rfl⟩

theorem Agree.store (agree : first.Agree second) (config : other.config = setting.config)
    (selector address : UInt8) (value : UInt16) :
    (first.store setting.recording selector address value).1.Agree
        (second.store other.recording selector address value).1 ∧
      (first.store setting.recording selector address value).2 =
        (second.store other.recording selector address value).2 := by
  obtain ⟨written, error⟩ := agree.writeCell config selector address value
  unfold Machine.store
  split
  · exact ⟨agree, rfl⟩
  · exact ⟨written, congrArg (Option.map ExecError.address) error⟩

theorem Matches.updateWorld (same : first.Matches second) (change : World → World) :
    (first.updateWorld change).Matches (second.updateWorld change) :=
  { same with world := congrArg change same.world }

theorem Matches.note (same : first.Matches second) (entry other : Entry) :
    (first.note entry).Matches (second.note other) :=
  ⟨⟨same.session, same.random, same.told⟩, same.world⟩

theorem Matches.updateSession (same : first.Matches second) (change : Session → Session) :
    (first.updateSession change).Matches (second.updateSession change) :=
  { same with session := congrArg change same.session }

theorem Matches.withRandom (same : first.Matches second) (random : Random) :
    { first with random }.Matches { second with random } :=
  { same with random := rfl }

theorem Matches.notify (same : first.Matches second) (notice : Notice) :
    (first.notify setting.recording notice).Matches (second.notify other.recording notice) :=
  { same.toAgree.notify notice with
    world := by rw [world_notify, world_notify, same.world] }

theorem Matches.store (same : first.Matches second) (config : other.config = setting.config)
    (selector address : UInt8) (value : UInt16) :
    (first.store setting.recording selector address value).1.Matches
        (second.store other.recording selector address value).1 ∧
      (first.store setting.recording selector address value).2 =
        (second.store other.recording selector address value).2 := by
  obtain ⟨stored, error⟩ := same.toAgree.store config selector address value
  exact ⟨{ stored with world := by rw [world_store, world_store, same.world] }, error⟩

/-- What an effect does, and whether it fails, does not depend on the host. -/
theorem Matches.perform (same : first.Matches second) (config : other.config = setting.config)
    (effect : Effect) :
    (effect.perform setting.recording first).1.Matches
        (effect.perform other.recording second).1 ∧
      (effect.perform setting.recording first).2 = (effect.perform other.recording second).2 := by
  have announced (changed : Machine (σ × List StateChange)) (changed' : Machine (τ × List StateChange))
      (same : changed.Matches changed') (notice : Notice) :
      (changed.notify setting.recording notice).Matches (changed'.notify other.recording notice) ∧
        (none : Option ExecError) = none := ⟨same.notify notice, rfl⟩
  cases effect with
  | store selector address value => exact same.store config selector address value
  | drawByte selector address =>
      simp only [Effect.perform, ← same.random]
      generalize first.random.nextByte = drawn
      exact (same.withRandom drawn.1).store config selector address _
  | reseed seed => exact ⟨same.withRandom (.ofSeed seed), rfl⟩
  | session change =>
      exact ⟨same.updateSession (change.apply ·), rfl⟩
  | party change =>
      exact announced _ _ (same.updateSession fun session =>
        { session with party := change.apply session.party }) _
  | notify notice => exact announced _ _ same notice
  | background area mask => exact announced _ _ (same.updateWorld _) _
  | livePalette id palette => exact announced _ _ (same.updateWorld _) _
  | lockTriangle triangle locked => exact announced _ _ (same.updateWorld _) _
  | log entry => exact ⟨same.note entry entry, rfl⟩
  | _ =>
      refine ⟨?_, rfl⟩
      simp only [Effect.perform]
      exact same.updateWorld _

theorem Matches.performAll (same : first.Matches second) (config : other.config = setting.config)
    (effects : List Effect) :
    (Effect.performAll setting.recording first effects).1.Matches
        (Effect.performAll other.recording second effects).1 ∧
      (Effect.performAll setting.recording first effects).2 =
        (Effect.performAll other.recording second effects).2 := by
  induction effects generalizing first second with
  | nil => exact ⟨same, rfl⟩
  | cons effect rest ih =>
      obtain ⟨performed, error⟩ := same.perform config effect
      unfold Effect.performAll
      revert performed error
      generalize effect.perform setting.recording first = before
      generalize effect.perform other.recording second = after
      rintro performed error
      obtain ⟨before, failed⟩ := before
      obtain ⟨after, failed'⟩ := after
      cases error
      cases failed with
      | none => exact ih performed
      | some error => exact ⟨performed, rfl⟩

theorem Agree.settle (agree : first.Agree second) (config : other.config = setting.config)
    (reason : PauseReason) (value : Option UInt16) :
    (first.settle setting.recording reason value).1.Agree
        (second.settle other.recording reason value).1 ∧
      (first.settle setting.recording reason value).2 =
        (second.settle other.recording reason value).2 := by
  unfold Machine.settle
  split
  · exact agree.store config _ _ _
  · refine ⟨?_, rfl⟩
    dsimp only
    exact agree.updateSession _
  · exact ⟨agree, rfl⟩

end Agreement

/-! ## An answer that comes later -/

section Later

variable {setting : Setting σ} {machine woken : Machine σ} {id : EntityId} {priority : Nat}
  {lane : Lane} {reason : PauseReason}

/-- The token of a paused lane wakes it. -/
theorem wake_paused (here : machine.world.lane? id priority = some lane)
    (paused : lane.pauseReason? = some reason) :
    machine.wake (lane.token id priority) =
      ((machine.updateLane id priority fun _ => lane.awake).note
        (.woken (lane.token id priority) (some reason)), some reason) := by
  have found : lane.wake? lane.epoch = some (lane.awake, reason) := by
    rw [Lane.wake?_eq, if_pos rfl, paused, Option.map_some]
  simp only [wake, World.wake, Lane.token, here, Option.bind_some, found]
  rfl

/-- The cell of a question exists, and is not in the scratch bank. -/
def HasCell (machine : Machine σ) (reason : PauseReason) : Prop :=
  ∀ window bank address, reason = .ask window bank address →
    bank ≠ Memory.scratchBank ∧ machine.session.memory.locate bank address.toUInt16 = .ok ()

/-- With its cell in place, an answer does what it calls for. -/
theorem settle_of_hasCell (cell : machine.HasCell reason) (value : Option UInt16) :
    (machine.settle setting reason value).2 = none := by
  unfold settle
  split
  · next window bank address choice =>
      obtain ⟨named, located⟩ := cell window bank address rfl
      simp only [store, writeCell, located, if_neg (show ¬bank = 0 from named)]
      rfl
  · rfl
  · rfl

/-- What a token does that is given back is what its answer calls for. -/
theorem applyResume_eq_settle {token : ResumeToken} {value : Option UInt16}
    (woke : machine.wake token = (woken, some reason))
    (cell : (woken.setAwaitedWindow reason false).HasCell reason) :
    machine.applyResume setting token value =
      ((woken.setAwaitedWindow reason false).settle setting reason value).1 := by
  unfold applyResume settle
  rw [woke]
  dsimp only
  split
  · next window bank address choice =>
      obtain ⟨named, located⟩ := cell window bank address rfl
      simp only [store, writeCell, located, if_neg (show ¬bank = 0 from named)]
  · rfl
  · rfl

end Later

/-! ## The two ways -/

/-- A lane that waits at a place and is woken there has got to the same as one that goes on there. -/
theorem updateLane_pause_awake {world : World} {id : EntityId} {priority : Nat} {lane : Lane}
    (here : world.lane? id priority = some lane) (next : Nat) (reason : PauseReason) :
    (world.updateLane id priority (·.pause next reason)).updateLane id priority
      (fun _ => (lane.pause next reason).awake) = world.updateLane id priority (·.advance next) := by
  rw [World.updateLane_updateLane]
  exact World.updateLane_congr here rfl

theorem world_setAwaitedWindow {first : Machine σ} {second : Machine τ}
    (same : first.world = second.world) (reason : PauseReason) (isOpen : Bool) :
    (first.setAwaitedWindow reason isOpen).world = (second.setAwaitedWindow reason isOpen).world := by
  unfold Machine.setAwaitedWindow
  split
  · exact same
  · simp only [updateWorld, same]

/-- Which cells there are never changes. -/
theorem locate_of_writes {config : Config} {before after : Ledger}
    (writes : before.Writes config after) (bank : UInt8) (address : UInt16) :
    after.memory.locate bank address = before.memory.locate bank address := by
  induction writes with
  | refl => rfl
  | step _ write ih =>
      rw [← ih]
      cases write <;> rfl

/-- The window that is opened for the wait is closed after it. -/
theorem world_answered (machine : Machine σ) (other : Machine τ) {id : EntityId} {priority : Nat}
    {lane : Lane} (same : machine.world = other.world)
    (here : machine.world.lane? id priority = some lane) (next : Nat) (reason : PauseReason) :
    ((((machine.setAwaitedWindow reason true).updateLane id priority
        (·.pause next reason)).updateLane id priority
          fun _ => (lane.pause next reason).awake).setAwaitedWindow reason false).world =
      ((other.setAwaitedWindow reason false).updateLane id priority (·.advance next)).world := by
  have lanes := updateLane_pause_awake here next reason
  rw [same] at lanes
  unfold Machine.setAwaitedWindow
  cases awaitedWindow? reason with
  | none =>
      simp only [updateLane, updateWorld, same]
      exact lanes
  | some window =>
      have closed (world : World) :
          (world.updateStage (·.changeWindow window.toNat (.setOpen true))).updateStage
            (·.changeWindow window.toNat (.setOpen false)) =
              world.updateStage (·.changeWindow window.toNat (.setOpen false)) :=
        congrArg (fun stage => { world with stage })
          (world.stage.changeWindow_setOpen window.toNat true false)
      simp only [updateLane, updateWorld, same]
      -- lanes and windows are changed apart, so their order does not matter
      exact (congrArg (fun world : World => (world.updateStage _).updateStage _) lanes).trans
        (closed _)

section Agreement

variable {setting : Setting σ} {other : Setting τ} {first : Machine (σ × List StateChange)}
  {second : Machine (τ × List StateChange)} {id : EntityId} {priority : Nat} {lane : Lane}
  {request : Request} {reason : PauseReason} {value : Option UInt16}

/-- An answer that is given to a request at once, and one that is given later, come to the same. -/
theorem Matches.makeRequest (same : first.Matches second)
    (config : other.config = setting.config)
    (here : first.world.lane? id priority = some lane) (cell : first.HasCell reason)
    (later : ∀ state, (setting.host.request request (lane.token id priority) state).1 = .deferred)
    (now : ∀ state, (other.host.request request (lane.token id priority) state).1 =
      .immediate value) (ip next : Nat) :
    ((first.makeRequest setting.recording id priority ip next lane request reason).1.applyResume
        setting.recording (lane.token id priority) value).Matches
      (second.makeRequest other.recording id priority ip next lane request reason).1 := by
  obtain ⟨left, journal, asked⟩ := first.request_recording setting request (lane.token id priority)
  obtain ⟨kept, lines, answered⟩ := second.request_recording other request (lane.token id priority)
  rw [later] at asked
  rw [now] at answered
  -- the lane that waits, the same lane when it is woken, and the one that never waits
  let opened := { first with host := (left, first.host.2), journal }.setAwaitedWindow reason true
  let waiting := opened.pauseLane id priority next reason
  let closed := ((waiting.updateLane id priority fun _ => (lane.pause next reason).awake).note
    (.woken (lane.token id priority) (some reason))).setAwaitedWindow reason false
  let shut := { second with host := (kept, second.host.2), journal := lines }.setAwaitedWindow
    reason false
  have waits : (first.makeRequest setting.recording id priority ip next lane request reason).1 =
      waiting := by
    unfold Lane.token at asked
    simp only [Machine.makeRequest, asked]
    rfl
  have agree : closed.Agree shut := by
    simp only [closed, waiting, opened, shut, Machine.setAwaitedWindow]
    cases awaitedWindow? reason <;> exact ⟨same.session, same.random, same.told⟩
  have untouched : closed.session = first.session := by
    simp only [closed, waiting, opened, Machine.setAwaitedWindow]
    cases awaitedWindow? reason <;> rfl
  have cell : closed.HasCell reason := by
    intro window bank address same
    rw [untouched]
    exact cell window bank address same
  have resumed : waiting.applyResume setting.recording (lane.token id priority) value =
      (closed.settle setting.recording reason value).1 := by
    have there : (first.makeRequest setting.recording id priority ip next lane request
        reason).1.world.lane? id priority = some (lane.pause next reason) :=
      (makeRequest_deferred here (congrArg Prod.fst asked)).1
    rw [waits] at there
    exact applyResume_eq_settle (wake_paused there rfl) cell
  obtain ⟨settled, errors⟩ := agree.settle config reason value
  rw [settle_of_hasCell cell] at errors
  have done : (second.makeRequest other.recording id priority ip next lane request reason).1 =
      (shut.settle other.recording reason value).1.updateLane id priority (·.advance next) := by
    unfold Lane.token at answered
    simp only [Machine.makeRequest, answered]
    split
    · next settled taken => exact congrArg (·.1.updateLane id priority (·.advance next)) taken.symm
    · next settled error taken =>
        have failed : (shut.settle other.recording reason value).2 = some error :=
          congrArg Prod.snd taken
        rw [← errors] at failed
        cases failed
  rw [waits, resumed, done]
  refine ⟨⟨settled.session, settled.random, settled.told⟩, ?_⟩
  have world : (((opened.updateLane id priority (·.pause next reason)).updateLane id priority
      fun _ => (lane.pause next reason).awake).setAwaitedWindow reason false).world =
      (shut.updateLane id priority (·.advance next)).world :=
    world_answered { first with host := (left, first.host.2), journal }
      { second with host := (kept, second.host.2), journal := lines } same.world here next reason
  have unnoted : closed.world = (((opened.updateLane id priority (·.pause next reason)).updateLane id
      priority fun _ => (lane.pause next reason).awake).setAwaitedWindow reason false).world := by
    refine world_setAwaitedWindow ?_ reason false
    rfl
  rw [world_settle, unnoted]
  refine world.trans ?_
  exact congrArg (·.updateLane id priority (·.advance next)) (world_settle ..).symm

theorem Matches.giveUp (same : first.Matches second) (ip : Nat) (error : ExecError) :
    (first.giveUp setting.recording id priority ip error).Matches
      (second.giveUp other.recording id priority ip error) := by
  have counted := (same.updateWorld (·.updateLane id priority (·.abort ip))).updateWorld
    fun world => { world with faults := world.faults + 1 }
  unfold Machine.giveUp updateLane
  dsimp only
  rw [counted.world]
  refine Matches.notify ?_ _
  exact counted.note _ _

/-- What comes before the request does not matter, even if it fails. -/
theorem Matches.carryOut (same : first.Matches second) (config : other.config = setting.config)
    (here : first.world.lane? id priority = some lane) (cell : first.HasCell reason)
    (later : ∀ state, (setting.host.request request (lane.token id priority) state).1 = .deferred)
    (now : ∀ state, (other.host.request request (lane.token id priority) state).1 =
      .immediate value)
    {effects : List Effect} (plain : ∀ effect ∈ effects, effect.isPlain) (ip next : Nat) :
    ((first.carryOut setting.recording id priority ip next lane
        (.act effects (.request request reason))).1.applyResume setting.recording
          (lane.token id priority) value).Matches
      (second.carryOut other.recording id priority ip next lane
        (.act effects (.request request reason))).1 := by
  obtain ⟨performed, errors⟩ := same.performAll config effects
  have writes := Effect.performAll_writes setting first fun effect member =>
    Effect.own_of_isPlain (plain effect member)
  have spared := Effect.roster_performAll setting.recording first fun effect member =>
    Effect.sparesLanes_of_isPlain (plain effect member)
  simp only [Machine.carryOut]
  revert performed errors writes spared
  generalize Effect.performAll setting.recording first effects = before
  generalize Effect.performAll other.recording second effects = after
  obtain ⟨before, failed⟩ := before
  obtain ⟨after, failed'⟩ := after
  intro performed errors writes spared
  cases errors
  have there : before.world.lane? id priority = some lane := by
    rw [← World.lane?_roster, spared, World.lane?_roster, here]
  cases failed with
  | none =>
      refine performed.makeRequest config there ?_ later now ip next
      intro window bank address same
      obtain ⟨named, located⟩ := cell window bank address same
      exact ⟨named, (locate_of_writes writes bank address.toUInt16).trans located⟩
  | some error =>
      -- the lane is given up, and then the token wakes nobody
      have gone := roster_giveUp setting.recording rfl there ip error
      have given : (before.giveUp setting.recording id priority ip error).Matches
          (after.giveUp other.recording id priority ip error) := performed.giveUp ip error
      have deaf : ((before.giveUp setting.recording id priority ip error).applyResume
          setting.recording (lane.token id priority) value).Alike
            (before.giveUp setting.recording id priority ip error) := by
        refine alike_applyResume setting.recording value ?_
        intro stopped found _
        rw [← World.lane?_roster, gone, Roster.lane?_fault] at found
        cases (before.world.roster.lane?_put_self id priority _).symm.trans found
        rfl
      exact ⟨⟨deaf.session.trans given.session, deaf.random.trans given.random,
        (congrArg Prod.snd deaf.host).trans given.told⟩, deaf.world.trans given.world⟩

end Agreement

/-- A step whose instruction is worked out carries out its plan. -/
theorem step_recorded (setting : Setting σ) {machine : Machine σ} {id : EntityId} {priority : Nat}
    {lane : Lane} {ip next : Nat} {plan : Plan}
    (here : machine.world.lane? id priority = some lane) (active : lane.isActive)
    (stands : lane.ip? = some ip)
    (worked : workOut setting.source.code (machine.sceneOf setting id priority ip lane) ip
      lane.suspended? = .ok (plan, next)) :
    ∃ noted : Machine (σ × List StateChange), noted.Matches machine.recorded ∧
      machine.recorded.step setting.recording id priority =
        noted.carryOut setting.recording id priority ip next lane plan := by
  have there : machine.recorded.world.lane? id priority = some lane := here
  obtain ⟨place, noted, found, journal, same⟩ := step_eq setting.recording there active
  cases stands.symm.trans found
  have unseen : machine.recorded.sceneOf setting.recording id priority ip lane =
      machine.sceneOf setting id priority ip lane := rfl
  refine ⟨noted, ?_, ?_⟩
  · rcases journal with rfl | ⟨byte, -, rfl⟩ <;> exact ⟨⟨rfl, rfl, rfl⟩, rfl⟩
  · rw [same, unseen]
    have worked : workOut setting.recording.source.code (machine.sceneOf setting id priority ip lane)
        ip lane.suspended? = .ok (plan, next) := worked
    rw [worked]

variable {setting : Setting σ} {prompt patient : Host σ} {machine : Machine σ} {id : EntityId}
  {priority : Nat} {lane : Lane} {ip next : Nat} {effects : List Effect} {request : Request}
  {reason : PauseReason}

/-- Answers that come at once and answers that come later agree.

Let the instruction of a lane come to a request, which only a few opcodes make.  One host replies to
it at once, with a value or without; another one leaves it open, and is given the token back with the
same value before anything else happens.  Then the world, the session, the random numbers and
all that was announced are the same, as long as the cell of a question exists. -/
theorem answers_agree (here : machine.world.lane? id priority = some lane) (active : lane.isActive)
    (stands : lane.ip? = some ip)
    (asks : workOut setting.source.code
      (machine.sceneOf (setting.withHost prompt) id priority ip lane) ip lane.suspended? =
        .ok (.act effects (.request request reason), next))
    (senses : patient.senses machine.host = prompt.senses machine.host) (value : Option UInt16)
    (now : ∀ state, (prompt.request request (lane.token id priority) state).1 = .immediate value)
    (later : ∀ state, (patient.request request (lane.token id priority) state).1 = .deferred)
    (cell : ∀ window bank address, reason = .ask window bank address →
      machine.session.memory.locate bank address.toUInt16 = .ok ()) :
    (∃ op : Opcode, setting.source.code[ip]? = some op.byte ∧ op.Asks request reason) ∧
    let done := (machine.recorded.step (setting.withHost prompt).recording id priority).1
    let waiting := (machine.recorded.step (setting.withHost patient).recording id priority).1
    (waiting.applyResume (setting.withHost patient).recording (lane.token id priority)
      value).Matches done := by
  let scene := machine.sceneOf (setting.withHost prompt) id priority ip lane
  have comesTo : scene.ComesTo ip (.act effects (.request request reason)) next :=
    Scene.comesTo_of_workOut asks
  -- only plain plans make a request
  obtain ⟨plain, -, op, there, kind⟩ : (∀ effect ∈ effects, effect.isPlain) ∧
      scene.HoldsUp ip next (.request request reason) := by
    cases comesTo.fits stands with
    | plain plain => exact plain
  refine ⟨⟨op, there, kind⟩, ?_⟩
  have same : machine.sceneOf (setting.withHost patient) id priority ip lane =
      machine.sceneOf (setting.withHost prompt) id priority ip lane := by
    simp only [sceneOf, Machine.senses, Setting.withHost, senses]
  obtain ⟨first, firstMatches, firstStep⟩ := step_recorded (setting.withHost patient)
    here active stands (by rw [same]; exact asks)
  obtain ⟨second, secondMatches, secondStep⟩ := step_recorded (setting.withHost prompt)
    here active stands asks
  have matching : first.Matches second :=
    ⟨⟨firstMatches.session.trans secondMatches.session.symm,
      firstMatches.random.trans secondMatches.random.symm,
      firstMatches.told.trans secondMatches.told.symm⟩,
      firstMatches.world.trans secondMatches.world.symm⟩
  have config : (setting.withHost prompt).config = (setting.withHost patient).config := rfl
  rw [firstStep, secondStep]
  refine matching.carryOut config ?_ ?_ later now plain ip next
  · rw [firstMatches.world]
    exact here
  · intro window bank address asked
    subst asked
    rw [firstMatches.session]
    refine ⟨?_, cell window bank address rfl⟩
    cases kind with
    | ask dialog address asked named => exact named

/-- In the interview, the question is answered with its second line, at once or after a while. -/
theorem interview_answered :
    let asking := Interview.shown.applyResume Interview.setting Interview.token none
    let prompt : Host Unit :=
      { Interview.host with request := fun _ _ state => (.immediate (some 1), state, []) }
    let done := (asking.recorded.step (Interview.setting.withHost prompt).recording 0 0).1
    let waiting :=
      (asking.recorded.step (Interview.setting.withHost Interview.host).recording 0 0).1
    (waiting.applyResume (Interview.setting.withHost Interview.host).recording Interview.token
      (some 1)).Matches done ∧ done.session.memory.cellAt 1 16 = 1 := by
  intro asking prompt done waiting
  let lane : Lane := { status := .active 107 0 none none, script := 0, epoch := 1 }
  have here : asking.world.lane? 0 0 = some lane := by decide +kernel
  have asks : ∃ request, workOut Interview.setting.source.code
      (asking.sceneOf (Interview.setting.withHost prompt) 0 0 107 lane) 107 none =
        .ok (.act [] (.request request (.ask 0 1 16)), 114) := by
    have shape : ((workOut Interview.setting.source.code
        (asking.sceneOf (Interview.setting.withHost prompt) 0 0 107 lane) 107 none).map fun found =>
          (found.1.request?.map Prod.snd, found.2)).toOption = some (some (.ask 0 1 16), 114) := by
      decide +kernel
    cases worked : workOut Interview.setting.source.code
        (asking.sceneOf (Interview.setting.withHost prompt) 0 0 107 lane) 107 none with
    | error error =>
        rw [worked] at shape
        cases shape
    | ok found =>
        obtain ⟨plan, next⟩ := found
        rw [worked] at shape
        obtain ⟨asked, rfl⟩ := Prod.mk.inj (Option.some.inj shape)
        obtain ⟨⟨request, reason⟩, requested, rfl⟩ := Option.map_eq_some_iff.mp asked
        obtain rfl : plan = .act [] (.request request (.ask 0 1 16)) :=
          Plan.eq_of_request? requested
        exact ⟨request, rfl⟩
  obtain ⟨request, asks⟩ := asks
  have cell : asking.session.memory.locate 1 16 = .ok () := by
    have found : (asking.session.memory.locate 1 16).isOk := by decide +kernel
    cases located : asking.session.memory.locate 1 16 with
    | ok _ => rfl
    | error error => rw [located] at found; cases found
  have agree := @answers_agree _ Interview.setting prompt Interview.host asking _ _ _ _ _ _ _ _ here
    rfl rfl asks rfl (some 1) (fun _ => rfl) (fun _ => rfl)
    (by rintro window bank address ⟨⟩; exact cell)
  exact ⟨agree.2, by decide +kernel⟩

end Machine

end FieldMachine
