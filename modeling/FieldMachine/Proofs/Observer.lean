import FieldMachine.Proofs.Run

/-!
# Machines seen through a view

A machine knows its host only by what it senses, and by how the host answers.
What else a host keeps in its state makes no difference: when one host shows the
states of another one and otherwise does the same (`Host.Shows`), the machines of
the two hosts go through the same states, operation by operation.

The same goes for whatever instructions cannot reach in the memory.  A `View`
shows other states of the host and another memory; what an instruction reads and
writes is there in both (`View.Shows`).

So a host may be made to keep a record of what it hears, and nothing changes
but that the record is there (`Machine.see_follow`).
-/

namespace FieldMachine

set_option autoImplicit false

/-! ## Hosts that show another -/

section Hosts

variable {σ τ : Type}

/-- A host whose states can be seen as those of another one, which does the same. -/
structure Host.Shows (full : Host σ) (view : σ → τ) (shown : Host τ) : Prop where
  senses : ∀ state, shown.senses (view state) = full.senses state
  request : ∀ request token state, shown.request request token (view state) =
    ((full.request request token state).1, view (full.request request token state).2.1,
      (full.request request token state).2.2)
  notify : ∀ notice state, shown.notify notice (view state) =
    (view (full.notify notice state).1, (full.notify notice state).2)

/-- The setting with another host. -/
def Setting.withHost (setting : Setting σ) (host : Host τ) : Setting τ :=
  { source := setting.source, config := setting.config, host }

@[simp] theorem Setting.source_withHost (setting : Setting σ) (host : Host τ) :
    (setting.withHost host).source = setting.source := rfl

@[simp] theorem Setting.config_withHost (setting : Setting σ) (host : Host τ) :
    (setting.withHost host).config = setting.config := rfl

/-- The machine as it is seen through a view of its host. -/
def Machine.see (view : σ → τ) (machine : Machine σ) : Machine τ :=
  { world := machine.world
    session := machine.session
    random := machine.random
    host := view machine.host
    journal := machine.journal }

end Hosts

/-! ## Views -/

/-- Which states of the host are shown, and which memory; instructions write the banks that it
spares. -/
structure View (σ τ : Type) where
  host : σ → τ
  memory : Memory → Memory
  spares : UInt8 → Prop

namespace View

variable {σ τ : Type}

/-- The view of a host that shows the memory as it is. -/
def ofHost (host : σ → τ) : View σ τ := { host, memory := id, spares := fun _ => True }

variable (view : View σ τ)

/-- The session with the memory that is shown. -/
def session (session : Session) : Session := { session with memory := view.memory session.memory }

/-- The scene with the memory that is shown. -/
def scene (scene : Scene) : Scene := { scene with session := view.session scene.session }

/-- Whether an answer to what a lane waits for goes to a bank that is spared. -/
def Allows (reason : PauseReason) : Prop :=
  ∀ window bank address, reason = .ask window bank address → view.spares bank

/-- Whether the scratch bank can be emptied in front of the view. -/
def Clears : Prop := ∀ memory, (view.memory memory).resetScratch = view.memory memory.resetScratch

/-- A view that shows a host which does the same, and a memory in which instructions find the same
and leave the same. -/
structure Shows (setting : Setting σ) (shown : Host τ) : Prop where
  host : setting.host.Shows view.host shown
  named : ∀ bank, bank ≠ Memory.scratchBank → view.spares bank
  locate : ∀ memory bank address,
    (view.memory memory).locate bank address = memory.locate bank address
  put : ∀ memory bank address value, view.spares bank →
    (view.memory memory).put bank address value = view.memory (memory.put bank address value)
  plan : ∀ {op : Opcode} {reading : Reading Plan}, op.plan? = some reading → ∀ scene cursor,
    cursor.pc ≤ cursor.code.size → reading (view.scene scene) cursor = reading scene cursor
  rest : ∀ (continuation : Continuation) scene cursor, cursor.pc ≤ cursor.code.size →
    continuation.plan (view.scene scene) cursor = continuation.plan scene cursor

theorem shows_ofHost {setting : Setting σ} {host : σ → τ} {shown : Host τ}
    (shows : setting.host.Shows host shown) : (ofHost host).Shows setting shown where
  host := shows
  named _ _ := trivial
  locate _ _ _ := rfl
  put _ _ _ _ _ := rfl
  plan _ _ _ _ := rfl
  rest _ _ _ _ := rfl

theorem clears_ofHost (host : σ → τ) : (ofHost host).Clears := fun _ => rfl

/-! ## Changes that leave the memory alone -/

theorem session_updateCharacter (session : Session) (id : UInt8)
    (change : Character → Character) :
    (view.session session).updateCharacter id change =
      view.session (session.updateCharacter id change) := by
  have same : (view.session session).characters = session.characters := rfl
  unfold Session.updateCharacter
  rw [same]
  cases session.characters[id.toNat]? <;> rfl

theorem session_restoreParty (session : Session) :
    (view.session session).restoreParty = view.session session.restoreParty := by
  refine List.foldl_hom view.session fun session held => ?_
  cases held with
  | none => rfl
  | some id => exact view.session_updateCharacter session id _

theorem session_apply (session : Session) (change : SessionChange) :
    change.apply (view.session session) = view.session (change.apply session) := by
  cases change with
  | restoreParty => exact view.session_restoreParty session
  | raiseHp character amount | lowerHp character amount | raiseMp character amount
  | lowerMp character amount => exact view.session_updateCharacter session character _
  | _ => rfl

theorem session_advanceTimer (session : Session) (elapsed : UInt64) :
    (view.session session).advanceTimer elapsed = view.session (session.advanceTimer elapsed) := by
  have same : (view.session session).timerSeconds = session.timerSeconds := rfl
  unfold Session.advanceTimer
  rw [same]
  split <;> rfl

end View

/-- Every lane that waits does so for a reason that is allowed. -/
def Roster.WaitsOnly (allowed : PauseReason → Prop) (roster : Roster) : Prop :=
  ∀ id priority lane reason, roster.lane? id priority = some lane →
    lane.pauseReason? = some reason → allowed reason

/-- A lane that is woken waits no more. -/
theorem Roster.WaitsOnly.wake {allowed : PauseReason → Prop} {roster : Roster}
    (waits : roster.WaitsOnly allowed) (token : ResumeToken) :
    (roster.wake token).WaitsOnly allowed := by
  intro id priority lane reason there paused
  obtain ⟨before, here, rfl⟩ := Option.map_eq_some_iff.mp there
  unfold Lane.hear at paused
  split at paused
  · rw [Lane.pauseReason?_awake] at paused
    cases paused
  · exact waits id priority before reason here paused

namespace Machine

variable {σ τ : Type}

/-- The machine as it is seen through a view. -/
def through (view : View σ τ) (machine : Machine σ) : Machine τ :=
  { world := machine.world
    session := view.session machine.session
    random := machine.random
    host := view.host machine.host
    journal := machine.journal }

/-- What a machine came to, with the machine seen through a view. -/
def seen {α : Type} (view : View σ τ) (outcome : Machine σ × α) : Machine τ × α :=
  (outcome.1.through view, outcome.2)

/-- Seeing a machine through a view of its host. -/
theorem through_ofHost (view : σ → τ) (machine : Machine σ) :
    machine.through (.ofHost view) = machine.see view := rfl

variable {setting : Setting σ} {view : View σ τ} {host : Host τ}

/-! ## Whatever does not concern the view -/

section Apart

variable (view) (machine : Machine σ)

@[simp] theorem world_through : (machine.through view).world = machine.world := rfl

@[simp] theorem session_through :
    (machine.through view).session = view.session machine.session := rfl

@[simp] theorem random_through : (machine.through view).random = machine.random := rfl

theorem through_note (entry : Entry) : (machine.through view).note entry = (machine.note entry).through view :=
  rfl

/-- One change after the other, for all items of a list. -/
theorem through_foldl {α : Type} {change : Machine σ → α → Machine σ}
    {shown : Machine τ → α → Machine τ}
    (each : ∀ machine item, shown (machine.through view) item = (change machine item).through view)
    (items : List α) :
    items.foldl shown (machine.through view) = (items.foldl change machine).through view :=
  List.foldl_hom (fun machine : Machine σ => machine.through view) each

theorem through_noteAll (entries : List Entry) :
    entries.foldl note (machine.through view) = (entries.foldl note machine).through view :=
  through_foldl view machine (fun _ _ => rfl) entries

theorem through_noteHost (lines : List LogLine) :
    (machine.through view).noteHost lines = (machine.noteHost lines).through view :=
  through_foldl view machine (fun _ _ => rfl) lines

theorem through_updateWorld (change : World → World) :
    (machine.through view).updateWorld change = (machine.updateWorld change).through view := rfl

theorem through_updateSession (change : Session → Session)
    (same : change (view.session machine.session) = view.session (change machine.session)) :
    (machine.through view).updateSession change = (machine.updateSession change).through view := by
  unfold updateSession
  rw [session_through, same]
  rfl

theorem through_withRandom (random : Random) :
    { machine.through view with random } = { machine with random }.through view := rfl

theorem through_wake (token : ResumeToken) :
    (machine.through view).wake token = seen view (machine.wake token) := by
  simp only [wake, world_through]
  cases machine.world.lane? token.entity token.priority <;> rfl

theorem through_complete (onStop : Option ResumeToken) :
    (machine.through view).complete onStop = (machine.complete onStop).through view := by
  cases onStop with
  | none => rfl
  | some token => exact congrArg Prod.fst (through_wake view machine token)

theorem through_startScript (id : EntityId) (priority script : Nat) (onStop : Option ResumeToken) :
    (machine.through view).startScript id priority script onStop =
      seen view (machine.startScript id priority script onStop) := by
  simp only [startScript, world_through]
  cases machine.world.entity? id with
  | none => rfl
  | some entity =>
      dsimp only
      cases entity.admission priority script <;> rfl

theorem through_updateLane (id : EntityId) (priority : Nat) (change : Lane → Lane) :
    (machine.through view).updateLane id priority change =
      (machine.updateLane id priority change).through view := rfl

theorem through_setAwaitedWindow (reason : PauseReason) (isOpen : Bool) :
    (machine.through view).setAwaitedWindow reason isOpen =
      (machine.setAwaitedWindow reason isOpen).through view := by
  unfold setAwaitedWindow
  cases awaitedWindow? reason <;> rfl

theorem through_passOn (id : EntityId) (priority : Nat) (lane : Lane) (level script : Nat) :
    (machine.through view).passOn id priority lane level script =
      seen view (machine.passOn id priority lane level script) := by
  simp only [passOn, through_updateLane, through_complete, through_startScript]
  rfl

theorem through_invoke (index priority script : Nat) :
    (machine.through view).invoke index priority script =
      seen view (machine.invoke index priority script) :=
  through_startScript view machine index priority script none

theorem through_start (clears : view.Clears) :
    (machine.through view).start = machine.start.through view := by
  have emptied : { view.session machine.session with
      memory := (view.memory machine.session.memory).resetScratch } =
    view.session { machine.session with memory := machine.session.memory.resetScratch } := by
    rw [clears]
    rfl
  unfold start
  rw [through_updateSession view machine _ emptied, through_foldl view _ fun machine id =>
    congrArg Prod.fst (through_startScript view machine id 0 0 none)]
  rfl

theorem through_remove (index : Nat) :
    (machine.through view).remove index = seen view (machine.remove index) := by
  simp only [remove, world_through]
  cases machine.world.entity? index with
  | none => rfl
  | some entity =>
      dsimp only
      rw [through_updateWorld, through_foldl view _ fun machine token =>
        congrArg Prod.fst (through_wake view machine token)]
      rfl

end Apart

/-- A token that wakes its lane wakes it with the reason for which it paused. -/
theorem paused_of_wake {machine : Machine σ} {token : ResumeToken} {reason : PauseReason}
    (woke : (machine.wake token).2 = some reason) :
    ∃ lane, machine.world.lane? token.entity token.priority = some lane ∧
      lane.pauseReason? = some reason := by
  unfold wake at woke
  split at woke
  · cases woke
  · next lane here =>
      simp only [World.wake, here, Option.bind_some, Lane.wake?_eq] at woke
      split at woke
      · cases woke
      · next known woken given found =>
          cases woke
          split at found
          · obtain ⟨told, paused, same⟩ := Option.map_eq_some_iff.mp found
            cases same
            exact ⟨lane, here, paused⟩
          · cases found

/-! ## Notices and requests -/

section Telling

variable (shows : view.Shows setting host) (machine : Machine σ)

include shows

theorem through_senses : (machine.through view).senses (setting.withHost host) = machine.senses setting :=
  shows.host.senses machine.host

theorem through_notify (notice : Notice) :
    (machine.through view).notify (setting.withHost host) notice =
      (machine.notify setting notice).through view := by
  unfold notify
  rw [← through_noteHost]
  exact congrArg (fun answer : τ × List LogLine =>
    noteHost { machine.through view with host := answer.1 } answer.2) (shows.host.notify notice machine.host)

theorem through_request (request : Request) (token : ResumeToken) :
    (machine.through view).request (setting.withHost host) request token =
      ((machine.request setting request token).1,
        (machine.request setting request token).2.through view) := by
  unfold Machine.request
  dsimp only
  rw [← through_noteHost]
  exact congrArg (fun answer : Completion × τ × List LogLine =>
      (answer.1, noteHost { machine.through view with host := answer.2.1 } answer.2.2))
    (shows.host.request request token machine.host)

theorem through_putCell {bank : UInt8} (spared : view.spares bank) (address : UInt8)
    (value : UInt16) :
    (machine.through view).putCell (setting.withHost host) bank address value =
      (machine.putCell setting bank address value).through view := by
  have put : (view.session machine.session).putCell bank address.toUInt16 value =
      view.session (machine.session.putCell bank address.toUInt16 value) := by
    simp only [Session.putCell, View.session, shows.put _ _ _ _ spared]
  unfold putCell
  rw [through_updateSession view machine (·.putCell bank address.toUInt16 value) put,
    Setting.config_withHost]
  split
  · exact through_notify shows _ _
  · rfl

theorem through_writeCell {bank : UInt8} (spared : view.spares bank) (address : UInt8)
    (value : UInt16) :
    (machine.through view).writeCell (setting.withHost host) bank address value =
      seen view (machine.writeCell setting bank address value) := by
  have located : (view.session machine.session).memory.locate bank address.toUInt16 =
      machine.session.memory.locate bank address.toUInt16 := shows.locate ..
  unfold writeCell
  rw [session_through, located]
  split
  · rfl
  · rw [through_putCell shows machine spared]
    rfl

/-- No destination names the scratch bank. -/
theorem through_store (selector address : UInt8) (value : UInt16) :
    (machine.through view).store (setting.withHost host) selector address value =
      seen view (machine.store setting selector address value) := by
  unfold store
  split
  · rfl
  · next named =>
      rw [through_writeCell shows machine (shows.named selector named)]
      rfl

theorem through_giveUp (id : EntityId) (priority ip : Nat) (error : ExecError) :
    (machine.through view).giveUp (setting.withHost host) id priority ip error =
      (machine.giveUp setting id priority ip error).through view := by
  simp only [giveUp, through_updateLane, through_updateWorld, through_note, through_notify shows, world_through]

theorem through_settle (reason : PauseReason) (value : Option UInt16) :
    (machine.through view).settle (setting.withHost host) reason value =
      seen view (machine.settle setting reason value) := by
  unfold settle
  split
  · exact through_store shows ..
  · rfl
  · rfl

theorem through_perform (effect : Effect) :
    effect.perform (setting.withHost host) (machine.through view) =
      seen view (effect.perform setting machine) := by
  cases effect with
  | store selector address value => exact through_store shows ..
  | drawByte selector address =>
      simp only [Effect.perform, random_through]
      generalize machine.random.nextByte = drawn
      exact through_store shows { machine with random := drawn.1 } ..
  | reseed seed => exact congrArg (·, none) (through_withRandom view machine (.ofSeed seed))
  | session change =>
      exact congrArg (·, none)
        (through_updateSession view machine (change.apply ·) (view.session_apply _ change))
  | party change =>
      let changed (session : Session) : Session :=
        { session with party := change.apply session.party }
      have told := through_notify shows (machine.updateSession changed) (.changed .party)
      rw [← through_updateSession view machine changed rfl] at told
      exact congrArg (·, none) told
  | background area mask =>
      simp only [Effect.perform, through_updateWorld, through_notify shows]
      rfl
  | livePalette id palette =>
      simp only [Effect.perform, through_updateWorld, through_notify shows]
      rfl
  | lockTriangle triangle locked =>
      simp only [Effect.perform, through_updateWorld, through_notify shows]
      rfl
  | notify notice => exact congrArg (·, none) (through_notify shows machine notice)
  | _ => rfl

theorem through_performAll (effects : List Effect) :
    Effect.performAll (setting.withHost host) (machine.through view) effects =
      seen view (Effect.performAll setting machine effects) := by
  induction effects generalizing machine with
  | nil => rfl
  | cons effect rest ih =>
      unfold Effect.performAll
      rw [through_perform shows]
      obtain ⟨next, error⟩ := effect.perform setting machine
      cases error with
      | none => exact ih next
      | some error => rfl

/-! ## Instructions and turns -/

theorem through_makeRequest (id : EntityId) (priority ip next : Nat) (lane : Lane) (request : Request)
    (reason : PauseReason) :
    (machine.through view).makeRequest (setting.withHost host) id priority ip next lane request reason =
      seen view (machine.makeRequest setting id priority ip next lane request reason) := by
  unfold makeRequest
  dsimp only
  rw [through_request shows]
  generalize machine.request setting request _ = made
  obtain ⟨completion, asked⟩ := made
  cases completion with
  | deferred =>
      dsimp only
      rw [through_setAwaitedWindow]
      rfl
  | immediate value =>
      dsimp only
      rw [through_setAwaitedWindow, through_settle shows]
      obtain ⟨settled, error⟩ := (asked.setAwaitedWindow reason false).settle setting reason value
      cases error with
      | none => rfl
      | some error => exact congrArg (·, Turnover.released) (through_giveUp shows settled ..)

theorem through_conclude (id : EntityId) (priority ip next : Nat) (lane : Lane) (ending : Ending) :
    (machine.through view).conclude (setting.withHost host) id priority ip next lane ending =
      seen view (machine.conclude setting id priority ip next lane ending) := by
  cases ending with
  | stop =>
      simp only [conclude, through_updateLane, through_complete]
      rfl
  | handOver level script => exact through_passOn ..
  | request request reason => exact through_makeRequest shows ..
  | fault error => exact congrArg (·, Turnover.released) (through_giveUp shows machine ..)
  | _ => rfl

theorem through_carryOut (id : EntityId) (priority ip next : Nat) (lane : Lane) (plan : Plan) :
    (machine.through view).carryOut (setting.withHost host) id priority ip next lane plan =
      seen view (machine.carryOut setting id priority ip next lane plan) := by
  cases plan with
  | retry entries =>
      simp only [carryOut, through_noteAll, through_updateLane]
      rfl
  | act effects ending =>
      simp only [carryOut]
      rw [through_performAll shows]
      obtain ⟨next, error⟩ := Effect.performAll setting machine effects
      cases error with
      | none => exact through_conclude shows ..
      | some error => exact congrArg (·, Turnover.released) (through_giveUp shows next ..)

theorem through_sceneOf (id : EntityId) (priority ip : Nat) (lane : Lane) :
    (machine.through view).sceneOf (setting.withHost host) id priority ip lane =
      view.scene (machine.sceneOf setting id priority ip lane) := by
  unfold sceneOf
  rw [through_senses shows]
  rfl

theorem through_execute (id : EntityId) (priority ip : Nat) (lane : Lane) {reading : Reading Plan}
    {cursor : Cursor}
    (same : ∀ scene, reading (view.scene scene) cursor = reading scene cursor) :
    (machine.through view).execute (setting.withHost host) id priority ip lane reading cursor =
      seen view (machine.execute setting id priority ip lane reading cursor) := by
  unfold execute
  rw [through_sceneOf shows, same]
  split
  · exact congrArg (·, Turnover.released) (through_giveUp shows machine ..)
  · exact through_carryOut shows ..

theorem through_step (id : EntityId) (priority : Nat) :
    (machine.through view).step (setting.withHost host) id priority =
      seen view (machine.step setting id priority) := by
  unfold step
  simp only [world_through, Setting.source_withHost]
  split
  · rfl
  · split
    · split
      · exact congrArg (·, Turnover.released) (through_giveUp shows machine ..)
      · next byte reading cursor fetched =>
          obtain ⟨stands, planned, rfl⟩ := fetch_eq_ok.mp fetched
          obtain ⟨op, rfl, known⟩ := planOfByte?_eq_some.mp planned
          obtain ⟨inside, -⟩ := Array.getElem?_eq_some_iff.mp stands
          exact through_execute shows (machine.note _) _ _ _ _ fun scene =>
            shows.plan known scene _ inside
    · split
      · exact congrArg (·, Turnover.released) (through_giveUp shows machine ..)
      · next cursor moved =>
          obtain ⟨inside, rfl⟩ := Cursor.moveTo_eq_ok.mp moved
          exact through_execute shows machine _ _ _ _ fun scene => shows.rest _ scene _ inside
    · rfl

theorem through_runLane (id : EntityId) (priority budget : Nat) :
    (machine.through view).runLane (setting.withHost host) id priority budget =
      seen view (machine.runLane setting id priority budget) := by
  induction budget generalizing machine with
  | zero => rfl
  | succ budget ih =>
      unfold runLane
      rw [through_step shows]
      obtain ⟨next, turnover⟩ := machine.step setting id priority
      cases turnover with
      | goOn => exact ih next
      | _ => rfl

theorem through_runLanes (id : EntityId) (priorities : List Nat) :
    (machine.through view).runLanes (setting.withHost host) id priorities =
      (machine.runLanes setting id priorities).through view := by
  induction priorities generalizing machine with
  | nil => rfl
  | cons priority rest ih =>
      unfold runLanes
      rw [through_runLane shows, world_through]
      split
      · rw [Setting.config_withHost]
        obtain ⟨next, turnover⟩ := machine.runLane setting id priority setting.config.opsPerTick
        cases turnover with
        | released => exact ih next
        | _ => rfl
      · exact ih machine

theorem through_runEntity (id : EntityId) :
    (machine.through view).runEntity (setting.withHost host) id =
      (machine.runEntity setting id).through view := by
  unfold runEntity
  rw [world_through]
  split
  · rfl
  · exact through_runLanes shows ..

/-! ## Ticks -/

theorem through_applyResume (waits : machine.world.roster.WaitsOnly view.Allows)
    (token : ResumeToken) (answer : Option UInt16) :
    (machine.through view).applyResume (setting.withHost host) token answer =
      (machine.applyResume setting token answer).through view := by
  have allowed (reason : PauseReason) (woke : (machine.wake token).2 = some reason) :
      view.Allows reason := by
    obtain ⟨lane, here, paused⟩ := paused_of_wake woke
    exact waits _ _ lane reason here paused
  unfold applyResume
  rw [through_wake]
  revert allowed
  obtain ⟨woken, reason⟩ := machine.wake token
  intro allowed
  cases reason with
  | none => rfl
  | some reason =>
      dsimp only [seen]
      rw [through_setAwaitedWindow]
      split
      · rw [through_writeCell shows _ (allowed _ rfl _ _ _ rfl)]
        obtain ⟨written, error⟩ := writeCell setting _ _ _ (woken.setAwaitedWindow _ false)
        cases error <;> rfl
      · rfl
      · rfl

theorem through_beginTick (elapsed : UInt64) :
    (machine.through view).beginTick (setting.withHost host) elapsed =
      (machine.beginTick setting elapsed).through view := by
  unfold beginTick
  rw [through_senses shows, session_through, View.session_advanceTimer]
  rfl

theorem through_applyPending (waits : machine.world.roster.WaitsOnly view.Allows) :
    (machine.through view).applyPending (setting.withHost host) =
      (machine.applyPending setting).through view := by
  have each (pending : List (ResumeToken × Option UInt16)) (machine : Machine σ)
      (waits : machine.world.roster.WaitsOnly view.Allows) :
      pending.foldl (fun machine given =>
        machine.applyResume (setting.withHost host) given.1 given.2) (machine.through view) =
      (pending.foldl (fun machine given =>
        machine.applyResume setting given.1 given.2) machine).through view := by
    induction pending generalizing machine with
    | nil => rfl
    | cons given rest ih =>
        obtain ⟨token, answer⟩ := given
        simp only [List.foldl_cons, through_applyResume shows machine waits]
        refine ih (machine.applyResume setting token answer) ?_
        rw [roster_applyResume]
        exact waits.wake token
  exact each machine.world.pending (machine.updateWorld fun world => { world with pending := [] })
    waits

theorem through_runEntities :
    (machine.through view).runEntities (setting.withHost host) =
      (machine.runEntities setting).through view :=
  through_foldl view machine (through_runEntity shows) _

theorem through_advanceActors :
    (machine.through view).advanceActors (setting.withHost host) =
      (machine.advanceActors setting).through view := by
  unfold advanceActors
  rw [through_senses shows]
  rfl

theorem through_runActivity (frame : Nat) (activity : Activity) :
    activity.run (setting.withHost host) frame (machine.through view) =
      seen view (activity.run setting frame machine) := by
  cases activity with
  | scroll moving =>
      simp only [Activity.run, world_through]
      obtain ⟨world, left, entry⟩ := moving.run frame machine.world
      cases entry <;> rfl
  | fade fading =>
      simp only [Activity.run, world_through]
      obtain ⟨world, left, entry⟩ := fading.run frame machine.world
      cases entry <;> rfl
  | shift moving => rfl
  | choreography dance =>
      simp only [Activity.run]
      rw [world_through]
      generalize Walk.runAll _ dance.walks machine.world = walked
      split
      · exact congrArg (fun woken => (woken.1, none))
          (through_wake view (note { machine with world := walked.1 } _) dance.token)
      · rfl
  | countdown timer =>
      simp only [Activity.run, through_notify shows]
      split
      · cases timer.wake with
        | none => rfl
        | some token =>
            dsimp only
            rw [through_wake]
            exact congrArg (·, none) (through_notify shows _ _)
      · rfl

theorem through_runActivities (frame : Nat) (activities : List Activity) :
    (machine.through view).runActivities (setting.withHost host) frame activities =
      seen view (machine.runActivities setting frame activities) := by
  induction activities generalizing machine with
  | nil => rfl
  | cons activity rest ih =>
      unfold runActivities
      rw [through_runActivity shows]
      dsimp only [seen]
      rw [ih]
      rfl

theorem through_finishTick :
    (machine.through view).finishTick (setting.withHost host) =
      (machine.finishTick setting).through view := by
  unfold finishTick
  rw [world_through, through_runActivities shows]
  rfl

theorem through_tick (waits : machine.world.roster.WaitsOnly view.Allows) (elapsed : UInt64) :
    (machine.through view).tick (setting.withHost host) elapsed =
      (machine.tick setting elapsed).through view := by
  unfold tick
  rw [through_beginTick shows, through_applyPending shows (machine.beginTick setting elapsed) waits, through_runEntities shows,
    through_advanceActors shows, through_finishTick shows]

theorem through_duringTick (waits : machine.world.roster.WaitsOnly view.Allows) (elapsed : UInt64)
    (entities lanes : Nat) :
    (machine.through view).duringTick (setting.withHost host) elapsed entities lanes =
      (machine.duringTick setting elapsed entities lanes).through view := by
  unfold duringTick
  dsimp only
  rw [through_beginTick shows, through_applyPending shows (machine.beginTick setting elapsed) waits,
    through_foldl view _ (through_runEntity shows), through_runLanes shows]

end Telling

/-! ## Moves -/

section Moves

/-- What can happen to a machine: an operation of its host, the beginning of a tick, or one
instruction.  The beginning of a tick and instructions after it lead to every place between two
instructions. -/
inductive Move
  | start
  | tick (elapsed : UInt64)
  | invoke (index priority script : Nat)
  | giveBack (token : ResumeToken) (answer : Option UInt16)
  | remove (index : Nat)
  | spawn (activity : Activity)
  | loadPalette (id : UInt8) (palette : Palette)
  /-- A tick up to a place between two turns. -/
  | begin (elapsed : UInt64) (entities lanes : Nat)
  /-- One instruction of a lane. -/
  | step (id : EntityId) (priority : Nat)

/-- The machine after a move. -/
def make (setting : Setting σ) (machine : Machine σ) : Move → Machine σ
  | .start => machine.start
  | .tick elapsed => machine.tick setting elapsed
  | .invoke index priority script => (machine.invoke index priority script).1
  | .giveBack token answer => machine.giveBack token answer
  | .remove index => (machine.remove index).1
  | .spawn activity => machine.spawn activity
  | .loadPalette id palette => machine.loadPalette id palette
  | .begin elapsed entities lanes => machine.duringTick setting elapsed entities lanes
  | .step id priority => (machine.step setting id priority).1

/-- The machine after some moves. -/
def follow (setting : Setting σ) (machine : Machine σ) (moves : List Move) : Machine σ :=
  moves.foldl (make setting) machine

/-- Whether a move is a whole tick. -/
def Move.isTick : Move → Bool
  | .tick _ => true
  | _ => false

/-- Whether something is so of each of some moves, at the machine at which it is made. -/
def Throughout (setting : Setting σ) (holds : Machine σ → Move → Prop) :
    Machine σ → List Move → Prop
  | _, [] => True
  | machine, move :: rest =>
      holds machine move ∧ Throughout setting holds (machine.make setting move) rest

variable (shows : view.Shows setting host) (machine : Machine σ)

include shows

theorem through_make (waits : machine.world.roster.WaitsOnly view.Allows) (move : Move)
    (clears : move = .start → view.Clears) :
    (machine.through view).make (setting.withHost host) move =
      (machine.make setting move).through view := by
  cases move with
  | start => exact through_start view machine (clears rfl)
  | tick elapsed => exact through_tick shows machine waits elapsed
  | invoke index priority script =>
      exact congrArg Prod.fst (through_invoke view machine index priority script)
  | giveBack token answer => rfl
  | remove index => exact congrArg Prod.fst (through_remove view machine index)
  | spawn activity => rfl
  | loadPalette id palette => rfl
  | begin elapsed entities lanes => exact through_duringTick shows machine waits elapsed entities lanes
  | step id priority => exact congrArg Prod.fst (through_step shows machine id priority)

/-- A view shows the same moves. -/
theorem through_follow {moves : List Move} (clears : .start ∈ moves → view.Clears)
    (waits : ∀ moves, (machine.follow setting moves).world.roster.WaitsOnly view.Allows) :
    (machine.through view).follow (setting.withHost host) moves =
      (machine.follow setting moves).through view := by
  induction moves generalizing machine with
  | nil => rfl
  | cons move rest ih =>
      have first := through_make shows machine (waits []) move fun entered =>
        clears (by simp [entered])
      have later := ih (machine.make setting move) (fun entered => clears (by simp [entered]))
        fun moves => waits (move :: moves)
      unfold follow at later ⊢
      rw [List.foldl_cons, first, later, List.foldl_cons]

end Moves

/-- A view of the host shows the same moves. -/
theorem see_follow {view : σ → τ} (shows : setting.host.Shows view host) (machine : Machine σ)
    (moves : List Move) :
    (machine.see view).follow (setting.withHost host) moves =
      (machine.follow setting moves).see view := by
  refine through_follow (View.shows_ofHost shows) machine (fun _ => View.clears_ofHost view) ?_
  intro moves id priority lane reason here paused window bank address asked
  trivial

end Machine

end FieldMachine
