import FieldMachine.Proofs.Failure
import FieldMachine.Proofs.Moment
import FieldMachine.Proofs.Polling
import FieldMachine.Proofs.Upkeep

/-!
# Faults stay with their lane

A lane whose instruction fails is stopped and reported, once, and no other lane
is touched (`Machine.faults_isolated`).  But for a question and a random byte,
nothing of the game has changed except by some of the first writes of an
instruction that has several (`Machine.failure_spares_game`).

What the host hears of it is seen on the machine whose host keeps a record: it
fails in the same way (`Machine.see_failure?`).
-/

namespace FieldMachine

set_option autoImplicit false

/-- The fault that a contact reports. -/
def Contact.fault? : Contact → Option Fault
  | .told (.fault fault) => some fault
  | _ => none

namespace Deposit

/-- What listeners are told of a write. -/
def contact (deposit : Deposit) : Contact :=
  .told (.changed (.cell deposit.selector deposit.address deposit.value))

end Deposit

/-- What listeners are told of some writes: those to replicated banks, in their order. -/
def Config.announced (config : Config) (writes : List Deposit) : List Contact :=
  (writes.filter (config.isReplicated ·.selector)).map Deposit.contact

theorem Config.fault?_announced (config : Config) (writes : List Deposit) :
    (config.announced writes).filterMap Contact.fault? = [] := by
  simp [announced, Deposit.contact, Contact.fault?]

/-- The report of a lane that fails. -/
def World.report (world : World) (id : EntityId) (priority ip : Nat) (error : ExecError) : Fault :=
  { entity := id, name := ((world.actor? id).map Actor.name).getD "", priority, ip, error }

/-- Giving a lane up changes the entities and the count, whatever had become of the entities
before. -/
theorem World.abort_eq {world before : World} (same : ∃ entities, world = { before with entities })
    (id : EntityId) (priority ip : Nat) :
    { world.updateLane id priority (·.abort ip) with faults := world.faults + 1 } =
      { before with
        entities := (world.updateLane id priority (·.abort ip)).entities
        faults := before.faults + 1 } := by
  obtain ⟨entities, rfl⟩ := same
  rfl

namespace Machine

variable {σ : Type}

/-! ## What a host on record is told -/

section Heard

variable (setting : Setting σ) (machine : Machine (σ × List Contact))

theorem heard_notify (notice : Notice) :
    (machine.notify setting.tapped notice).host.2 = machine.host.2 ++ [.told notice] := by
  obtain ⟨journal, same⟩ := noteHost_eq
    { machine with host := (setting.tapped.host.notify notice machine.host).1 }
    (setting.tapped.host.notify notice machine.host).2
  exact (congrArg (·.host.2) same).trans rfl

theorem heard_request (request : Request) (token : ResumeToken) :
    (machine.request setting.tapped request token).2.host.2 =
      machine.host.2 ++ [.asked request token] := by
  obtain ⟨journal, same⟩ := noteHost_eq
    { machine with host := (setting.tapped.host.request request token machine.host).2.1 }
    (setting.tapped.host.request request token machine.host).2.2
  exact (congrArg (·.host.2) same).trans rfl

theorem heard_putAll (writes : List Deposit) :
    (writes.foldl (Deposit.put setting.tapped) machine).host.2 =
      machine.host.2 ++ setting.config.announced writes := by
  induction writes generalizing machine with
  | nil => exact (List.append_nil _).symm
  | cons write rest ih =>
      have first : (write.put setting.tapped machine).host.2 =
          machine.host.2 ++ setting.config.announced [write] := by
        have told := heard_notify setting (machine.updateSession (·.deposit write))
          (.changed (.cell write.selector write.address write.value))
        unfold Deposit.put putCell
        dsimp only
        rw [show setting.tapped.config = setting.config from rfl]
        split
        · next replicated =>
            rw [show setting.config.announced [write] = [write.contact] by
              simp [Config.announced, replicated]]
            exact told
        · next kept =>
            rw [show setting.config.announced [write] = [] by simp [Config.announced, kept]]
            exact (List.append_nil _).symm
      rw [List.foldl_cons, ih, first, List.append_assoc]
      simp only [Config.announced, ← List.map_append, ← List.filter_append, List.singleton_append]

theorem heard_giveUp (id : EntityId) (priority ip : Nat) (error : ExecError) :
    (machine.giveUp setting.tapped id priority ip error).host.2 =
      machine.host.2 ++ [.told (.fault (machine.world.report id priority ip error))] := by
  refine (heard_notify setting _ _).trans ?_
  show machine.host.2 ++ [Contact.told (.fault
    ((machine.world.updateLane id priority (·.abort ip)).report id priority ip error))] = _
  rw [World.report, World.actor?_updateLane]
  rfl

end Heard

/-! ## What the host hears of a failure -/

section Hearing

variable {setting : Setting σ} {machine reached : Machine (σ × List Contact)} {id : EntityId}
  {priority ip : Nat} {lane : Lane}

theorem Remains.heard
    (remains : machine.Remains setting.tapped id priority ip lane reached) :
    ∃ before, reached.host.2 = machine.host.2 ++ before ∧
      before.filterMap Contact.fault? = [] := by
  obtain ⟨noted, same⟩ := onRecord_journal setting.tapped machine id priority ip lane
  cases remains with
  | @wrote writes first =>
      refine ⟨setting.config.announced writes, ?_, setting.config.fault?_announced writes⟩
      rw [heard_putAll, same]
  | recorded entry =>
      rw [same]
      exact ⟨[], (List.append_nil _).symm, rfl⟩
  | drew stands random =>
      rw [same]
      exact ⟨[], (List.append_nil _).symm, rfl⟩
  | asked stands request reason token =>
      refine ⟨[.asked request token], ?_, rfl⟩
      have asked := heard_request setting (machine.onRecord setting.tapped id priority ip lane)
        request token
      rw [same] at asked ⊢
      unfold setAwaitedWindow
      split <;> exact asked

/-- But for a question and a random byte, all that is left are some first writes and what the host was
told of them. -/
theorem Remains.game
    (remains : machine.Remains setting.tapped id priority ip lane reached)
    (unasked : setting.source.code[ip]? ≠ some Opcode.ask.byte)
    (undrawn : setting.source.code[ip]? ≠ some Opcode.random.byte) :
    ∃ writes, machine.FirstWrites setting.tapped id priority ip lane writes ∧
      reached.session = writes.foldl Session.deposit machine.session ∧
      reached.random = machine.random ∧
      (∃ entities, reached.world = { machine.world with entities }) ∧
      reached.host.2 = machine.host.2 ++ setting.config.announced writes := by
  obtain ⟨noted, same⟩ := onRecord_journal setting.tapped machine id priority ip lane
  cases remains with
  | @wrote writes first =>
      have heard := heard_putAll setting (machine.onRecord setting.tapped id priority ip lane) writes
      obtain ⟨host, journal, written⟩ :=
        putAll_eq setting.tapped (machine.onRecord setting.tapped id priority ip lane) writes
      rw [written] at heard ⊢
      rw [same] at heard ⊢
      exact ⟨writes, first, rfl, rfl, ⟨machine.world.entities, rfl⟩, heard⟩
  | recorded entry =>
      rw [same]
      exact ⟨[], .inl rfl, rfl, rfl, ⟨_, rfl⟩, (List.append_nil _).symm⟩
  | drew stands random => exact absurd stands undrawn
  | asked stands request reason token => exact absurd stands unasked

end Hearing

end Machine

/-! ## A script that fails -/

namespace Bustle

/-- The lane that stores a place in four cells; the lane that called it waits for its end. -/
def scribe : Lane := { status := .active 43 0 none (some ⟨2, 0, 1⟩), script := 1, epoch := 1 }

/-- The report of its fault. -/
def report : Fault :=
  { entity := 3, name := "scribe", priority := 1, ip := 43, error := .address .immediateDestination }

/-- What listeners are told of the first of its writes. -/
def stored : Contact := .told (.changed (.cell 1 16 0))

theorem scribe_runs : teeming.world.lane? 3 1 = some scribe := by decide +kernel

/-- The second of the four cells is refused. -/
theorem scribe_fails : ∃ reached, teeming.failure? setting 3 1 43 scribe =
    some (reached, .address .immediateDestination) := by
  have refused : (teeming.failure? setting 3 1 43 scribe).map Prod.snd =
      some (.address .immediateDestination) := by decide +kernel
  obtain ⟨⟨reached, error⟩, failed, rfl⟩ := Option.map_eq_some_iff.mp refused
  exact ⟨reached, failed⟩

/-- Its instruction is a moment of the first tick. -/
theorem scribe_moment : ⟨teeming, 3, 1⟩ ∈ entered.tickMoments setting 0 := by
  have begun : (List.range 3).foldl (fun machine id => machine.runEntity setting id)
      (entered.duringResumes setting 0 entered.world.pending.length) = teeming := by
    rw [← Machine.applyPending_beginTick]
    rfl
  have inside : 3 < entered.world.entities.size := by decide +kernel
  have active : teeming.world.laneActive 3 1 := by decide +kernel
  have idle : ∀ index < laneCount, 1 < index → teeming.world.laneActive 3 index = false := by
    decide +kernel
  refine Machine.mem_tickMoments setting begun inside active ?_ (by decide)
  intro index above
  cases higher : teeming.world.laneActive 3 index with
  | false => rfl
  | true => exact higher.symm.trans (idle index (Machine.of_laneActive higher).2 above)

end Bustle

namespace Machine

variable {σ : Type}

/-! ## Faults stay with their lane -/

section Isolation

variable {setting : Setting σ} {machine reached : Machine σ} {id : EntityId} {priority ip : Nat}
  {lane : Lane} {error : ExecError}

/-- All that the host hears of an instruction that fails. -/
theorem contacts_of_failure? (here : machine.world.lane? id priority = some lane)
    (active : lane.isActive) (stands : lane.ip? = some ip)
    (failed : machine.failure? setting id priority ip lane = some (reached, error)) :
    ∃ heard : Machine (σ × List Contact), heard.see Prod.fst = reached ∧
      machine.tapped.Remains setting.tapped id priority ip lane heard ∧
      machine.contacts setting [.step id priority] =
        heard.host.2 ++ [.told (.fault (machine.world.report id priority ip error))] := by
  have shows : setting.tapped.host.Shows Prod.fst setting.host := setting.host.tapped_shows
  have seen := see_failure? machine.tapped id priority ip lane shows
  rw [show setting.tapped.withHost setting.host = setting from rfl,
    show machine.tapped.see Prod.fst = machine from rfl, failed] at seen
  obtain ⟨⟨heard, told⟩, tapped, same⟩ := Option.map_eq_some_iff.mp seen.symm
  obtain ⟨shown, rfl⟩ := Prod.mk.inj same
  have there : machine.tapped.world.lane? id priority = some lane := here
  have remains := remains_of_failure? stands tapped
  have named : heard.world.report id priority ip told =
      machine.world.report id priority ip told := by
    rw [World.report, (remains.sparesOthers there).actors]
    rfl
  refine ⟨heard, shown, remains, ?_⟩
  rw [contacts_step, step_of_failure? there active stands tapped, heard_giveUp, named]

/-- Faults are isolated to their lane, in every state and with every host.

Let the instruction of a lane fail, or the rest of one, in whichever way.  Then the lane has stopped on
the first byte of the instruction; it waits for nothing, is in the middle of nothing, and whoever
waited for it is not told.  Every other lane, of this entity and of all others, is as it was.  One fault
more was counted, and the host was told of exactly one: that of this lane, at this place, for this
error.  In the tick of which this was a moment, the lower lanes of the entity have their turns next, and
then the entities behind it.

If the instruction does not fail, no fault is counted; and a tick always comes to its end. -/
theorem faults_isolated (here : machine.world.lane? id priority = some lane)
    (active : lane.isActive) (stands : lane.ip? = some ip) :
    (∀ reached error, machine.failure? setting id priority ip lane = some (reached, error) →
      let after := (machine.step setting id priority).1
      (∃ stopped, after.world.lane? id priority = some stopped ∧
        stopped.ip? = some ip ∧ stopped.pauseReason? = none ∧ stopped.suspended? = none ∧
        stopped.onStop? = none ∧
        ∃ mainEntry, stopped =
          { lane with status := .stopped (some ip) lane.retries, mainEntry }) ∧
      (∀ other index, ¬(other = id ∧ index = priority) →
        after.world.lane? other index = machine.world.lane? other index) ∧
      after.world.faults = machine.world.faults + 1 ∧
      (machine.contacts setting [.step id priority]).filterMap Contact.fault? =
        [machine.world.report id priority ip error] ∧
      ∀ (start : Machine σ) elapsed,
        ⟨machine, id, priority⟩ ∈ start.tickMoments setting elapsed →
        start.tick setting elapsed =
          ((((List.range start.world.entities.size).drop (id + 1)).foldl
            (fun machine id => machine.runEntity setting id)
            (after.runLanes setting id (List.range priority).reverse)).advanceActors
              setting).finishTick setting) ∧
    (machine.failure? setting id priority ip lane = none →
      (machine.step setting id priority).1.world.faults = machine.world.faults) ∧
    ∀ (start : Machine σ) elapsed,
      (start.tick setting elapsed).world.frame = start.world.frame + 1 := by
  refine ⟨?_, faults_of_failure?_eq_none here active stands, frame_tick setting⟩
  intro reached error failed
  have stepped := step_of_failure? here active stands failed
  have spared := (remains_of_failure? stands failed).sparesOthers here
  obtain ⟨host, journal, given⟩ := giveUp_eq setting reached id priority ip error
  obtain ⟨heard, -, remains, contacts⟩ := contacts_of_failure? here active stands failed
  obtain ⟨before, record, other⟩ := remains.heard
  rw [stepped]
  dsimp only
  refine ⟨?_, ?_, ?_, ?_, ?_⟩
  · obtain ⟨mainEntry, own⟩ := spared.own
    rw [given]
    refine ⟨Lane.abort { lane with mainEntry } ip, ?_, rfl, rfl, rfl, rfl, mainEntry, rfl⟩
    show (reached.world.updateLane id priority (·.abort ip)).lane? id priority = _
    simp [World.lane?_updateLane, own]
  · intro other index apart
    rw [given, ← spared.others other index apart]
    show (reached.world.updateLane id priority (·.abort ip)).lane? other index = _
    simp [World.lane?_updateLane, apart]
  · rw [given]
    exact congrArg (· + 1) spared.faults
  · rw [contacts, record, List.filterMap_append, List.filterMap_append, other]
    rfl
  · intro start elapsed moment
    exact tick_of_moment moment stepped

/-- The scribe stops on its instruction, and its caller goes on waiting for it.  There is only a lower
lane left that can have a turn in this tick. -/
theorem bustle_scribe_isolated :
    let after := (Bustle.teeming.step Bustle.setting 3 1).1
    (∃ stopped, after.world.lane? 3 1 = some stopped ∧ stopped.ip? = some 43 ∧
      stopped.onStop? = none) ∧
    Bustle.teeming.world.lane? 2 0 = some { status := .paused 41 .call none, epoch := 1 } ∧
    after.world.lane? 2 0 = some { status := .paused 41 .call none, epoch := 1 } ∧
    Bustle.teeming.world.faults = 0 ∧ after.world.faults = 1 ∧
    (Bustle.teeming.contacts Bustle.setting [.step 3 1]).filterMap Contact.fault? =
      [Bustle.report] ∧
    Bustle.entered.tick Bustle.setting 0 =
      ((after.runLanes Bustle.setting 3 [0]).advanceActors Bustle.setting).finishTick
        Bustle.setting := by
  obtain ⟨reached, failed⟩ := Bustle.scribe_fails
  obtain ⟨isolated, -, -⟩ :=
    @faults_isolated Unit Bustle.setting Bustle.teeming 3 1 43 Bustle.scribe Bustle.scribe_runs rfl rfl
  obtain ⟨⟨stopped, there, place, -, -, told, -⟩, others, counted, reported, scan⟩ :=
    isolated reached _ failed
  have waits : Bustle.teeming.world.lane? 2 0 =
      some { status := .paused 41 .call none, epoch := 1 } := by decide +kernel
  have fresh : Bustle.teeming.world.faults = 0 := by decide +kernel
  have last : Bustle.entered.world.entities.size = 4 := by decide +kernel
  have goesOn := scan Bustle.entered 0 Bustle.scribe_moment
  rw [last, show (List.range 4).drop (3 + 1) = [] from rfl, List.foldl_nil,
    show (List.range 1).reverse = [0] from rfl] at goesOn
  refine ⟨⟨stopped, there, place, told⟩, waits, (others 2 0 (by decide)).trans waits, fresh, ?_, ?_,
    goesOn⟩
  · rw [counted, fresh]
  · rw [reported]
    decide +kernel

/-- An instruction that fails leaves the game as it was, in every state and with every host, but for
the lane that is given up.

Let it not be a question and not a random number.  Then no more has changed than by some of its first
writes (`Machine.FirstWrites`), which only the five opcodes of several writes have: the session has
these writes and nothing else, the random numbers are the same, the bodies of all entities are the
same, and of the world nothing has changed but the lane, which `Machine.faults_isolated` is about, and
the count of faults.  The host was told of these writes, as far as their banks are replicated, and of
the fault; and it was asked nothing. -/
theorem failure_spares_game (here : machine.world.lane? id priority = some lane)
    (active : lane.isActive) (stands : lane.ip? = some ip)
    (unasked : setting.source.code[ip]? ≠ some Opcode.ask.byte)
    (undrawn : setting.source.code[ip]? ≠ some Opcode.random.byte)
    (failed : machine.failure? setting id priority ip lane = some (reached, error)) :
    let after := (machine.step setting id priority).1
    ∃ writes, machine.FirstWrites setting id priority ip lane writes ∧
      after.session = writes.foldl Session.deposit machine.session ∧
      after.random = machine.random ∧
      after.world.actor? = machine.world.actor? ∧
      after.world = { machine.world with
        entities := after.world.entities
        faults := machine.world.faults + 1 } ∧
      machine.contacts setting [.step id priority] = setting.config.announced writes ++
        [.told (.fault (machine.world.report id priority ip error))] := by
  obtain ⟨heard, seen, remains, contacts⟩ := contacts_of_failure? here active stands failed
  obtain ⟨host, journal, given⟩ := giveUp_eq setting reached id priority ip error
  rw [step_of_failure? here active stands failed]
  dsimp only
  rw [given, contacts]
  subst seen
  obtain ⟨writes, first, session, random, world, record⟩ := remains.game unasked undrawn
  have there : machine.tapped.world.lane? id priority = some lane := here
  refine ⟨writes, first, session, random, ?_, World.abort_eq world id priority ip, ?_⟩
  · exact (World.actor?_updateLane ..).trans (remains.sparesOthers there).actors
  · rw [record]
    rfl

/-- The scribe has stored the first of four values, and the listeners were told of it before they were
told of the fault. -/
theorem bustle_scribe_spares_game :
    let after := (Bustle.teeming.step Bustle.setting 3 1).1
    (∃ writes, Bustle.teeming.FirstWrites Bustle.setting 3 1 43 Bustle.scribe writes ∧
      after.session = writes.foldl Session.deposit Bustle.teeming.session ∧
      Bustle.setting.config.announced writes = [Bustle.stored]) ∧
    after.world.stage = Bustle.teeming.world.stage ∧
    Bustle.teeming.contacts Bustle.setting [.step 3 1] =
      [Bustle.stored, .told (.fault Bustle.report)] := by
  obtain ⟨reached, failed⟩ := Bustle.scribe_fails
  obtain ⟨writes, first, session, -, -, world, contacts⟩ :=
    failure_spares_game Bustle.scribe_runs rfl rfl (by decide +kernel) (by decide +kernel) failed
  have heard : Bustle.teeming.contacts Bustle.setting [.step 3 1] =
      [Bustle.stored, .told (.fault Bustle.report)] := by decide +kernel
  have parts : _ ++ [_] = [Bustle.stored] ++ [.told (.fault Bustle.report)] :=
    contacts.symm.trans heard
  obtain ⟨announced, -⟩ := List.append_inj' parts (by simp)
  exact ⟨⟨writes, first, session, announced⟩, by rw [world], heard⟩

end Isolation

end Machine

end FieldMachine
