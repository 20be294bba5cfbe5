import FieldMachine.Proofs.Observer
import FieldMachine.Proofs.Outcome
import FieldMachine.Proofs.Turn

/-!
# Instructions that fail

An instruction fails while it is worked out, at an effect that is refused, at an
ending that gives the lane up, or when the answer to its request cannot be put
away (`Machine.failure?`).  Then, and only then, its lane is given up.

What it did before is very little (`Machine.Remains`): some of its first writes,
if it has several; a random byte drawn, or a question asked; or where the main
loop of a base lane was to begin.  No other lane has changed
(`Machine.SparesOthers`).
-/

namespace FieldMachine

set_option autoImplicit false

/-- The session after a write. -/
def Session.deposit (session : Session) (deposit : Deposit) : Session :=
  session.putCell deposit.selector deposit.address.toUInt16 deposit.value

namespace Machine

variable {σ : Type}

/-! ## What concerns the host and the journal alone -/

section Telling

variable (setting : Setting σ) (machine : Machine σ)

theorem notify_eq (notice : Notice) :
    ∃ host journal, machine.notify setting notice = { machine with host, journal } := by
  obtain ⟨journal, same⟩ := noteHost_eq
    { machine with host := (setting.host.notify notice machine.host).1 }
    (setting.host.notify notice machine.host).2
  exact ⟨_, journal, same⟩

/-- Putting an instruction on record changes the journal. -/
theorem onRecord_journal (id : EntityId) (priority ip : Nat) (lane : Lane) :
    ∃ journal, machine.onRecord setting id priority ip lane = { machine with journal } := by
  rcases onRecord_eq setting machine id priority ip lane with same | ⟨byte, -, same⟩
  · exact ⟨machine.journal, same⟩
  · exact ⟨_, same⟩

theorem request_eq (request : Request) (token : ResumeToken) :
    ∃ host journal,
      (machine.request setting request token).2 = { machine with host, journal } := by
  obtain ⟨journal, same⟩ := noteHost_eq
    { machine with host := (setting.host.request request token machine.host).2.1 }
    (setting.host.request request token machine.host).2.2
  exact ⟨_, journal, same⟩

/-- Writes change the session. -/
theorem putAll_eq (writes : List Deposit) :
    ∃ host journal, writes.foldl (Deposit.put setting) machine =
      { machine with session := writes.foldl Session.deposit machine.session, host, journal } := by
  induction writes generalizing machine with
  | nil => exact ⟨machine.host, machine.journal, rfl⟩
  | cons write rest ih =>
      obtain ⟨told, noted, first⟩ : ∃ host journal, write.put setting machine =
          { machine with session := machine.session.deposit write, host, journal } := by
        unfold Deposit.put putCell
        dsimp only
        split
        · exact notify_eq setting _ _
        · exact ⟨machine.host, machine.journal, rfl⟩
      obtain ⟨host, journal, same⟩ := ih (write.put setting machine)
      refine ⟨host, journal, ?_⟩
      rw [List.foldl_cons, same, first]
      rfl

/-- Giving a lane up stops it, and counts that. -/
theorem giveUp_eq (id : EntityId) (priority ip : Nat) (error : ExecError) :
    ∃ host journal, machine.giveUp setting id priority ip error =
      { machine with
        world :=
          { machine.world.updateLane id priority (·.abort ip) with
            faults := machine.world.faults + 1 }
        host, journal } := by
  obtain ⟨host, journal, same⟩ := notify_eq setting _ _
  exact ⟨host, journal, same⟩

end Telling

/-! ## Failing -/

section Failing

/-- How an ending fails, and the machine at that moment: it gives the lane up, or makes a request
whose answer comes at once and cannot be put away. -/
def endingFailure? (setting : Setting σ) (token : ResumeToken) (ending : Ending)
    (machine : Machine σ) : Option (Machine σ × ExecError) :=
  match ending with
  | .fault error => some (machine, error)
  | .request request reason =>
      match machine.request setting request token with
      | (.deferred, _) => none
      | (.immediate value, answered) =>
          match (answered.setAwaitedWindow reason false).settle setting reason value with
          | (_, none) => none
          | (settled, some error) => some (settled, error)
  | _ => none

/-- How the instruction that a lane stands on fails, or the rest of it, and the machine at that
moment. -/
def failure? (setting : Setting σ) (id : EntityId) (priority ip : Nat) (lane : Lane)
    (machine : Machine σ) : Option (Machine σ × ExecError) :=
  let noted := machine.onRecord setting id priority ip lane
  match workOut setting.source.code (machine.sceneOf setting id priority ip lane) ip
    lane.suspended? with
  | .error error => some (noted, error)
  | .ok (.retry _, _) => none
  | .ok (.act effects ending, _) =>
      match Effect.performAll setting noted effects with
      | (reached, some error) => some (reached, error)
      | (done, none) => done.endingFailure? setting (lane.token id priority) ending

variable {setting : Setting σ} {machine reached : Machine σ} {id : EntityId} {priority ip : Nat}
  {lane : Lane} {error : ExecError}

theorem faults_perform (setting : Setting σ) (machine : Machine σ) (effect : Effect) :
    (effect.perform setting machine).1.world.faults = machine.world.faults := by
  by_cases spared : effect.sparesLanes
  · exact congrArg Roster.faults (Effect.roster_perform setting machine spared)
  · cases effect with
    | startLane | recordMain => rfl
    | _ => exact absurd rfl spared

theorem faults_performAll (setting : Setting σ) (machine : Machine σ) (effects : List Effect) :
    (Effect.performAll setting machine effects).1.world.faults = machine.world.faults := by
  induction effects generalizing machine with
  | nil => rfl
  | cons effect rest ih =>
      have first := faults_perform setting machine effect
      unfold Effect.performAll
      split
      · next done performed =>
          rw [performed] at first
          exact (ih done).trans first
      · next done refused performed =>
          rw [performed] at first
          exact first

theorem faults_complete (machine : Machine σ) (onStop : Option ResumeToken) :
    (machine.complete onStop).world.faults = machine.world.faults := by
  have same := congrArg Roster.faults (machine.roster_complete onStop)
  rw [Roster.faults_complete] at same
  exact same

theorem faults_startScript (machine : Machine σ) (id : EntityId) (priority script : Nat) :
    (machine.startScript id priority script none).1.world.faults = machine.world.faults := by
  unfold startScript
  split
  · rfl
  · split <;> rfl

theorem faults_setAwaitedWindow (machine : Machine σ) (reason : PauseReason) (isOpen : Bool) :
    (machine.setAwaitedWindow reason isOpen).world.faults = machine.world.faults :=
  congrArg Roster.faults (machine.roster_setAwaitedWindow reason isOpen)

/-- A request counts no fault, or its answer cannot be put away. -/
theorem makeRequest_eq (request : Request) (reason : PauseReason) (next : Nat) :
    (machine.endingFailure? setting (lane.token id priority) (.request request reason) = none ∧
      (machine.makeRequest setting id priority ip next lane request reason).1.world.faults =
        machine.world.faults) ∨
    ∃ reached error,
      machine.endingFailure? setting (lane.token id priority) (.request request reason) =
        some (reached, error) ∧
      machine.makeRequest setting id priority ip next lane request reason =
        (reached.giveUp setting id priority ip error, .released) := by
  have asked := world_request setting machine request (lane.token id priority)
  simp only [endingFailure?, makeRequest, Lane.token] at asked ⊢
  generalize machine.request setting request ⟨id, priority, lane.epoch⟩ = made at asked ⊢
  obtain ⟨completion, answered⟩ := made
  have asked : answered.world = machine.world := asked
  cases completion with
  | deferred =>
      exact .inl ⟨rfl, (faults_setAwaitedWindow answered reason true).trans
        (congrArg World.faults asked)⟩
  | immediate value =>
      have same : ((answered.setAwaitedWindow reason false).settle setting reason value).1.world =
          (answered.setAwaitedWindow reason false).world := world_settle reason value
      have closed := (congrArg World.faults same).trans
        ((faults_setAwaitedWindow answered reason false).trans (congrArg World.faults asked))
      dsimp only
      generalize (answered.setAwaitedWindow reason false).settle setting reason value = put
        at closed ⊢
      obtain ⟨settled, refused⟩ := put
      cases refused with
      | none => exact .inl ⟨rfl, closed⟩
      | some error => exact .inr ⟨settled, error, rfl, rfl⟩

/-- An ending that fails gives the lane up. -/
theorem conclude_of_endingFailure? {ending : Ending} {next : Nat}
    (failed : machine.endingFailure? setting (lane.token id priority) ending =
      some (reached, error)) :
    machine.conclude setting id priority ip next lane ending =
      (reached.giveUp setting id priority ip error, .released) := by
  cases ending with
  | fault lost =>
      cases failed
      rfl
  | request request reason =>
      rcases makeRequest_eq request reason next with ⟨kept, -⟩ | ⟨settled, told, same, given⟩
      · cases kept.symm.trans failed
      · cases same.symm.trans failed
        exact given
  | _ => cases failed

/-- An ending that does not fail counts no fault. -/
theorem faults_conclude {ending : Ending} {next : Nat}
    (kept : machine.endingFailure? setting (lane.token id priority) ending = none) :
    (machine.conclude setting id priority ip next lane ending).1.world.faults =
      machine.world.faults := by
  cases ending with
  | fault lost => cases kept
  | stop => exact faults_complete _ _
  | handOver level script => exact (faults_startScript _ _ _ _).trans (faults_complete _ _)
  | request request reason =>
      rcases makeRequest_eq request reason next with ⟨-, same⟩ | ⟨settled, told, failed, -⟩
      · exact same
      · cases kept.symm.trans failed
  | _ => rfl

/-- A lane whose instruction fails is given up. -/
theorem step_of_failure? (here : machine.world.lane? id priority = some lane)
    (active : lane.isActive) (stands : lane.ip? = some ip)
    (failed : machine.failure? setting id priority ip lane = some (reached, error)) :
    machine.step setting id priority =
      (reached.giveUp setting id priority ip error, .released) := by
  rw [step_eq_of_active setting here active stands]
  unfold failure? at failed
  dsimp only at failed
  split at failed
  · next worked =>
      cases failed
      rw [worked]
  · cases failed
  · next effects ending next worked =>
      rw [worked]
      dsimp only [carryOut]
      split at failed
      · next carried refused performed =>
          cases failed
          rw [performed]
      · next done performed =>
          rw [performed]
          exact conclude_of_endingFailure? failed

/-- A lane whose instruction does not fail counts no fault. -/
theorem faults_of_failure?_eq_none (here : machine.world.lane? id priority = some lane)
    (active : lane.isActive) (stands : lane.ip? = some ip)
    (kept : machine.failure? setting id priority ip lane = none) :
    (machine.step setting id priority).1.world.faults = machine.world.faults := by
  have noted : (machine.onRecord setting id priority ip lane).world = machine.world := by
    obtain ⟨journal, same⟩ := onRecord_journal setting machine id priority ip lane
    rw [same]
  rw [step_eq_of_active setting here active stands]
  unfold failure? at kept
  dsimp only at kept
  split at kept
  · cases kept
  · next entries next worked =>
      rw [worked]
      have same := (world_noteAll (machine.onRecord setting id priority ip lane) entries).trans noted
      exact (congrArg World.faults same :)
  · next effects ending next worked =>
      rw [worked]
      dsimp only [carryOut]
      have done := faults_performAll setting (machine.onRecord setting id priority ip lane) effects
      rw [noted] at done
      split at kept
      · cases kept
      · next performed =>
          rw [performed] at done ⊢
          exact (faults_conclude kept).trans done

end Failing

/-! ## What a failure leaves -/

section Remains

variable (setting : Setting σ) (id : EntityId) (priority ip : Nat) (lane : Lane)

/-- Some first ones of the writes that the instruction at `ip` comes to, in the order of its operands;
only an instruction of several writes leaves any when it fails. -/
def FirstWrites (machine : Machine σ) (writes : List Deposit) : Prop :=
  writes = [] ∨ ∃ op ∈ Opcode.storers, lane.suspended? = none ∧
    setting.source.code[ip]? = some op.byte ∧ ∃ stores next,
      workOut setting.source.code (machine.sceneOf setting id priority ip lane) ip none =
        .ok (.next (stores.map Deposit.effect), next) ∧
      stores.map Deposit.cell = op.cells ((Cursor.atStart setting.source.code ip).forward 1) ∧
      writes <+: stores

/-- What an instruction may have done before it fails. -/
inductive Remains (machine : Machine σ) : Machine σ → Prop
  | wrote {writes : List Deposit} (first : machine.FirstWrites setting id priority ip lane writes) :
      Remains machine
        (writes.foldl (Deposit.put setting) (machine.onRecord setting id priority ip lane))
  /-- The beginning of the main loop was put on record. -/
  | recorded (entry : Nat) :
      Remains machine ((machine.onRecord setting id priority ip lane).updateLane id priority
        fun lane => { lane with mainEntry := some entry })
  | drew (stands : setting.source.code[ip]? = some Opcode.random.byte) (random : Random) :
      Remains machine { machine.onRecord setting id priority ip lane with random }
  | asked (stands : setting.source.code[ip]? = some Opcode.ask.byte) (request : Request)
      (reason : PauseReason) (token : ResumeToken) :
      Remains machine (((machine.onRecord setting id priority ip lane).request setting request
        token).2.setAwaitedWindow reason false)

variable {setting id priority ip lane} {machine reached : Machine σ} {error : ExecError}

theorem Remains.nothing :
    machine.Remains setting id priority ip lane (machine.onRecord setting id priority ip lane) :=
  .wrote (.inl rfl)

/-- A write that is refused changes nothing. -/
theorem store_eq_of_refused {selector address : UInt8} {value : UInt16}
    (refused : machine.store setting selector address value = (reached, some error)) :
    reached = machine := by
  rcases Deposit.perform_effect setting machine ⟨selector, address, value⟩ with done | ⟨_, same⟩
  · cases refused.symm.trans done
  · cases refused.symm.trans same
    rfl

/-- A prudent plan whose effects are refused has changed nothing. -/
theorem eq_of_prudent {waits : Prop} {effects : List Effect} {ending : Ending}
    (prudent : (Plan.act effects ending).IsPrudent waits)
    (refused : Effect.performAll setting machine effects = (reached, some error)) :
    reached = machine := by
  cases prudent with
  | sure sure =>
      have done := Effect.performAll_of_isSure setting machine sure
      rw [refused] at done
      cases done
  | store selector address value =>
      simp only [Effect.performAll, Effect.perform] at refused
      split at refused
      · cases refused
      · next same =>
          cases refused
          exact store_eq_of_refused same

/-- What the effects of an instruction leave when one of them is refused. -/
theorem remains_of_refused {effects : List Effect} {ending : Ending} {next : Nat}
    (worked : workOut setting.source.code (machine.sceneOf setting id priority ip lane) ip
      lane.suspended? = .ok (.act effects ending, next))
    (refused : Effect.performAll setting (machine.onRecord setting id priority ip lane) effects =
      (reached, some error)) :
    machine.Remains setting id priority ip lane reached := by
  rcases outcome_of_workOut worked with ⟨op, fresh, stands, outcome⟩ | ⟨-, prudent⟩
  · cases outcome with
    | prudent prudent =>
        rw [eq_of_prudent prudent refused]
        exact .nothing
    | stores stores =>
        obtain ⟨deposits, cells, same⟩ := stores
        obtain ⟨writes, first, performed⟩ := Deposit.performAll_effects setting
          (machine.onRecord setting id priority ip lane) deposits
        cases same
        rw [refused] at performed
        subst performed
        refine .wrote ?_
        by_cases none : writes = []
        · exact .inl none
        · have several : op.cells ((Cursor.atStart setting.source.code ip).forward 1) ≠ [] := by
            rintro empty
            rw [empty, List.map_eq_nil_iff] at cells
            subst cells
            exact none (List.prefix_nil.mp first)
          rw [fresh] at worked
          exact .inr ⟨op, Opcode.mem_storers several, fresh, stands, deposits, next, worked, cells,
            first⟩
    | draw random selector address =>
        subst random
        simp only [Effect.performAll, Effect.perform] at refused
        split at refused
        · cases refused
        · next same =>
            cases refused
            rw [store_eq_of_refused same]
            exact .drew stands _
  · rw [eq_of_prudent prudent refused]
    exact .nothing

/-- Only the answer to a question can be refused; nothing is changed by it then. -/
theorem settle_refused {reason : PauseReason} {value : Option UInt16}
    (refused : machine.settle setting reason value = (reached, some error)) :
    (∃ window bank address, reason = .ask window bank address) ∧ reached = machine := by
  unfold settle at refused
  split at refused
  · exact ⟨⟨_, _, _, rfl⟩, store_eq_of_refused refused⟩
  · cases refused
  · cases refused

/-- Of all requests, only a question can fail. -/
theorem asks_of_endingFailure? {request : Request} {reason : PauseReason} {token : ResumeToken}
    (failed : machine.endingFailure? setting token (.request request reason) =
      some (reached, error)) :
    (∃ window bank address, reason = .ask window bank address) ∧
      reached = (machine.request setting request token).2.setAwaitedWindow reason false := by
  simp only [endingFailure?] at failed
  split at failed
  · cases failed
  · next value answered made =>
      rw [made]
      split at failed
      · cases failed
      · next settled refused taken =>
          cases failed
          exact settle_refused taken

/-- What an instruction leaves whose ending fails. -/
theorem remains_of_ending {effects : List Effect} {ending : Ending} {next : Nat}
    {done : Machine σ} (stands : lane.ip? = some ip)
    (worked : workOut setting.source.code (machine.sceneOf setting id priority ip lane) ip
      lane.suspended? = .ok (.act effects ending, next))
    (performed : Effect.performAll setting (machine.onRecord setting id priority ip lane) effects =
      (done, none))
    (failed : done.endingFailure? setting (lane.token id priority) ending = some (reached, error)) :
    machine.Remains setting id priority ip lane reached := by
  have fits : (Plan.act effects ending).Fits (machine.sceneOf setting id priority ip lane)
      ((machine.sceneOf setting id priority ip lane).HoldsUp ip next) :=
    (Scene.comesTo_of_workOut worked).fits stands
  cases fits with
  | plain plain =>
      cases ending with
      | request request reason =>
          obtain ⟨fresh, op, opcode, asks⟩ := plain.2
          obtain ⟨⟨window, bank, address, asked⟩, left⟩ := asks_of_endingFailure? failed
          subst asked
          cases asks with
          | ask dialog address =>
              have fresh : lane.suspended? = none := fresh
              rw [fresh] at worked
              obtain rfl := effects_of_ask opcode worked
              cases performed
              rw [left]
              exact .asked opcode _ _ _
      | fault lost => exact plain.2.elim
      | _ => cases failed
  | lost entry strays =>
      cases performed
      cases failed
      exact .recorded entry
  | call known admitted => cases failed
  | await known admitted => cases failed
  | dance spared => cases failed
  | handOver level script => cases failed
  | home entry => cases failed
  | lead spared known => cases failed

/-- All that an instruction can leave when it fails. -/
theorem remains_of_failure? (stands : lane.ip? = some ip)
    (failed : machine.failure? setting id priority ip lane = some (reached, error)) :
    machine.Remains setting id priority ip lane reached := by
  unfold failure? at failed
  dsimp only at failed
  split at failed
  · cases failed
    exact .nothing
  · cases failed
  · next effects ending next worked =>
      split at failed
      · next carried refused performed =>
          cases failed
          exact remains_of_refused worked performed
      · next done performed => exact remains_of_ending stands worked performed failed

/-! ## The lanes after a failure -/

/-- Of all lanes only the one that fails may have changed, and only the beginning of its main loop. -/
structure SparesOthers (id : EntityId) (priority : Nat) (lane : Lane) (machine reached : Machine σ) :
    Prop where
  own : ∃ mainEntry, reached.world.lane? id priority = some { lane with mainEntry }
  others : ∀ other index, ¬(other = id ∧ index = priority) →
    reached.world.lane? other index = machine.world.lane? other index
  faults : reached.world.faults = machine.world.faults
  actors : reached.world.actor? = machine.world.actor?

theorem SparesOthers.of_world (here : machine.world.lane? id priority = some lane)
    (same : reached.world = machine.world) : SparesOthers id priority lane machine reached where
  own := ⟨lane.mainEntry, by rw [same, here]⟩
  others _ _ _ := by rw [same]
  faults := by rw [same]
  actors := by rw [same]

theorem Remains.sparesOthers (here : machine.world.lane? id priority = some lane)
    (remains : machine.Remains setting id priority ip lane reached) :
    SparesOthers id priority lane machine reached := by
  obtain ⟨noted, same⟩ := onRecord_journal setting machine id priority ip lane
  cases remains with
  | @wrote writes first =>
      obtain ⟨host, journal, written⟩ :=
        putAll_eq setting (machine.onRecord setting id priority ip lane) writes
      exact .of_world here (by rw [written, same])
  | recorded entry =>
      rw [same]
      exact {
        own := ⟨some entry, by simp [updateLane, updateWorld, World.lane?_updateLane, here]⟩
        others := fun other index apart => by
          simp [updateLane, updateWorld, World.lane?_updateLane, apart]
        faults := rfl
        actors := World.actor?_updateLane .. }
  | drew stands random => exact .of_world here (by rw [same])
  | asked stands request reason token =>
      obtain ⟨host, journal, made⟩ :=
        request_eq setting (machine.onRecord setting id priority ip lane) request token
      have asked : SparesOthers id priority lane machine ((machine.onRecord setting id priority ip
          lane).request setting request token).2 := .of_world here (by rw [made, same])
      unfold setAwaitedWindow
      split
      · exact asked
      · exact ⟨asked.own, asked.others, asked.faults, asked.actors⟩

end Remains

/-! ## Failures under a view of the host -/

section View

variable {τ : Type} {setting : Setting σ} {host : Host τ} {view : View σ τ} (machine : Machine σ)
  (id : EntityId) (priority ip : Nat) (lane : Lane)

theorem through_onRecord : (machine.through view).onRecord (setting.withHost host) id priority ip lane =
    (machine.onRecord setting id priority ip lane).through view := by
  unfold onRecord
  rw [Setting.source_withHost]
  split <;> rfl

theorem through_endingFailure? (shows : view.Shows setting host) (token : ResumeToken)
    (ending : Ending) :
    (machine.through view).endingFailure? (setting.withHost host) token ending =
      (machine.endingFailure? setting token ending).map (seen view) := by
  cases ending with
  | request request reason =>
      simp only [endingFailure?, through_request shows]
      cases machine.request setting request token with
      | mk completion answered =>
          cases completion with
          | deferred => rfl
          | immediate value =>
              simp only [through_setAwaitedWindow, through_settle shows]
              cases (answered.setAwaitedWindow reason false).settle setting reason value with
              | mk settled refused => cases refused <;> rfl
  | _ => rfl

/-- A view of the host shows the same failure. -/
theorem see_failure? {view : σ → τ} (shows : setting.host.Shows view host) :
    (machine.see view).failure? (setting.withHost host) id priority ip lane =
      (machine.failure? setting id priority ip lane).map (seen (.ofHost view)) := by
  have shown := View.shows_ofHost shows
  rw [← through_ofHost]
  unfold failure?
  rw [through_onRecord, through_sceneOf shown]
  have scene : (View.ofHost view).scene (machine.sceneOf setting id priority ip lane) =
      machine.sceneOf setting id priority ip lane := rfl
  dsimp only
  rw [scene, Setting.source_withHost]
  cases workOut setting.source.code (machine.sceneOf setting id priority ip lane) ip
      lane.suspended? with
  | error error => rfl
  | ok worked =>
      obtain ⟨plan, next⟩ := worked
      cases plan with
      | retry entries => rfl
      | act effects ending =>
          dsimp only
          rw [through_performAll shown]
          obtain ⟨done, refused⟩ :=
            Effect.performAll setting (machine.onRecord setting id priority ip lane) effects
          cases refused with
          | some error => rfl
          | none => exact through_endingFailure? done shown _ ending

end View

end Machine

end FieldMachine
