import FieldMachine.Proofs.Admission
import FieldMachine.Proofs.CallOrder
import FieldMachine.Proofs.Removal
import FieldMachine.Proofs.Window

/-!
# Who is told that an entity is gone

When an entity is removed, the completions that its lanes owe are fired.  As long
as every request is answered once at most (`Machine.AnsweredOnce`), each of them
names a lane that waits for a call, or an entity that is gone itself: all other
tokens are kept for lanes that wait for something else (`Roster.Entrusts`).

So a removal wakes the callers of the entity, and touches nobody else
(`Machine.AnsweredOnce.removal_wakes_callers`).
-/

namespace FieldMachine

set_option autoImplicit false

/-! ## Tokens that somebody keeps -/

namespace Roster

/-- Some tokens are those of the lanes that wait for a choreography or for an answer, each of them
once, and maybe of entities that are gone. -/
def Entrusts (gone : EntityId → Prop) (tokens : List ResumeToken) (roster : Roster) : Prop :=
  ∃ dances requests, roster.Register gone id (fun _ _ => True) dances requests ∧
    (dances ++ requests).Perm tokens

namespace Entrusts

variable {roster after : Roster} {gone : EntityId → Prop} {tokens : List ResumeToken}
  {token : ResumeToken}

theorem perm {others : List ResumeToken} (entrusts : roster.Entrusts gone tokens)
    (same : tokens.Perm others) : roster.Entrusts gone others := by
  obtain ⟨dances, requests, register, listed⟩ := entrusts
  exact ⟨dances, requests, register, listed.trans same⟩

/-- A token that is fired is kept no more. -/
theorem wake (entrusts : roster.Entrusts gone (token :: tokens)) :
    (roster.wake token).Entrusts gone tokens := by
  obtain ⟨dances, requests, register, listed⟩ := entrusts
  have kept : token ∈ dances ++ requests := listed.mem_iff.mpr List.mem_cons_self
  rcases List.mem_append.mp kept with danced | asked
  · obtain ⟨before, rest, rfl⟩ := List.mem_iff_append.mp danced
    refine ⟨before ++ rest, requests, register.wake_dance, ?_⟩
    rw [List.append_assoc, List.cons_append] at listed
    rw [List.append_assoc]
    exact (List.perm_cons token).mp (List.perm_middle.symm.trans listed)
  · obtain ⟨before, rest, rfl⟩ := List.mem_iff_append.mp asked
    have register := register.perm (List.perm_middle.symm : (token :: (before ++ rest)).Perm _)
    refine ⟨dances, before ++ rest, register.wake_request, ?_⟩
    have first : (token :: (dances ++ (before ++ rest))).Perm
        (dances ++ (before ++ token :: rest)) := by
      rw [← List.append_assoc, ← List.append_assoc]
      exact List.perm_middle.symm
    exact (List.perm_cons token).mp (first.trans listed)

/-- An instruction leaves the tokens that its lane waits with. -/
theorem turn {id : EntityId} {priority : Nat} {lane later : Lane} {source : Section}
    {jumps : Opcode → Prop} (entrusts : roster.Entrusts gone tokens)
    (here : roster.lane? id priority = some lane) (active : lane.isActive)
    (turn : roster.Turn source jumps id priority lane after)
    (there : after.lane? id priority = some later) :
    after.Entrusts gone
      (tokens ++ (later.dancing id priority ++ later.requesting id priority)) := by
  obtain ⟨dances, requests, register, listed⟩ := entrusts
  have registered := register.turn here active turn there rfl (List.map_id _)
    fun request member => trivial
  refine ⟨_, _, registered, ?_⟩
  have swapped : ((dances ++ later.dancing id priority) ++
      (requests ++ later.requesting id priority)).Perm
      ((dances ++ requests) ++ (later.dancing id priority ++ later.requesting id priority)) := by
    rw [List.perm_iff_count]
    intro token
    simp only [List.count_append]
    omega
  exact swapped.trans (listed.append_right _)

theorem begins {id : EntityId} {priority script : Nat} (entrusts : roster.Entrusts gone tokens)
    (begins : roster.Begins id priority script after) : after.Entrusts gone tokens := by
  obtain ⟨dances, requests, register, listed⟩ := entrusts
  exact ⟨dances, requests, register.begins begins, listed⟩

/-- A completion is owed to a lane that waits for a call, or to an entity that is gone. -/
theorem called (entrusts : roster.Entrusts gone tokens) {id target : EntityId}
    {priority level : Nat} {lane : Lane} (here : roster.lane? id priority = some lane)
    (owing : roster.Owing target level (lane.token id priority)) :
    lane.pauseReason? = some .call := by
  obtain ⟨dances, requests, register, -⟩ := entrusts
  rcases register.calls target level _ owing with left | ⟨found, reason, there, -, paused, rfl⟩
  · exact absurd left (register.present here)
  · have same : lane = found := Option.some.inj (here.symm.trans there)
    rw [same]
    exact paused

end Entrusts

end Roster

namespace Machine

variable {σ : Type} {setting : Setting σ} {gone : EntityId → Prop} {given : List ResumeToken}
  {machine after : Machine (σ × List ResumeToken)}

/-! ## Hosts that let answer once -/

/-- The host crosses a token out as it hands it to an activity. -/
def entrust (machine : Machine (σ × List ResumeToken)) (activity : Activity) :
    Machine (σ × List ResumeToken) :=
  { machine with host := (machine.host.1, machine.host.2.diff activity.wakes?.toList) }.spawn
    activity

/-- The machines that operations of the host lead to, if every request that it has left open is
answered once at most: the host gives the token back, or hands it to an activity that fires it. -/
inductive AnsweredOnce (setting : Setting σ) : Machine (σ × List ResumeToken) → Prop
  | enter (session : Session) (random : Random) (host : σ) :
      AnsweredOnce setting (enter setting.owing session random (host, []))
  | start {machine : Machine (σ × List ResumeToken)} (answered : AnsweredOnce setting machine) :
      AnsweredOnce setting machine.start
  | tick {machine : Machine (σ × List ResumeToken)} (answered : AnsweredOnce setting machine)
      (elapsed : UInt64) : AnsweredOnce setting (machine.tick setting.owing elapsed)
  | invoke {machine : Machine (σ × List ResumeToken)} (answered : AnsweredOnce setting machine)
      (index priority script : Nat) :
      AnsweredOnce setting (machine.invoke index priority script).1
  | answer {machine : Machine (σ × List ResumeToken)} (answered : AnsweredOnce setting machine)
      {token : ResumeToken} (owed : token ∈ machine.host.2) (answer : Option UInt16) :
      AnsweredOnce setting (machine.answer token answer)
  | spawn {machine : Machine (σ × List ResumeToken)} (answered : AnsweredOnce setting machine)
      {activity : Activity} (owed : ∀ token ∈ activity.wakes?, token ∈ machine.host.2) :
      AnsweredOnce setting (machine.entrust activity)
  | remove {machine : Machine (σ × List ResumeToken)} (answered : AnsweredOnce setting machine)
      (index : Nat) : AnsweredOnce setting (machine.remove index).1
  | loadPalette {machine : Machine (σ × List ResumeToken)}
      (answered : AnsweredOnce setting machine) (id : UInt8) (palette : Palette) :
      AnsweredOnce setting (machine.loadPalette id palette)
  /-- Whatever the host does to itself and to the session. -/
  | outside {machine after : Machine (σ × List ResumeToken)}
      (answered : AnsweredOnce setting machine) (world : after.world = machine.world)
      (owed : after.host.2 = machine.host.2) : AnsweredOnce setting after

/-- All tokens that are kept somewhere: by an activity, by the host, or for the next tick. -/
def keptTokens (machine : Machine (σ × List ResumeToken)) : List ResumeToken :=
  machine.world.errands.dances ++ machine.outstanding

/-- The tokens that are kept, with those that are `given` back at the moment, are those of the lanes
that wait for them. -/
def Entrusts (gone : EntityId → Prop) (given : List ResumeToken)
    (machine : Machine (σ × List ResumeToken)) : Prop :=
  machine.world.roster.Entrusts gone (given ++ machine.keptTokens)

theorem keptTokens_of_affairs (same : after.affairs Prod.snd = machine.affairs Prod.snd) :
    after.keptTokens = machine.keptTokens := by
  rw [keptTokens, outstanding_of_affairs same, (Prod.mk.inj same).1, keptTokens]

namespace Entrusts

/-- What touches neither a lane nor a token. -/
theorem still (entrusts : machine.Entrusts gone given)
    (roster : after.world.roster = machine.world.roster)
    (same : after.affairs Prod.snd = machine.affairs Prod.snd) : after.Entrusts gone given := by
  rw [Entrusts, roster, keptTokens_of_affairs same]
  exact entrusts

theorem step (entrusts : machine.Entrusts gone given) (id : EntityId) (priority : Nat) :
    (machine.step setting.owing id priority).1.Entrusts gone given := by
  cases active : machine.world.laneActive id priority with
  | false => rwa [step_of_inactive setting.owing active]
  | true =>
      obtain ⟨lane, here, runs⟩ := (Option.any_eq_true _ _).mp active
      obtain ⟨later, there, errands, owed⟩ := step_owes setting here runs
      obtain ⟨ip, -, turn⟩ := step_turn setting.owing here runs
      refine Roster.Entrusts.perm (Roster.Entrusts.turn entrusts here runs turn there) ?_
      rw [List.perm_iff_count]
      intro token
      simp only [keptTokens, outstanding, errands, owed, Errands.dances, List.count_append]
      omega

theorem resume {token : ResumeToken} (entrusts : machine.Entrusts gone (token :: given))
    (answer : Option UInt16) :
    (machine.applyResume setting.owing token answer).Entrusts gone given := by
  have same : (machine.applyResume setting.owing token answer).affairs Prod.snd =
      machine.affairs Prod.snd :=
    machine.affairs_applyResume setting.host.owing_conceals token answer
  rw [Entrusts, roster_applyResume, keptTokens_of_affairs same]
  exact Roster.Entrusts.wake entrusts

theorem resumes (answers : List (ResumeToken × Option UInt16))
    (entrusts : machine.Entrusts gone (answers.map Prod.fst)) :
    (answers.foldl (fun machine (token, answer) =>
      machine.applyResume setting.owing token answer) machine).Entrusts gone [] := by
  induction answers generalizing machine with
  | nil => exact entrusts
  | cons answer rest ih => exact ih (Entrusts.resume entrusts answer.2)

/-- The activities take a step each; the tokens of those that are left are still kept. -/
theorem runActivities {tokens : List ResumeToken} (frame : Nat) (activities : List Activity)
    (entrusts : machine.world.roster.Entrusts gone
      (activities.filterMap Activity.wakes? ++ tokens)) :
    (machine.runActivities setting.owing frame activities).1.world.roster.Entrusts gone
      ((machine.runActivities setting.owing frame activities).2.filterMap Activity.wakes? ++
        tokens) := by
  induction activities generalizing machine tokens with
  | nil => exact entrusts
  | cons activity rest ih =>
      rw [wakes?_cons, List.append_assoc] at entrusts
      unfold Machine.runActivities
      dsimp only
      rw [List.filterMap_append, List.append_assoc]
      rcases activity.run_left setting.owing frame machine with
        ⟨same, kept⟩ | ⟨token, own, ended, fired⟩
      · -- its token is kept aside while the others take their steps
        rw [← kept] at entrusts
        rw [wakes?_toList same]
        have aside := entrusts.perm (List.perm_append_comm_assoc _ _ _)
        exact (ih aside).perm (List.perm_append_comm_assoc _ _ _)
      · rw [own] at entrusts
        rw [ended]
        refine ih ?_
        rw [fired]
        exact entrusts.wake

theorem finishTick (entrusts : machine.Entrusts gone []) :
    (machine.finishTick setting.owing).Entrusts gone [] := by
  let ran := machine.runActivities setting.owing machine.world.frame machine.world.activities
  have same : ran.1.affairs Prod.snd = machine.affairs Prod.snd :=
    machine.affairs_runActivities setting.host.owing_conceals machine.world.frame
      machine.world.activities
  have owed : ran.1.outstanding = machine.outstanding := outstanding_of_affairs same
  have worked : ran.1.world.roster.Entrusts gone (ran.2.filterMap Activity.wakes? ++
      (machine.world.errands.queued ++ machine.outstanding)) := by
    refine runActivities machine.world.frame machine.world.activities ?_
    rw [← List.append_assoc]
    exact entrusts
  have joined : (machine.finishTick setting.owing).keptTokens =
      ran.2.filterMap Activity.wakes? ++
        (machine.world.errands.queued ++ machine.outstanding) := by
    rw [← owed, ← (Prod.mk.inj same).1, ← List.append_assoc]
    exact congrArg (· ++ ran.1.outstanding) ((List.append_nil _).trans List.filterMap_append)
  rw [Entrusts, List.nil_append, joined]
  exact worked

theorem tick (entrusts : machine.Entrusts gone []) (elapsed : UInt64) :
    (machine.tick setting.owing elapsed).Entrusts gone [] := by
  let begun := (machine.beginTick setting.owing elapsed).applyPending setting.owing
  have begins : begun.Entrusts gone [] := by
    let emptied := (machine.beginTick setting.owing elapsed).updateWorld fun world =>
      { world with pending := [] }
    have left : emptied.keptTokens = machine.world.errands.dances ++ (machine.host.2 ++ []) := rfl
    have whole : machine.keptTokens = machine.world.errands.dances ++
        (machine.host.2 ++ machine.world.pending.map Prod.fst) := rfl
    have listed : machine.keptTokens.Perm
        (machine.world.pending.map Prod.fst ++ emptied.keptTokens) := by
      rw [left, whole, List.append_nil, ← List.append_assoc]
      exact List.perm_append_comm
    exact Entrusts.resumes machine.world.pending (Roster.Entrusts.perm entrusts listed)
  have turned : (begun.runEntities setting.owing).Entrusts gone [] :=
    runEntities_invariant (fun _ _ _ entrusts => still entrusts rfl rfl)
      (fun moment _ entrusts => step entrusts moment.id moment.priority) begins
  have advanced := still turned (roster_advanceActors setting.owing _) rfl
  exact finishTick advanced

theorem start (entrusts : machine.Entrusts gone given) : machine.start.Entrusts gone given := by
  have same : machine.start.affairs Prod.snd = machine.affairs Prod.snd := machine.affairs_start
  obtain ⟨dances, requests, register, listed⟩ := entrusts
  rw [← keptTokens_of_affairs same] at listed
  exact ⟨dances, requests, start_register register, listed⟩

theorem invoke (entrusts : machine.Entrusts gone given) (index priority script : Nat) :
    (machine.invoke index priority script).1.Entrusts gone given := by
  have same : (machine.invoke index priority script).1.affairs Prod.snd =
      machine.affairs Prod.snd := machine.affairs_startScript index priority script none
  rw [Entrusts, keptTokens_of_affairs same]
  exact Roster.Entrusts.begins entrusts (machine.startScript_begins index priority script)

theorem answer (entrusts : machine.Entrusts gone given) {token : ResumeToken}
    (owed : token ∈ machine.host.2) (answer : Option UInt16) :
    (machine.answer token answer).Entrusts gone given := by
  refine Roster.Entrusts.perm entrusts (.append_left given ?_)
  exact (outstanding_answer owed answer).symm.append_left machine.world.errands.dances

theorem spawn (entrusts : machine.Entrusts gone given) {activity : Activity}
    (owed : ∀ token ∈ activity.wakes?, token ∈ machine.host.2) :
    (machine.entrust activity).Entrusts gone given := by
  refine Roster.Entrusts.perm entrusts (.append_left given ?_)
  have tokens : (machine.entrust activity).keptTokens = (machine.world.errands.working ++
      (machine.world.errands.queued ++ activity.wakes?.toList)) ++
        (machine.host.2.diff activity.wakes?.toList ++ machine.world.pending.map Prod.fst) :=
    congrArg (fun errands : Errands => errands.dances ++ _) (machine.world.errands_spawn activity)
  have handed : machine.host.2.Perm
      (activity.wakes?.toList ++ machine.host.2.diff activity.wakes?.toList) := by
    cases own : activity.wakes? with
    | none => exact .refl _
    | some token =>
        rw [Option.toList_some, List.diff_cons, List.diff_nil]
        exact List.perm_cons_erase (owed token own)
  rw [tokens, List.perm_iff_count]
  intro token
  have split := handed.count_eq token
  simp only [keptTokens, outstanding, World.errands, Errands.dances, List.count_append] at split ⊢
  omega

theorem remove (entrusts : machine.Entrusts gone given) (index : EntityId) :
    ∃ gone, (machine.remove index).1.Entrusts gone given := by
  cases known : machine.world.entity? index with
  | none =>
      rw [Machine.remove, known]
      exact ⟨gone, entrusts⟩
  | some entity =>
      have same : (machine.remove index).1.affairs Prod.snd = machine.affairs Prod.snd :=
        machine.affairs_remove index
      obtain ⟨dances, requests, register, listed⟩ := entrusts
      rw [← keptTokens_of_affairs same] at listed
      refine ⟨fun id => gone id ∨ id = index, dances, requests, ?_, listed⟩
      rw [machine.roster_remove known]
      exact register.remove fun token member => (mem_completions known).mp member

theorem enter (session : Session) (random : Random) (host : σ) :
    (Machine.enter setting.owing session random (host, [])).Entrusts (fun _ => False) [] :=
  ⟨[], [], enter_register setting.owing session random (host, []), .refl []⟩

end Entrusts

/-- As long as every request is answered once at most, the tokens that are kept are those of the
lanes that wait for them. -/
theorem AnsweredOnce.entrusts (answered : AnsweredOnce setting machine) :
    ∃ gone, machine.Entrusts gone [] := by
  induction answered with
  | enter session random host => exact ⟨_, .enter session random host⟩
  | start _ ih => exact ih.imp fun gone entrusts => entrusts.start
  | tick _ elapsed ih => exact ih.imp fun gone entrusts => entrusts.tick elapsed
  | invoke _ index priority script ih =>
      exact ih.imp fun gone entrusts => entrusts.invoke index priority script
  | answer _ owed answer ih => exact ih.imp fun gone entrusts => entrusts.answer owed answer
  | spawn _ owed ih => exact ih.imp fun gone entrusts => entrusts.spawn owed
  | remove _ index ih =>
      obtain ⟨gone, entrusts⟩ := ih
      exact entrusts.remove index
  | loadPalette _ id palette ih => exact ih.imp fun gone entrusts => entrusts.still rfl rfl
  | outside _ world owed ih =>
      exact ih.imp fun gone entrusts => entrusts.still (congrArg World.roster world)
        (Prod.ext (congrArg World.errands world) owed)

/-! ## What a removal leaves -/

section Removal

variable {τ : Type} {index : EntityId}

theorem DiffersIn.refl (lanes : EntityId → Nat → Prop) (machine : Machine τ)
    (journal : List Entry) : machine.DiffersIn lanes { machine with journal } where
  others _ _ _ := rfl
  actors := rfl
  entries := rfl
  rest := ⟨machine.world.entities, journal, rfl⟩

/-- A token that is fired changes the lane that it names, and the journal. -/
theorem differsIn_wake (machine : Machine τ) (token : ResumeToken) :
    machine.DiffersIn (fun id priority => id = token.entity ∧ priority = token.priority)
      (machine.wake token).1 := by
  unfold wake World.wake
  cases here : machine.world.lane? token.entity token.priority with
  | none => exact .refl _ machine machine.journal
  | some lane =>
      rw [Option.bind_some]
      cases lane.wake? token.epoch with
      | none => exact .refl _ machine _
      | some woken => exact differsIn_updateLane machine token.entity token.priority _ _

/-- Tokens that are fired change lanes, and the journal. -/
theorem differsIn_wakeAll (machine : Machine τ) (tokens : List ResumeToken) :
    machine.DiffersIn (fun id priority => ∃ token ∈ tokens, id = token.entity ∧
      priority = token.priority)
      (tokens.foldl (fun machine token => (machine.wake token).1) machine) := by
  induction tokens generalizing machine with
  | nil => exact .refl _ machine machine.journal
  | cons token rest ih =>
      rw [List.foldl_cons]
      have both := (machine.differsIn_wake token).trans (ih _)
      simpa only [List.mem_cons, exists_eq_or_imp] using both

theorem size_wakeAll (machine : Machine τ) (tokens : List ResumeToken) :
    (tokens.foldl (fun machine token => (machine.wake token).1) machine).world.entities.size =
      machine.world.entities.size := by
  induction tokens generalizing machine with
  | nil => rfl
  | cons token rest ih => exact (ih _).trans (machine.size_wake token)

/-- Which lanes hear that an entity is gone: those whose completion one of its lanes owes. -/
theorem lane?_remove_other {machine : Machine τ} {entity : Entity}
    (known : machine.world.entity? index = some entity) {id : EntityId} (apart : id ≠ index)
    (priority : Nat) :
    (machine.remove index).1.world.lane? id priority =
      (machine.world.lane? id priority).map fun lane =>
        if lane.token id priority ∈ entity.completions then lane.awake else lane := by
  rw [← World.lane?_roster, machine.roster_remove known]
  have spared : (machine.world.roster.erase index).lane? id priority =
      machine.world.lane? id priority := if_neg apart
  cases here : machine.world.lane? id priority with
  | none => exact Roster.lane?_wakeAll_of_none _ (spared.trans here)
  | some lane => exact Roster.lane?_wakeAll _ (spared.trans here)

/-- The removal of an entity leaves everything of the others but lanes that hear of it, and
everything else but the player and the journal. -/
theorem remove_rest {machine : Machine τ} {entity : Entity}
    (known : machine.world.entity? index = some entity) :
    (∀ id, id ≠ index →
      (machine.remove index).1.world.actor? id = machine.world.actor? id ∧
      (machine.remove index).1.world.roster.entries? id = machine.world.roster.entries? id) ∧
    ∃ entities journal, entities.size = machine.world.entities.size ∧
      (machine.remove index).1 = { machine with
        world := { machine.world with
          entities
          stage := { machine.world.stage with
            player := if machine.world.stage.player = some index then none
              else machine.world.stage.player } }
        journal } := by
  let stage := { machine.world.stage with
    player := if machine.world.stage.player = some index then none
      else machine.world.stage.player }
  let taken := machine.updateWorld fun world =>
    { world with entities := world.entities.setIfInBounds index none, stage }
  have told : (machine.remove index).1 =
      entity.completions.foldl (fun machine token => (machine.wake token).1) taken := by
    rw [remove, known]
    rfl
  have differs := taken.differsIn_wakeAll entity.completions
  rw [← told] at differs
  obtain ⟨entities, journal, same⟩ := differs.rest
  have places : entities.size = machine.world.entities.size := by
    have kept := taken.size_wakeAll entity.completions
    rw [← told, same] at kept
    exact kept.trans Array.size_setIfInBounds
  refine ⟨fun id apart => ?_, entities, journal, places, same⟩
  have spared : taken.world.entity? id = machine.world.entity? id :=
    (entity?_erase machine.world index stage id).trans (if_neg apart)
  rw [differs.actors, differs.entries]
  exact ⟨congrArg (Option.map Entity.actor) spared, congrArg (Option.map Entity.entries) spared⟩

end Removal

/-- A removal wakes exactly the lanes that wait for one of the entity. -/
theorem Entrusts.lane?_remove {index : EntityId} (entrusts : machine.Entrusts gone given)
    {entity : Entity} (known : machine.world.entity? index = some entity) {id : EntityId}
    (apart : id ≠ index) (priority : Nat) :
    ((∃ level, machine.world.WaitsFor (id, priority) (index, level)) →
      ∃ lane ip onStop, machine.world.lane? id priority = some lane ∧
        lane.status = .paused ip .call onStop ∧
        (machine.remove index).1.world.lane? id priority =
          some { lane with status := .active ip 0 none onStop }) ∧
    ((¬∃ level, machine.world.WaitsFor (id, priority) (index, level)) →
      (machine.remove index).1.world.lane? id priority = machine.world.lane? id priority) := by
  rw [lane?_remove_other known apart]
  constructor
  · rintro ⟨level, lane, running, here, calls, there, -, told⟩
    have owed : lane.token id priority ∈ entity.completions :=
      (mem_completions known).mpr ⟨level, running, there, told⟩
    rw [show machine.world.lane? id priority = some lane from here, Option.map_some, if_pos owed]
    obtain ⟨status, script, epoch, mainEntry⟩ := lane
    cases status with
    | paused ip reason onStop =>
        cases calls
        exact ⟨_, ip, onStop, rfl, rfl, rfl⟩
    | _ => cases calls
  · intro alone
    cases here : machine.world.lane? id priority with
    | none => rfl
    | some lane =>
        rw [Option.map_some, if_neg]
        intro owed
        obtain ⟨level, running, there, told⟩ := (mem_completions known).mp owed
        have calls := Roster.Entrusts.called entrusts here ⟨running, there, told⟩
        exact alone ⟨level, lane, running, here, calls, there, Lane.isBusy_of_onStop? told, told⟩

/-- Who is woken when an entity is removed.

Let every request be answered once at most.  If an entity is there and is removed, the lanes of
others that wait for a call which one of its lanes is to end go on where they wait.  Every other
lane of the others is as it was, and so are their bodies, their scripts and their places; the player
is nobody if it was the entity.  Nothing else changes but the journal.  From then on, whatever
happens, the entity cannot be removed again.

It does not matter how often lanes were started: one that waits for a call is taken, and is not
started again before it has gone on. -/
theorem AnsweredOnce.removal_wakes_callers (answered : AnsweredOnce setting machine)
    {index : EntityId} (removed : (machine.remove index).2 = true) :
    let after := (machine.remove index).1
    (∀ id, id ≠ index → ∀ priority,
      ((∃ level, machine.world.WaitsFor (id, priority) (index, level)) →
        ∃ lane ip onStop, machine.world.lane? id priority = some lane ∧
          lane.status = .paused ip .call onStop ∧
          after.world.lane? id priority =
            some { lane with status := .active ip 0 none onStop }) ∧
      ((¬∃ level, machine.world.WaitsFor (id, priority) (index, level)) →
        after.world.lane? id priority = machine.world.lane? id priority)) ∧
    (∀ id, id ≠ index → after.world.actor? id = machine.world.actor? id ∧
      after.world.roster.entries? id = machine.world.roster.entries? id) ∧
    (∃ entities journal, entities.size = machine.world.entities.size ∧
      after = { machine with
        world := { machine.world with
          entities
          stage := { machine.world.stage with
            player := if machine.world.stage.player = some index then none
              else machine.world.stage.player } }
        journal }) ∧
    ∀ events later, Runs setting.owing events after later →
      later.remove index = (later, false) := by
  intro after
  obtain ⟨gone, entrusts⟩ := answered.entrusts
  cases known : machine.world.entity? index with
  | none =>
      rw [Machine.remove, known] at removed
      cases removed
  | some entity =>
      obtain ⟨others, rest⟩ := remove_rest known
      refine ⟨fun id apart priority => entrusts.lane?_remove known apart priority, others, rest, ?_⟩
      intro events later runs
      rw [Machine.remove, runs.gone.absent]

end Machine

/-! ## A caller that hears of it -/

/-- The small field after its first tick, with the list of its host. -/
def Sample.owed : Machine (Unit × List ResumeToken) :=
  (Machine.enter setting.owing (Session.fresh setting.config) (.ofSeed 0) ((), [])).start.tick
    setting.owing 0

theorem Sample.answered : Machine.AnsweredOnce Sample.setting Sample.owed :=
  .tick (.start (.enter _ _ ())) 0

namespace Machine

/-- The second entity is removed: the caller of its script goes on, and after a tick the entity
cannot be removed again. -/
theorem sample_caller_hears :
    let after := (Sample.owed.remove 1).1
    let later := after.tick Sample.setting.owing 0
    (Sample.owed.remove 1).2 = true ∧
    (∃ lane ip onStop, Sample.owed.world.lane? 0 0 = some lane ∧
      lane.status = .paused ip .call onStop ∧
      after.world.lane? 0 0 = some { lane with status := .active ip 0 none onStop }) ∧
    after.world.lane? 0 1 = Sample.owed.world.lane? 0 1 ∧
    after.session = Sample.owed.session ∧
    later.remove 1 = (later, false) := by
  intro after later
  obtain ⟨removed, caller, callee, unused⟩ : (Sample.owed.remove 1).2 = true ∧
      (Sample.owed.world.lane? 0 0).any
        (fun lane => lane.pauseReason? = some .call ∧ lane.token 0 0 = ⟨0, 0, 1⟩) ∧
      (Sample.owed.world.lane? 1 1).any (·.onStop? = some ⟨0, 0, 1⟩) ∧
      Sample.owed.world.lane? 0 1 = some {} := by
    decide +kernel
  obtain ⟨lanes, -, ⟨entities, journal, -, rest⟩, gone⟩ :=
    Sample.answered.removal_wakes_callers removed
  obtain ⟨events, -, runs⟩ := tick_inner Sample.setting.owing after 0
  obtain ⟨waiting, here, waits⟩ := (Option.any_eq_true _ _).mp caller
  obtain ⟨running, there, told⟩ := (Option.any_eq_true _ _).mp callee
  obtain ⟨calls, own⟩ := of_decide_eq_true waits
  have told : running.onStop? = some (waiting.token 0 0) := own ▸ of_decide_eq_true told
  have waitsFor : Sample.owed.world.WaitsFor (0, 0) (1, 1) :=
    ⟨waiting, running, here, calls, there, Lane.isBusy_of_onStop? told, told⟩
  have woken := (lanes 0 (by decide) 0).1 ⟨1, waitsFor⟩
  refine ⟨removed, woken, ?_, ?_, gone events later runs⟩
  · refine (lanes 0 (by decide) 1).2 ?_
    rintro ⟨level, found, -, known, paused, -⟩
    rw [show Sample.owed.world.lane? 0 1 = some found from known] at unused
    cases unused
    cases paused
  · rw [show after = _ from rest]

end Machine

end FieldMachine
