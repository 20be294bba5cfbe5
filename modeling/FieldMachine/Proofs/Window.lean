import FieldMachine.Proofs.Answer
import FieldMachine.Proofs.Errand
import FieldMachine.Proofs.Moment
import FieldMachine.Proofs.Stage

/-!
# Who waits at an open window

A dialog whose answer is left open opens its window and lets the lane wait there;
the answer closes the window and wakes the lane.  So an open window has a lane
that waits at it, as long as the host answers every request once at most
(`Served`).

One operation wakes nobody at a window and closes none either: when an entity is
removed, its lanes are gone, and the windows at which they waited are forsaken.
Apart from those, every open window has a lane that waits at it
(`Machine.Served.open_window_awaited`); a forsaken one may stay open with nobody
there (`Machine.interview_window_forsaken`).

The tokens of open requests are followed with the windows that they stand for
(`Machine.Minds`): an open window is one of those.
-/

namespace FieldMachine

set_option autoImplicit false

/-! ## Hosts that answer once -/

/-- The host with a list of the tokens of the requests that it has left open. -/
def Host.owing {σ : Type} (host : Host σ) : Host (σ × List ResumeToken) where
  senses state := host.senses state.1
  request request token state :=
    let (completion, next, lines) := host.request request token state.1
    (completion, (next, match completion with
      | .deferred => state.2 ++ [token]
      | .immediate _ => state.2), lines)
  notify notice state :=
    let (next, lines) := host.notify notice state.1
    ((next, state.2), lines)

/-- Without its list it is the host itself. -/
theorem Host.owing_shows {σ : Type} (host : Host σ) : host.owing.Shows Prod.fst host where
  senses _ := rfl
  request _ _ _ := rfl
  notify _ _ := rfl

theorem Host.owing_conceals {σ : Type} (host : Host σ) : host.owing.Conceals Prod.snd :=
  fun _ _ => rfl

/-- The setting whose host keeps a list of what it has left open. -/
def Setting.owing {σ : Type} (setting : Setting σ) : Setting (σ × List ResumeToken) :=
  setting.withHost setting.host.owing

namespace Machine

variable {σ : Type}

/-- The host crosses a token out as it gives it back. -/
def answer (machine : Machine (σ × List ResumeToken)) (token : ResumeToken)
    (answer : Option UInt16) : Machine (σ × List ResumeToken) :=
  { machine with host := (machine.host.1, machine.host.2.erase token) }.giveBack token answer

/-- The machines that operations of the host lead to, if it gives back only tokens of requests that
it has left open, and each of them once.  The windows are told that are forsaken: those at which lanes
waited whose entity was removed. -/
inductive Served (setting : Setting σ) :
    (UInt8 → Prop) → Machine (σ × List ResumeToken) → Prop
  | enter (session : Session) (random : Random) (host : σ) :
      Served setting (fun _ => False) (enter setting.owing session random (host, []))
  | start {forsaken : UInt8 → Prop} {machine : Machine (σ × List ResumeToken)}
      (served : Served setting forsaken machine) : Served setting forsaken machine.start
  | tick {forsaken : UInt8 → Prop} {machine : Machine (σ × List ResumeToken)}
      (served : Served setting forsaken machine) (elapsed : UInt64) :
      Served setting forsaken (machine.tick setting.owing elapsed)
  | invoke {forsaken : UInt8 → Prop} {machine : Machine (σ × List ResumeToken)}
      (served : Served setting forsaken machine) (index priority script : Nat) :
      Served setting forsaken (machine.invoke index priority script).1
  | answer {forsaken : UInt8 → Prop} {machine : Machine (σ × List ResumeToken)}
      (served : Served setting forsaken machine) {token : ResumeToken}
      (owed : token ∈ machine.host.2) (answer : Option UInt16) :
      Served setting forsaken (machine.answer token answer)
  | remove {forsaken : UInt8 → Prop} {machine : Machine (σ × List ResumeToken)}
      (served : Served setting forsaken machine) (index : Nat) :
      Served setting
        (fun window => forsaken window ∨ ∃ priority, machine.world.WaitsAt index priority window)
        (machine.remove index).1
  /-- A forsaken window that has been closed is forsaken no more. -/
  | closed {forsaken : UInt8 → Prop} {machine : Machine (σ × List ResumeToken)}
      (served : Served setting forsaken machine) :
      Served setting (fun window => forsaken window ∧ machine.world.stage.isOpen window) machine
  | loadPalette {forsaken : UInt8 → Prop} {machine : Machine (σ × List ResumeToken)}
      (served : Served setting forsaken machine) (id : UInt8) (palette : Palette) :
      Served setting forsaken (machine.loadPalette id palette)
  /-- Whatever the host does to itself and to the session. -/
  | outside {forsaken : UInt8 → Prop} {machine after : Machine (σ × List ResumeToken)}
      (served : Served setting forsaken machine) (world : after.world = machine.world)
      (owed : after.host.2 = machine.host.2) : Served setting forsaken after

end Machine

/-! ## Tokens and their windows -/

/-- The window at which a lane waits. -/
def Lane.window? (lane : Lane) : Option UInt8 := lane.pauseReason?.bind Machine.awaitedWindow?

theorem World.waitsAt_iff {world : World} {id : EntityId} {priority : Nat} {window : UInt8} :
    world.WaitsAt id priority window ↔
      ∃ lane, world.lane? id priority = some lane ∧ lane.window? = some window := by
  constructor
  · rintro ⟨lane, reason, here, paused, awaited⟩
    exact ⟨lane, here, by rw [Lane.window?, paused]; exact awaited⟩
  · rintro ⟨lane, here, waits⟩
    obtain ⟨reason, paused, awaited⟩ := Option.bind_eq_some_iff.mp waits
    exact ⟨lane, reason, here, paused, awaited⟩

/-- Who waits at a window waits for the answer to a request. -/
theorem Lane.requesting_of_window? {lane : Lane} {window : UInt8}
    (waits : lane.window? = some window) (id : EntityId) (priority : Nat) :
    lane.requesting id priority = [lane.token id priority] := by
  obtain ⟨reason, paused, awaited⟩ := Option.bind_eq_some_iff.mp waits
  refine if_pos ?_
  rw [paused, Option.any_some]
  cases reason with
  | call | fieldJump | choreography => cases awaited
  | _ => rfl

namespace Machine

variable {σ : Type} {setting : Setting σ} {forsaken : UInt8 → Prop} {gone : EntityId → Prop}
  {requests others : List (ResumeToken × Option UInt8)} {given : List ResumeToken}
  {machine after : Machine (σ × List ResumeToken)}

variable (setting) in
/-- One step of an active lane adds the token of a request that is left open to the list. -/
theorem step_owes {id : EntityId} {priority : Nat} {lane : Lane}
    (here : machine.world.lane? id priority = some lane) (active : lane.isActive) :
    ∃ later,
      (machine.step setting.owing id priority).1.world.lane? id priority = some later ∧
      (machine.step setting.owing id priority).1.world.errands =
        { machine.world.errands with
          queued := machine.world.errands.queued ++ later.dancing id priority } ∧
      (machine.step setting.owing id priority).1.host.2 =
        machine.host.2 ++ later.requesting id priority := by
  have conceals : setting.owing.host.Conceals Prod.snd := setting.host.owing_conceals
  obtain ⟨later, there, leaves⟩ := step_leaves conceals here active
  refine ⟨later, there, ?_⟩
  cases leaves with
  | quiet unasked left =>
      rw [unasked, List.append_nil]
      exact Prod.mk.inj left
  | @request request reason next asked allowed made =>
      obtain ⟨op, asks⟩ := made.asks
      have errands := made.errands
      have host := made.host
      have goesOn := made.goesOn
      simp only [Setting.owing, Setting.withHost, Host.owing] at host goesOn
      rw [← made.before]
      cases answered : (setting.host.request request (lane.token id priority) asked.1).1 with
      | deferred =>
          rw [answered] at host goesOn
          subst goesOn
          have undanced : (lane.pause next reason).dancing id priority = [] := by
            refine if_neg ?_
            rintro ⟨⟩
            cases asks
          have served : (lane.pause next reason).requesting id priority =
              [lane.token id priority] := if_pos asks.isServed
          rw [undanced, served, List.append_nil]
          exact ⟨errands, host⟩
      | immediate value =>
          rw [answered] at host goesOn
          rw [Lane.dancing_of_running goesOn, Lane.requesting_of_running goesOn]
          simp only [List.append_nil]
          exact ⟨errands, host⟩

/-- The tokens that the host has yet to give back, and those that it has given back for the next
tick. -/
def outstanding (machine : Machine (σ × List ResumeToken)) : List ResumeToken :=
  machine.host.2 ++ machine.world.errands.returned.map Prod.fst

theorem outstanding_of_affairs (same : after.affairs Prod.snd = machine.affairs Prod.snd) :
    after.outstanding = machine.outstanding := by
  obtain ⟨errands, owed⟩ := Prod.mk.inj same
  rw [outstanding, errands, owed, outstanding]

/-- A token that is given back is outstanding until the next tick. -/
theorem outstanding_answer {token : ResumeToken} (owed : token ∈ machine.host.2)
    (answer : Option UInt16) :
    (machine.answer token answer).outstanding.Perm machine.outstanding := by
  show (machine.host.2.erase token ++ (machine.world.pending ++ [(token, answer)]).map Prod.fst).Perm
    (machine.host.2 ++ machine.world.pending.map Prod.fst)
  rw [List.map_append, List.map_singleton, ← List.append_assoc]
  exact (List.perm_append_singleton token _).trans
    ((List.perm_cons_erase owed).symm.append_right _)

/-- The tokens of all open requests, with the windows that they stand for; some of them are `given`
back at the moment.  Every open window stands for one of an entity that is there, or is forsaken. -/
structure Minds (forsaken : UInt8 → Prop) (gone : EntityId → Prop)
    (requests : List (ResumeToken × Option UInt8)) (given : List ResumeToken)
    (machine : Machine (σ × List ResumeToken)) : Prop where
  register : machine.world.roster.Register gone Prod.fst
    (fun request lane => lane.window? = request.2) machine.world.errands.dances requests
  listed : (requests.map Prod.fst).Perm (given ++ machine.outstanding)
  windows : ∀ window, machine.world.stage.isOpen window →
    (∃ token, (token, some window) ∈ requests ∧ ¬gone token.entity) ∨ forsaken window

namespace Minds

/-- A request of an entity that is there has a lane that waits at its window. -/
theorem waits (minds : Minds forsaken gone requests given machine) {token : ResumeToken}
    {window : UInt8} (listed : (token, some window) ∈ requests) (present : ¬gone token.entity) :
    machine.world.WaitsAt token.entity token.priority window := by
  obtain ⟨lane, reason, here, -, -, -, known⟩ :=
    (minds.register.request _ listed).resolve_left present
  exact World.waitsAt_iff.mpr ⟨lane, here, known⟩

/-- Windows that are opened stand for requests that were made. -/
theorem evolve (minds : Minds forsaken gone requests given machine)
    {more : List (ResumeToken × Option UInt8)} {named : EntityId → Prop} {opened : UInt8 → Prop}
    (register : after.world.roster.Register gone Prod.fst
      (fun request lane => lane.window? = request.2) after.world.errands.dances (requests ++ more))
    (owed : after.outstanding.Perm (machine.outstanding ++ more.map Prod.fst))
    (retains : machine.world.stage.Retains named opened after.world.stage)
    (made : ∀ window, opened window → ∃ token, (token, some window) ∈ more ∧ ¬gone token.entity) :
    Minds forsaken gone (requests ++ more) given after where
  register := register
  listed := by
    rw [List.map_append]
    refine (minds.listed.append_right _).trans ?_
    rw [List.append_assoc]
    exact owed.symm.append_left given
  windows window shown := by
    rcases retains.windows window shown with before | fresh
    · refine (minds.windows window before).imp_left ?_
      rintro ⟨token, listed, present⟩
      exact ⟨token, List.mem_append_left _ listed, present⟩
    · obtain ⟨token, listed, present⟩ := made window fresh
      exact .inl ⟨token, List.mem_append_right _ listed, present⟩

/-- What makes no request and opens no window. -/
theorem quiet (minds : Minds forsaken gone requests given machine)
    (register : after.world.roster.Register gone Prod.fst
      (fun request lane => lane.window? = request.2) after.world.errands.dances requests)
    (owed : after.outstanding = machine.outstanding)
    (retains : machine.world.stage.Retains (fun _ => True) (fun _ => False) after.world.stage) :
    Minds forsaken gone requests given after := by
  rw [← List.append_nil requests] at register ⊢
  exact minds.evolve register (by rw [owed, List.map_nil, List.append_nil]) retains nofun

/-- What touches neither a lane nor a token nor a window. -/
theorem still (minds : Minds forsaken gone requests given machine)
    (roster : after.world.roster = machine.world.roster)
    (same : after.affairs Prod.snd = machine.affairs Prod.snd)
    (windows : after.world.stage.windows = machine.world.stage.windows) :
    Minds forsaken gone requests given after where
  register := by
    rw [roster, (Prod.mk.inj same).1]
    exact minds.register
  listed := by
    rw [outstanding_of_affairs same]
    exact minds.listed
  windows window shown := minds.windows window (by rwa [Stage.isOpen, ← windows])

/-! ### Instructions -/

/-- An instruction lists the request that it makes, with the window at which its lane waits. -/
theorem step (minds : Minds forsaken gone requests given machine) (id : EntityId)
    (priority : Nat) :
    ∃ requests, Minds forsaken gone requests given
      (machine.step setting.owing id priority).1 := by
  cases active : machine.world.laneActive id priority with
  | false =>
      rw [step_of_inactive setting.owing active]
      exact ⟨requests, minds⟩
  | true =>
      obtain ⟨lane, here, runs⟩ := (Option.any_eq_true _ _).mp active
      obtain ⟨later, there, errands, owed⟩ := step_owes setting here runs
      obtain ⟨ip, -, turn⟩ := step_turn setting.owing here runs
      -- the token that the lane waits with, and its window
      let more := (later.requesting id priority).map fun token => (token, later.window?)
      have names : more.map Prod.fst = later.requesting id priority := by
        simp only [more, List.map_map, Function.comp_def, List.map_id']
      have register := minds.register.turn here runs turn there rfl names fun request member => by
        obtain ⟨token, -, rfl⟩ := List.mem_map.mp member
        rfl
      refine ⟨requests ++ more, minds.evolve ?_ ?_
        (conducts_step setting.owing machine id priority) ?_⟩
      · rw [errands, Errands.dances, ← List.append_assoc]
        exact register
      · rw [outstanding, errands, owed, names, outstanding, List.append_assoc, List.append_assoc]
        exact List.perm_append_comm.append_left _
      · intro window waits
        obtain ⟨found, known, waits⟩ := World.waitsAt_iff.mp waits
        rw [there] at known
        cases known
        refine ⟨later.token id priority, ?_, fun absent => ?_⟩
        · simp only [more, later.requesting_of_window? waits, List.map_cons, List.map_nil, waits,
            List.mem_singleton]
        · exact minds.register.present here absent

/-! ### Answers -/

variable (setting) in
/-- An answer closes the window of its request. -/
theorem resume {token : ResumeToken} (minds : Minds forsaken gone requests (token :: given) machine)
    (answer : Option UInt16) :
    ∃ requests, Minds forsaken gone requests given
      (machine.applyResume setting.owing token answer) := by
  -- the request that is answered, and the others
  obtain ⟨window, listed⟩ : ∃ window, (token, window) ∈ requests := by
    have member : token ∈ requests.map Prod.fst := minds.listed.mem_iff.mpr (by simp)
    simpa using member
  obtain ⟨before, behind, rfl⟩ := List.mem_iff_append.mp listed
  have first : (before ++ (token, window) :: behind).Perm
      ((token, window) :: (before ++ behind)) := List.perm_middle
  have register := minds.register.perm first.symm
  have same : (machine.applyResume setting.owing token answer).affairs Prod.snd =
      machine.affairs Prod.snd :=
    machine.affairs_applyResume setting.host.owing_conceals token answer
  refine ⟨before ++ behind, ?_, ?_, ?_⟩
  · rw [roster_applyResume, (Prod.mk.inj same).1]
    exact register.wake_request
  · rw [outstanding_of_affairs same]
    exact (List.perm_cons token).mp ((first.map Prod.fst).symm.trans minds.listed)
  · intro shown opens
    have retained : machine.world.stage.Retains (fun _ => True) (fun _ => False)
        (machine.applyResume setting.owing token answer).world.stage :=
      retains_applyResume machine token answer
    refine (minds.windows shown ((retained.windows shown opens).resolve_right id)).imp_left ?_
    rintro ⟨other, among, present⟩
    refine ⟨other, (List.mem_cons.mp (first.mem_iff.mp among)).resolve_left fun own => ?_, present⟩
    -- the lane that waits at this window is woken, and the window is closed
    cases own
    obtain ⟨lane, reason, here, named, paused, -, known⟩ :=
      (minds.register.request _ among).resolve_left present
    have woke := congrArg Prod.snd (wake_paused here paused)
    rw [Lane.token, named] at woke
    rw [Lane.window?, paused, Option.bind_some] at known
    rw [stage_applyResume, woke, Option.bind_some, known, Option.elim_some,
      Stage.isOpen_changeWindow, if_pos rfl] at opens
    obtain ⟨found, -, opens⟩ := (Option.any_eq_true _ _).mp opens
    cases opens

/-- All answers are given back. -/
theorem resumes (answers : List (ResumeToken × Option UInt16))
    (minds : Minds forsaken gone requests (answers.map Prod.fst) machine) :
    ∃ requests, Minds forsaken gone requests []
      (answers.foldl (fun machine (token, answer) =>
        machine.applyResume setting.owing token answer) machine) := by
  induction answers generalizing machine requests with
  | nil => exact ⟨requests, minds⟩
  | cons answer rest ih =>
      obtain ⟨requests, minds⟩ := minds.resume setting answer.2
      exact ih minds

/-! ### Ticks -/

/-- The answers that were given back since the last tick come first. -/
theorem begin (minds : Minds forsaken gone requests [] machine) (elapsed : UInt64) :
    ∃ requests, Minds forsaken gone requests []
      ((machine.beginTick setting.owing elapsed).applyPending setting.owing) := by
  let emptied := (machine.beginTick setting.owing elapsed).updateWorld fun world =>
    { world with pending := [] }
  have listed : (requests.map Prod.fst).Perm
      (machine.world.pending.map Prod.fst ++ (machine.host.2 ++ [])) := by
    have swapped : (machine.host.2 ++ machine.world.pending.map Prod.fst).Perm
        (machine.world.pending.map Prod.fst ++ machine.host.2) := List.perm_append_comm
    rw [List.append_nil]
    exact minds.listed.trans swapped
  have begun : Minds forsaken gone requests (machine.world.pending.map Prod.fst) emptied :=
    ⟨minds.register, listed, minds.windows⟩
  exact begun.resumes machine.world.pending

/-- The background activities take a step, and the new ones join them. -/
theorem finishTick (minds : Minds forsaken gone requests given machine) :
    Minds forsaken gone requests given (machine.finishTick setting.owing) := by
  let ran := machine.runActivities setting.owing machine.world.frame machine.world.activities
  have same : ran.1.affairs Prod.snd = machine.affairs Prod.snd :=
    machine.affairs_runActivities setting.host.owing_conceals machine.world.frame
      machine.world.activities
  have register : ran.1.world.roster.Register gone Prod.fst
      (fun request lane => lane.window? = request.2)
      ([] ++ (ran.2.filterMap Activity.wakes? ++ machine.world.errands.queued)) requests :=
    runActivities_register _ _ minds.register
  have owed : ran.1.outstanding = machine.outstanding := outstanding_of_affairs same
  refine minds.quiet ?_ owed
    (retains_runActivities machine.world.frame machine.world.activities machine)
  have joined : (machine.finishTick setting.owing).world.errands.dances =
      ran.2.filterMap Activity.wakes? ++ machine.world.errands.queued := by
    rw [← (Prod.mk.inj same).1]
    exact (List.append_nil _).trans List.filterMap_append
  rw [joined]
  exact register

theorem tick (minds : Minds forsaken gone requests [] machine) (elapsed : UInt64) :
    ∃ requests, Minds forsaken gone requests [] (machine.tick setting.owing elapsed) := by
  let minded (machine : Machine (σ × List ResumeToken)) : Prop :=
    ∃ requests, Minds forsaken gone requests [] machine
  let begun := (machine.beginTick setting.owing elapsed).applyPending setting.owing
  obtain ⟨requests, turned⟩ : minded (begun.runEntities setting.owing) :=
    runEntities_invariant (fun _ _ _ ⟨requests, minds⟩ => ⟨requests, minds.still rfl rfl rfl⟩)
      (fun moment _ ⟨_, minds⟩ => minds.step moment.id moment.priority) (minds.begin elapsed)
  have advanced : Minds forsaken gone requests []
      ((begun.runEntities setting.owing).advanceActors setting.owing) :=
    turned.still (roster_advanceActors setting.owing _) rfl rfl
  exact ⟨requests, advanced.finishTick⟩

/-! ### Operations of the host -/

theorem start (minds : Minds forsaken gone requests given machine) :
    Minds forsaken gone requests given machine.start := by
  have same : machine.start.affairs Prod.snd = machine.affairs Prod.snd := machine.affairs_start
  refine minds.quiet ?_ (outstanding_of_affairs same) machine.retains_start
  rw [(Prod.mk.inj same).1]
  exact start_register minds.register

theorem invoke (minds : Minds forsaken gone requests given machine)
    (index priority script : Nat) :
    Minds forsaken gone requests given (machine.invoke index priority script).1 := by
  have same : (machine.invoke index priority script).1.affairs Prod.snd =
      machine.affairs Prod.snd := machine.affairs_startScript index priority script none
  refine minds.quiet ?_ (outstanding_of_affairs same)
    (machine.retains_startScript index priority script none)
  rw [(Prod.mk.inj same).1]
  exact minds.register.begins (machine.startScript_begins index priority script)

theorem answer (minds : Minds forsaken gone requests given machine) {token : ResumeToken}
    (owed : token ∈ machine.host.2) (answer : Option UInt16) :
    Minds forsaken gone requests given (machine.answer token answer) where
  register := minds.register
  listed := minds.listed.trans (.append_left given (outstanding_answer owed answer).symm)
  windows := minds.windows

/-- The windows are forsaken at which an entity waited that is removed. -/
theorem remove (minds : Minds forsaken gone requests given machine) (index : EntityId) :
    ∃ gone, Minds
      (fun window => forsaken window ∨ ∃ priority, machine.world.WaitsAt index priority window) gone
      requests given (machine.remove index).1 := by
  cases known : machine.world.entity? index with
  | none =>
      rw [Machine.remove, known]
      exact ⟨gone, minds.register, minds.listed, fun window shown =>
        (minds.windows window shown).imp_right .inl⟩
  | some entity =>
      have same : (machine.remove index).1.affairs Prod.snd = machine.affairs Prod.snd :=
        machine.affairs_remove index
      have retains : machine.world.stage.Retains (fun _ => True) (fun _ => False)
          (machine.remove index).1.world.stage := machine.retains_remove index
      refine ⟨fun id => gone id ∨ id = index, ?_, ?_, fun window shown => ?_⟩
      · rw [machine.roster_remove known, (Prod.mk.inj same).1]
        exact minds.register.remove fun token member => (mem_completions known).mp member
      · rw [outstanding_of_affairs same]
        exact minds.listed
      · rcases minds.windows window ((retains.windows window shown).resolve_right id) with
          ⟨token, listed, present⟩ | left
        · by_cases own : token.entity = index
          · exact .inr (.inr ⟨token.priority, own ▸ minds.waits listed present⟩)
          · exact .inl ⟨token, listed, fun absent => absent.elim present own⟩
        · exact .inr (.inl left)

/-- When a field is about to be entered, no window is open. -/
theorem enter (session : Session) (random : Random) (host : σ) :
    Minds (fun _ => False) (fun _ => False) [] []
      (Machine.enter setting.owing session random (host, [])) where
  register := enter_register setting.owing session random (host, [])
  listed := .refl []
  windows window shown := by
    obtain ⟨found, known, shown⟩ := (Option.any_eq_true _ _).mp shown
    have closed : found = {} := by
      simp only [Machine.enter, World.ofSection, Vector.getElem?_replicate] at known
      split at known <;> cases known
      rfl
    rw [closed] at shown
    cases shown

end Minds

theorem Served.minded (served : Served setting forsaken machine) :
    ∃ gone requests, Minds forsaken gone requests [] machine := by
  induction served with
  | enter session random host => exact ⟨_, [], .enter session random host⟩
  | start _ minded =>
      obtain ⟨gone, requests, minds⟩ := minded
      exact ⟨gone, requests, minds.start⟩
  | tick _ elapsed minded =>
      obtain ⟨gone, requests, minds⟩ := minded
      exact ⟨gone, minds.tick elapsed⟩
  | invoke _ index priority script minded =>
      obtain ⟨gone, requests, minds⟩ := minded
      exact ⟨gone, requests, minds.invoke index priority script⟩
  | answer _ owed answer minded =>
      obtain ⟨gone, requests, minds⟩ := minded
      exact ⟨gone, requests, minds.answer owed answer⟩
  | remove _ index minded =>
      obtain ⟨gone, requests, minds⟩ := minded
      obtain ⟨gone, removed⟩ := minds.remove index
      exact ⟨gone, requests, removed⟩
  | closed _ minded =>
      obtain ⟨gone, requests, minds⟩ := minded
      exact ⟨gone, requests, minds.register, minds.listed, fun window shown =>
        (minds.windows window shown).imp_right fun left => ⟨left, shown⟩⟩
  | loadPalette _ id palette minded =>
      obtain ⟨gone, requests, minds⟩ := minded
      exact ⟨gone, requests, minds.still rfl rfl rfl⟩
  | outside _ world owed minded =>
      obtain ⟨gone, requests, minds⟩ := minded
      exact ⟨gone, requests, minds.still (congrArg World.roster world)
        (Prod.ext (congrArg World.errands world) owed) (congrArg (·.stage.windows) world)⟩

/-- Apart from its list, the host is free to do what any other does. -/
theorem Served.reachable (served : Served setting forsaken machine) :
    Reachable setting (machine.see Prod.fst) := by
  have shows : setting.owing.host.Shows Prod.fst setting.host := setting.host.owing_shows
  have same (machine : Machine (σ × List ResumeToken)) (move : Move) :
      (machine.see Prod.fst).make setting move = (machine.make setting.owing move).see Prod.fst :=
    see_follow shows machine [move]
  induction served with
  | enter session random host => exact .enter session random host
  | start _ reachable => exact same _ .start ▸ reachable.start
  | tick _ elapsed reachable => exact same _ (.tick elapsed) ▸ reachable.tick elapsed
  | invoke _ index priority script reachable =>
      exact same _ (.invoke index priority script) ▸ reachable.invoke index priority script
  | answer _ owed answer reachable => exact reachable.giveBack _ answer
  | remove _ index reachable => exact same _ (.remove index) ▸ reachable.remove index
  | closed _ reachable => exact reachable
  | loadPalette _ id palette reachable => exact reachable.loadPalette id palette
  | outside _ world owed reachable => exact reachable.outside world

/-- An open window has somebody waiting at it.

Let the host answer every request once at most.  Between any two operations, some entity that is
there has a lane that waits at an open window with a message or a question, unless an entity was
removed while it waited at that window, and the window has not been closed since. -/
theorem Served.open_window_awaited (served : Served setting forsaken machine) {window : UInt8}
    (shown : machine.world.stage.isOpen window) :
    (∃ id ∈ machine.world.present, ∃ priority, machine.world.WaitsAt id priority window) ∨
      forsaken window := by
  obtain ⟨gone, requests, minds⟩ := served.minded
  refine (minds.windows window shown).imp_left ?_
  rintro ⟨token, listed, present⟩
  obtain ⟨lane, -, here, -⟩ := minds.waits listed present
  exact ⟨token.entity, World.mem_present.mpr (World.isSome_entity?_of_lane? here), token.priority,
    minds.waits listed present⟩

end Machine

/-- The field after its first tick, with the list of its host: the message is shown. -/
def Interview.owed : Machine (Unit × List ResumeToken) :=
  (Machine.enter setting.owing (Session.fresh setting.config) (.ofSeed 0) ((), [])).start.tick
    setting.owing 0

theorem Interview.served : Machine.Served Interview.setting (fun _ => False) Interview.owed :=
  .tick (.start (.enter _ _ ())) 0

namespace Machine

theorem interview_window_awaited :
    Interview.owed.world.stage.isOpen 0 ∧
      ∃ id ∈ Interview.owed.world.present, ∃ priority,
        Interview.owed.world.WaitsAt id priority 0 := by
  have shown : Interview.owed.world.stage.isOpen 0 := by decide +kernel
  exact ⟨shown, (Interview.served.open_window_awaited shown).resolve_right id⟩

/-- When the entity is removed that shows the message, the window stays open, and nobody waits at
it. -/
theorem interview_window_forsaken :
    ∃ forsaken machine, Served Interview.setting forsaken machine ∧
      machine.world.stage.isOpen 0 ∧
      ¬∃ id priority, machine.world.WaitsAt id priority 0 := by
  refine ⟨_, _, Interview.served.remove 0, by decide +kernel, ?_⟩
  have nobody : (Interview.owed.remove 0).1.world.present = [] := by decide +kernel
  rintro ⟨id, priority, lane, reason, here, -⟩
  have present := World.mem_present.mpr (World.isSome_entity?_of_lane? here)
  rw [nobody] at present
  cases present

end Machine

end FieldMachine
