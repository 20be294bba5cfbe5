import FieldMachine.Proofs.Noninterference

/-!
# Budgets only cut runs in two

A lane has a budget of instructions in each of its turns.  A lane that has used
it up is still where it was: another turn goes on from there, and comes to what
one longer turn would have come to (`Machine.budget_only_cuts`).

All that is left of the cut is the counter of such turns and a line in the
journal.  No instruction looks at either, nor at the budget itself: whatever a
machine has behind it, a step adds the same to it (`Machine.step_since`).
-/

namespace FieldMachine

set_option autoImplicit false

/-! ## Budgets and pasts -/

/-- The setting with another budget. -/
def Setting.withBudget {σ : Type} (setting : Setting σ) (budget : Nat) : Setting σ :=
  { setting with config := { setting.config with opsPerTick := budget } }

/-- What a machine may have behind it: lines of the journal, and turns that used their budget up. -/
structure Past where
  journal : List Entry
  starved : Nat

namespace World

/-- The world after a number of turns that used their budget up. -/
def withStarved (world : World) (starved : Nat) : World := { world with starved }

variable (world : World) (starved : Nat)

theorem wake_withStarved (token : ResumeToken) :
    (world.withStarved starved).wake token =
      ((world.wake token).1.withStarved starved, (world.wake token).2) := by
  have same : (world.withStarved starved).lane? = world.lane? := rfl
  unfold wake
  rw [same]
  cases (world.lane? token.entity token.priority).bind (·.wake? token.epoch) <;> rfl

theorem beginFade_withStarved (color : FadeColor) (start target step : UInt16)
    (subtractive : Bool) :
    (world.withStarved starved).beginFade color start target step subtractive =
      (world.beginFade color start target step subtractive).withStarved starved := by
  unfold beginFade
  dsimp only
  split <;> rfl

theorem beginScroll_withStarved (target : ScrollTarget) (frames : UInt16) (easing : Easing) :
    (world.withStarved starved).beginScroll target frames easing =
      (world.beginScroll target frames easing).withStarved starved := by
  unfold beginScroll
  dsimp only
  split
  · cases target <;> rfl
  · rfl

theorem beginShift_withStarved (id : EntityId) (goal : Displacement) (frames : UInt16)
    (easing : Easing) :
    (world.withStarved starved).beginShift id goal frames easing =
      (world.beginShift id goal frames easing).withStarved starved := by
  have same : (world.withStarved starved).actor? = world.actor? := rfl
  unfold beginShift
  rw [same]
  cases world.actor? id with
  | none => rfl
  | some actor =>
      dsimp only
      split <;> rfl

end World

namespace Machine

variable {σ : Type}

/-- The machine with something behind it. -/
def since (past : Past) (machine : Machine σ) : Machine σ :=
  { machine with
    world := machine.world.withStarved past.starved
    journal := machine.journal ++ past.journal }

/-- What a machine came to, with something behind it. -/
def outcomeSince {α : Type} (past : Past) (outcome : Machine σ × α) : Machine σ × α :=
  (outcome.1.since past, outcome.2)

variable (setting : Setting σ) (budget : Nat) (past : Past) (machine : Machine σ)

/-! ## What a step does with the past -/

@[simp] theorem lane?_since : (machine.since past).world.lane? = machine.world.lane? := rfl

theorem since_note (entry : Entry) :
    (machine.since past).note entry = (machine.note entry).since past := rfl

theorem since_foldl {α : Type} {change : Machine σ → α → Machine σ}
    (each : ∀ machine item, change (machine.since past) item = (change machine item).since past)
    (items : List α) :
    items.foldl change (machine.since past) = (items.foldl change machine).since past :=
  List.foldl_hom (fun machine : Machine σ => machine.since past) each

theorem since_noteAll (entries : List Entry) :
    entries.foldl note (machine.since past) = (entries.foldl note machine).since past :=
  since_foldl past machine (fun _ _ => rfl) entries

theorem since_noteHost (lines : List LogLine) :
    (machine.since past).noteHost lines = (machine.noteHost lines).since past :=
  since_foldl past machine (fun _ _ => rfl) lines

theorem since_updateWorld {change : World → World}
    (same : ∀ world starved,
      change (world.withStarved starved) = (change world).withStarved starved) :
    (machine.since past).updateWorld change = (machine.updateWorld change).since past :=
  congrArg (fun world => { machine.since past with world }) (same machine.world past.starved)

theorem since_updateSession (change : Session → Session) :
    (machine.since past).updateSession change = (machine.updateSession change).since past := rfl

theorem since_withRandom (random : Random) :
    { machine.since past with random } = { machine with random }.since past := rfl

theorem since_updateLane (id : EntityId) (priority : Nat) (change : Lane → Lane) :
    (machine.since past).updateLane id priority change =
      (machine.updateLane id priority change).since past := rfl

theorem since_notify (notice : Notice) :
    (machine.since past).notify (setting.withBudget budget) notice =
      (machine.notify setting notice).since past := by
  unfold notify
  rw [← since_noteHost]
  rfl

theorem since_request (request : Request) (token : ResumeToken) :
    (machine.since past).request (setting.withBudget budget) request token =
      ((machine.request setting request token).1,
        (machine.request setting request token).2.since past) := by
  unfold Machine.request
  dsimp only
  rw [← since_noteHost]
  rfl

theorem since_wake (token : ResumeToken) :
    (machine.since past).wake token = outcomeSince past (machine.wake token) := by
  unfold wake
  rw [lane?_since]
  cases machine.world.lane? token.entity token.priority with
  | none => rfl
  | some lane =>
      have woken : (machine.since past).world.wake token =
          ((machine.world.wake token).1.withStarved past.starved,
            (machine.world.wake token).2) := World.wake_withStarved ..
      dsimp only
      rw [woken]
      rfl

theorem since_complete (onStop : Option ResumeToken) :
    (machine.since past).complete onStop = (machine.complete onStop).since past := by
  cases onStop with
  | none => rfl
  | some token => exact congrArg Prod.fst (since_wake past machine token)

theorem since_startScript (id : EntityId) (priority script : Nat) (onStop : Option ResumeToken) :
    (machine.since past).startScript id priority script onStop =
      outcomeSince past (machine.startScript id priority script onStop) := by
  have same : (machine.since past).world.entity? id = machine.world.entity? id := rfl
  unfold startScript
  rw [same]
  cases machine.world.entity? id with
  | none => rfl
  | some entity =>
      dsimp only
      cases entity.admission priority script <;> rfl

theorem since_setAwaitedWindow (reason : PauseReason) (isOpen : Bool) :
    (machine.since past).setAwaitedWindow reason isOpen =
      (machine.setAwaitedWindow reason isOpen).since past := by
  unfold setAwaitedWindow
  cases awaitedWindow? reason <;> rfl

theorem since_passOn (id : EntityId) (priority : Nat) (lane : Lane) (level script : Nat) :
    (machine.since past).passOn id priority lane level script =
      outcomeSince past (machine.passOn id priority lane level script) := by
  simp only [passOn, since_updateLane, since_complete, since_startScript]
  rfl

theorem since_putCell (bank address : UInt8) (value : UInt16) :
    (machine.since past).putCell (setting.withBudget budget) bank address value =
      (machine.putCell setting bank address value).since past := by
  have same : (setting.withBudget budget).config.isReplicated bank =
      setting.config.isReplicated bank := rfl
  unfold putCell
  rw [same, since_updateSession]
  split
  · exact since_notify setting budget past _ _
  · rfl

theorem since_writeCell (bank address : UInt8) (value : UInt16) :
    (machine.since past).writeCell (setting.withBudget budget) bank address value =
      outcomeSince past (machine.writeCell setting bank address value) := by
  have same : (machine.since past).session = machine.session := rfl
  unfold writeCell
  rw [same]
  split
  · rfl
  · rw [since_putCell]
    rfl

theorem since_store (selector address : UInt8) (value : UInt16) :
    (machine.since past).store (setting.withBudget budget) selector address value =
      outcomeSince past (machine.store setting selector address value) := by
  unfold store
  split
  · rfl
  · rw [since_writeCell]
    rfl

theorem since_giveUp (id : EntityId) (priority ip : Nat) (error : ExecError) :
    (machine.since past).giveUp (setting.withBudget budget) id priority ip error =
      (machine.giveUp setting id priority ip error).since past := by
  let counted (world : World) : World := { world with faults := world.faults + 1 }
  have gone : ((machine.since past).updateLane id priority (·.abort ip)).updateWorld counted =
      ((machine.updateLane id priority (·.abort ip)).updateWorld counted).since past := rfl
  unfold giveUp
  dsimp only
  rw [gone, since_note, since_notify]
  rfl

theorem since_settle (reason : PauseReason) (value : Option UInt16) :
    (machine.since past).settle (setting.withBudget budget) reason value =
      outcomeSince past (machine.settle setting reason value) := by
  unfold settle
  split
  · exact since_store ..
  · rfl
  · rfl

theorem since_perform (effect : Effect) :
    effect.perform (setting.withBudget budget) (machine.since past) =
      outcomeSince past (effect.perform setting machine) := by
  have told (machine : Machine σ) (notice : Notice) :
      (machine.since past).notify (setting.withBudget budget) notice =
        (machine.notify setting notice).since past :=
    since_notify setting budget past machine notice
  cases effect with
  | store selector address value => exact since_store ..
  | drawByte selector address =>
      have random : (machine.since past).random = machine.random := rfl
      simp only [Effect.perform, random]
      generalize machine.random.nextByte = drawn
      exact since_store setting budget past { machine with random := drawn.1 } ..
  | party change =>
      simp only [Effect.perform, since_updateSession, since_notify]
      rfl
  | background area mask =>
      simp only [Effect.perform]
      rw [since_updateWorld past machine fun _ _ => rfl, told]
      rfl
  | livePalette id palette =>
      simp only [Effect.perform]
      rw [since_updateWorld past machine fun _ _ => rfl, told]
      rfl
  | lockTriangle triangle locked =>
      simp only [Effect.perform]
      rw [since_updateWorld past machine fun _ _ => rfl, told]
      rfl
  | notify notice => exact congrArg (·, none) (told machine notice)
  | fade color start target step subtractive =>
      exact congrArg (·, none) (since_updateWorld past machine fun world starved =>
        world.beginFade_withStarved starved color start target step subtractive)
  | scroll target frames easing =>
      exact congrArg (·, none) (since_updateWorld past machine fun world starved =>
        world.beginScroll_withStarved starved target frames easing)
  | shift id goal frames easing =>
      exact congrArg (·, none) (since_updateWorld past machine fun world starved =>
        world.beginShift_withStarved starved id goal frames easing)
  | log entry => rfl
  | reseed seed => exact congrArg (·, none) (since_withRandom past machine (.ofSeed seed))
  | session change => rfl
  | actor id change => exact congrArg (·, none) (since_updateWorld past machine fun _ _ => rfl)
  | window id change => exact congrArg (·, none) (since_updateWorld past machine fun _ _ => rfl)
  | stage change => exact congrArg (·, none) (since_updateWorld past machine fun _ _ => rfl)
  | clearFade => exact congrArg (·, none) (since_updateWorld past machine fun _ _ => rfl)
  | choreography walks frames token =>
      exact congrArg (·, none) (since_updateWorld past machine fun _ _ => rfl)
  | startLane id priority entry script onStop => rfl
  | recordMain id priority entry => rfl

theorem since_performAll (effects : List Effect) :
    Effect.performAll (setting.withBudget budget) (machine.since past) effects =
      outcomeSince past (Effect.performAll setting machine effects) := by
  induction effects generalizing machine with
  | nil => rfl
  | cons effect rest ih =>
      unfold Effect.performAll
      rw [since_perform]
      obtain ⟨next, error⟩ := effect.perform setting machine
      cases error with
      | none => exact ih next
      | some error => rfl

theorem since_makeRequest (id : EntityId) (priority ip next : Nat) (lane : Lane)
    (request : Request) (reason : PauseReason) :
    (machine.since past).makeRequest (setting.withBudget budget) id priority ip next lane request
        reason =
      outcomeSince past
        (machine.makeRequest setting id priority ip next lane request reason) := by
  unfold makeRequest
  dsimp only
  rw [since_request]
  generalize machine.request setting request _ = made
  obtain ⟨completion, asked⟩ := made
  cases completion with
  | deferred =>
      dsimp only
      rw [since_setAwaitedWindow]
      rfl
  | immediate value =>
      dsimp only
      rw [since_setAwaitedWindow, since_settle]
      obtain ⟨settled, error⟩ := (asked.setAwaitedWindow reason false).settle setting reason value
      cases error with
      | none => rfl
      | some error => exact congrArg (·, Turnover.released) (since_giveUp ..)

theorem since_conclude (id : EntityId) (priority ip next : Nat) (lane : Lane) (ending : Ending) :
    (machine.since past).conclude (setting.withBudget budget) id priority ip next lane ending =
      outcomeSince past (machine.conclude setting id priority ip next lane ending) := by
  cases ending with
  | stop =>
      simp only [conclude, since_updateLane, since_complete]
      rfl
  | handOver level script => exact since_passOn ..
  | request request reason => exact since_makeRequest ..
  | fault error => exact congrArg (·, Turnover.released) (since_giveUp ..)
  | _ => rfl

theorem since_carryOut (id : EntityId) (priority ip next : Nat) (lane : Lane) (plan : Plan) :
    (machine.since past).carryOut (setting.withBudget budget) id priority ip next lane plan =
      outcomeSince past (machine.carryOut setting id priority ip next lane plan) := by
  cases plan with
  | retry entries =>
      simp only [carryOut, since_noteAll, since_updateLane]
      rfl
  | act effects ending =>
      simp only [carryOut]
      rw [since_performAll]
      obtain ⟨next, error⟩ := Effect.performAll setting machine effects
      cases error with
      | none => exact since_conclude ..
      | some error => exact congrArg (·, Turnover.released) (since_giveUp ..)

/-- What a machine has behind it stands behind the veil. -/
theorem sceneOf_since (id : EntityId) (priority ip : Nat) (lane : Lane) :
    (machine.since past).sceneOf (setting.withBudget budget) id priority ip lane =
      (machine.sceneOf setting id priority ip lane).behind
        ⟨machine.session.memory.scratch, budget, past.starved⟩ := by
  have session : machine.session.withScratch machine.session.memory.scratch = machine.session :=
    congrArg (fun memory => { machine.session with memory }) (Memory.eq_withScratch rfl).symm
  unfold sceneOf Scene.behind
  rw [session]
  rfl

theorem since_execute (id : EntityId) (priority ip : Nat) (lane : Lane) {reading : Reading Plan}
    {cursor : Cursor}
    (veiled : ∀ scene veil, reading (scene.behind veil) cursor = reading scene cursor) :
    (machine.since past).execute (setting.withBudget budget) id priority ip lane reading cursor =
      outcomeSince past (machine.execute setting id priority ip lane reading cursor) := by
  unfold execute
  rw [sceneOf_since, veiled]
  split
  · exact congrArg (·, Turnover.released) (since_giveUp ..)
  · exact since_carryOut ..

/-- A step does the same whatever the budget is, and adds to what lies behind it. -/
theorem step_since (id : EntityId) (priority : Nat) :
    (machine.since past).step (setting.withBudget budget) id priority =
      outcomeSince past (machine.step setting id priority) := by
  have source : (setting.withBudget budget).source = setting.source := rfl
  unfold step
  rw [lane?_since, source]
  split
  · rfl
  · split
    · split
      · exact congrArg (·, Turnover.released) (since_giveUp ..)
      · next byte reading cursor fetched =>
          obtain ⟨stands, planned, rfl⟩ := fetch_eq_ok.mp fetched
          obtain ⟨op, rfl, known⟩ := planOfByte?_eq_some.mp planned
          obtain ⟨inside, -⟩ := Array.getElem?_eq_some_iff.mp stands
          refine since_execute setting budget past (machine.note _) id priority _ _
            fun scene veil => ?_
          obtain ⟨_, _, follows⟩ := op.agrees scene known
          exact follows.veiled veil inside
    · split
      · exact congrArg (·, Turnover.released) (since_giveUp ..)
      · next cursor moved =>
          obtain ⟨inside, rfl⟩ := Cursor.moveTo_eq_ok.mp moved
          exact since_execute setting budget past machine id priority _ _
            fun scene veil => (Continuation.plan_takes _).veiled veil inside
    · rfl

/-! ## What a step leaves of the past -/

/-- The machine with nothing behind it but its counter. -/
theorem since_self : machine.since ⟨[], machine.world.starved⟩ = machine := by
  simp only [since, List.append_nil]
  rfl

/-- No step looks at the budget. -/
theorem step_withBudget (id : EntityId) (priority : Nat) :
    machine.step (setting.withBudget budget) id priority = machine.step setting id priority := by
  have same := step_since setting budget ⟨[], machine.world.starved⟩ machine id priority
  have plain := step_since setting setting.config.opsPerTick ⟨[], machine.world.starved⟩ machine id
    priority
  rw [since_self] at same plain
  rw [same, ← plain]
  rfl

/-- No step counts a turn that used its budget up. -/
theorem starved_step (id : EntityId) (priority : Nat) :
    (machine.step setting id priority).1.world.starved = machine.world.starved := by
  have same := step_since setting setting.config.opsPerTick ⟨[], machine.world.starved⟩ machine id
    priority
  rw [since_self] at same
  exact congrArg (fun outcome : Machine σ × Turnover => outcome.1.world.starved) same

/-! ## Machines that differ in used-up turns -/

/-- A machine with nothing behind it at all. -/
def blank : Machine σ :=
  { machine with world := machine.world.withStarved 0, journal := [] }

theorem since_blank : machine.blank.since ⟨machine.journal, machine.world.starved⟩ = machine := rfl

end Machine

/-- Whether an entry of the journal tells of a turn that used its budget up. -/
def Entry.isStarvation : Entry → Bool
  | .starved .. => true
  | _ => false

namespace Machine

variable {σ : Type}

/-- Everything about a machine but the turns that used their budget up. -/
def unstarved (machine : Machine σ) : Machine σ :=
  { machine with
    world := machine.world.withStarved 0
    journal := machine.journal.filter (!·.isStarvation) }

variable {setting : Setting σ} {id : EntityId} {priority : Nat} {first second : Machine σ}

theorem unstarved_since {journal other : List Entry} (starved counted : Nat)
    (same : journal.filter (!·.isStarvation) = other.filter (!·.isStarvation))
    (machine : Machine σ) :
    (machine.since ⟨journal, starved⟩).unstarved = (machine.since ⟨other, counted⟩).unstarved := by
  simp only [unstarved, since, List.filter_append, same]
  rfl

variable (setting id priority) in
/-- Machines that differ in nothing but used-up turns take the same step. -/
theorem step_of_unstarved (same : first.unstarved = second.unstarved) :
    ((first.step setting id priority).1.unstarved, (first.step setting id priority).2) =
      ((second.step setting id priority).1.unstarved, (second.step setting id priority).2) := by
  have blank : first.blank = second.blank :=
    congrArg (fun machine : Machine σ => { machine with journal := [] }) same
  have journal : first.journal.filter (!·.isStarvation) =
      second.journal.filter (!·.isStarvation) := congrArg Machine.journal same
  have one := step_since setting setting.config.opsPerTick ⟨first.journal, first.world.starved⟩
    first.blank id priority
  have two := step_since setting setting.config.opsPerTick ⟨second.journal, second.world.starved⟩
    second.blank id priority
  rw [since_blank] at one two
  have plain : setting.withBudget setting.config.opsPerTick = setting := rfl
  rw [plain] at one two
  rw [one, two, blank]
  simp only [outcomeSince]
  rw [unstarved_since _ _ journal]

/-- Machines that differ in nothing but used-up turns run on in the same way, with whatever budget
the journal may name. -/
theorem runLane_of_unstarved (same : first.unstarved = second.unstarved)
    (named other budget : Nat) :
    let one := first.runLane (setting.withBudget named) id priority budget
    let two := second.runLane (setting.withBudget other) id priority budget
    (one.1.unstarved, one.2) = (two.1.unstarved, two.2) := by
  induction budget generalizing first second with
  | zero => exact congrArg (·, Turnover.holding) same
  | succ budget ih =>
      have stepped := step_of_unstarved setting id priority same
      revert stepped
      simp only [runLane, step_withBudget]
      obtain ⟨next, turnover⟩ := first.step setting id priority
      obtain ⟨after, ended⟩ := second.step setting id priority
      intro stepped
      obtain ⟨left, rfl⟩ := Prod.mk.inj stepped
      cases turnover with
      | goOn => exact ih left
      | holding => exact congrArg (·, Turnover.holding) left
      | released => exact congrArg (·, Turnover.released) left

/-! ## Runs that are cut in two -/

/-- Whether a lane uses its budget up: each of so many instructions is followed by another one. -/
def usesUp (setting : Setting σ) (id : EntityId) (priority : Nat) : Nat → Machine σ → Bool
  | 0, _ => true
  | budget + 1, machine =>
      match machine.step setting id priority with
      | (machine, .goOn) => usesUp setting id priority budget machine
      | _ => false

variable (setting id priority) in
/-- The counter goes up exactly when a budget is used up. -/
theorem starved_runLane (machine : Machine σ) (named budget : Nat) :
    (machine.runLane (setting.withBudget named) id priority budget).1.world.starved =
      machine.world.starved + (machine.usesUp setting id priority budget).toNat := by
  induction budget generalizing machine with
  | zero => rfl
  | succ budget ih =>
      have kept := starved_step setting machine id priority
      revert kept
      simp only [runLane, usesUp, step_withBudget]
      obtain ⟨next, turnover⟩ := machine.step setting id priority
      intro kept
      cases turnover with
      | goOn => exact kept ▸ ih next
      | holding => exact kept
      | released => exact kept

variable (setting id priority) in
/-- A run that is cut goes on where it was cut. -/
theorem runLane_add (machine : Machine σ) (whole one two first second : Nat) :
    let all := machine.runLane (setting.withBudget whole) id priority (first + second)
    let cut := machine.runLane (setting.withBudget one) id priority first
    let parted := if machine.usesUp setting id priority first then
      cut.1.runLane (setting.withBudget two) id priority second else cut
    (parted.1.unstarved, parted.2) = (all.1.unstarved, all.2) := by
  induction first generalizing machine with
  | zero =>
      rw [Nat.zero_add]
      refine runLane_of_unstarved ?_ two whole second
      rfl
  | succ first ih =>
      rw [Nat.add_right_comm]
      simp only [runLane, usesUp, step_withBudget]
      obtain ⟨next, turnover⟩ := machine.step setting id priority
      cases turnover with
      | goOn => exact ih next
      | holding => rfl
      | released => rfl

/-- A run of a lane with a budget. -/
def runOnce (setting : Setting σ) (id : EntityId) (priority budget : Nat) (machine : Machine σ) :
    Machine σ × Turnover :=
  machine.runLane (setting.withBudget budget) id priority budget

/-- A run of a lane with a budget; if it has used that up, which is counted, another one at once. -/
def runTwice (setting : Setting σ) (id : EntityId) (priority first second : Nat)
    (machine : Machine σ) : Machine σ × Turnover :=
  let ended := machine.runOnce setting id priority first
  if ended.1.world.starved = machine.world.starved then ended
  else ended.1.runOnce setting id priority second

theorem runTwice_eq (setting : Setting σ) (id : EntityId) (priority first second : Nat)
    (machine : Machine σ) :
    let whole := machine.runOnce setting id priority (first + second)
    let parted := machine.runTwice setting id priority first second
    (parted.1.unstarved, parted.2) = (whole.1.unstarved, whole.2) := by
  have cut := runLane_add setting id priority machine (first + second) first second first second
  have counted := starved_runLane setting id priority machine first first
  cases used : machine.usesUp setting id priority first with
  | true =>
      rw [used] at counted cut
      have apart : (machine.runOnce setting id priority first).1.world.starved ≠
          machine.world.starved := by
        rw [runOnce, counted]
        exact Nat.succ_ne_self _
      simp only [runTwice, if_neg apart]
      exact cut
  | false =>
      rw [used] at counted cut
      have same : (machine.runOnce setting id priority first).1.world.starved =
          machine.world.starved := counted
      simp only [runTwice, if_pos same]
      exact cut

/-- Budgets only cut runs in two.

In every state, a lane that runs with one budget and, if it has used that up, at once with a second
one comes to what it comes to with both budgets in one: to the same world, session, random numbers
and host, with the same line of the journal for every instruction, and with the same outcome of its
turn.  Only the counter of used-up turns and the lines that tell of them differ.

The host was told and asked the same; that is so for a host that keeps a record of everything. -/
theorem budget_only_cuts (setting : Setting σ) (machine : Machine σ) (id : EntityId)
    (priority first second : Nat) :
    let whole := machine.runOnce setting id priority (first + second)
    let parted := machine.runTwice setting id priority first second
    parted.1.unstarved = whole.1.unstarved ∧ parted.2 = whole.2 ∧
    (machine.runOnce setting id priority first).1.world.starved =
      machine.world.starved + (machine.usesUp setting id priority first).toNat ∧
    (machine.tapped.runOnce setting.tapped id priority (first + second)).1.see Prod.fst = whole.1 ∧
    (machine.tapped.runTwice setting.tapped id priority first second).1.host.2 =
      (machine.tapped.runOnce setting.tapped id priority (first + second)).1.host.2 := by
  intro whole parted
  obtain ⟨same, ended⟩ := Prod.mk.inj (machine.runTwice_eq setting id priority first second)
  obtain ⟨heard, -⟩ := Prod.mk.inj
    (machine.tapped.runTwice_eq setting.tapped id priority first second)
  have tapped : (setting.withBudget (first + second)).tapped.host.Shows Prod.fst setting.host :=
    setting.host.tapped_shows
  have shown := through_runLane (View.shows_ofHost tapped) machine.tapped id priority
    (first + second)
  have record := congrArg (fun machine : Machine (σ × List Contact) => machine.host.2) heard
  have counted := starved_runLane setting id priority machine first first
  exact ⟨same, ended, counted, (congrArg Prod.fst shown).symm, record⟩

end Machine

end FieldMachine
