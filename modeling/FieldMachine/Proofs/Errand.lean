import FieldMachine.Proofs.Docket

/-!
# What is kept for those who wait

Beside its lanes a world keeps the tokens of activities, and those that were
given back (`World.errands`); the other tokens are with the host.  The affairs of
a machine are its errands and so much of its host as notices leave alone
(`Host.Conceals`).

Almost nothing that a machine does concerns its affairs.  An instruction leaves
there what its lane waits with (`Machine.step_leaves`): the token of a
choreography, or whatever the host does with a request.
-/

namespace FieldMachine

set_option autoImplicit false

/-! ## Errands -/

/-- What a world keeps of those who wait, beside its lanes. -/
structure Errands where
  /-- The tokens of the activities that take a step every frame. -/
  working : List ResumeToken
  /-- The tokens of the activities that were queued in this frame. -/
  queued : List ResumeToken
  /-- What was given back for the next tick. -/
  returned : List (ResumeToken × Option UInt16)

/-- The tokens of all activities. -/
def Errands.dances (errands : Errands) : List ResumeToken := errands.working ++ errands.queued

/-- What a world keeps of those who wait. -/
def World.errands (world : World) : Errands :=
  { working := world.activities.filterMap Activity.wakes?
    queued := world.spawned.toList.filterMap Activity.wakes?
    returned := world.pending }

namespace World

variable (world : World)

theorem errands_wake (token : ResumeToken) : (world.wake token).1.errands = world.errands := by
  unfold wake
  split <;> rfl

/-- An activity is queued with its token. -/
theorem errands_spawn (activity : Activity) :
    (world.spawn activity).errands =
      { world.errands with queued := world.errands.queued ++ activity.wakes?.toList } := by
  unfold errands spawn
  simp only [Array.toList_push, List.filterMap_append]
  cases known : activity.wakes? <;> simp [known]

theorem errands_spawn_silent {activity : Activity} (silent : activity.wakes? = none) :
    (world.spawn activity).errands = world.errands := by
  rw [errands_spawn, silent]
  simp

theorem errands_beginFade (color : FadeColor) (start target step : UInt16)
    (subtractive : Bool) :
    (world.beginFade color start target step subtractive).errands = world.errands := by
  unfold beginFade
  dsimp only
  split
  · exact errands_spawn_silent _ rfl
  · rfl

theorem errands_beginScroll (target : ScrollTarget) (frames : UInt16) (easing : Easing) :
    (world.beginScroll target frames easing).errands = world.errands := by
  unfold beginScroll
  dsimp only
  split
  · rfl
  · exact errands_spawn_silent _ rfl

theorem errands_beginShift (id : EntityId) (goal : Displacement) (frames : UInt16)
    (easing : Easing) : (world.beginShift id goal frames easing).errands = world.errands := by
  unfold beginShift
  split
  · rfl
  · dsimp only
    split
    · rfl
    · exact errands_spawn_silent _ rfl

end World

theorem Scroll.errands_run (scroll : Scroll) (frame : Nat) (world : World) :
    (scroll.run frame world).1.errands = world.errands := by
  obtain ⟨camera, same⟩ := scroll.world_run frame world
  rw [same]
  rfl

theorem Fading.errands_run (fading : Fading) (frame : Nat) (world : World) :
    (fading.run frame world).1.errands = world.errands := by
  obtain ⟨fade, same⟩ := fading.world_run frame world
  rw [same]
  rfl

theorem Shift.errands_run (shift : Shift) (world : World) :
    (shift.run world).1.errands = world.errands := by
  rcases shift.world_run world with same | ⟨change, same⟩
  · rw [same]
  · rw [same]
    rfl

theorem Walk.errands_runAll (share : Float32) (walks : List Walk) (world : World) :
    (Walk.runAll share walks world).1.errands = world.errands := by
  induction walks generalizing world with
  | nil => rfl
  | cons walk rest ih =>
      unfold Walk.runAll
      dsimp only
      rw [ih]
      rcases walk.world_run share world with same | ⟨change, same⟩
      · rw [same]
      · rw [same]
        rfl

/-! ## The entry of the field -/

namespace Machine

section Entry

variable {σ Item : Type} {setting : Setting σ} {gone : EntityId → Prop}
  {tokenOf : Item → ResumeToken} {holds : Item → Lane → Prop} {dances : List ResumeToken}
  {requests : List Item} {machine : Machine σ}

variable (setting) in
/-- When a field is about to be entered, nobody waits. -/
theorem enter_register (session : Session) (random : Random) (host : σ) :
    (enter setting session random host).world.roster.Register (fun _ => False) tokenOf holds []
      [] := by
  refine .nothing fun id priority lane here => ?_
  rw [World.lane?_ofSection here]
  exact ⟨rfl, rfl⟩

theorem start_register
    (register : machine.world.roster.Register gone tokenOf holds dances requests) :
    machine.start.world.roster.Register gone tokenOf holds dances requests := by
  have each (ids : List EntityId) (machine : Machine σ)
      (register : machine.world.roster.Register gone tokenOf holds dances requests) :
      (ids.foldl (fun machine id => (machine.startScript id 0 0 none).1)
        machine).world.roster.Register gone tokenOf holds dances requests := by
    induction ids generalizing machine with
    | nil => exact register
    | cons id rest ih => exact ih _ (register.begins (machine.startScript_begins id 0 0))
  exact each machine.world.present _ register

end Entry

end Machine

/-! ## Activities and their tokens -/

namespace Activity

variable {σ : Type}

/-- What is left of an activity has the same token, and if nothing is left, the token was fired. -/
theorem run_left (setting : Setting σ) (frame : Nat) (activity : Activity) (machine : Machine σ) :
    ((activity.run setting frame machine).2.bind wakes? = activity.wakes? ∧
      (activity.run setting frame machine).1.world.roster = machine.world.roster) ∨
    ∃ token, activity.wakes? = some token ∧ (activity.run setting frame machine).2 = none ∧
      (activity.run setting frame machine).1.world.roster = machine.world.roster.wake token := by
  cases activity with
  | scroll moving =>
      refine .inl ⟨?_, ?_⟩
      · unfold run
        dsimp only
        cases (moving.run frame machine.world).2.1 <;> rfl
      · rw [← moving.roster_run frame machine.world]
        unfold run
        dsimp only
        cases (moving.run frame machine.world).2.2 <;> rfl
  | fade fading =>
      refine .inl ⟨?_, ?_⟩
      · unfold run
        dsimp only
        cases (fading.run frame machine.world).2.1 <;> rfl
      · rw [← fading.roster_run frame machine.world]
        unfold run
        dsimp only
        cases (fading.run frame machine.world).2.2 <;> rfl
  | shift moving =>
      refine .inl ⟨?_, moving.roster_run machine.world⟩
      unfold run
      dsimp only
      cases (moving.run machine.world).2 <;> rfl
  | choreography dance =>
      have walked := Walk.roster_runAll (elapsedShare (dance.step + 1) dance.frames) dance.walks
        machine.world
      unfold run
      dsimp only
      split
      · refine .inr ⟨dance.token, rfl, rfl, ?_⟩
        rw [Machine.roster_wake, Machine.world_note, walked]
      · exact .inl ⟨rfl, walked⟩
  | countdown timer =>
      unfold run
      dsimp only
      split
      · cases fired : timer.wake with
        | none => exact .inl ⟨fired.symm, congrArg World.roster (Machine.world_notify ..)⟩
        | some token =>
            refine .inr ⟨token, fired, rfl, ?_⟩
            simp only [Machine.world_notify, Machine.roster_wake]
      · exact .inl ⟨rfl, congrArg World.roster (Machine.world_notify ..)⟩

end Activity

namespace Machine

/-- The tokens of some activities are those of the first one and those of the others. -/
theorem wakes?_cons (activity : Activity) (rest : List Activity) :
    (activity :: rest).filterMap Activity.wakes? =
      activity.wakes?.toList ++ rest.filterMap Activity.wakes? := by
  cases own : activity.wakes? <;> simp [own]

/-- What is left of an activity has one token at most. -/
theorem wakes?_toList {left : Option Activity} {token : Option ResumeToken}
    (same : left.bind Activity.wakes? = token) :
    left.toList.filterMap Activity.wakes? = token.toList := by
  rw [← same]
  cases left with
  | none => rfl
  | some activity => exact (wakes?_cons activity []).trans (List.append_nil _)

/-- While activities take their steps, the tokens of those that are left are registered. -/
theorem runActivities_register {σ Item : Type} (setting : Setting σ) (frame : Nat)
    {gone : EntityId → Prop} {tokenOf : Item → ResumeToken} {holds : Item → Lane → Prop}
    {requests : List Item} {machine : Machine σ} {activities : List Activity}
    {before others : List ResumeToken}
    (register : machine.world.roster.Register gone tokenOf holds
      (before ++ (activities.filterMap Activity.wakes? ++ others)) requests) :
    (machine.runActivities setting frame activities).1.world.roster.Register gone tokenOf holds
      (before ++ ((machine.runActivities setting frame activities).2.filterMap Activity.wakes?
        ++ others)) requests := by
  induction activities generalizing machine before with
  | nil => exact register
  | cons activity rest ih =>
      rw [wakes?_cons, List.append_assoc] at register
      unfold runActivities
      dsimp only
      rw [List.filterMap_append, List.append_assoc, ← List.append_assoc before]
      refine ih ?_
      rw [List.append_assoc]
      rcases activity.run_left setting frame machine with ⟨same, kept⟩ | ⟨token, own, gone, fired⟩
      · have tokens := wakes?_toList same
        rw [tokens, kept]
        exact register
      · rw [own] at register
        rw [gone, fired]
        exact register.wake_dance

end Machine

/-! ## The affairs of a machine -/

/-- No notice changes what is seen of the host. -/
def Host.Conceals {σ β : Type} (host : Host σ) (view : σ → β) : Prop :=
  ∀ notice state, view (host.notify notice state).1 = view state

namespace Machine

variable {σ β : Type} {setting : Setting σ} {view : σ → β} {machine : Machine σ}

/-- What a machine keeps of those who wait, and what is seen of its host. -/
def affairs (view : σ → β) (machine : Machine σ) : Errands × β :=
  (machine.world.errands, view machine.host)

section Apart

variable (machine)

theorem affairs_withWorld {world : World} (same : world.errands = machine.world.errands) :
    { machine with world }.affairs view = machine.affairs view := by
  simp only [affairs, same]

theorem affairs_withRandom (random : Random) :
    { machine with random }.affairs view = machine.affairs view := rfl

theorem affairs_note (entry : Entry) : (machine.note entry).affairs view = machine.affairs view :=
  rfl

theorem affairs_foldl {α : Type} {change : Machine σ → α → Machine σ}
    (each : ∀ machine item, (change machine item).affairs view = machine.affairs view)
    (items : List α) : (items.foldl change machine).affairs view = machine.affairs view :=
  List.foldlRecOn (motive := fun reached => reached.affairs view = machine.affairs view) items
    change rfl fun reached same item _ => (each reached item).trans same

theorem affairs_noteAll (entries : List Entry) :
    (entries.foldl note machine).affairs view = machine.affairs view :=
  machine.affairs_foldl affairs_note entries

theorem affairs_noteHost (lines : List LogLine) :
    (machine.noteHost lines).affairs view = machine.affairs view :=
  machine.affairs_foldl (fun machine line => machine.affairs_note (.host line)) lines

theorem affairs_wake (token : ResumeToken) :
    (machine.wake token).1.affairs view = machine.affairs view := by
  unfold wake
  split
  · rfl
  · exact machine.affairs_withWorld (machine.world.errands_wake token)

theorem affairs_complete (onStop : Option ResumeToken) :
    (machine.complete onStop).affairs view = machine.affairs view := by
  cases onStop with
  | none => rfl
  | some token => exact machine.affairs_wake token

theorem affairs_startScript (id : EntityId) (priority script : Nat)
    (onStop : Option ResumeToken) :
    (machine.startScript id priority script onStop).1.affairs view = machine.affairs view := by
  unfold startScript
  split
  · rfl
  · split <;> rfl

theorem affairs_start : machine.start.affairs view = machine.affairs view :=
  (affairs_foldl _ (fun machine id => machine.affairs_startScript id 0 0 none) _).trans rfl

theorem affairs_remove (index : Nat) :
    (machine.remove index).1.affairs view = machine.affairs view := by
  unfold remove
  split
  · rfl
  · exact (affairs_foldl _ affairs_wake _).trans rfl

theorem affairs_setAwaitedWindow (reason : PauseReason) (isOpen : Bool) :
    (machine.setAwaitedWindow reason isOpen).affairs view = machine.affairs view := by
  unfold setAwaitedWindow
  split <;> rfl

theorem affairs_passOn (id : EntityId) (priority : Nat) (lane : Lane) (level script : Nat) :
    (machine.passOn id priority lane level script).1.affairs view = machine.affairs view := by
  unfold passOn
  dsimp only
  rw [affairs_startScript, affairs_complete]
  rfl

end Apart

section Operations

variable (conceals : setting.host.Conceals view) (machine)

include conceals

theorem affairs_notify (notice : Notice) :
    (machine.notify setting notice).affairs view = machine.affairs view :=
  (affairs_noteHost _ _).trans (congrArg (machine.world.errands, ·) (conceals notice machine.host))

theorem affairs_putCell (bank address : UInt8) (value : UInt16) :
    (machine.putCell setting bank address value).affairs view = machine.affairs view := by
  unfold putCell
  dsimp only
  split
  · exact affairs_notify _ conceals _
  · rfl

theorem affairs_writeCell (bank address : UInt8) (value : UInt16) :
    (machine.writeCell setting bank address value).1.affairs view = machine.affairs view := by
  unfold writeCell
  split
  · rfl
  · exact machine.affairs_putCell conceals bank address value

theorem affairs_store (selector address : UInt8) (value : UInt16) :
    (machine.store setting selector address value).1.affairs view = machine.affairs view := by
  unfold store
  split
  · rfl
  · exact machine.affairs_writeCell conceals selector address value

theorem affairs_giveUp (id : EntityId) (priority ip : Nat) (error : ExecError) :
    (machine.giveUp setting id priority ip error).affairs view = machine.affairs view := by
  unfold giveUp
  exact affairs_notify _ conceals _

theorem affairs_settle (reason : PauseReason) (value : Option UInt16) :
    (machine.settle setting reason value).1.affairs view = machine.affairs view := by
  unfold settle
  split
  · exact machine.affairs_store conceals _ _ _
  · rfl
  · rfl

/-- A plain effect does not concern the affairs. -/
theorem affairs_perform {effect : Effect} (plain : effect.isPlain) :
    (effect.perform setting machine).1.affairs view = machine.affairs view := by
  cases effect with
  | store selector address value => exact machine.affairs_store conceals selector address value
  | drawByte selector address => exact affairs_store _ conceals selector address _
  | reseed seed => exact machine.affairs_withRandom (.ofSeed seed)
  | party change => exact affairs_notify _ conceals _
  | background area mask => exact affairs_notify _ conceals _
  | livePalette id palette => exact affairs_notify _ conceals _
  | lockTriangle triangle locked => exact affairs_notify _ conceals _
  | notify notice => exact affairs_notify _ conceals _
  | fade color start target step subtractive =>
      exact machine.affairs_withWorld (machine.world.errands_beginFade ..)
  | scroll target frames easing =>
      exact machine.affairs_withWorld (machine.world.errands_beginScroll ..)
  | shift id goal frames easing =>
      exact machine.affairs_withWorld (machine.world.errands_beginShift ..)
  | choreography walks frames token => cases plain
  | _ => rfl

theorem affairs_performAll {effects : List Effect} (plain : ∀ effect ∈ effects, effect.isPlain) :
    (Effect.performAll setting machine effects).1.affairs view = machine.affairs view := by
  induction effects generalizing machine with
  | nil => rfl
  | cons effect rest ih =>
      rw [List.forall_mem_cons] at plain
      have first := machine.affairs_perform conceals plain.1
      unfold Effect.performAll
      split
      · next next done =>
          rw [done] at first
          exact (ih next plain.2).trans first
      · next next error failed =>
          rw [failed] at first
          exact first

/-- Neither does the choice of another player. -/
theorem affairs_performAll_lead {effects : List Effect}
    (plain : ∀ effect ∈ effects, effect.isPlain) (target : EntityId) :
    (Effect.performAll setting machine
      (effects ++ [.stage (.setPlayer target)])).1.affairs view = machine.affairs view := by
  have kept := machine.affairs_performAll conceals plain
  rw [performAll_append]
  split
  · next done taken =>
      rw [taken] at kept
      exact kept
  · exact kept

theorem affairs_applyResume (token : ResumeToken) (answer : Option UInt16) :
    (machine.applyResume setting token answer).affairs view = machine.affairs view := by
  have woken : (machine.wake token).1.affairs view = machine.affairs view :=
    machine.affairs_wake token
  unfold applyResume
  split
  · next waked unknown =>
      rw [unknown] at woken
      exact woken
  · next waked reason known =>
      rw [known] at woken
      have closed := (waked.affairs_setAwaitedWindow reason false).trans woken
      dsimp only
      split
      · next window bank address value =>
          have written := (waked.setAwaitedWindow (.ask window bank address) false).affairs_writeCell
            conceals bank address value
          split
          · next done taken =>
              rw [taken] at written
              exact written.trans closed
          · next done error taken =>
              rw [taken] at written
              exact written.trans closed
      · exact closed
      · exact closed

theorem affairs_runActivity (frame : Nat) (activity : Activity) :
    (activity.run setting frame machine).1.affairs view = machine.affairs view := by
  have moved {world : World} (same : world.errands = machine.world.errands) :
      { machine with world }.affairs view = machine.affairs view := machine.affairs_withWorld same
  cases activity with
  | scroll moving =>
      have ran := moved (moving.errands_run frame machine.world)
      unfold Activity.run
      dsimp only
      cases (moving.run frame machine.world).2.2 <;> exact ran
  | fade fading =>
      have ran := moved (fading.errands_run frame machine.world)
      unfold Activity.run
      dsimp only
      cases (fading.run frame machine.world).2.2 <;> exact ran
  | shift moving => exact moved (moving.errands_run machine.world)
  | choreography dance =>
      have walked := moved
        (Walk.errands_runAll (elapsedShare (dance.step + 1) dance.frames) dance.walks machine.world)
      unfold Activity.run
      dsimp only
      split
      · exact (affairs_wake _ _).trans walked
      · exact walked
  | countdown timer =>
      have told := machine.affairs_notify conceals (.countdown timer.id frame)
      unfold Activity.run
      dsimp only
      split
      · cases timer.wake with
        | none => exact told
        | some token =>
            exact (affairs_notify _ conceals _).trans ((affairs_wake _ token).trans told)
      · exact told

theorem affairs_runActivities (frame : Nat) (activities : List Activity) :
    (machine.runActivities setting frame activities).1.affairs view = machine.affairs view := by
  induction activities generalizing machine with
  | nil => rfl
  | cons activity rest ih => exact (ih _).trans (machine.affairs_runActivity conceals ..)

end Operations

/-! ## Instructions -/

section Steps

variable {after : Machine σ} {id : EntityId} {priority : Nat} {lane later : Lane}

/-- The request to which the instruction comes on which a lane stands. -/
def Requests (machine : Machine σ) (setting : Setting σ) (id : EntityId) (priority : Nat)
    (lane : Lane) (request : Request) (reason : PauseReason) (next : Nat) : Prop :=
  ∃ ip effects, lane.ip? = some ip ∧
    workOut setting.source.code (machine.sceneOf setting id priority ip lane) ip lane.suspended? =
      .ok (.act effects (.request request reason), next)

/-- A request that a lane has made of its host, as far as that can be seen. -/
structure Made (setting : Setting σ) (view : σ → β) (id : EntityId) (priority : Nat) (lane : Lane)
    (machine after : Machine σ) (later : Lane) (request : Request) (reason : PauseReason)
    (next : Nat) (asked : σ) : Prop where
  asks : ∃ op : Opcode, op.Asks request reason
  before : view asked = view machine.host
  errands : after.world.errands = machine.world.errands
  host : view after.host = view (setting.host.request request (lane.token id priority) asked).2.1
  /-- The lane waits if its request is left open, and goes on otherwise. -/
  goesOn : match (setting.host.request request (lane.token id priority) asked).1 with
    | .deferred => later = lane.pause next reason
    | .immediate _ => later.pauseReason? = none

/-- A lane has carried out an instruction, and what it waits with now was left.  The instruction may
have made one of the requests that `may` tells. -/
inductive Leaves (setting : Setting σ) (view : σ → β) (may : Request → PauseReason → Nat → Prop)
    (id : EntityId) (priority : Nat) (lane : Lane) (machine after : Machine σ) (later : Lane) : Prop
  | quiet (unasked : later.requesting id priority = [])
      (left : after.affairs view =
        ({ machine.world.errands with
          queued := machine.world.errands.queued ++ later.dancing id priority },
          view machine.host))
  | request {request : Request} {reason : PauseReason} {next : Nat} {asked : σ}
      (allowed : may request reason next)
      (made : Made setting view id priority lane machine after later request reason next asked)

variable {may : Request → PauseReason → Nat → Prop}

namespace Leaves

/-- A lane that waits for neither leaves nothing. -/
theorem nothing (undanced : later.dancing id priority = [])
    (unasked : later.requesting id priority = [])
    (same : after.affairs view = machine.affairs view) :
    Leaves setting view may id priority lane machine after later := by
  refine .quiet unasked ?_
  rw [same, undanced, List.append_nil]
  rfl

theorem running (rests : later.pauseReason? = none)
    (same : after.affairs view = machine.affairs view) :
    Leaves setting view may id priority lane machine after later :=
  .nothing (Lane.dancing_of_running rests) (Lane.requesting_of_running rests) same

/-- What was done before the lane went on did not concern the affairs. -/
theorem of_affairs {before : Machine σ}
    (leaves : Leaves setting view may id priority lane machine after later)
    (same : machine.affairs view = before.affairs view) :
    Leaves setting view may id priority lane before after later := by
  obtain ⟨errands, host⟩ := Prod.mk.inj same
  cases leaves with
  | quiet unasked left => exact .quiet unasked (by rw [left, errands, host])
  | request allowed made =>
      exact .request allowed
        { made with
          before := made.before.trans host
          errands := made.errands.trans errands }

end Leaves

theorem lane?_giveUp (here : machine.world.lane? id priority = some lane) (ip : Nat)
    (error : ExecError) :
    (machine.giveUp setting id priority ip error).world.lane? id priority =
      some (lane.abort ip) := by
  rw [← World.lane?_roster, roster_giveUp _ rfl here, Roster.lane?_fault, Roster.lane?_put_self]

variable (setting) in
/-- Effects that spare all lanes leave the lane as it stands. -/
theorem lane?_performAll {effects : List Effect} (spared : ∀ effect ∈ effects, effect.sparesLanes)
    (here : machine.world.lane? id priority = some lane) :
    (Effect.performAll setting machine effects).1.world.lane? id priority = some lane := by
  rw [← World.lane?_roster, Effect.roster_performAll setting machine spared]
  exact here

/-- A script that is started on another lane leaves the lane as it stands. -/
theorem lane?_startLane {target : EntityId} {entity : Entity} {level script entry : Nat}
    (here : machine.world.lane? id priority = some lane) (busy : lane.isBusy)
    (known : machine.world.entity? target = some entity)
    (admitted : entity.admission level script = .ok entry) (onStop : Option ResumeToken) :
    (machine.updateLane target level (·.start entry script onStop)).world.lane? id priority =
      some lane := by
  obtain ⟨free, admits⟩ := World.admits_of_admission known admitted
  rw [← World.lane?_roster, roster_updateLane rfl admits.here]
  exact admits.lane?_put here busy _

variable (conceals : setting.host.Conceals view)

include conceals

/-- A lane that is given up waits for nothing. -/
theorem giveUp_leaves {done : Machine σ} {found : Lane}
    (here : done.world.lane? id priority = some found)
    (kept : done.affairs view = machine.affairs view) (ip : Nat) (error : ExecError) :
    ∃ later, (done.giveUp setting id priority ip error).world.lane? id priority = some later ∧
      Leaves setting view may id priority lane machine (done.giveUp setting id priority ip error)
        later :=
  ⟨_, lane?_giveUp here ip error,
    .running rfl ((done.affairs_giveUp conceals id priority ip error).trans kept)⟩

/-- A request is made of the host. -/
theorem makeRequest_leaves (ip : Nat) {next : Nat} {op : Opcode} {request : Request} {reason : PauseReason}
    (here : machine.world.lane? id priority = some lane) (asks : op.Asks request reason)
    (allowed : may request reason next) :
    ∃ later, (machine.makeRequest setting id priority ip next lane request reason).1.world.lane? id
        priority = some later ∧
      Leaves setting view may id priority lane machine
        (machine.makeRequest setting id priority ip next lane request reason).1 later := by
  have spared := world_request setting machine request (lane.token id priority)
  have heard : (machine.request setting request (lane.token id priority)).2.affairs view =
      (machine.world.errands,
        view (setting.host.request request (lane.token id priority) machine.host).2.1) :=
    affairs_noteHost _ _
  have told : (machine.request setting request (lane.token id priority)).1 =
      (setting.host.request request (lane.token id priority) machine.host).1 := rfl
  unfold Lane.token at spared heard told
  unfold makeRequest
  dsimp only
  split
  · next answered made =>
      rw [made] at spared heard told
      have waits : ((answered.setAwaitedWindow reason true).pauseLane id priority next
          reason).world.lane? id priority = some (lane.pause next reason) := by
        refine lane?_updateLane_self ?_ (·.pause next reason)
        rw [← World.lane?_roster, roster_setAwaitedWindow, spared, World.lane?_roster, here]
      obtain ⟨errands, host⟩ :=
        Prod.mk.inj ((answered.affairs_setAwaitedWindow reason true).trans heard)
      refine ⟨_, waits, .request allowed ⟨⟨op, asks⟩, rfl, errands, host, ?_⟩⟩
      unfold Lane.token
      rw [← told]
  · next value answered made =>
      rw [made] at spared heard told
      have settled : ((answered.setAwaitedWindow reason false).settle setting reason
          value).1.affairs view = _ := (affairs_settle _ conceals reason value).trans
        ((answered.affairs_setAwaitedWindow reason false).trans heard)
      have still : ((answered.setAwaitedWindow reason false).settle setting reason
          value).1.world.lane? id priority = some lane := by
        rw [← World.lane?_roster, world_settle, roster_setAwaitedWindow, spared,
          World.lane?_roster, here]
      have goesOn {later : Lane} (rests : later.pauseReason? = none) :
          match (setting.host.request request (lane.token id priority) machine.host).1 with
          | .deferred => later = lane.pause next reason
          | .immediate _ => later.pauseReason? = none := by
        unfold Lane.token
        rw [← told]
        exact rests
      split
      · next done taken =>
          rw [taken] at settled still
          obtain ⟨errands, host⟩ := Prod.mk.inj settled
          exact ⟨_, lane?_updateLane_self still _,
            .request allowed ⟨⟨op, asks⟩, rfl, errands, host, goesOn rfl⟩⟩
      · next done error taken =>
          rw [taken] at settled still
          obtain ⟨errands, host⟩ :=
            Prod.mk.inj ((done.affairs_giveUp conceals id priority ip error).trans settled)
          exact ⟨_, lane?_giveUp still ip error,
            .request allowed ⟨⟨op, asks⟩, rfl, errands, host, goesOn rfl⟩⟩

/-- A plan that concerns no other script leaves what its ending waits with. -/
theorem carryOut_leaves_of_plain {held : Ending → Prop} (ip : Nat) {next : Nat} {plan : Plan}
    (here : machine.world.lane? id priority = some lane) (plain : plan.IsPlain held)
    (pauses : ∀ reason, held (.pause reason) → reason = .fieldJump)
    (asks : ∀ request reason, held (.request request reason) →
      ∃ op : Opcode, op.Asks request reason)
    (allowed : ∀ effects request reason, plan = .act effects (.request request reason) →
      may request reason next) :
    ∃ later, (machine.carryOut setting id priority ip next lane plan).1.world.lane? id priority =
        some later ∧
      Leaves setting view may id priority lane machine
        (machine.carryOut setting id priority ip next lane plan).1 later := by
  cases plan with
  | retry entries =>
      have noted : (entries.foldl note machine).world = machine.world := world_noteAll ..
      exact ⟨_, lane?_updateLane_self (by rw [noted]; exact here) _,
        .running rfl (machine.affairs_noteAll entries)⟩
  | act effects ending =>
      have found := lane?_performAll setting
        (fun effect member => Effect.sparesLanes_of_isPlain (plain.1 effect member)) here
      have kept := machine.affairs_performAll conceals plain.1
      simp only [carryOut]
      split
      · next done taken =>
          rw [taken] at found kept
          cases ending with
          | advance => exact ⟨_, lane?_updateLane_self found _, .running rfl kept⟩
          | suspend continuation => exact ⟨_, lane?_updateLane_self found _, .running rfl kept⟩
          | pause reason =>
              obtain rfl := pauses reason plain.2
              exact ⟨_, lane?_updateLane_self found _, .nothing rfl rfl kept⟩
          | stop =>
              refine ⟨lane.finish, ?_, .running rfl ((affairs_complete _ _).trans kept)⟩
              rw [← World.lane?_roster]
              show (complete _ _).world.roster.lane? _ _ = _
              rw [roster_finish rfl found, Roster.lane?_finish_self]
          | request request reason =>
              obtain ⟨op, asked⟩ := asks request reason plain.2
              obtain ⟨later, waits, leaves⟩ :=
                makeRequest_leaves conceals ip found asked (allowed _ _ _ rfl)
              exact ⟨later, waits, leaves.of_affairs kept⟩
          | yield => exact plain.2.elim
          | handOver level script => exact plain.2.elim
          | fault error => exact plain.2.elim
      · next done error taken =>
          rw [taken] at found kept
          exact giveUp_leaves conceals found kept ip error

/-- A party that is sent on its way carries the token of the lane that waits for its arrival. -/
theorem dance_leaves (ip next : Nat) {effects : List Effect} (walks : List Walk) (frames : UInt16)
    (here : machine.world.lane? id priority = some lane)
    (spared : ∀ effect ∈ effects, effect.isPlain) :
    let plan : Plan :=
      .act (effects ++ [.choreography walks frames (lane.token id priority)]) (.pause .choreography)
    ∃ later, (machine.carryOut setting id priority ip next lane plan).1.world.lane? id priority =
        some later ∧
      Leaves setting view may id priority lane machine
        (machine.carryOut setting id priority ip next lane plan).1 later := by
  let token := lane.token id priority
  have found := lane?_performAll setting
    (fun effect member => Effect.sparesLanes_of_isPlain (spared effect member)) here
  have kept := machine.affairs_performAll conceals spared
  simp only [carryOut, performAll_append]
  cases taken : Effect.performAll setting machine effects with
  | mk done error =>
      rw [taken] at found kept
      cases error with
      | none =>
          have queued : (done.world.spawn (.choreography { walks, frames, token })).lane? id
              priority = some lane := found
          obtain ⟨errands, host⟩ := Prod.mk.inj kept
          have spawned := done.world.errands_spawn (.choreography { walks, frames, token })
          rw [errands] at spawned
          exact ⟨_, lane?_updateLane_self queued _, .quiet rfl (Prod.ext spawned host)⟩
      | some error => exact giveUp_leaves conceals found kept ip error

/-- Whatever an instruction comes to, what its lane waits with is left. -/
theorem carryOut_leaves {scene : Scene} {ip next : Nat} {plan : Plan}
    (comesTo : scene.ComesTo ip plan next) (same : machine.world = scene.world)
    (here : scene.world.lane? scene.entity scene.priority = some scene.lane)
    (active : scene.lane.isActive) (stands : scene.lane.ip? = some ip)
    (allowed : ∀ effects request reason, plan = .act effects (.request request reason) →
      may request reason next) :
    ∃ later, (machine.carryOut setting scene.entity scene.priority ip next scene.lane
        plan).1.world.lane? scene.entity scene.priority = some later ∧
      Leaves setting view may scene.entity scene.priority scene.lane machine
        (machine.carryOut setting scene.entity scene.priority ip next scene.lane plan).1 later := by
  have busy : scene.lane.isBusy := Lane.isBusy_of_isActive active
  rw [← same] at here
  cases comesTo.fits stands with
  | plain plain =>
      refine carryOut_leaves_of_plain conceals ip here plain (fun _ jumps => jumps)
        (fun request reason holdsUp => ?_) allowed
      obtain ⟨-, op, -, asks⟩ := holdsUp
      exact ⟨op, asks⟩
  | await known admitted =>
      have found := lane?_startLane here busy (same ▸ known) admitted
      exact ⟨_, lane?_updateLane_self (found _) _, .nothing rfl rfl rfl⟩
  | call known admitted =>
      have found := lane?_startLane here busy (same ▸ known) admitted
      exact ⟨_, lane?_updateLane_self (found _) _, .running rfl rfl⟩
  | dance spared => exact dance_leaves conceals ip next _ _ here spared
  | handOver level script =>
      have begins := startScript_begins
        ((machine.updateLane scene.entity scene.priority Lane.finish).complete scene.lane.onStop?)
        scene.entity level script
      rw [roster_finish rfl here] at begins
      obtain ⟨later, found, rests⟩ := begins.rests
      exact ⟨later, found, .running rests (machine.affairs_passOn ..)⟩
  | home entry =>
      have recorded := lane?_updateLane_self here fun lane => { lane with mainEntry := some entry }
      exact ⟨_, lane?_updateLane_self recorded _, .running rfl rfl⟩
  | @lost entry error strays =>
      have recorded := lane?_updateLane_self here fun lane => { lane with mainEntry := some entry }
      have kept : (machine.updateLane scene.entity scene.priority
          fun lane => { lane with mainEntry := some entry }).affairs view = machine.affairs view := rfl
      exact giveUp_leaves conceals recorded kept ip error
  | @lead effects target spared known =>
      let choice : Effect := .stage (.setPlayer target)
      have found := lane?_performAll setting
        (Effect.sparesLanes_append spared (rfl : choice.sparesLanes)) here
      have kept := machine.affairs_performAll_lead conceals spared target
      simp only [carryOut]
      split
      · next done taken =>
          rw [taken] at found kept
          exact ⟨_, lane?_updateLane_self found _, .running rfl kept⟩
      · next done error taken =>
          rw [taken] at found kept
          exact giveUp_leaves conceals found kept ip error

/-- One step of an active lane leaves what the lane waits with then. -/
theorem step_leaves (here : machine.world.lane? id priority = some lane) (active : lane.isActive) :
    ∃ later, (machine.step setting id priority).1.world.lane? id priority = some later ∧
      Leaves setting view (machine.Requests setting id priority lane) id priority lane machine
        (machine.step setting id priority).1 later := by
  obtain ⟨ip, noted, stands, journal, stepped⟩ := step_eq setting here active
  have spared : noted.world = machine.world ∧ noted.affairs view = machine.affairs view := by
    rcases journal with rfl | ⟨byte, -, rfl⟩ <;> exact ⟨rfl, rfl⟩
  have there : noted.world.lane? id priority = some lane := spared.1 ▸ here
  rw [stepped]
  split
  · next error failed =>
      exact giveUp_leaves conceals there spared.2 ip error
  · next plan next worked =>
      have comesTo : (machine.sceneOf setting id priority ip lane).ComesTo ip plan next :=
        Scene.comesTo_of_workOut worked
      have allowed (effects : List Effect) (request : Request) (reason : PauseReason)
          (same : plan = .act effects (.request request reason)) :
          machine.Requests setting id priority lane request reason next :=
        ⟨ip, effects, stands, same ▸ worked⟩
      obtain ⟨later, found, leaves⟩ :=
        carryOut_leaves conceals comesTo spared.1 here active stands allowed
      exact ⟨later, found, leaves.of_affairs spared.2⟩

end Steps

end Machine

end FieldMachine
