import FieldMachine.Proofs.Plan
import FieldMachine.Activity.Step

/-!
# The lanes of a world

Most of what goes on in a world leaves its lanes alone.  A `Roster` keeps only
what lanes depend on: the lanes themselves, the scripts that each entity can
start, and the number of lanes that were given up.  Whatever a machine does, what
it does to its lanes is one of a few changes of its roster.
-/

namespace FieldMachine

set_option autoImplicit false

/-! ## Lanes that are woken -/

namespace Lane

/-- The lane awake again, where it paused. -/
def awake (lane : Lane) : Lane :=
  match lane.status with
  | .paused ip _ onStop => { lane with status := .active ip 0 none onStop }
  | _ => lane

/-- What a token does to a lane: it wakes the one it names. -/
def hear (lane : Lane) (id : EntityId) (priority : Nat) (token : ResumeToken) : Lane :=
  if token = lane.token id priority then lane.awake else lane

theorem hear_named (lane : Lane) (id : EntityId) (priority : Nat) :
    lane.hear id priority (lane.token id priority) = lane.awake := if_pos rfl

theorem hear_other {lane : Lane} {id : EntityId} {priority : Nat} {token : ResumeToken}
    (other : token ≠ lane.token id priority) : lane.hear id priority token = lane := if_neg other

/-- A lane that is not paused hears nothing. -/
theorem awake_of_not_paused {lane : Lane} (running : lane.pauseReason? = none) :
    lane.awake = lane := by
  unfold awake
  split
  · next paused => simp [pauseReason?, paused] at running
  · rfl

theorem hear_of_not_paused {lane : Lane} {id : EntityId} {priority : Nat} {token : ResumeToken}
    (running : lane.pauseReason? = none) : lane.hear id priority token = lane := by
  unfold hear
  split
  · exact awake_of_not_paused running
  · rfl

theorem isBusy_of_isActive {lane : Lane} (active : lane.isActive) : lane.isBusy := by
  unfold isActive at active
  unfold isBusy
  split at active
  · next status => simp [status]
  · cases active

theorem isBusy_of_pauseReason? {lane : Lane} {reason : PauseReason}
    (paused : lane.pauseReason? = some reason) : lane.isBusy := by
  obtain ⟨status, script, epoch, mainEntry⟩ := lane
  cases status with
  | paused ip reason onStop => rfl
  | _ => cases paused

/-- Waking in terms of what the lane makes of the token. -/
theorem wake?_eq (lane : Lane) (epoch : UInt32) :
    lane.wake? epoch = if lane.epoch = epoch then
      lane.pauseReason?.map fun reason => (lane.awake, reason) else none := by
  unfold wake? pauseReason? awake
  split <;> simp [*]

variable (lane : Lane) (id : EntityId) (priority : Nat) (token : ResumeToken)

@[simp] theorem isBusy_awake : lane.awake.isBusy = lane.isBusy := by
  obtain ⟨status, script, epoch, mainEntry⟩ := lane
  cases status <;> rfl

@[simp] theorem onStop?_awake : lane.awake.onStop? = lane.onStop? := by
  obtain ⟨status, script, epoch, mainEntry⟩ := lane
  cases status <;> rfl

@[simp] theorem pauseReason?_awake : lane.awake.pauseReason? = none := by
  obtain ⟨status, script, epoch, mainEntry⟩ := lane
  cases status <;> rfl

@[simp] theorem epoch_awake : lane.awake.epoch = lane.epoch := by
  unfold awake
  split <;> rfl

@[simp] theorem onStop?_hear : (lane.hear id priority token).onStop? = lane.onStop? := by
  unfold hear
  split <;> simp

@[simp] theorem token_hear :
    (lane.hear id priority token).token id priority = lane.token id priority := by
  unfold hear
  split <;> simp [Lane.token]

end Lane

/-! ## Rosters -/

/-- The lanes of a world, with the scripts they can start and the number of faults. -/
@[ext] structure Roster where
  lane? : EntityId → Nat → Option Lane
  entries? : EntityId → Option (Vector Nat scriptCount)
  faults : Nat

namespace Roster

variable (roster : Roster)

/-- Puts a lane in its place. -/
def put (id : EntityId) (priority : Nat) (lane : Lane) : Roster :=
  { roster with
    lane? := fun other index =>
      if other = id ∧ index = priority then some lane else roster.lane? other index }

/-- Lets all lanes hear a token. -/
def wake (token : ResumeToken) : Roster :=
  { roster with
    lane? := fun id priority =>
      (roster.lane? id priority).map fun lane => lane.hear id priority token }

/-- Lets all lanes hear a completion, if there is one. -/
def complete : Option ResumeToken → Roster
  | none => roster
  | some token => roster.wake token

/-- The end of an invocation: its lane stops, and whoever waits for it is told. -/
def finish (id : EntityId) (priority : Nat) (lane : Lane) : Roster :=
  (roster.put id priority lane.finish).complete lane.onStop?

/-- Counts a lane that was given up. -/
def fault : Roster := { roster with faults := roster.faults + 1 }

/-- Takes an entity out. -/
def erase (id : EntityId) : Roster :=
  { roster with
    lane? := fun other priority => if other = id then none else roster.lane? other priority
    entries? := fun other => if other = id then none else roster.entries? other }

/-- A script that may be started on a lane, with its entry. -/
structure Admits (id : EntityId) (priority script entry : Nat) (lane : Lane) : Prop where
  entered : ∃ entries, roster.entries? id = some entries ∧ entries[script]? = some entry
  here : roster.lane? id priority = some lane
  free : lane.isBusy = false

/-- What a request to start a script comes to. -/
inductive Begins (id : EntityId) (priority script : Nat) : Roster → Prop
  | refused : Begins id priority script roster
  | started {entry : Nat} {lane : Lane} (admits : roster.Admits id priority script entry lane) :
      Begins id priority script (roster.put id priority (lane.start entry script none))

/-- A lane that is taken is not the one that a script may be started on. -/
theorem Admits.ne {roster : Roster} {id target : EntityId} {priority level script entry : Nat}
    {lane free : Lane}
    (admits : roster.Admits target level script entry free)
    (here : roster.lane? id priority = some lane) (busy : lane.isBusy) :
    ¬(id = target ∧ priority = level) := by
  rintro ⟨rfl, rfl⟩
  rw [admits.here] at here
  cases here
  rw [admits.free] at busy
  cases busy

@[simp] theorem lane?_put (id other : EntityId) (priority index : Nat) (lane : Lane) :
    (roster.put id priority lane).lane? other index =
      if other = id ∧ index = priority then some lane else roster.lane? other index := rfl

theorem lane?_put_self (id : EntityId) (priority : Nat) (lane : Lane) :
    (roster.put id priority lane).lane? id priority = some lane := if_pos ⟨rfl, rfl⟩

theorem lane?_put_other {id other : EntityId} {priority index : Nat} {lane : Lane}
    (apart : ¬(other = id ∧ index = priority)) :
    (roster.put id priority lane).lane? other index = roster.lane? other index := if_neg apart

/-- Starting a script leaves the lanes alone that are taken. -/
theorem Admits.lane?_put {roster : Roster} {id target : EntityId}
    {priority level script entry : Nat} {lane free : Lane}
    (admits : roster.Admits target level script entry free)
    (here : roster.lane? id priority = some lane) (busy : lane.isBusy) (started : Lane) :
    (roster.put target level started).lane? id priority = some lane := by
  rw [lane?_put_other _ (admits.ne here busy), here]

@[simp] theorem lane?_wake (id : EntityId) (priority : Nat) (token : ResumeToken) :
    (roster.wake token).lane? id priority =
      (roster.lane? id priority).map fun lane => lane.hear id priority token := rfl

@[simp] theorem lane?_fault : roster.fault.lane? = roster.lane? := rfl

@[simp] theorem faults_put (id : EntityId) (priority : Nat) (lane : Lane) :
    (roster.put id priority lane).faults = roster.faults := rfl

@[simp] theorem faults_wake (token : ResumeToken) : (roster.wake token).faults = roster.faults :=
  rfl

@[simp] theorem faults_complete (onStop : Option ResumeToken) :
    (roster.complete onStop).faults = roster.faults := by
  cases onStop <;> rfl

@[simp] theorem faults_finish (id : EntityId) (priority : Nat) (lane : Lane) :
    (roster.finish id priority lane).faults = roster.faults := by
  rw [finish, faults_complete, faults_put]

/-- A lane that ended does not hear its own completion. -/
theorem lane?_finish_self (id : EntityId) (priority : Nat) (lane : Lane) :
    (roster.finish id priority lane).lane? id priority = some lane.finish := by
  have stopped := roster.lane?_put_self id priority lane.finish
  rw [finish]
  cases lane.onStop? with
  | none => exact stopped
  | some token => rw [complete, lane?_wake, stopped, Option.map_some, Lane.hear_of_not_paused rfl]

/-- A token changes the lane that it names, and no other. -/
theorem wake_eq_put {token : ResumeToken} {lane : Lane}
    (here : roster.lane? token.entity token.priority = some lane)
    (named : lane.epoch = token.epoch) :
    roster.wake token = roster.put token.entity token.priority lane.awake := by
  ext other index found
  · simp only [lane?_wake, lane?_put]
    by_cases same : other = token.entity ∧ index = token.priority
    · obtain ⟨rfl, rfl⟩ := same
      have own : token = lane.token token.entity token.priority := by simp [Lane.token, named]
      simp [here, Lane.hear, ← own]
    · have deaf (lane : Lane) : lane.hear other index token = lane :=
        Lane.hear_other fun own => same (by simp [own, Lane.token])
      simp [same, deaf]
  · rfl
  · rfl

/-- Of several tokens, a lane hears the ones that name it. -/
theorem lane?_wakeAll {tokens : List ResumeToken} {id : EntityId} {priority : Nat} {lane : Lane}
    (here : roster.lane? id priority = some lane) :
    (tokens.foldl wake roster).lane? id priority =
      some (if lane.token id priority ∈ tokens then lane.awake else lane) := by
  induction tokens generalizing roster lane with
  | nil => simpa using here
  | cons token rest ih =>
      have heard : (roster.wake token).lane? id priority = some (lane.hear id priority token) := by
        rw [lane?_wake, here, Option.map_some]
      rw [List.foldl_cons, ih _ heard, Lane.token_hear]
      by_cases named : token = lane.token id priority
      · subst named
        simp [Lane.hear_named, Lane.awake_of_not_paused]
      · simp [Lane.hear_other named, Ne.symm named]

theorem lane?_wakeAll_of_none {tokens : List ResumeToken} {id : EntityId} {priority : Nat}
    (gone : roster.lane? id priority = none) :
    (tokens.foldl wake roster).lane? id priority = none := by
  induction tokens generalizing roster with
  | nil => exact gone
  | cons token rest ih => exact ih _ (by rw [lane?_wake, gone, Option.map_none])

/-- A token that names no paused lane changes nothing. -/
theorem wake_eq_self {token : ResumeToken}
    (deaf : ∀ lane, roster.lane? token.entity token.priority = some lane →
      lane.epoch = token.epoch → lane.pauseReason? = none) : roster.wake token = roster := by
  ext other index found
  · simp only [lane?_wake]
    cases here : roster.lane? other index with
    | none => rfl
    | some lane =>
        have silent : lane.hear other index token = lane := by
          by_cases own : token = lane.token other index
          · subst own
            exact Lane.hear_of_not_paused (deaf lane here rfl)
          · exact Lane.hear_other own
        simp [silent]
  · rfl
  · rfl

theorem put_put (id : EntityId) (priority : Nat) (first second : Lane) :
    (roster.put id priority first).put id priority second = roster.put id priority second := by
  ext other index lane
  · by_cases here : other = id ∧ index = priority <;> simp [put, here]
  · rfl
  · rfl

end Roster

/-! ## The roster of a world -/

/-- A lane that is changed twice has undergone both changes. -/
theorem Entity.updateLane_updateLane (entity : Entity) (priority : Nat) (first second : Lane → Lane) :
    (entity.updateLane priority first).updateLane priority second =
      entity.updateLane priority fun lane => second (first lane) := by
  unfold updateLane
  cases here : entity.lanes[priority]? with
  | none => simp [here]
  | some lane =>
      obtain ⟨inside, -⟩ := Vector.getElem?_eq_some_iff.mp here
      simp [inside]

namespace World

/-- The lanes of a world and what they depend on. -/
def roster (world : World) : Roster :=
  { lane? := world.lane?
    entries? := fun id => (world.entity? id).map Entity.entries
    faults := world.faults }

@[simp] theorem lane?_roster (world : World) : world.roster.lane? = world.lane? := rfl

/-- Before a field is entered, no lane was ever started. -/
theorem lane?_ofSection {source : Section} {id : EntityId} {priority : Nat} {lane : Lane}
    (here : (ofSection source).lane? id priority = some lane) : lane = {} := by
  obtain ⟨entity, known, found⟩ := Option.bind_eq_some_iff.mp here
  have lanes : entity.lanes = Vector.replicate laneCount {} := by
    simp only [entity?, ofSection, Array.getElem?_mapIdx] at known
    cases named : source.entities[id]? with
    | none => simp [named] at known
    | some scripts =>
        simp only [named, Option.map_some, Option.join_some, Option.some.injEq] at known
        rw [← known]
  rw [lanes] at found
  obtain ⟨inside, same⟩ := Vector.getElem?_eq_some_iff.mp found
  simpa using same.symm

theorem entity?_updateEntity (world : World) (id other : EntityId) (change : Entity → Entity) :
    (world.updateEntity id change).entity? other =
      if other = id then (world.entity? other).map change else world.entity? other := by
  simp only [entity?, updateEntity, Array.getElem?_modify]
  by_cases same : other = id
  · subst same
    cases world.entities[other]? <;> simp
  · simp [same, Ne.symm same]

theorem lane?_updateLane (world : World) (id other : EntityId) (priority index : Nat)
    (change : Lane → Lane) :
    (world.updateLane id priority change).lane? other index =
      if other = id ∧ index = priority then (world.lane? other index).map change
      else world.lane? other index := by
  unfold lane? updateLane
  rw [entity?_updateEntity]
  by_cases same : other = id
  · subst same
    cases known : world.entity? other with
    | none => simp
    | some entity =>
        cases here : entity.lanes[priority]? with
        | none =>
            by_cases same : index = priority
            · subst same
              simp [Entity.updateLane, here]
            · simp [Entity.updateLane, here, same]
        | some lane =>
            obtain ⟨inside, -⟩ := Vector.getElem?_eq_some_iff.mp here
            by_cases same : index = priority
            · subst same
              simp [Entity.updateLane, inside]
            · simp [Entity.updateLane, here, same, Ne.symm same]
  · simp [same]

theorem updateLane_updateLane (world : World) (id : EntityId) (priority : Nat)
    (first second : Lane → Lane) :
    (world.updateLane id priority first).updateLane id priority second =
      world.updateLane id priority fun lane => second (first lane) := by
  have twice (place : Option Entity) :
      (place.map (·.updateLane priority first)).map (·.updateLane priority second) =
        place.map (·.updateLane priority fun lane => second (first lane)) := by
    rw [Option.map_map]
    exact congrArg (Option.map · place) (funext fun entity =>
      entity.updateLane_updateLane priority first second)
  have entities : (world.entities.modify id (Option.map (·.updateLane priority first))).modify id
      (Option.map (·.updateLane priority second)) = world.entities.modify id
        (Option.map (·.updateLane priority fun lane => second (first lane))) := by
    refine Array.ext_getElem? fun index => ?_
    simp only [Array.getElem?_modify]
    split
    · rw [Option.map_map]
      exact congrArg (Option.map · _) (funext twice)
    · rfl
  simp only [updateLane, updateEntity, entities]

/-- A change of a lane is known by what it makes of that lane. -/
theorem updateLane_congr {world : World} {id : EntityId} {priority : Nat} {lane : Lane}
    (here : world.lane? id priority = some lane) {first second : Lane → Lane}
    (same : first lane = second lane) :
    world.updateLane id priority first = world.updateLane id priority second := by
  obtain ⟨entity, known, found⟩ := Option.bind_eq_some_iff.mp here
  have changed : entity.updateLane priority first = entity.updateLane priority second := by
    simp only [Entity.updateLane, found, same]
  have entities : world.entities.modify id (Option.map (·.updateLane priority first)) =
      world.entities.modify id (Option.map (·.updateLane priority second)) := by
    refine Array.ext_getElem? fun index => ?_
    simp only [Array.getElem?_modify]
    split
    · next own =>
        subst own
        unfold entity? at known
        cases place : world.entities[id]? with
        | none => rfl
        | some present =>
            rw [place, Option.join_some] at known
            rw [known, Option.map_some, Option.map_some, Option.map_some, Option.map_some, changed]
    · rfl
  simp only [updateLane, updateEntity, entities]

/-- Changing a lane leaves all bodies alone. -/
@[simp] theorem actor?_updateLane (world : World) (id : EntityId) (priority : Nat) (change : Lane → Lane) :
    (world.updateLane id priority change).actor? = world.actor? := by
  funext other
  simp only [actor?, updateLane, entity?_updateEntity]
  split
  · cases world.entity? other with
    | none => rfl
    | some entity =>
        simp only [Option.map_some, Option.some.injEq]
        unfold Entity.updateLane
        split <;> rfl
  · rfl

/-- Changing the lanes of an entity keeps its scripts. -/
theorem entries_updateLane (entity : Entity) (priority : Nat) (change : Lane → Lane) :
    (entity.updateLane priority change).entries = entity.entries := by
  unfold Entity.updateLane
  split <;> rfl

theorem roster_updateLane {world : World} {id : EntityId} {priority : Nat} {lane : Lane}
    (here : world.lane? id priority = some lane) (change : Lane → Lane) :
    (world.updateLane id priority change).roster = world.roster.put id priority (change lane) := by
  ext other index found
  · simp only [lane?_roster, lane?_updateLane, Roster.lane?_put]
    by_cases same : other = id ∧ index = priority
    · obtain ⟨rfl, rfl⟩ := same
      simp [here]
    · simp [same]
  · simp only [roster, updateLane, Roster.put, entity?_updateEntity]
    by_cases same : other = id
    · cases known : world.entity? other <;> simp [same, entries_updateLane]
    · simp [same]
  · rfl

/-- Changing a body leaves all lanes alone. -/
@[simp] theorem roster_updateActor (world : World) (id : EntityId) (change : Actor → Actor) :
    (world.updateActor id change).roster = world.roster := by
  ext other index found
  · simp only [lane?_roster, lane?, updateActor, entity?_updateEntity]
    by_cases same : other = id
    · subst same
      cases world.entity? other <;> simp [Entity.updateActor]
    · simp [same]
  · simp only [roster, updateActor, entity?_updateEntity]
    by_cases same : other = id
    · subst same
      cases world.entity? other <;> simp [Entity.updateActor]
    · simp [same]
  · rfl

@[simp] theorem roster_updateStage (world : World) (change : Stage → Stage) :
    (world.updateStage change).roster = world.roster := rfl

@[simp] theorem roster_spawn (world : World) (activity : Activity) :
    (world.spawn activity).roster = world.roster := rfl

/-- A token wakes the lane that it names. -/
theorem roster_wake (world : World) (token : ResumeToken) :
    (world.wake token).1.roster = world.roster.wake token := by
  unfold wake
  cases here : world.lane? token.entity token.priority with
  | none => exact (world.roster.wake_eq_self (by simp [here])).symm
  | some lane =>
      rw [Option.bind_some, Lane.wake?_eq]
      by_cases named : lane.epoch = token.epoch
      · cases paused : lane.pauseReason? with
        | none => simpa [named] using (world.roster.wake_eq_self (by simp [here, paused])).symm
        | some reason =>
            simp only [named, if_true, Option.map_some]
            rw [roster_updateLane here, world.roster.wake_eq_put here named]
      · simpa [named] using (world.roster.wake_eq_self (by simp [here, named])).symm

/-- An admitted script has an entry, and its lane is free. -/
theorem admits_of_admission {world : World} {id : EntityId} {entity : Entity}
    {priority script entry : Nat} (known : world.entity? id = some entity)
    (admitted : entity.admission priority script = .ok entry) :
    ∃ lane, world.roster.Admits id priority script entry lane := by
  unfold Entity.admission at admitted
  cases entered : entity.entries[script]? with
  | none => rw [entered] at admitted; cases admitted
  | some found =>
      cases here : entity.lanes[priority]? with
      | none => rw [entered, here] at admitted; cases admitted
      | some lane =>
          rw [entered, here] at admitted
          by_cases busy : lane.isBusy
          · simp [busy] at admitted
          · simp only [busy] at admitted
            cases admitted
            exact ⟨lane, ⟨entity.entries, by simp [World.roster, known], entered⟩,
              by simp [World.lane?, known, here], by simpa using busy⟩

@[simp] theorem roster_beginFade (world : World) (color : FadeColor)
    (start target step : UInt16) (subtractive : Bool) :
    (world.beginFade color start target step subtractive).roster = world.roster := by
  unfold beginFade
  dsimp only
  split <;> simp

@[simp] theorem roster_clearFade (world : World) : world.clearFade.roster = world.roster := rfl

@[simp] theorem roster_beginScroll (world : World) (target : ScrollTarget) (frames : UInt16)
    (easing : Easing) : (world.beginScroll target frames easing).roster = world.roster := by
  unfold beginScroll
  dsimp only
  split <;> simp

@[simp] theorem roster_beginShift (world : World) (id : EntityId) (goal : Displacement)
    (frames : UInt16) (easing : Easing) :
    (world.beginShift id goal frames easing).roster = world.roster := by
  unfold beginShift
  split
  · rfl
  · dsimp only
    split <;> simp

end World

/-! ## What leaves the roster as it is -/

namespace Machine

variable {σ : Type} (setting : Setting σ) (machine : Machine σ)

@[simp] theorem world_note (entry : Entry) : (machine.note entry).world = machine.world := rfl

@[simp] theorem world_noteAll (entries : List Entry) :
    (entries.foldl note machine).world = machine.world := by
  induction entries generalizing machine with
  | nil => rfl
  | cons entry rest ih => exact ih (machine.note entry)

@[simp] theorem world_noteHost (lines : List LogLine) :
    (machine.noteHost lines).world = machine.world := by
  unfold noteHost
  induction lines generalizing machine with
  | nil => rfl
  | cons line rest ih => exact ih (machine.note (.host line))

/-- Lines of the host go to the journal and nowhere else. -/
theorem noteHost_eq (lines : List LogLine) :
    ∃ journal, machine.noteHost lines = { machine with journal } := by
  unfold noteHost
  induction lines generalizing machine with
  | nil => exact ⟨machine.journal, rfl⟩
  | cons line rest ih => exact ih (machine.note (.host line))

@[simp] theorem world_notify (notice : Notice) :
    (machine.notify setting notice).world = machine.world := by
  simp [notify]

@[simp] theorem world_request (request : Request) (token : ResumeToken) :
    (machine.request setting request token).2.world = machine.world := by
  simp [Machine.request]

@[simp] theorem world_updateSession (change : Session → Session) :
    (machine.updateSession change).world = machine.world := rfl

theorem world_withRandom (random : Random) :
    { machine with random }.world = machine.world := rfl

@[simp] theorem world_putCell (bank address : UInt8) (value : UInt16) :
    (machine.putCell setting bank address value).world = machine.world := by
  unfold putCell
  dsimp only
  split <;> simp

@[simp] theorem world_writeCell (bank address : UInt8) (value : UInt16) :
    (machine.writeCell setting bank address value).1.world = machine.world := by
  unfold writeCell
  split <;> simp

@[simp] theorem world_store (selector address : UInt8) (value : UInt16) :
    (machine.store setting selector address value).1.world = machine.world := by
  unfold store
  split <;> simp

/-! ## What changes it -/

theorem roster_wake (token : ResumeToken) :
    (machine.wake token).1.world.roster = machine.world.roster.wake token := by
  unfold wake
  cases here : machine.world.lane? token.entity token.priority with
  | none => exact (machine.world.roster.wake_eq_self (by simp [here])).symm
  | some lane => exact machine.world.roster_wake token

theorem roster_complete (onStop : Option ResumeToken) :
    (machine.complete onStop).world.roster = machine.world.roster.complete onStop := by
  cases onStop with
  | none => rfl
  | some token => exact machine.roster_wake token

theorem startScript_begins (id : EntityId) (priority script : Nat) :
    machine.world.roster.Begins id priority script
      (machine.startScript id priority script none).1.world.roster := by
  unfold startScript
  cases known : machine.world.entity? id with
  | none => exact .refused
  | some entity =>
      cases admitted : entity.admission priority script with
      | error refusal => simpa [admitted] using .refused
      | ok entry =>
          obtain ⟨lane, admits⟩ := World.admits_of_admission known admitted
          simp only [admitted, updateWorld, World.roster_updateLane admits.here]
          exact .started admits

end Machine

/-! ## Effects -/

namespace Effect

variable {σ : Type} (setting : Setting σ)

/-- Effects that spare lanes leave the roster as it is. -/
theorem roster_perform (machine : Machine σ) {effect : Effect} (spared : effect.sparesLanes) :
    (effect.perform setting machine).1.world.roster = machine.world.roster := by
  cases effect with
  | startLane id priority entry script onStop => cases spared
  | recordMain id priority entry => cases spared
  | store selector address value => simp [perform]
  | drawByte selector address => simp [perform]
  | reseed seed => exact congrArg World.roster (machine.world_withRandom (.ofSeed seed))
  | actor id change => simp [perform, Machine.updateWorld]
  | party change => simp [perform]
  | background area mask => simp [perform, Machine.updateWorld]
  | livePalette id palette => simp [perform, Machine.updateWorld]
  | lockTriangle triangle locked => simp [perform, Machine.updateWorld]
  | fade color start target step subtractive => simp [perform, Machine.updateWorld]
  | scroll target frames easing => simp [perform, Machine.updateWorld]
  | shift id goal frames easing => simp [perform, Machine.updateWorld]
  | notify notice => simp [perform]
  | _ => rfl

theorem roster_performAll (machine : Machine σ) {effects : List Effect}
    (spared : ∀ effect ∈ effects, effect.sparesLanes) :
    (performAll setting machine effects).1.world.roster = machine.world.roster := by
  induction effects generalizing machine with
  | nil => rfl
  | cons effect rest ih =>
      have first := roster_perform setting machine (spared effect (by simp))
      unfold performAll
      split
      · next next performed =>
          rw [performed] at first
          rw [ih next fun other member => spared other (by simp [member]), first]
      · next next error performed => simpa [performed] using first

end Effect

end FieldMachine
