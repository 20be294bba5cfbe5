import FieldMachine.Proofs.Confinement

/-!
# Lanes belong to themselves

Only its own instructions move a lane that is taken.  Whatever else happens in
the field, an active lane stays exactly as it is, and a paused one may be woken
where it waits, by a token that names it (`Roster.Step.keeps`).  So a lane that
did not get its turn goes on where it stood, and one that paused goes on behind
the instruction that paused it.
-/

namespace FieldMachine

set_option autoImplicit false

/-! ## Lanes that others leave alone -/

namespace Roster

/-- A lane is as it was, or a token that names it has woken it. -/
def Keeps (roster : Roster) (fired : ResumeToken → Prop) (id : EntityId) (priority : Nat)
    (lane : Lane) : Prop :=
  roster.lane? id priority = some lane ∨
    fired (lane.token id priority) ∧ roster.lane? id priority = some lane.awake

variable {roster after : Roster} {fired : ResumeToken → Prop} {id : EntityId} {priority : Nat}
  {lane : Lane}

theorem Keeps.mono {more : ResumeToken → Prop} (keeps : roster.Keeps fired id priority lane)
    (weaker : ∀ token, fired token → more token) : roster.Keeps more id priority lane := by
  rcases keeps with same | ⟨named, woken⟩
  · exact .inl same
  · exact .inr ⟨weaker _ named, woken⟩

theorem Keeps.put_other {other : EntityId} {level : Nat}
    (keeps : roster.Keeps fired id priority lane) (apart : ¬(id = other ∧ priority = level))
    (placed : Lane) : (roster.put other level placed).Keeps fired id priority lane := by
  rw [Keeps, lane?_put_other _ apart]
  exact keeps

theorem keeps_wake (here : roster.lane? id priority = some lane) (token : ResumeToken) :
    (roster.wake token).Keeps (token = ·) id priority lane := by
  rw [Keeps, lane?_wake, here, Option.map_some]
  by_cases named : token = lane.token id priority
  · exact .inr ⟨named, by rw [named, Lane.hear_named]⟩
  · exact .inl (by rw [Lane.hear_other named])

theorem keeps_complete (here : roster.lane? id priority = some lane)
    (onStop : Option ResumeToken) :
    (roster.complete onStop).Keeps (onStop = some ·) id priority lane := by
  cases onStop with
  | none => exact .inl here
  | some token => exact (keeps_wake here token).mono fun other same => congrArg some same

theorem keeps_wakeAll (here : roster.lane? id priority = some lane) (tokens : List ResumeToken) :
    (tokens.foldl Roster.wake roster).Keeps (· ∈ tokens) id priority lane := by
  rw [Keeps, lane?_wakeAll roster here]
  by_cases named : lane.token id priority ∈ tokens
  · exact .inr ⟨named, by rw [if_pos named]⟩
  · exact .inl (by rw [if_neg named])

/-- Scripts are started on lanes that are free. -/
theorem Keeps.begins {other : EntityId} {level script : Nat}
    (keeps : roster.Keeps fired id priority lane) (busy : lane.isBusy)
    (begins : roster.Begins other level script after) : after.Keeps fired id priority lane := by
  cases begins with
  | refused => exact keeps
  | started admits =>
      rcases keeps with same | ⟨named, woken⟩
      · exact .inl (admits.lane?_put same busy _)
      · exact .inr ⟨named, admits.lane?_put woken (by simpa using busy) _⟩

/-- An instruction of another lane leaves a lane alone that is taken; only its end may wake one. -/
theorem Turn.keeps {source : Section} {jumps : Opcode → Prop} {other : EntityId} {level : Nat}
    {running : Lane} (turn : roster.Turn source jumps other level running after)
    (apart : ¬(id = other ∧ priority = level)) (here : roster.lane? id priority = some lane)
    (busy : lane.isBusy) : after.Keeps (running.onStop? = some ·) id priority lane := by
  have still : roster.Keeps (running.onStop? = some ·) id priority lane := .inl here
  have ended : (roster.finish other level running).Keeps (running.onStop? = some ·) id priority
      lane := by
    refine keeps_complete ?_ running.onStop?
    rw [lane?_put_other _ apart, here]
  cases turn with
  | carry carries => exact still.put_other apart _
  | call admits goesOn => exact (Keeps.put_other (.inl (admits.lane?_put here busy _)) apart _)
  | await admits passes => exact (Keeps.put_other (.inl (admits.lane?_put here busy _)) apart _)
  | stop => exact ended
  | handOver begins => exact ended.begins busy begins
  | abort stands mainEntry => exact still.put_other apart _

/-- Every event but an instruction of a lane itself, and the removal of its entity, leaves the lane
alone if it is taken, or wakes it with a token that the event fires. -/
theorem Step.keeps {source : Section} {event : Event} (step : roster.Step source event after)
    (foreign : event ≠ .run id priority) (stays : event ≠ .remove id)
    (here : roster.lane? id priority = some lane) (busy : lane.isBusy) :
    after.Keeps (event.Fires roster ·) id priority lane := by
  cases step with
  | keep => exact .inl here
  | @turn other level running jumps after there active turn =>
      have apart : ¬(id = other ∧ priority = level) := by
        rintro ⟨rfl, rfl⟩
        exact foreign rfl
      exact (turn.keeps apart here busy).mono fun token told => ⟨running, there, told⟩
  | @work token => exact (keeps_wake here token).mono fun other same => congrArg some same
  | @resume token => exact (keeps_wake here token).mono fun other same => same
  | invoke begins => exact Keeps.begins (.inl here) busy begins
  | @remove other tokens all =>
      have present : (roster.erase other).lane? id priority = some lane := by
        have elsewhere : ¬id = other := by
          rintro rfl
          exact stays rfl
        simpa [Roster.erase, elsewhere] using here
      exact (keeps_wakeAll present tokens).mono fun token among => (all token).mp among

/-- An instruction after which its lane is paused: the lane waits behind it. -/
theorem Turn.pauses {source : Section} {jumps : Opcode → Prop} {later : Lane}
    {reason : PauseReason} (turn : roster.Turn source jumps id priority lane after)
    (there : after.lane? id priority = some later) (waits : later.pauseReason? = some reason) :
    ∃ next, lane.Passes source next ∧ later = lane.pause next reason := by
  rcases turn.own there with carries | ⟨next, passes, rfl⟩ | ended | ⟨entry, script, rfl⟩
  · cases carries with
    | pause passes awaited =>
        cases waits
        exact ⟨_, passes, rfl⟩
    | _ => cases waits
  · cases waits
    exact ⟨next, passes, rfl⟩
  · rw [Lane.isBusy_of_pauseReason? waits] at ended
    cases ended
  · cases waits

end Roster

/-! ## Lanes of a field -/

/-- What others can make of a lane that is taken: nothing, except that one that is paused may be
awake again where it waits. -/
def World.Leaves (world : World) (id : EntityId) (priority : Nat) (lane : Lane) : Prop :=
  (lane.isActive → world.lane? id priority = some lane) ∧
  ∀ ip reason onStop, lane.status = .paused ip reason onStop →
    world.lane? id priority = some lane ∨
    world.lane? id priority = some { lane with status := .active ip 0 none onStop }

namespace Machine

variable {σ : Type} {setting : Setting σ} {machine after : Machine σ} {id : EntityId}
  {priority : Nat} {lane : Lane}

/-- The lanes of an entity that was removed are gone. -/
theorem lane?_remove_self (machine : Machine σ) (id : EntityId) (priority : Nat) :
    (machine.remove id).1.world.lane? id priority = none := by
  cases known : machine.world.entity? id with
  | none => simp [remove, World.lane?, known]
  | some entity =>
      rw [← World.lane?_roster, machine.roster_remove known]
      have gone : (machine.world.roster.erase id).lane? id priority = none := if_pos rfl
      exact Roster.lane?_wakeAll_of_none _ gone

/-- A lane that is as it was or awake is what others leave of it. -/
theorem leaves_of_lane? (kept : after.world.lane? id priority = some lane ∨
    after.world.lane? id priority = some lane.awake) : after.world.Leaves id priority lane := by
  constructor
  · intro active
    rw [Lane.awake_of_not_paused (Lane.pauseReason?_of_isActive active)] at kept
    exact or_self_iff.mp kept
  · intro ip reason onStop paused
    rw [Lane.awake, paused] at kept
    exact kept

/-- Any number of foreign events leaves a lane as it was or awake. -/
theorem Runs.leaves {events : List Event} (runs : Runs setting events machine after)
    (foreign : ∀ event ∈ events, event ≠ .run id priority ∧ event ≠ .remove id)
    (here : machine.world.lane? id priority = some lane) (busy : lane.isBusy) :
    after.world.lane? id priority = some lane ∨
      after.world.lane? id priority = some lane.awake := by
  induction runs generalizing lane with
  | nil => exact .inl here
  | cons occurs rest ih =>
      obtain ⟨⟨notOwn, stays⟩, others⟩ := List.forall_mem_cons.mp foreign
      rcases occurs.step.keeps notOwn stays here busy with same | ⟨-, woken⟩
      · exact ih others same busy
      · have later := ih others woken (by simpa using busy)
        rw [Lane.awake_of_not_paused (Lane.pauseReason?_awake lane)] at later
        exact .inr (or_self_iff.mp later)

theorem RunOf.leaves {allowed : Event → Prop} (runs : RunOf setting allowed machine after)
    (foreign : ∀ event, allowed event → event ≠ .run id priority ∧ event ≠ .remove id)
    (here : machine.world.lane? id priority = some lane) (busy : lane.isBusy) :
    after.world.Leaves id priority lane := by
  obtain ⟨events, fit, runs⟩ := runs
  exact leaves_of_lane? (runs.leaves (fun event among => foreign event (fit event among)) here busy)

/-- Events that fire nothing leave a lane as it was. -/
theorem Runs.lane?_of_silent {events : List Event} (runs : Runs setting events machine after)
    (silent : ∀ event ∈ events, event = .other ∨ ∃ entity, event = .invoke entity 0 0)
    (here : machine.world.lane? id priority = some lane) (busy : lane.isBusy) :
    after.world.lane? id priority = some lane := by
  induction runs with
  | nil => exact here
  | @cons event events first second third occurs rest ih =>
      obtain ⟨quiet, others⟩ := List.forall_mem_cons.mp silent
      have foreign : event ≠ .run id priority ∧ event ≠ .remove id := by
        rcases quiet with rfl | ⟨entity, rfl⟩ <;> simp
      rcases occurs.step.keeps foreign.1 foreign.2 here busy with same | ⟨named, -⟩
      · exact ih others same
      · rcases quiet with rfl | ⟨entity, rfl⟩ <;> exact named.elim

/-- A lane that is taken belongs to itself.

Any event that is not an instruction of the lane or the removal of its entity leaves the lane alone,
or wakes it where it waits because it fired a token that names the lane; so does any number of
these events, and so do the turns of other lanes.  A lane whose turn is over because its budget is
used up stays where it is.  A tick consists of such events and of instructions, entering the field
again changes nothing, and only the removal of its entity takes the lane away.  A lane that pauses
waits behind the instruction that paused it. -/
theorem Visited.lane_owned {bytes : Array UInt8} (visited : Visited setting machine)
    (accepted : Section.read bytes = .ok setting.source)
    (here : machine.world.lane? id priority = some lane) (busy : lane.isBusy) :
    (∀ event after, Occurs setting event machine after → event ≠ .run id priority →
      event ≠ .remove id →
      after.world.Leaves id priority lane ∧
        (after.world.lane? id priority ≠ some lane →
          event.Fires machine.world.roster (lane.token id priority))) ∧
    (∀ events after, Runs setting events machine after →
      (∀ event ∈ events, event ≠ .run id priority ∧ event ≠ .remove id) →
      after.world.Leaves id priority lane) ∧
    (∀ other priorities, (other = id → priority ∉ priorities) →
      (machine.runLanes setting other priorities).world.Leaves id priority lane) ∧
    (machine.runLane setting id priority 0).1.world.lane? id priority = some lane ∧
    (∀ elapsed, InnerRun setting machine (machine.tick setting elapsed)) ∧
    machine.start.world.lane? id priority = some lane ∧
    (machine.remove id).1.world.lane? id priority = none ∧
    (lane.isActive → ∀ later reason,
      (machine.step setting id priority).1.world.lane? id priority = some later →
      later.pauseReason? = some reason →
      ∃ ip length, lane.ip? = some ip ∧
        instructionLength? setting.source.code ip = some length ∧
        later = lane.pause (ip + length) reason) := by
  have sound := (visited.confined (Section.sound_of_read accepted)).lanes id priority lane here
  refine ⟨?_, ?_, ?_, here, tick_inner setting machine, ?_, ?_, ?_⟩
  · intro event after occurs notOwn stays
    rcases occurs.step.keeps notOwn stays here busy with same | ⟨named, woken⟩
    · exact ⟨leaves_of_lane? (.inl same), fun changed => absurd same changed⟩
    · exact ⟨leaves_of_lane? (.inr woken), fun _ => named⟩
  · intro events after runs foreign
    exact leaves_of_lane? (runs.leaves foreign here busy)
  · intro other priorities apart
    refine (runLanes_turn setting machine other priorities).leaves ?_ here busy
    intro event turn
    constructor
    · rintro rfl
      exact apart turn.1.symm turn.2
    · rintro rfl
      exact turn.elim
  · obtain ⟨events, silent, runs⟩ := start_runs setting machine
    exact runs.lane?_of_silent silent here busy
  · exact machine.lane?_remove_self id priority
  · intro active later reason there waits
    obtain ⟨ip, -, turn⟩ := step_turn setting here active
    obtain ⟨next, passes, same⟩ := turn.pauses there waits
    obtain ⟨place, length, stands, long, rfl⟩ := passes.behind sound busy
    exact ⟨place, length, stands, long, same⟩

/-- In the small field, removing the first entity does not touch the lane of the second one, and
giving the token of the caller back can at most wake the caller. -/
theorem sample_lanes_owned :
    (Sample.waiting.remove (0 : EntityId)).1.world.lane? 1 1 = some
      { status := .active 181 1 (some ⟨184, .animation⟩) (some ⟨0, 0, 1⟩), script := 1,
        epoch := 1 } ∧
    (Sample.waiting.applyResume Sample.setting ⟨0, 0, 1⟩ none).world.Leaves 0 0
      { status := .paused 179 .call none, script := 0, epoch := 1 } := by
  obtain ⟨callee, -⟩ :=
    Sample.visited_waiting.lane_owned Sample.read_bytes Sample.callee_runs rfl
  obtain ⟨caller, -⟩ :=
    Sample.visited_waiting.lane_owned Sample.read_bytes Sample.caller_waits rfl
  have removed := callee _ _ (.remove Sample.waiting 0) (by decide) (by decide)
  have resumed := caller _ _ (.resume Sample.waiting ⟨0, 0, 1⟩ none) (by decide) (by decide)
  exact ⟨removed.1.1 rfl, resumed.1⟩

end Machine

end FieldMachine
