import FieldMachine.Proofs.Ownership

/-!
# Tokens that are given back again

A token names one invocation of one lane, and every start of the lane begins
another one (`Roster.Step.ages`).  A token that was used up is therefore stale as
soon as its lane has been started again, and stays so until the numbers of the
invocations repeat.

Within one invocation all requests share the token.  Between two of them the lane
has to run: a token that finds its lane paused once more belongs to that later
pause just as well (`Machine.resume_again`), and completes it.
-/

namespace FieldMachine

set_option autoImplicit false

/-! ## The invocations of a lane -/

namespace Lane

variable {source : Section} {jumps : Opcode → Prop} {lane after : Lane}

theorem Carries.epoch (carries : lane.Carries source jumps after) : after.epoch = lane.epoch := by
  cases carries <;> rfl

@[simp] theorem epoch_hear (lane : Lane) (id : EntityId) (priority : Nat) (token : ResumeToken) :
    (lane.hear id priority token).epoch = lane.epoch := by
  unfold hear
  split <;> simp

end Lane

namespace Roster

variable {source : Section} {before middle after : Roster} {id : EntityId} {priority : Nat}
  {lane : Lane}

/-- Every lane that is left is in the invocation it was in before. -/
def Continues (before after : Roster) : Prop :=
  ∀ id priority later, after.lane? id priority = some later →
    ∃ lane, before.lane? id priority = some lane ∧ later.epoch = lane.epoch

/-- Every lane that is left is in the invocation it was in before, or in the next one. -/
def Ages (before after : Roster) : Prop :=
  ∀ id priority later, after.lane? id priority = some later →
    ∃ lane, before.lane? id priority = some lane ∧
      (later.epoch = lane.epoch ∨ later.epoch = lane.epoch + 1)

theorem Continues.refl (roster : Roster) : roster.Continues roster :=
  fun _ _ later there => ⟨later, there, rfl⟩

theorem Continues.trans (first : before.Continues middle) (second : middle.Continues after) :
    before.Continues after := by
  intro id priority later there
  obtain ⟨lane, between, same⟩ := second id priority later there
  obtain ⟨origin, here, alike⟩ := first id priority lane between
  exact ⟨origin, here, same.trans alike⟩

theorem Continues.ages (continues : before.Continues after) : before.Ages after := by
  intro id priority later there
  obtain ⟨lane, here, same⟩ := continues id priority later there
  exact ⟨lane, here, .inl same⟩

theorem Ages.continues (ages : before.Ages middle) (continues : middle.Continues after) :
    before.Ages after := by
  intro id priority later there
  obtain ⟨lane, between, same⟩ := continues id priority later there
  rw [same]
  exact ages id priority lane between

theorem Continues.thenAges (continues : before.Continues middle) (ages : middle.Ages after) :
    before.Ages after := by
  intro id priority later there
  obtain ⟨lane, between, aged⟩ := ages id priority later there
  obtain ⟨origin, here, same⟩ := continues id priority lane between
  rw [same] at aged
  exact ⟨origin, here, aged⟩

theorem continues_put (here : before.lane? id priority = some lane) (placed : Lane)
    (same : placed.epoch = lane.epoch) : before.Continues (before.put id priority placed) := by
  intro other index later there
  rw [lane?_put] at there
  split at there
  · next own =>
      obtain ⟨rfl, rfl⟩ := own
      cases there
      exact ⟨lane, here, same⟩
  · exact ⟨later, there, rfl⟩

theorem continues_wake (roster : Roster) (token : ResumeToken) :
    roster.Continues (roster.wake token) := by
  intro id priority later there
  rw [lane?_wake] at there
  obtain ⟨lane, here, rfl⟩ := Option.map_eq_some_iff.mp there
  exact ⟨lane, here, lane.epoch_hear id priority token⟩

theorem continues_complete (roster : Roster) (onStop : Option ResumeToken) :
    roster.Continues (roster.complete onStop) := by
  cases onStop with
  | none => exact .refl roster
  | some token => exact roster.continues_wake token

theorem continues_finish (here : before.lane? id priority = some lane) :
    before.Continues (before.finish id priority lane) :=
  (continues_put here lane.finish rfl).trans (continues_complete _ lane.onStop?)

theorem continues_wakeAll (roster : Roster) (tokens : List ResumeToken) :
    roster.Continues (tokens.foldl wake roster) := by
  induction tokens generalizing roster with
  | nil => exact .refl roster
  | cons token rest ih => exact (roster.continues_wake token).trans (ih _)

theorem continues_erase (roster : Roster) (id : EntityId) : roster.Continues (roster.erase id) := by
  intro other priority later there
  simp only [erase] at there
  split at there
  · cases there
  · exact ⟨later, there, rfl⟩

theorem ages_start {target : EntityId} {level script entry : Nat} {free : Lane}
    (admits : before.Admits target level script entry free) (onStop : Option ResumeToken) :
    before.Ages (before.put target level (free.start entry script onStop)) := by
  intro other index later there
  rw [lane?_put] at there
  split at there
  · next own =>
      obtain ⟨rfl, rfl⟩ := own
      cases there
      exact ⟨free, admits.here, .inr rfl⟩
  · exact ⟨later, there, .inl rfl⟩

theorem ages_begins {level script : Nat} (begins : before.Begins id level script after) :
    before.Ages after := by
  cases begins with
  | refused => exact (Continues.refl before).ages
  | started admits => exact ages_start admits none

/-- An instruction starts at most one lane. -/
theorem Turn.ages {jumps : Opcode → Prop} (turn : before.Turn source jumps id priority lane after)
    (here : before.lane? id priority = some lane) (busy : lane.isBusy) : before.Ages after := by
  cases turn with
  | carry carries => exact (continues_put here _ carries.epoch).ages
  | call admits goesOn =>
      exact (ages_start admits none).continues (continues_put (admits.lane?_put here busy _) _ rfl)
  | await admits passes =>
      exact (ages_start admits _).continues (continues_put (admits.lane?_put here busy _) _ rfl)
  | stop => exact (continues_finish here).ages
  | handOver begins => exact (continues_finish here).thenAges (ages_begins begins)
  | abort stands mainEntry =>
      exact (continues_put here (Lane.abort { lane with mainEntry } _) rfl).ages

/-- No event starts a lane twice, and none brings one back that is gone. -/
theorem Step.ages {event : Event} (step : before.Step source event after) : before.Ages after := by
  cases step with
  | keep => exact (Continues.refl before).ages
  | turn here active turn => exact turn.ages here (Lane.isBusy_of_isActive active)
  | work => exact (continues_wake before _).ages
  | resume => exact (continues_wake before _).ages
  | invoke begins => exact ages_begins begins
  | @remove id tokens all =>
      exact ((before.continues_erase id).trans (continues_wakeAll _ tokens)).ages

end Roster

/-! ## Counting the starts of a lane -/

namespace Machine

variable {σ : Type} {setting : Setting σ} {machine after : Machine σ} {id : EntityId}
  {priority starts : Nat} {events : List Event} {lane later : Lane}

variable (setting) in
/-- Events that lead from one machine to another, among which a lane was started so many times. -/
inductive Starts (id : EntityId) (priority : Nat) :
    Nat → List Event → Machine σ → Machine σ → Prop
  | nil (machine : Machine σ) : Starts id priority 0 [] machine machine
  | same {starts : Nat} {event : Event} {events : List Event} {first second third : Machine σ}
      (occurs : Occurs setting event first second)
      (continues : (second.world.lane? id priority).map Lane.epoch =
        (first.world.lane? id priority).map Lane.epoch)
      (rest : Starts id priority starts events second third) :
      Starts id priority starts (event :: events) first third
  | next {starts : Nat} {event : Event} {events : List Event} {first second third : Machine σ}
      (occurs : Occurs setting event first second)
      (renewed : (second.world.lane? id priority).map Lane.epoch ≠
        (first.world.lane? id priority).map Lane.epoch)
      (rest : Starts id priority starts events second third) :
      Starts id priority (starts + 1) (event :: events) first third

/-- The starts of a lane can be counted in every run. -/
theorem Runs.counted (runs : Runs setting events machine after) (id : EntityId) (priority : Nat) :
    ∃ starts, Starts setting id priority starts events machine after := by
  induction runs with
  | nil machine => exact ⟨0, .nil machine⟩
  | @cons event events first second third occurs rest ih =>
      obtain ⟨starts, counted⟩ := ih
      by_cases same : (second.world.lane? id priority).map Lane.epoch =
          (first.world.lane? id priority).map Lane.epoch
      · exact ⟨starts, .same occurs same counted⟩
      · exact ⟨starts + 1, .next occurs same counted⟩

/-- Where a lane comes from that is there after an event. -/
theorem Occurs.origin {event : Event} (occurs : Occurs setting event machine after)
    (there : after.world.lane? id priority = some later) :
    ∃ lane, machine.world.lane? id priority = some lane ∧
      (later.epoch = lane.epoch ∨ later.epoch = lane.epoch + 1) ∧
      (event ≠ .run id priority → lane.isBusy → later = lane ∨ later = lane.awake) := by
  obtain ⟨lane, here, aged⟩ := occurs.step.ages id priority later there
  refine ⟨lane, here, aged, fun foreign busy => ?_⟩
  have stays : event ≠ .remove id := by
    rintro rfl
    cases occurs
    rw [lane?_remove_self] at there
    cases there
  have kept := occurs.step.keeps foreign stays here busy
  rw [Roster.Keeps, World.lane?_roster, there, Option.some.injEq, Option.some.injEq] at kept
  exact kept.imp_right (·.2)

/-- Where a lane comes from that is there at the end of a run: its epoch has been counted up with
every start, and unless the lane had a turn it is as it was, or awake. -/
theorem Starts.origin (counted : Starts setting id priority starts events machine after)
    (there : after.world.lane? id priority = some later) :
    ∃ lane, machine.world.lane? id priority = some lane ∧
      later.epoch = lane.epoch + .ofNat starts ∧
      (.run id priority ∉ events → lane.isBusy → later = lane ∨ later = lane.awake) := by
  have chain {event : Event} {events : List Event} {lane middle : Lane}
      (first : event ≠ .run id priority → lane.isBusy → middle = lane ∨ middle = lane.awake)
      (rest : .run id priority ∉ events → middle.isBusy → later = middle ∨ later = middle.awake)
      (foreign : .run id priority ∉ event :: events) (busy : lane.isBusy) :
      later = lane ∨ later = lane.awake := by
    rw [List.mem_cons, not_or] at foreign
    rcases first (Ne.symm foreign.1) busy with rfl | rfl
    · exact rest foreign.2 busy
    · have awake := rest foreign.2 (by simpa using busy)
      rw [Lane.awake_of_not_paused (Lane.pauseReason?_awake lane)] at awake
      exact .inr (or_self_iff.mp awake)
  induction counted with
  | nil machine => exact ⟨later, there, by simp, fun _ _ => .inl rfl⟩
  | same occurs continues rest ih =>
      obtain ⟨middle, between, counted, kept⟩ := ih there
      obtain ⟨lane, here, -, held⟩ := occurs.origin between
      rw [between, here, Option.map_some, Option.map_some, Option.some.injEq] at continues
      exact ⟨lane, here, by rw [counted, continues], chain held kept⟩
  | @next starts event events first second third occurs renewed rest ih =>
      obtain ⟨middle, between, counted, kept⟩ := ih there
      obtain ⟨lane, here, aged, held⟩ := occurs.origin between
      rw [between, here, Option.map_some, Option.map_some, Ne, Option.some.injEq] at renewed
      have once : middle.epoch = lane.epoch + 1 := aged.resolve_left renewed
      refine ⟨lane, here, ?_, chain held kept⟩
      rw [counted, once, UInt32.add_assoc, UInt32.add_comm 1, UInt32.ofNat_add]
      rfl

/-! ## Giving a token back again -/

/-- The host is handed the token of the lane for which the request is made, and the lane keeps that
token while it waits. -/
theorem makeRequest_deferred {request : Request} {reason : PauseReason} {ip next : Nat}
    (here : machine.world.lane? id priority = some lane)
    (deferred : (machine.request setting request (lane.token id priority)).1 = .deferred) :
    (machine.makeRequest setting id priority ip next lane request reason).1.world.lane? id
      priority = some (lane.pause next reason) ∧
    (lane.pause next reason).token id priority = lane.token id priority := by
  refine ⟨?_, rfl⟩
  have spared := world_request setting machine request (lane.token id priority)
  unfold Lane.token at deferred spared
  unfold makeRequest
  dsimp only
  split
  · next answered made =>
      rw [made] at spared
      have same : (answered.setAwaitedWindow reason true).world.roster = machine.world.roster := by
        rw [roster_setAwaitedWindow, spared]
      have waiting := roster_updateLane same here (·.pause next reason)
      rw [← World.lane?_roster]
      exact (congrArg (·.lane? id priority) waiting).trans (Roster.lane?_put_self ..)
  · next value answered made =>
      rw [made] at deferred
      cases deferred

/-- Nothing about two machines is different but their journals. -/
structure Alike (first second : Machine σ) : Prop where
  world : first.world = second.world
  session : first.session = second.session
  random : first.random = second.random
  host : first.host = second.host

/-- A token that finds no lane paused in its invocation changes nothing. -/
theorem alike_applyResume (setting : Setting σ) {token : ResumeToken} (answer : Option UInt16)
    (deaf : ∀ lane, machine.world.lane? token.entity token.priority = some lane →
      lane.epoch = token.epoch → lane.pauseReason? = none) :
    (machine.applyResume setting token answer).Alike machine := by
  have silent : machine.world.wake token = (machine.world, none) := by
    have none : (machine.world.lane? token.entity token.priority).bind (·.wake? token.epoch) =
        none := by
      rw [Option.bind_eq_none_iff]
      intro lane here
      rw [Lane.wake?_eq]
      split
      · next named => rw [deaf lane here named, Option.map_none]
      · rfl
    rw [World.wake, none]
  unfold applyResume wake
  rw [silent]
  cases machine.world.lane? token.entity token.priority <;> exact ⟨rfl, rfl, rfl, rfl⟩

/-- A token that was given back once and is given back again, at any later time and however often,
changes nothing, unless its lane, in the same invocation, has run since and is paused again.  The
number of an invocation comes up again after 4294967296 starts of the lane. -/
theorem resume_again {asked : Machine σ} {waiting : Lane} {reason : PauseReason}
    {answer : Option UInt16} (waits : asked.world.lane? id priority = some waiting)
    (paused : waiting.pauseReason? = some reason)
    (counted : Starts setting id priority starts events
      (asked.applyResume setting (waiting.token id priority) answer) machine)
    (few : starts < 4294967296) (again : Option UInt16) :
    (machine.applyResume setting (waiting.token id priority) again).Alike machine ∨
    (starts = 0 ∧ .run id priority ∈ events ∧
      ∃ lane later, machine.world.lane? id priority = some lane ∧ lane.epoch = waiting.epoch ∧
        lane.pauseReason? = some later) := by
  by_cases repeated : ∃ lane later, machine.world.lane? id priority = some lane ∧
      lane.epoch = waiting.epoch ∧ lane.pauseReason? = some later
  · right
    obtain ⟨lane, later, there, same, stopped⟩ := repeated
    obtain ⟨origin, begun, older, kept⟩ := counted.origin there
    have woken : (asked.applyResume setting (waiting.token id priority) answer).world.lane? id
        priority = some waiting.awake := by
      rw [← World.lane?_roster, roster_applyResume, Roster.lane?_wake, World.lane?_roster, waits,
        Option.map_some, Lane.hear_named]
    rw [woken, Option.some.injEq] at begun
    subst begun
    refine ⟨?_, ?_, lane, later, there, same, stopped⟩
    · rw [same, Lane.epoch_awake] at older
      have numbers := congrArg UInt32.toNat older
      have bound := waiting.epoch.toNat_lt
      rw [UInt32.toNat_add, UInt32.toNat_ofNat'] at numbers
      omega
    · refine Decidable.byContradiction fun idle => ?_
      have unmoved := kept idle (by simpa using Lane.isBusy_of_pauseReason? paused)
      rw [Lane.awake_of_not_paused (Lane.pauseReason?_awake waiting), or_self_iff] at unmoved
      rw [unmoved, Lane.pauseReason?_awake] at stopped
      cases stopped
  · left
    refine alike_applyResume setting _ fun lane there named => ?_
    exact Option.eq_none_iff_forall_not_mem.mpr fun later stopped =>
      repeated ⟨lane, later, there, named, stopped⟩

end Machine

/-! ## A message and a question -/

/-!
An entity that shows a message and asks a question after it, with a host that leaves both open.
-/

namespace Interview

/-- The header, a name without a character, a script table and twelve bytes of code. -/
def bytes : Array UInt8 :=
  (([2, 5, 1, 0, 116, 0, 0, 0, 0, 2] ++ List.replicate 22 0 ++ List.replicate 8 0
    ++ [104, 0] ++ (List.replicate 31 [115, 0]).flatten
    ++ [0x40, 0x00, 0x00, 0x48, 0x10, 0x00, 0x00, 0x00, 0x01, 0x10, 0x00, 0x00] :
      List UInt8)).toArray

def source : Section := (Section.read bytes).toOption.getD Sample.source

def host : Host Unit where
  senses _ := {}
  request _ _ state := (.deferred, state, [])
  notify _ state := (state, [])

def setting : Setting Unit := { source, config := { opsPerTick := 8 }, host }

/-- The field after its first tick: the message is shown. -/
def shown : Machine Unit :=
  (Machine.enter setting (Session.fresh setting.config) (.ofSeed 0) ()).start.tick setting 0

/-- The lane that waits for the message to be closed. -/
def waiting : Lane := { status := .paused 107 (.message 0) none, script := 0, epoch := 1 }

/-- The token that was handed out with the message. -/
def token : ResumeToken := waiting.token 0 0

/-- The next tick, for which the token was given back: the question is asked. -/
def asked : Machine Unit := (shown.giveBack token none).tick setting 0

theorem message_waits : shown.world.lane? 0 0 = some waiting := by decide +kernel

end Interview

namespace Machine

/-- The token of a message that was closed answers a question of the same invocation: it wakes the
lane, closes the window and writes the cell of the question. -/
theorem interview_token_twice :
    Interview.asked.world.lane? 0 0 =
      some { status := .paused 114 (.ask 0 1 16) none, script := 0, epoch := 1 } ∧
    let idle := Interview.asked.tick Interview.setting 0
    let again := (Interview.asked.giveBack Interview.token (some 1)).tick Interview.setting 0
    (idle.world.lane? 0 0 =
        some { status := .paused 114 (.ask 0 1 16) none, script := 0, epoch := 1 } ∧
      idle.world.stage.windows[0]?.map (·.isOpen) = some true ∧
      idle.session.memory.cellAt 1 16 = 0) ∧
    (again.world.laneActive 0 0 ∧ again.world.stage.windows[0]?.map (·.isOpen) = some false ∧
      again.session.memory.cellAt 1 16 = 1) ∧
    ¬again.Alike idle := by
  refine ⟨by decide +kernel, ?_⟩
  intro idle again
  have still : idle.world.lane? 0 0 =
        some { status := .paused 114 (.ask 0 1 16) none, script := 0, epoch := 1 } ∧
      idle.world.stage.windows[0]?.map (·.isOpen) = some true ∧
      idle.session.memory.cellAt 1 16 = 0 := by
    decide +kernel
  have answered : again.world.laneActive 0 0 ∧
      again.world.stage.windows[0]?.map (·.isOpen) = some false ∧
      again.session.memory.cellAt 1 16 = 1 := by
    decide +kernel
  refine ⟨still, answered, fun alike => ?_⟩
  have cells := still.2.2
  rw [← alike.session, answered.2.2] at cells
  cases cells

/-- Right after the message was closed, its token does nothing. -/
theorem interview_token_used_up :
    let closed := Interview.shown.applyResume Interview.setting Interview.token none
    (closed.applyResume Interview.setting Interview.token (some 1)).Alike closed := by
  have again := @resume_again _ Interview.setting _ 0 0 0 [] Interview.shown _ _ none
    Interview.message_waits rfl (.nil _) (by decide) (some 1)
  rcases again with alike | ⟨-, ran, -⟩
  · exact alike
  · cases ran

end Machine

end FieldMachine
