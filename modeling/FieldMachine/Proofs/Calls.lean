import FieldMachine.Proofs.Run

/-!
# No completion of a call is lost

A lane that called a script and waits for its end is woken by the end of that
script, and by nothing else that is sure to come.  So as long as no lane was
given up, somebody must owe it that completion: another lane that is still at
work, or a token that is just about to be fired (`Roster.Owes`).

Between two events no token is left over, and every caller has its callee
(`Machine.Visited.callee_of_caller`).
-/

namespace FieldMachine

set_option autoImplicit false

namespace Lane

/-- A lane that owes somebody its completion is at work. -/
theorem isBusy_of_onStop? {lane : Lane} {token : ResumeToken} (told : lane.onStop? = some token) :
    lane.isBusy := by
  obtain ⟨status, script, epoch, mainEntry⟩ := lane
  cases status with
  | idle => cases told
  | stopped ip retries => cases told
  | active ip retries suspended onStop => rfl
  | paused ip reason onStop => rfl

/-- A lane that is carried on still owes its completion. -/
theorem Carries.onStop? {source : Section} {jumps : Opcode → Prop} {lane after : Lane}
    (carries : lane.Carries source jumps after) : after.onStop? = lane.onStop? := by
  cases carries <;> rfl

/-- A lane that is carried on has called nobody. -/
theorem Carries.not_call {source : Section} {jumps : Opcode → Prop} {lane after : Lane}
    (carries : lane.Carries source jumps after) : after.pauseReason? ≠ some .call := by
  intro waits
  cases carries with
  | pause passes awaited =>
      cases waits
      exact awaited.ne_call rfl
  | _ => cases waits

end Lane

namespace Roster

variable {roster : Roster} {tokens : List ResumeToken}

/-- Some lane other than the caller owes it its completion. -/
def Answered (roster : Roster) (id : EntityId) (priority : Nat) (token : ResumeToken) : Prop :=
  ∃ other level callee, ¬(other = id ∧ level = priority) ∧
    roster.lane? other level = some callee ∧ callee.onStop? = some token

/-- Every lane that waits for a call is owed its completion, by another lane or by a token that is
about to be fired. -/
def Owes (tokens : List ResumeToken) (roster : Roster) : Prop :=
  ∀ id priority lane, roster.lane? id priority = some lane → lane.pauseReason? = some .call →
    lane.token id priority ∈ tokens ∨ roster.Answered id priority (lane.token id priority)

/-- A fired token is heard by the one it was owed to. -/
theorem Owes.wake {token : ResumeToken} (owes : roster.Owes (token :: tokens)) :
    (roster.wake token).Owes tokens := by
  intro id priority lane here waits
  obtain ⟨before, there, rfl⟩ := Option.map_eq_some_iff.mp here
  by_cases named : token = before.token id priority
  · subst named
    rw [Lane.hear_named, Lane.pauseReason?_awake] at waits
    cases waits
  · rw [Lane.hear_other named] at waits ⊢
    rcases owes id priority before there waits with pending | answered
    · rcases List.mem_cons.mp pending with same | later
      · exact absurd same.symm named
      · exact .inl later
    · obtain ⟨other, level, callee, apart, found, told⟩ := answered
      refine .inr ⟨other, level, callee.hear other level token, apart, ?_, by simpa using told⟩
      rw [lane?_wake, found, Option.map_some]

theorem Owes.wakeAll (owes : roster.Owes tokens) : (tokens.foldl Roster.wake roster).Owes [] := by
  induction tokens generalizing roster with
  | nil => exact owes
  | cons token rest ih => exact ih owes.wake

theorem Owes.complete {onStop : Option ResumeToken} (owes : roster.Owes onStop.toList) :
    (roster.complete onStop).Owes [] := by
  cases onStop with
  | none => exact owes
  | some token => exact owes.wake

/-- More tokens may be about to be fired. -/
theorem Owes.mono {more : List ResumeToken} (owes : roster.Owes tokens)
    (subset : ∀ token ∈ tokens, token ∈ more) : roster.Owes more := by
  intro id priority lane here waits
  exact (owes id priority lane here waits).imp_left (subset _)

/-- Putting a lane in place owes as much as before if it still owes what the old one did, and if it
waits for no call or is answered itself. -/
theorem Owes.put {id : EntityId} {priority : Nat} {lane : Lane} (owes : roster.Owes tokens)
    (kept : ∀ old token, roster.lane? id priority = some old → old.onStop? = some token →
      lane.onStop? = some token ∨ token ∈ tokens)
    (waits : lane.pauseReason? = some .call →
      roster.Answered id priority (lane.token id priority)) :
    (roster.put id priority lane).Owes tokens := by
  have lasting : ∀ other level token, roster.Answered other level token →
      token ∈ tokens ∨ (roster.put id priority lane).Answered other level token := by
    intro other level token answered
    obtain ⟨target, height, callee, apart, found, told⟩ := answered
    by_cases replaced : target = id ∧ height = priority
    · obtain ⟨rfl, rfl⟩ := replaced
      rcases kept callee token found told with still | pending
      · exact .inr ⟨target, height, lane, apart, lane?_put_self _ _ _ _, still⟩
      · exact .inl pending
    · exact .inr ⟨target, height, callee, apart, by rw [lane?_put_other _ replaced, found], told⟩
  intro other level caller here calls
  by_cases own : other = id ∧ level = priority
  · obtain ⟨rfl, rfl⟩ := own
    rw [lane?_put_self] at here
    cases here
    exact lasting _ _ _ (waits calls)
  · rw [lane?_put_other _ own] at here
    rcases owes other level caller here calls with pending | answered
    · exact .inl pending
    · exact lasting _ _ _ answered

/-- Starting a script takes no completion away. -/
theorem Owes.begins {id : EntityId} {priority script : Nat} {after : Roster}
    (owes : roster.Owes tokens) (begins : roster.Begins id priority script after) :
    after.Owes tokens := by
  cases begins with
  | refused => exact owes
  | started admits =>
      refine owes.put ?_ (by intro waits; cases waits)
      intro old token here told
      rw [admits.here] at here
      cases here
      exact absurd (Lane.isBusy_of_onStop? told) (by simp [admits.free])

/-- The lane of an instruction: a completion that it owes is owed still, or about to be fired. -/
theorem Owes.put_own {id : EntityId} {priority : Nat} {lane after : Lane}
    (owes : roster.Owes tokens) (here : roster.lane? id priority = some lane)
    (kept : after.onStop? = lane.onStop?)
    (waits : after.pauseReason? = some .call →
      roster.Answered id priority (after.token id priority)) :
    (roster.put id priority after).Owes tokens := by
  refine owes.put ?_ waits
  intro old token there told
  rw [here] at there
  cases there
  exact .inl (kept.trans told)

theorem Owes.finish {id : EntityId} {priority : Nat} {lane : Lane} (owes : roster.Owes [])
    (here : roster.lane? id priority = some lane) :
    (roster.finish id priority lane).Owes [] := by
  refine Owes.complete ((owes.mono (by simp)).put ?_ (by intro waits; cases waits))
  intro old token there told
  rw [here] at there
  cases there
  exact .inr (by simp [told])

/-- Whatever an instruction does, unless it fails, all callers are still answered. -/
theorem Owes.turn {source : Section} {jumps : Opcode → Prop} {id : EntityId} {priority : Nat}
    {lane : Lane} {after : Roster} (owes : roster.Owes [])
    (here : roster.lane? id priority = some lane) (active : lane.isActive)
    (turn : roster.Turn source jumps id priority lane after)
    (clean : after.faults = roster.faults) : after.Owes [] := by
  have busy := Lane.isBusy_of_isActive active
  cases turn with
  | carry carries =>
      exact owes.put_own here carries.onStop? fun waits => absurd waits carries.not_call
  | @call target level script entry next free admits goesOn =>
      have called : (roster.put target level (free.start entry script none)).Owes [] :=
        owes.begins (.started admits)
      exact called.put_own (admits.lane?_put here busy _) rfl (by intro waits; cases waits)
  | @await target level script entry next free admits passes =>
      let started := free.start entry script (some (lane.token id priority))
      have called : (roster.put target level started).Owes [] := by
        refine owes.put ?_ (by intro waits; cases waits)
        intro old token there told
        rw [admits.here] at there
        cases there
        exact absurd (Lane.isBusy_of_onStop? told) (by simp [admits.free])
      refine called.put_own (admits.lane?_put here busy _) rfl fun _ => ?_
      exact ⟨target, level, started, fun same => admits.ne here busy ⟨same.1.symm, same.2.symm⟩,
        lane?_put_self _ _ _ _, rfl⟩
  | stop => exact owes.finish here
  | handOver begins => exact (owes.finish here).begins begins
  | abort stands mainEntry => simp [fault] at clean

/-- Removing an entity leaves the tokens of its lanes to be fired. -/
theorem Owes.erase {id : EntityId} (owes : roster.Owes [])
    (all : ∀ token, token ∈ tokens ↔ (Event.remove id).Fires roster token) :
    (roster.erase id).Owes tokens := by
  intro other level caller here waits
  have present : ¬other = id := by
    intro gone
    simp [Roster.erase, gone] at here
  have there : roster.lane? other level = some caller := by
    simpa [Roster.erase, present] using here
  rcases owes other level caller there waits with pending | answered
  · cases pending
  · obtain ⟨target, height, callee, apart, found, told⟩ := answered
    by_cases gone : target = id
    · subst gone
      exact .inl ((all _).mpr ⟨height, callee, found, told⟩)
    · exact .inr ⟨target, height, callee, apart, by simpa [Roster.erase, gone] using found, told⟩

/-- No event takes a fault back. -/
theorem Step.faults_le {source : Section} {event : Event} {after : Roster}
    (step : roster.Step source event after) : roster.faults ≤ after.faults := by
  have wakeAll (tokens : List ResumeToken) (roster : Roster) :
      (tokens.foldl wake roster).faults = roster.faults := by
    induction tokens generalizing roster with
    | nil => rfl
    | cons token rest ih => exact ih (roster.wake token)
  cases step with
  | turn here active turn =>
      cases turn with
      | handOver begins => cases begins <;> simp
      | abort stands mainEntry => simp [fault]
      | _ => simp
  | invoke begins => cases begins <;> simp
  | remove all => simp [wakeAll, erase]
  | _ => simp

/-- As long as no lane is given up, every event leaves all callers answered. -/
theorem Owes.step {source : Section} {event : Event} {after : Roster} (owes : roster.Owes [])
    (step : roster.Step source event after) (clean : after.faults = roster.faults) :
    after.Owes [] := by
  cases step with
  | keep => exact owes
  | turn here active turn => exact owes.turn here active turn clean
  | work => exact (owes.mono (by simp)).wake
  | resume => exact (owes.mono (by simp)).wake
  | invoke begins => exact owes.begins begins
  | remove all => exact (owes.erase all).wakeAll

end Roster

/-! ## The end of a callee -/

/-- A plan that ends the invocation. -/
inductive Plan.Ends : Plan → Prop
  | stop {effects : List Effect} (spared : ∀ effect ∈ effects, effect.sparesLanes) :
      Ends (.act effects .stop)
  | handOver (level script : Nat) : Ends (.act [] (.handOver level script))

/-- A return ends every invocation that is waited for. -/
theorem Control.goBack_of_owed {scene : Scene} (owed : scene.lane.onStop?.isSome)
    (cursor : Cursor) : goBack scene cursor = .ok (.act [] .stop, cursor) := by
  have ends : (scene.priority ≠ 0 || scene.lane.script ≠ 0 || scene.lane.onStop?.isSome) := by
    simp [owed]
  simp only [goBack, Reading.bind_apply, Reading.here, Reading.scene, Except.bind, ends, if_true]
  rfl

namespace Opcode

/-- The opcodes that end every invocation that is waited for. -/
def enders : List Opcode := [.ret, .retto, .gameover]

theorem ends_of_owed {op : Opcode} {scene : Scene} {reading : Reading Plan}
    {cursor after : Cursor} {plan : Plan} (ends : op ∈ enders) (known : op.plan? = some reading)
    (owed : scene.lane.onStop?.isSome) (inside : cursor.pc ≤ cursor.code.size)
    (worked : reading scene cursor = .ok (plan, after)) : plan.Ends := by
  simp only [enders, List.mem_cons, List.not_mem_nil, or_false] at ends
  rcases ends with rfl | rfl | rfl
  · cases known
    rw [Control.goBack_of_owed owed] at worked
    cases worked
    exact .stop (by simp)
  · cases known
    have takes : Control.handOver.Takes scene 1 Plan.Ends :=
      Control.callee_takes.bind fun _ _ => .pure (.handOver _ _)
    exact (takes.result inside worked).2.2
  · cases known
    have takes : Transition.gameOver.Takes scene 0 Plan.Ends :=
      .pure (.stop (by simp [Effect.sparesLanes]))
    exact (takes.result inside worked).2.2

end Opcode

namespace Machine

/-- Whoever stands on one of these opcodes and is waited for ends, if its operands can be read. -/
theorem ends_of_workOut {code : Array UInt8} {scene : Scene} {ip next : Nat} {op : Opcode}
    {plan : Plan} (stands : code[ip]? = some op.byte) (ends : op ∈ Opcode.enders)
    (owed : scene.lane.onStop?.isSome) (worked : workOut code scene ip none = .ok (plan, next)) :
    plan.Ends := by
  obtain ⟨byte, reading, cursor, after, fetched, read, rfl⟩ := workOut_none_eq_ok.mp worked
  obtain ⟨there, planned, rfl⟩ := fetch_eq_ok.mp fetched
  obtain ⟨named, rfl, known⟩ := planOfByte?_eq_some.mp planned
  rw [stands] at there
  cases Opcode.byte_injective (Option.some.inj there)
  obtain ⟨inside, -⟩ := Array.getElem?_eq_some_iff.mp stands
  have behind : ((Cursor.atStart code ip).forward 1).pc ≤ code.size := inside
  exact Opcode.ends_of_owed ends known owed behind read

variable {σ : Type} {setting : Setting σ} {machine : Machine σ} {id : EntityId} {priority : Nat}
  {lane : Lane}

/-- What a plan does that ends the invocation, unless it fails. -/
theorem carryOut_ends {ip next : Nat} {plan : Plan} {roster : Roster}
    (same : machine.world.roster = roster) (here : roster.lane? id priority = some lane)
    (ends : plan.Ends)
    (clean : (machine.carryOut setting id priority ip next lane plan).1.world.faults =
      roster.faults) :
    ∃ level script,
      (roster.finish id priority lane).Begins id level script
        (machine.carryOut setting id priority ip next lane plan).1.world.roster := by
  cases ends with
  | @stop effects spared =>
      have performed := Effect.roster_performAll setting machine spared
      revert clean
      simp only [carryOut]
      split
      · next done taken =>
          intro _
          rw [taken, same] at performed
          have ended := roster_finish performed here
          exact ⟨0, 0, ended ▸ .refused⟩
      · next done error taken =>
          rw [taken, same] at performed
          intro clean
          have gone := congrArg Roster.faults (roster_giveUp setting performed here ip error)
          have counted : roster.faults = roster.faults + 1 := clean.symm.trans gone
          omega
  | handOver level script =>
      have begins := startScript_begins
        ((machine.updateLane id priority Lane.finish).complete lane.onStop?) id level script
      rw [roster_finish same here] at begins
      exact ⟨level, script, begins⟩

/-- A lane that somebody waits for and that stands on `RET`, `RETTO` or `GAMEOVER` ends in its
step, unless it fails. -/
theorem step_ends {ip : Nat} {op : Opcode} (here : machine.world.lane? id priority = some lane)
    (active : lane.isActive) (fresh : lane.suspended? = none) (stands : lane.ip? = some ip)
    (byte : setting.source.code[ip]? = some op.byte) (ends : op ∈ Opcode.enders)
    (owed : lane.onStop?.isSome)
    (clean : (machine.step setting id priority).1.world.faults = machine.world.faults) :
    ∃ level script,
      (machine.world.roster.finish id priority lane).Begins id level script
        (machine.step setting id priority).1.world.roster := by
  obtain ⟨place, noted, same, journal, stepped⟩ := step_eq setting here active
  rw [stands] at same
  cases same
  have spared : noted.world.roster = machine.world.roster := by
    rcases journal with rfl | ⟨byte, -, rfl⟩ <;> rfl
  revert clean
  rw [stepped]
  split
  · next error failed =>
      intro clean
      have gone := congrArg Roster.faults (roster_giveUp setting spared here ip error)
      have counted : machine.world.faults = machine.world.faults + 1 := clean.symm.trans gone
      omega
  · next plan next worked =>
      rw [fresh] at worked
      exact carryOut_ends spared here (ends_of_workOut byte ends owed worked)

/-- The end of the lane that owes a caller its completion wakes the caller. -/
theorem lane?_of_ended {roster after : Roster} {other : EntityId} {level : Nat} {caller : Lane}
    {height script : Nat} (here : roster.lane? id priority = some caller)
    (waits : caller.isBusy) (apart : ¬(other = id ∧ level = priority))
    (told : lane.onStop? = some (caller.token id priority))
    (begins : (roster.finish other level lane).Begins other height script after) :
    after.lane? id priority = some caller.awake := by
  have woken : (roster.finish other level lane).lane? id priority = some caller.awake := by
    rw [Roster.finish, told]
    simp only [Roster.complete, Roster.lane?_wake]
    rw [Roster.lane?_put_other _ fun same => apart ⟨same.1.symm, same.2.symm⟩, here]
    simp [Lane.hear_named]
  cases begins with
  | refused => exact woken
  | started admits => exact admits.lane?_put woken (by simpa using waits) _

/-- In every state of a field in which no lane was given up so far, a lane that waits for a call has
its callee: another lane of an entity that is present, at work and with the token of the caller.
The caller is woken as soon as the callee returns, hands over or ends the game, and when the entity
of the callee is removed. -/
theorem Visited.callee_of_caller (visited : Visited setting machine)
    (clean : machine.world.faults = 0) (here : machine.world.lane? id priority = some lane)
    (waits : lane.pauseReason? = some .call) :
    ∃ other level callee,
      ¬(other = id ∧ level = priority) ∧
      (machine.world.entity? other).isSome ∧
      machine.world.lane? other level = some callee ∧
      callee.isBusy ∧
      callee.onStop? = some (lane.token id priority) ∧
      (∀ ip op, callee.isActive → callee.suspended? = none → callee.ip? = some ip →
        setting.source.code[ip]? = some op.byte → op ∈ Opcode.enders →
        (machine.step setting other level).1.world.faults = 0 →
        (machine.step setting other level).1.world.lane? id priority = some lane.awake) ∧
      (other ≠ id → (machine.remove other).1.world.lane? id priority = some lane.awake) := by
  have owes : machine.world.roster.faults = 0 → machine.world.roster.Owes [] := by
    refine visited.roster_induction (fun roster => roster.faults = 0 → roster.Owes []) ?_ ?_
    · intro _ id priority lane here waits
      rw [World.lane?_ofSection here] at waits
      cases waits
    · intro event before after step owes clean
      have le := step.faults_le
      exact (owes (by omega)).step step (by omega)
  rcases owes clean id priority lane here waits with pending | answered
  · cases pending
  · obtain ⟨other, level, callee, apart, found, told⟩ := answered
    obtain ⟨entity, known, -⟩ := Option.bind_eq_some_iff.mp found
    have busy := Lane.isBusy_of_pauseReason? waits
    refine ⟨other, level, callee, apart, by simp [known], found, Lane.isBusy_of_onStop? told, told,
      ?_, ?_⟩
    · intro ip op active fresh stands byte ends kept
      obtain ⟨height, script, begins⟩ := step_ends found active fresh stands byte ends
        (by simp [told]) (kept.trans clean.symm)
      exact lane?_of_ended here busy apart told begins
    · intro elsewhere
      rw [← World.lane?_roster, machine.roster_remove known]
      have kept : (machine.world.roster.erase other).lane? id priority = some lane := by
        simpa [Roster.erase, Ne.symm elsewhere] using here
      rw [Roster.lane?_wakeAll _ kept, if_pos]
      exact (mem_completions known).mpr ⟨level, callee, found, told⟩

/-- In the small field the caller waits for the other entity. -/
theorem callee_of_sample_caller :
    Sample.waiting.world.faults = 0 ∧
    ∃ other level callee,
      ¬(other = 0 ∧ level = 0) ∧
      (Sample.waiting.world.entity? other).isSome ∧
      Sample.waiting.world.lane? other level = some callee ∧
      callee.isBusy ∧
      callee.onStop? = some ⟨0, 0, 1⟩ := by
  have clean : Sample.waiting.world.faults = 0 := by decide +kernel
  obtain ⟨other, level, callee, apart, present, found, busy, told, -⟩ :=
    Sample.visited_waiting.callee_of_caller clean Sample.caller_waits rfl
  exact ⟨clean, other, level, callee, apart, present, found, busy, told⟩

end Machine

end FieldMachine
