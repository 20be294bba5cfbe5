import FieldMachine.Proofs.Outcome
import FieldMachine.Proofs.Ownership

/-!
# What becomes of main entries

A lane keeps the main entry that it has recorded as long as it runs the same script,
however often that script ends, fails or is started again; with another script it is
lost.  Whatever happens in a field, every lane either runs its script and has its main
entry as before, or runs another script and has none (`Machine.Occurs.retains`).

Only a return records a main entry: no other opcode comes to a plan that does
(`Opcode.sparesLoop`).
-/

namespace FieldMachine

set_option autoImplicit false

/-! ## Plans that have nothing to do with main loops -/

/-- Whether an ending has nothing to do with main loops: the lane does not go back to one, and is not
given up on the way there. -/
def Ending.sparesLoop : Ending → Bool
  | .yield | .fault _ => false
  | _ => true

/-- Whether a plan has nothing to do with main loops. -/
def Plan.sparesLoop : Plan → Bool
  | .retry _ => true
  | .act _ ending => ending.sparesLoop

/-- A plan that concerns no other script does not concern a main loop either. -/
theorem Plan.IsPlain.sparesLoop {held : Ending → Prop} {plan : Plan} (plain : plan.IsPlain held) :
    plan.sparesLoop := by
  cases plan with
  | retry entries => rfl
  | act effects ending =>
      cases ending with
      | yield => exact plain.2.elim
      | fault error => exact plain.2.elim
      | _ => rfl

section Handlers

open Reading

variable {scene : Scene} {cursor : Cursor}

theorem Movement.follow_sparesLoop (path : Path) (rest : Path → Continuation) :
    (follow path rest).Gives scene cursor (·.sparesLoop) :=
  .ite (fun _ => .past fun _ => .pure rfl) fun _ => .past fun _ => .pure rfl

theorem Movement.climb_sparesLoop : climb.Gives scene cursor (·.sparesLoop) := by
  refine .past fun _ => .past fun _ => .past fun _ => .past fun _ => .past fun _ => .past fun _ =>
    .past fun _ => .past fun _ => .past fun _ => .past fun _ => .past fun _ => .past fun _ =>
      .past fun _ => .past fun _ => .past fun _ => .past fun _ => .past fun climbing =>
        .bind (follow_sparesLoop _ _) fun plan spares => ?_
  cases plan with
  | retry entries => exact .pure rfl
  | act effects ending => exact .pure spares

/-- Of all opcodes, only the return has to do with main loops. -/
theorem Opcode.sparesLoop (op : Opcode) (scene : Scene) (cursor : Cursor) {reading : Reading Plan}
    (known : op.plan? = some reading) (other : op ≠ .ret) :
    reading.Gives scene cursor (·.sparesLoop) := by
  cases op with
  | ret => exact absurd rfl other
  | special | bgmovie | kawai | kawiw | slip | gwcol | swcol | vwoft | setx | getx | searchx
  | line | sline | mppal | cppal2 | rtpal2 | adpal2 | chmph | cmusc => cases known
  | lader =>
      cases known
      exact Movement.climb_sparesLoop
  | _ =>
      cases known
      -- The other handlers are followed branch by branch.
      repeat' first
        | with_reducible refine .past fun _ => ?_
        | with_reducible refine .ite (fun _ => ?_) fun _ => ?_
        | with_reducible exact .pure rfl
        | with_reducible exact .fail
        | with_reducible exact .invalid
        | dsimp only
        | split
        | refine .past fun _ => ?_
        | refine .ite (fun _ => ?_) fun _ => ?_
        | exact .pure rfl

end Handlers

/-! ## Lanes -/

namespace Lane

/-- Whether a lane is about to carry out a return at `ip`. -/
structure AtReturn (lane : Lane) (code : Array UInt8) (ip : Nat) : Prop where
  active : lane.isActive
  stands : lane.ip? = some ip
  fresh : lane.suspended? = none
  opcode : code[ip]? = some Opcode.ret.byte

/-- Whether a lane runs the script that it ran, and has the main entry that it had. -/
def SameLoop (lane later : Lane) : Prop :=
  later.script = lane.script ∧ later.mainEntry = lane.mainEntry

/-- Whether a lane is the same in this, or runs another script and has no main entry. -/
def Retains (lane later : Lane) : Prop :=
  lane.SameLoop later ∨ later.script ≠ lane.script ∧ later.mainEntry = none

theorem SameLoop.refl (lane : Lane) : lane.SameLoop lane := ⟨rfl, rfl⟩

theorem SameLoop.trans {lane middle later : Lane} (first : lane.SameLoop middle)
    (second : middle.SameLoop later) : lane.SameLoop later :=
  ⟨second.1.trans first.1, second.2.trans first.2⟩

theorem sameLoop_awake (lane : Lane) : lane.SameLoop lane.awake := by
  unfold awake
  split <;> exact ⟨rfl, rfl⟩

theorem sameLoop_hear (lane : Lane) (id : EntityId) (priority : Nat) (token : ResumeToken) :
    lane.SameLoop (lane.hear id priority token) := by
  unfold hear
  split
  · exact lane.sameLoop_awake
  · exact .refl lane

theorem retains_start (lane : Lane) (entry script : Nat) (onStop : Option ResumeToken) :
    lane.Retains (lane.start entry script onStop) := by
  unfold start Retains SameLoop
  by_cases same : lane.script = script
  · exact .inl ⟨same.symm, if_pos same⟩
  · exact .inr ⟨Ne.symm same, if_neg same⟩

end Lane

/-! ## Rosters -/

namespace Roster

/-- Whether every lane that is left runs the script that it ran, and has the main entry that it
had. -/
def SameLoops (before after : Roster) : Prop :=
  ∀ id priority later, after.lane? id priority = some later →
    ∃ lane, before.lane? id priority = some lane ∧ lane.SameLoop later

/-- Whether every lane that is left does, or runs another script and has no main entry. -/
def Retains (before after : Roster) : Prop :=
  ∀ id priority later, after.lane? id priority = some later →
    ∃ lane, before.lane? id priority = some lane ∧ lane.Retains later

variable {before middle after : Roster}

theorem SameLoops.refl (roster : Roster) : roster.SameLoops roster :=
  fun _ _ lane here => ⟨lane, here, .refl lane⟩

theorem SameLoops.trans (first : before.SameLoops middle) (second : middle.SameLoops after) :
    before.SameLoops after := by
  intro id priority later there
  obtain ⟨between, here, same⟩ := second id priority later there
  obtain ⟨lane, found, earlier⟩ := first id priority between here
  exact ⟨lane, found, earlier.trans same⟩

theorem SameLoops.retains (same : before.SameLoops after) : before.Retains after := by
  intro id priority later there
  obtain ⟨lane, here, same⟩ := same id priority later there
  exact ⟨lane, here, .inl same⟩

theorem Retains.refl (roster : Roster) : roster.Retains roster := (SameLoops.refl roster).retains

/-- What does not touch loops may come before a script that begins. -/
theorem SameLoops.thenRetains (first : before.SameLoops middle) (second : middle.Retains after) :
    before.Retains after := by
  intro id priority later there
  obtain ⟨between, here, retains⟩ := second id priority later there
  obtain ⟨lane, found, script, mainEntry⟩ := first id priority between here
  refine ⟨lane, found, ?_⟩
  rcases retains with same | ⟨other, lost⟩
  · exact .inl (.trans ⟨script, mainEntry⟩ same)
  · exact .inr ⟨fun same => other (same.trans script.symm), lost⟩

/-- What does not touch loops may come after a script that begins. -/
theorem Retains.thenSame (first : before.Retains middle) (second : middle.SameLoops after) :
    before.Retains after := by
  intro id priority later there
  obtain ⟨between, here, script, mainEntry⟩ := second id priority later there
  obtain ⟨lane, found, retains⟩ := first id priority between here
  refine ⟨lane, found, ?_⟩
  rcases retains with same | ⟨other, lost⟩
  · exact .inl (same.trans ⟨script, mainEntry⟩)
  · exact .inr ⟨fun same => other (script.symm.trans same), mainEntry.trans lost⟩

theorem sameLoops_wake (roster : Roster) (token : ResumeToken) :
    roster.SameLoops (roster.wake token) := by
  intro id priority later there
  obtain ⟨lane, here, rfl⟩ := Option.map_eq_some_iff.mp there
  exact ⟨lane, here, lane.sameLoop_hear id priority token⟩

theorem sameLoops_wakeAll (roster : Roster) (tokens : List ResumeToken) :
    roster.SameLoops (tokens.foldl wake roster) := by
  induction tokens generalizing roster with
  | nil => exact .refl roster
  | cons token rest ih => exact (roster.sameLoops_wake token).trans (ih _)

theorem sameLoops_complete (roster : Roster) (onStop : Option ResumeToken) :
    roster.SameLoops (roster.complete onStop) := by
  cases onStop with
  | none => exact .refl roster
  | some token => exact roster.sameLoops_wake token

theorem sameLoops_erase (roster : Roster) (id : EntityId) : roster.SameLoops (roster.erase id) := by
  intro other priority later there
  simp only [erase, Option.ite_none_left_eq_some] at there
  exact ⟨later, there.2, .refl later⟩

theorem Begins.retains {id : EntityId} {priority script : Nat}
    (begins : before.Begins id priority script after) : before.Retains after := by
  cases begins with
  | refused => exact .refl before
  | started admits =>
      intro other index later there
      rw [lane?_put] at there
      split at there
      · next own =>
          obtain ⟨rfl, rfl⟩ := own
          cases there
          exact ⟨_, admits.here, Lane.retains_start ..⟩
      · exact ⟨later, there, .inl (.refl later)⟩

end Roster

/-! ## Instructions -/

/-- Where the lanes come from that are there when one has been changed. -/
theorem World.origin_updateLane {world : World} {id other : EntityId} {priority index : Nat}
    {change : Lane → Lane} {later : Lane}
    (there : (world.updateLane id priority change).lane? other index = some later) :
    ∃ lane, world.lane? other index = some lane ∧ (later = lane ∨ later = change lane) := by
  rw [World.lane?_updateLane] at there
  split at there
  · obtain ⟨lane, here, rfl⟩ := Option.map_eq_some_iff.mp there
    exact ⟨lane, here, .inr rfl⟩
  · exact ⟨later, there, .inl rfl⟩

namespace Machine

variable {σ : Type} {setting : Setting σ}

section Endings

variable (machine : Machine σ) (id : EntityId) (priority ip next : Nat) (lane : Lane)

/-- A lane is changed in something else than its loop. -/
theorem sameLoops_updateLane (change : Lane → Lane)
    (keeps : ∀ lane : Lane, lane.SameLoop (change lane)) :
    machine.world.roster.SameLoops (machine.updateLane id priority change).world.roster := by
  intro other index later there
  obtain ⟨lane, here, rfl | rfl⟩ := World.origin_updateLane there
  · exact ⟨later, here, .refl later⟩
  · exact ⟨lane, here, keeps lane⟩

theorem sameLoops_giveUp (error : ExecError) :
    machine.world.roster.SameLoops (machine.giveUp setting id priority ip error).world.roster := by
  have stopped := machine.sameLoops_updateLane id priority (·.abort ip) fun _ => ⟨rfl, rfl⟩
  intro other index later there
  simp only [giveUp, world_notify, world_note] at there
  exact stopped other index later there

theorem sameLoops_finish (onStop : Option ResumeToken) :
    machine.world.roster.SameLoops
      ((machine.updateLane id priority Lane.finish).complete onStop).world.roster := by
  rw [roster_complete]
  exact (machine.sameLoops_updateLane id priority Lane.finish fun _ => ⟨rfl, rfl⟩).trans
    (Roster.sameLoops_complete _ onStop)

theorem retains_passOn (level script : Nat) :
    machine.world.roster.Retains (machine.passOn id priority lane level script).1.world.roster :=
  (machine.sameLoops_finish id priority lane.onStop?).thenRetains
    (startScript_begins _ id level script).retains

theorem sameLoops_makeRequest (request : Request) (reason : PauseReason) :
    machine.world.roster.SameLoops
      (machine.makeRequest setting id priority ip next lane request reason).1.world.roster := by
  have asked := world_request setting machine request (lane.token id priority)
  unfold Lane.token at asked
  unfold makeRequest
  dsimp only
  split
  · next answered made =>
      rw [made] at asked
      have asked : answered.world = machine.world := asked
      rw [← asked, ← answered.roster_setAwaitedWindow reason true]
      exact sameLoops_updateLane _ id priority _ fun _ => ⟨rfl, rfl⟩
  · next value answered made =>
      rw [made] at asked
      have asked : answered.world = machine.world := asked
      have settled : ((answered.setAwaitedWindow reason false).settle setting reason
          value).1.world.roster = machine.world.roster := by
        rw [world_settle, roster_setAwaitedWindow, asked]
      rw [← settled]
      split
      · next done taken =>
          rw [taken]
          exact done.sameLoops_updateLane id priority _ fun _ => ⟨rfl, rfl⟩
      · next done error taken =>
          rw [taken]
          exact done.sameLoops_giveUp id priority ip error

/-- However an instruction ends, it keeps all main entries, or another script begins. -/
theorem retains_conclude (ending : Ending) :
    machine.world.roster.Retains
      (machine.conclude setting id priority ip next lane ending).1.world.roster := by
  have moved (change : Lane → Lane) (keeps : ∀ lane : Lane, lane.SameLoop (change lane)) :=
    (machine.sameLoops_updateLane id priority change keeps).retains
  cases ending with
  | advance => exact moved (·.advance next) fun _ => ⟨rfl, rfl⟩
  | yield => exact moved (·.advance next) fun _ => ⟨rfl, rfl⟩
  | suspend continuation =>
      exact moved (·.rewind ip (some { next, continuation })) fun _ => ⟨rfl, rfl⟩
  | pause reason => exact moved (·.pause next reason) fun _ => ⟨rfl, rfl⟩
  | stop => exact (machine.sameLoops_finish id priority lane.onStop?).retains
  | handOver level script => exact machine.retains_passOn id priority lane level script
  | request request reason =>
      exact (machine.sameLoops_makeRequest id priority ip next lane request reason).retains
  | fault error => exact (machine.sameLoops_giveUp id priority ip error).retains

/-- Effects that leave all lanes alone keep all main entries. -/
theorem retains_carryOut_of_spared {effects : List Effect}
    (spared : ∀ effect ∈ effects, effect.sparesLanes) (ending : Ending) :
    machine.world.roster.Retains
      (machine.carryOut setting id priority ip next lane (.act effects ending)).1.world.roster := by
  have performed := Effect.roster_performAll setting machine spared
  simp only [carryOut]
  rw [← performed]
  split
  · next done taken =>
      rw [taken]
      exact done.retains_conclude id priority ip next lane ending
  · next done error taken =>
      rw [taken]
      exact (done.sameLoops_giveUp id priority ip error).retains

/-- Starting a script touches no loop but the one of its lane. -/
theorem retains_startLane (target : EntityId) (level entry script : Nat)
    (onStop : Option ResumeToken) :
    machine.world.roster.Retains
      (machine.updateLane target level (·.start entry script onStop)).world.roster := by
  intro other index later there
  obtain ⟨lane, here, rfl | rfl⟩ := World.origin_updateLane there
  · exact ⟨later, here, .inl (.refl later)⟩
  · exact ⟨lane, here, lane.retains_start entry script onStop⟩

end Endings

/-- Carrying out a plan that has nothing to do with main loops. -/
theorem retains_carryOut {scene : Scene} {held : Ending → Prop} {plan : Plan}
    (fits : plan.Fits scene held) (spares : plan.sparesLoop) (machine : Machine σ) (id : EntityId)
    (priority ip next : Nat) (lane : Lane) :
    machine.world.roster.Retains
      (machine.carryOut setting id priority ip next lane plan).1.world.roster := by
  cases fits with
  | @plain plan plain =>
      cases plan with
      | retry entries =>
          have again := (entries.foldl note machine).sameLoops_updateLane id priority
            (·.rewind ip none) fun _ => ⟨rfl, rfl⟩
          rw [world_noteAll] at again
          exact again.retains
      | act effects ending =>
          exact machine.retains_carryOut_of_spared id priority ip next lane
            (fun effect among => Effect.sparesLanes_of_isPlain (plain.1 effect among)) ending
  | @call target entity level script entry told known admitted =>
      have started := machine.retains_startLane target level entry script none
      exact started.thenSame (sameLoops_updateLane _ id priority _ fun _ => ⟨rfl, rfl⟩)
  | @await target entity level script entry told known admitted =>
      have started := machine.retains_startLane target level entry script
        (some (scene.lane.token scene.entity scene.priority))
      exact started.thenSame (sameLoops_updateLane _ id priority _ fun _ => ⟨rfl, rfl⟩)
  | dance spared =>
      exact machine.retains_carryOut_of_spared id priority ip next lane
        (Effect.sparesLanes_append spared rfl) _
  | handOver level script => exact machine.retains_passOn id priority lane level script
  | home entry => cases spares
  | lost entry strays => cases spares
  | lead spared known =>
      exact machine.retains_carryOut_of_spared id priority ip next lane
        (Effect.sparesLanes_append spared rfl) _

/-- Whatever is worked out where no return stands has nothing to do with main loops. -/
theorem sparesLoop_of_workOut {code : Array UInt8} {scene : Scene} {ip next : Nat} {plan : Plan}
    (worked : workOut code scene ip scene.lane.suspended? = .ok (plan, next))
    (other : scene.lane.suspended? = none → code[ip]? ≠ some Opcode.ret.byte) :
    plan.sparesLoop := by
  cases left : scene.lane.suspended? with
  | none =>
      rw [left, workOut_none_eq_ok] at worked
      obtain ⟨byte, reading, cursor, after, fetched, read, -⟩ := worked
      obtain ⟨stands, planned, rfl⟩ := fetch_eq_ok.mp fetched
      obtain ⟨op, rfl, known⟩ := planOfByte?_eq_some.mp planned
      refine op.sparesLoop scene _ known ?_ plan after read
      rintro rfl
      exact other left stands
  | some suspended =>
      rw [left, workOut_some_eq_ok] at worked
      obtain ⟨cursor, after, moved, read, -⟩ := worked
      obtain ⟨inside, rfl⟩ := Cursor.moveTo_eq_ok.mp moved
      exact (suspended.continuation.plan_takes.result inside read).2.2.sparesLoop

/-- The step of a lane that is not about to return. -/
theorem retains_step (setting : Setting σ) (machine : Machine σ) (id : EntityId) (priority : Nat)
    (other : ∀ lane ip, machine.world.lane? id priority = some lane →
      ¬lane.AtReturn setting.source.code ip) :
    machine.world.roster.Retains (machine.step setting id priority).1.world.roster := by
  cases runs : machine.world.laneActive id priority with
  | false =>
      rw [step_of_inactive setting runs]
      exact .refl _
  | true =>
      obtain ⟨lane, here, active⟩ := (Option.any_eq_true _ _).mp runs
      obtain ⟨ip, noted, stands, journal, same⟩ := step_eq setting here active
      have spared : noted.world = machine.world := by
        rcases journal with rfl | ⟨byte, -, rfl⟩ <;> rfl
      rw [same, ← spared]
      split
      · next error failed => exact (noted.sameLoops_giveUp id priority ip error).retains
      · next plan next worked =>
          have comesTo : (machine.sceneOf setting id priority ip lane).ComesTo ip plan next :=
            Scene.comesTo_of_workOut worked
          have elsewhere (fresh : lane.suspended? = none) :
              setting.source.code[ip]? ≠ some Opcode.ret.byte := fun opcode =>
            other lane ip here ⟨active, stands, fresh, opcode⟩
          have spares : plan.sparesLoop :=
            @sparesLoop_of_workOut _ (machine.sceneOf setting id priority ip lane) _ _ _ worked elsewhere
          exact retains_carryOut (comesTo.fits stands) spares noted id priority ip next lane

/-- Whatever happens, unless it is a return, keeps all main entries, or another script begins. -/
theorem Occurs.retains {event : Event} {machine after : Machine σ}
    (occurs : Occurs setting event machine after)
    (other : ∀ id priority lane ip, event = .run id priority →
      machine.world.lane? id priority = some lane → ¬lane.AtReturn setting.source.code ip) :
    machine.world.roster.Retains after.world.roster := by
  have step := occurs.step
  cases occurs with
  | run _ id priority =>
      exact machine.retains_step setting id priority fun lane ip => other id priority lane ip rfl
  | work _ frame activity =>
      generalize (activity.run setting frame machine).1.world.roster = later at step
      generalize activity.wakes? = token at step
      cases step with
      | keep => exact .refl _
      | work => exact (Roster.sameLoops_wake _ _).retains
  | resume _ token answer =>
      rw [roster_applyResume]
      exact (Roster.sameLoops_wake _ token).retains
  | invoke _ id priority script => exact (machine.startScript_begins id priority script).retains
  | remove _ id =>
      generalize (machine.remove id).1.world.roster = later at step
      cases step with
      | keep => exact .refl _
      | remove all =>
          exact ((Roster.sameLoops_erase _ id).trans (Roster.sameLoops_wakeAll _ _)).retains
  | other same =>
      rw [same]
      exact .refl _

end Machine

end FieldMachine
