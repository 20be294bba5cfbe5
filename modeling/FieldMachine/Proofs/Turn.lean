import FieldMachine.Proofs.Roster
import FieldMachine.Proofs.Length

/-!
# What an instruction does to the lanes

One instruction, whichever it is and wherever it stands, changes the roster in
one of six ways (`Roster.Turn`): its lane is carried on, starts a script with or
without waiting for it, ends, hands over, or is given up.

A lane that is carried on stays where it is, goes on behind its instruction, or
jumps; `Lane.Passes` and `Lane.GoesOn` say where.  `Machine.step_turn` shows that
there are no other ways.
-/

namespace FieldMachine

set_option autoImplicit false

/-! ## Where a lane goes on -/

namespace Lane

variable (source : Section) (jumps : Opcode → Prop) (lane : Lane)

/-- The places behind what a lane stands on: behind a whole instruction, or where the rest of one
said. -/
inductive Passes : Nat → Prop
  | whole {ip length : Nat} (here : lane.ip? = some ip) (fresh : lane.suspended? = none)
      (long : instructionLength? source.code ip = some length) : Passes (ip + length)
  | rest {suspended : Suspended} (left : lane.suspended? = some suspended)
      (inside : suspended.next ≤ source.code.size) : Passes suspended.next

/-- The places where a lane can go on; `jumps` tells which opcodes jump. -/
inductive GoesOn : Nat → Prop
  | passes {next : Nat} (passes : lane.Passes source next) : GoesOn next
  | jumps {ip target : Nat} {op : Opcode} (here : lane.ip? = some ip)
      (fresh : lane.suspended? = none) (stands : source.code[ip]? = some op.byte)
      (moves : jumps op) (above : source.codeStart ≤ target) (below : target < source.codeEnd) :
      GoesOn target

/-- What can become of a lane that concerns no other. -/
inductive Carries : Lane → Prop
  | advance {next : Nat} (goesOn : lane.GoesOn source jumps next) : Carries (lane.advance next)
  /-- Back to the main loop, whose beginning is recorded. -/
  | home {next : Nat} (entry : Nat) (goesOn : lane.GoesOn source jumps next) :
      Carries (advance { lane with mainEntry := some entry } next)
  | pause {next : Nat} {reason : PauseReason} (passes : lane.Passes source next)
      (awaited : reason.IsAwaited) : Carries (lane.pause next reason)
  /-- Tries the instruction again. -/
  | retry {ip : Nat} (here : lane.ip? = some ip) : Carries (lane.rewind ip none)
  /-- Leaves a rest of a whole instruction. -/
  | suspend {ip : Nat} {op : Opcode} {continuation : Continuation} (here : lane.ip? = some ip)
      (fresh : lane.suspended? = none) (stands : source.code[ip]? = some op.byte)
      (long : instructionLength? source.code ip = some op.size)
      (owned : op ∈ continuation.owners) :
      Carries (lane.rewind ip (some { next := ip + op.size, continuation }))
  /-- Leaves a rest of a rest. -/
  | linger {ip : Nat} {suspended : Suspended} {continuation : Continuation}
      (here : lane.ip? = some ip) (left : lane.suspended? = some suspended)
      (inside : suspended.next ≤ source.code.size)
      (owned : ∀ op ∈ suspended.continuation.owners, op ∈ continuation.owners) :
      Carries (lane.rewind ip (some { next := suspended.next, continuation }))

end Lane

/-- What an instruction of a lane does to the roster. -/
inductive Roster.Turn (source : Section) (jumps : Opcode → Prop) (id : EntityId) (priority : Nat)
    (lane : Lane) (before : Roster) : Roster → Prop
  | carry {after : Lane} (carries : lane.Carries source jumps after) :
      Turn source jumps id priority lane before (before.put id priority after)
  /-- A script begins on a free lane. -/
  | call {target : EntityId} {level script entry next : Nat} {free : Lane}
      (admits : before.Admits target level script entry free)
      (goesOn : lane.GoesOn source jumps next) :
      Turn source jumps id priority lane before
        ((before.put target level (free.start entry script none)).put id priority
          (lane.advance next))
  /-- A script begins on a free lane, and the running lane waits for its end. -/
  | await {target : EntityId} {level script entry next : Nat} {free : Lane}
      (admits : before.Admits target level script entry free)
      (passes : lane.Passes source next) :
      Turn source jumps id priority lane before
        ((before.put target level (free.start entry script (some (lane.token id priority)))).put
          id priority (lane.pause next .call))
  | stop :
      Turn source jumps id priority lane before (before.finish id priority lane)
  | handOver {level script : Nat} {after : Roster}
      (begins : (before.finish id priority lane).Begins id level script after) :
      Turn source jumps id priority lane before after
  | abort {ip : Nat} (here : lane.ip? = some ip) (mainEntry : Option Nat) :
      Turn source jumps id priority lane before
        (before.put id priority (Lane.abort { lane with mainEntry } ip)).fault

/-- What becomes of the lane of an instruction: it is carried on, waits for a call, has ended, or has
begun another script. -/
theorem Roster.Turn.own {source : Section} {jumps : Opcode → Prop} {id : EntityId}
    {priority : Nat} {lane later : Lane} {roster after : Roster}
    (turn : roster.Turn source jumps id priority lane after)
    (there : after.lane? id priority = some later) :
    lane.Carries source jumps later ∨
    (∃ next, lane.Passes source next ∧ later = lane.pause next .call) ∨
    later.isBusy = false ∨
    ∃ entry script, later = lane.finish.start entry script none := by
  cases turn with
  | carry carries =>
      rw [Roster.lane?_put_self] at there
      cases there
      exact .inl carries
  | call admits goesOn =>
      rw [Roster.lane?_put_self] at there
      cases there
      exact .inl (.advance goesOn)
  | await admits passes =>
      rw [Roster.lane?_put_self] at there
      cases there
      exact .inr (.inl ⟨_, passes, rfl⟩)
  | stop =>
      rw [Roster.lane?_finish_self] at there
      cases there
      exact .inr (.inr (.inl rfl))
  | handOver begins =>
      cases begins with
      | refused =>
          rw [Roster.lane?_finish_self] at there
          cases there
          exact .inr (.inr (.inl rfl))
      | started admits =>
          rw [Roster.lane?_put] at there
          split at there
          · next own =>
              have found := admits.here
              rw [← own.2, Roster.lane?_finish_self] at found
              cases found
              cases there
              exact .inr (.inr (.inr ⟨_, _, rfl⟩))
          · rw [Roster.lane?_finish_self] at there
            cases there
            exact .inr (.inr (.inl rfl))
  | abort stands mainEntry =>
      rw [Roster.lane?_fault, Roster.lane?_put_self] at there
      cases there
      exact .inr (.inr (.inl rfl))

/-! ## What an instruction comes to -/

namespace Scene

/-- Whether an opcode at `ip` jumps. -/
def jumpsAt (scene : Scene) (ip : Nat) (op : Opcode) : Prop :=
  op.jumps scene ((Cursor.atStart scene.source.code ip).forward 1)

/-- What the instruction at `ip` comes to, or the rest of it, and where the cursor stands then. -/
inductive ComesTo (scene : Scene) (ip : Nat) : Plan → Nat → Prop
  | whole {op : Opcode} {plan : Plan} {next : Nat} (fresh : scene.lane.suspended? = none)
      (worked : op.Worked scene.source.code scene ip plan next) : ComesTo scene ip plan next
  | rest {suspended : Suspended} {plan : Plan} (left : scene.lane.suspended? = some suspended)
      (inside : suspended.next ≤ scene.source.code.size)
      (plain : plan.IsPlain
        (leaving fun rest => ∀ op ∈ suspended.continuation.owners, op ∈ rest.owners)) :
      ComesTo scene ip plan suspended.next

variable {scene : Scene} {ip next : Nat} {plan : Plan}

/-- Whatever is worked out comes from a whole instruction or from the rest of one. -/
theorem comesTo_of_workOut
    (worked : Machine.workOut scene.source.code scene ip scene.lane.suspended? =
      .ok (plan, next)) : scene.ComesTo ip plan next := by
  cases left : scene.lane.suspended? with
  | none =>
      rw [left, Machine.workOut_none_eq_ok] at worked
      obtain ⟨byte, reading, cursor, after, fetched, read, rfl⟩ := worked
      obtain ⟨op, -, worked⟩ := Machine.worked_of_fetch fetched read
      exact .whole left worked
  | some suspended =>
      rw [left, Machine.workOut_some_eq_ok] at worked
      obtain ⟨cursor, after, moved, read, rfl⟩ := worked
      obtain ⟨inside, rfl⟩ := Cursor.moveTo_eq_ok.mp moved
      obtain ⟨same, -, plain⟩ := suspended.continuation.plan_takes.result inside read
      rw [same]
      exact .rest left inside plain

/-- An instruction that does not fail goes on behind itself or jumps. -/
theorem ComesTo.goesOn (comesTo : scene.ComesTo ip plan next) (here : scene.lane.ip? = some ip)
    (kept : !plan.isLost) : scene.lane.GoesOn scene.source (scene.jumpsAt ip) next := by
  cases comesTo with
  | @whole op _ _ fresh worked =>
      by_cases moves : scene.jumpsAt ip op
      · obtain ⟨-, above, below⟩ := worked.lands moves kept
        exact .jumps here fresh worked.stands moves above below
      · rw [worked.passes moves]
        exact .passes (.whole here fresh worked.long)
  | rest left inside plain => exact .passes (.rest left inside)

/-- An instruction that jumps goes on there at once. -/
theorem ComesTo.passes (comesTo : scene.ComesTo ip plan next) (here : scene.lane.ip? = some ip)
    (kept : !plan.isLost) (stays : !plan.carriesOn) : scene.lane.Passes scene.source next := by
  cases comesTo with
  | @whole op _ _ fresh worked =>
      have straight : ¬scene.jumpsAt ip op := by
        intro moves
        simp [(worked.lands moves kept).1] at stays
      rw [worked.passes straight]
      exact .whole here fresh worked.long
  | rest left inside plain => exact .rest left inside

/-- How what stands at `ip`, with `next` behind it, may hold its lane up: it leaves a rest that
belongs there, or it waits, and only a whole instruction waits. -/
def HoldsUp (scene : Scene) (ip next : Nat) : Ending → Prop
  | .suspend continuation => scene.lane.Carries scene.source (scene.jumpsAt ip)
      (scene.lane.rewind ip (some { next, continuation }))
  | .pause reason => reason = .fieldJump
  | .request request reason => scene.lane.suspended? = none ∧
      ∃ op : Opcode, scene.source.code[ip]? = some op.byte ∧ op.Asks request reason
  | _ => False

/-- A plan fits its instruction, and what it leaves of it belongs there. -/
theorem ComesTo.fits (comesTo : scene.ComesTo ip plan next) (here : scene.lane.ip? = some ip) :
    plan.Fits scene (scene.HoldsUp ip next) := by
  cases comesTo with
  | @whole op _ _ fresh worked =>
      by_cases moves : scene.jumpsAt ip op
      · cases lost : plan.isLost with
        | true => exact worked.fits.of_moving (.inl lost)
        | false => exact worked.fits.of_moving (.inr (worked.lands moves (by simp [lost])).1)
      · rw [worked.passes moves]
        refine worked.fits.mono fun ending holds => ?_
        cases ending with
        | suspend continuation => exact .suspend here fresh worked.stands worked.long holds
        | pause reason => exact holds.2
        | request request reason => exact ⟨fresh, op, worked.stands, holds⟩
        | _ => exact holds.elim
  | rest left inside plain =>
      refine .plain (plain.mono ?_)
      rintro ending ⟨continuation, rfl, owned⟩
      exact .linger here left inside owned

end Scene

namespace Machine

variable {σ : Type} {setting : Setting σ} {machine : Machine σ} {id : EntityId} {priority : Nat}
  {lane : Lane}

theorem roster_updateLane {roster : Roster} (same : machine.world.roster = roster)
    (here : roster.lane? id priority = some lane) (change : Lane → Lane) :
    (machine.updateLane id priority change).world.roster =
      roster.put id priority (change lane) := by
  subst same
  exact World.roster_updateLane here change

theorem lane?_updateLane_self (here : machine.world.lane? id priority = some lane)
    (change : Lane → Lane) :
    (machine.updateLane id priority change).world.lane? id priority = some (change lane) := by
  rw [← World.lane?_roster, roster_updateLane rfl here, Roster.lane?_put_self]

/-- The end of an invocation, as a machine carries it out. -/
theorem roster_finish {roster : Roster} (same : machine.world.roster = roster)
    (here : roster.lane? id priority = some lane) :
    ((machine.updateLane id priority Lane.finish).complete lane.onStop?).world.roster =
      roster.finish id priority lane := by
  rw [roster_complete, roster_updateLane same here, Roster.finish]

theorem roster_giveUp (setting : Setting σ) {roster : Roster} (same : machine.world.roster = roster)
    (here : roster.lane? id priority = some lane) (ip : Nat) (error : ExecError) :
    (machine.giveUp setting id priority ip error).world.roster =
      (roster.put id priority (lane.abort ip)).fault := by
  rw [← roster_updateLane same here (·.abort ip)]
  simp only [giveUp, world_notify, world_note]
  rfl

@[simp] theorem roster_setAwaitedWindow (reason : PauseReason) (isOpen : Bool) :
    (machine.setAwaitedWindow reason isOpen).world.roster = machine.world.roster := by
  unfold setAwaitedWindow
  split <;> rfl

@[simp] theorem world_settle (reason : PauseReason) (value : Option UInt16) :
    (machine.settle setting reason value).1.world = machine.world := by
  unfold settle
  split <;> simp

/-- Effects that follow others are carried out unless one of those fails. -/
theorem performAll_append (setting : Setting σ) (machine : Machine σ)
    (first second : List Effect) :
    Effect.performAll setting machine (first ++ second) =
      match Effect.performAll setting machine first with
      | (done, none) => Effect.performAll setting done second
      | failed => failed := by
  induction first generalizing machine with
  | nil => rfl
  | cons effect rest ih =>
      simp only [List.cons_append, Effect.performAll]
      cases effect.perform setting machine with
      | mk done error =>
          cases error with
          | none => exact ih done
          | some error => rfl

variable {source : Section} {jumps : Opcode → Prop} {roster : Roster}

/-- A request lets its lane go on behind the instruction, wait there, or fail. -/
theorem makeRequest_turn {ip next : Nat} {request : Request} {reason : PauseReason}
    (same : machine.world.roster = roster) (here : roster.lane? id priority = some lane)
    (stands : lane.ip? = some ip) (passes : lane.Passes source next)
    (awaited : reason.IsAwaited) :
    roster.Turn source jumps id priority lane
      (machine.makeRequest setting id priority ip next lane request reason).1.world.roster := by
  have asked := world_request setting machine request (lane.token id priority)
  unfold Lane.token at asked
  unfold makeRequest
  dsimp only
  split
  · next answered made =>
      rw [made] at asked
      have asked : answered.world = machine.world := asked
      have opened : (answered.setAwaitedWindow reason true).world.roster = roster := by
        rw [roster_setAwaitedWindow, asked, same]
      have waiting := roster_updateLane opened here (·.pause next reason)
      exact waiting ▸ .carry (.pause passes awaited)
  · next value answered made =>
      rw [made] at asked
      have asked : answered.world = machine.world := asked
      have settled : ((answered.setAwaitedWindow reason false).settle setting reason
          value).1.world.roster = roster := by
        rw [world_settle, roster_setAwaitedWindow, asked, same]
      split
      · next done taken =>
          rw [taken] at settled
          have advanced := roster_updateLane settled here (·.advance next)
          exact advanced ▸ .carry (.advance (.passes passes))
      · next done error taken =>
          rw [taken] at settled
          have gone := roster_giveUp setting settled here ip error
          exact gone ▸ .abort stands lane.mainEntry

/-- Handing over ends the lane before the other script begins. -/
theorem passOn_turn {level script : Nat} (same : machine.world.roster = roster)
    (here : roster.lane? id priority = some lane) :
    roster.Turn source jumps id priority lane
      (machine.passOn id priority lane level script).1.world.roster := by
  have begins := startScript_begins
    ((machine.updateLane id priority Lane.finish).complete lane.onStop?) id level script
  rw [roster_finish same here] at begins
  exact .handOver begins

/-- A plain plan spares all lanes but its own. -/
theorem carryOut_turn_of_plain {held : Ending → Prop} {ip next : Nat} {plan : Plan}
    (same : machine.world.roster = roster) (here : roster.lane? id priority = some lane)
    (stands : lane.ip? = some ip) (plain : plan.IsPlain held)
    (goesOn : !plan.isLost → lane.GoesOn source jumps next)
    (passes : !plan.isLost → !plan.carriesOn → lane.Passes source next)
    (suspends : ∀ continuation, held (.suspend continuation) →
      lane.Carries source jumps (lane.rewind ip (some { next, continuation })))
    (waits : ∀ reason, held (.pause reason) → reason.IsAwaited)
    (asks : ∀ request reason, held (.request request reason) → reason.IsAwaited) :
    roster.Turn source jumps id priority lane
      (machine.carryOut setting id priority ip next lane plan).1.world.roster := by
  cases plan with
  | retry entries =>
      have noted : (entries.foldl note machine).world.roster = roster := by
        rw [world_noteAll, same]
      have again := roster_updateLane noted here (·.rewind ip none)
      exact again ▸ .carry (.retry stands)
  | act effects ending =>
      have performed := Effect.roster_performAll setting machine fun effect member =>
        Effect.sparesLanes_of_isPlain (plain.1 effect member)
      simp only [carryOut]
      split
      · next done taken =>
          rw [taken, same] at performed
          cases ending with
          | advance =>
              have advanced := roster_updateLane performed here (·.advance next)
              exact advanced ▸ .carry (.advance (goesOn rfl))
          | suspend continuation =>
              have left := roster_updateLane performed here
                (·.rewind ip (some { next, continuation }))
              exact left ▸ .carry (suspends continuation plain.2)
          | pause reason =>
              have waiting := roster_updateLane performed here (·.pause next reason)
              exact waiting ▸ .carry (.pause (passes rfl rfl) (waits reason plain.2))
          | stop =>
              have ended := roster_finish performed here
              exact ended ▸ .stop
          | request request reason =>
              exact makeRequest_turn performed here stands (passes rfl rfl) (asks request reason plain.2)
          | yield => exact plain.2.elim
          | handOver level script => exact plain.2.elim
          | fault error => exact plain.2.elim
      · next done error taken =>
          rw [taken, same] at performed
          have gone := roster_giveUp setting performed here ip error
          exact gone ▸ .abort stands lane.mainEntry

/-- Carrying out what an instruction comes to is one of the six ways. -/
theorem carryOut_turn {scene : Scene} {ip next : Nat} {plan : Plan}
    (comesTo : scene.ComesTo ip plan next) (same : machine.world = scene.world)
    (here : scene.world.lane? scene.entity scene.priority = some scene.lane)
    (active : scene.lane.isActive) (stands : scene.lane.ip? = some ip) :
    scene.world.roster.Turn scene.source (scene.jumpsAt ip) scene.entity scene.priority scene.lane
      (machine.carryOut setting scene.entity scene.priority ip next scene.lane
        plan).1.world.roster := by
  have same : machine.world.roster = scene.world.roster := by rw [same]
  have busy : scene.lane.isBusy := Lane.isBusy_of_isActive active
  cases comesTo.fits stands with
  | plain plain =>
      exact carryOut_turn_of_plain same here stands plain (comesTo.goesOn stands)
        (comesTo.passes stands) (fun _ carries => carries) (fun _ jump => .inl jump)
        (fun request _ ⟨_, op, _, asks⟩ => .inr (.inr ⟨op, request, asks⟩))
  | @call target entity level script entry told known admitted =>
      obtain ⟨free, admits⟩ := World.admits_of_admission known admitted
      have started : ((machine.updateLane target level (·.start entry script none)).note
          told).world.roster = scene.world.roster.put target level (free.start entry script none) :=
        roster_updateLane same admits.here _
      have there := admits.lane?_put here busy
      have advanced := roster_updateLane started (there _) (·.advance next)
      exact advanced ▸ .call admits (comesTo.goesOn stands rfl)
  | @await target entity level script entry told known admitted =>
      obtain ⟨free, admits⟩ := World.admits_of_admission known admitted
      let caller := scene.lane.token scene.entity scene.priority
      have started : ((machine.updateLane target level (·.start entry script (some caller))).note
          told).world.roster =
            scene.world.roster.put target level (free.start entry script (some caller)) :=
        roster_updateLane same admits.here _
      have there := admits.lane?_put here busy
      have waiting := roster_updateLane started (there _) (·.pause next .call)
      exact waiting ▸ .await admits (comesTo.passes stands rfl rfl)
  | @dance effects walks frames spared =>
      let dance : Effect :=
        .choreography walks frames (scene.lane.token scene.entity scene.priority)
      have performed := Effect.roster_performAll setting machine
        (Effect.sparesLanes_append spared (rfl : dance.sparesLanes))
      simp only [carryOut]
      split
      · next done taken =>
          rw [taken, same] at performed
          have waiting := roster_updateLane performed here (·.pause next .choreography)
          exact waiting ▸ .carry (.pause (comesTo.passes stands rfl rfl) (.inr (.inl rfl)))
      · next done error taken =>
          rw [taken, same] at performed
          have gone := roster_giveUp setting performed here ip error
          exact gone ▸ .abort stands scene.lane.mainEntry
  | handOver level script => exact passOn_turn same here
  | home entry =>
      have recorded := roster_updateLane same here fun lane => { lane with mainEntry := some entry }
      have there := scene.world.roster.lane?_put_self scene.entity scene.priority
        { scene.lane with mainEntry := some entry }
      have advanced := roster_updateLane recorded there (·.advance next)
      rw [Roster.put_put] at advanced
      exact advanced ▸ .carry (.home entry (comesTo.goesOn stands rfl))
  | @lost entry error strays =>
      have recorded := roster_updateLane same here fun lane => { lane with mainEntry := some entry }
      have there := scene.world.roster.lane?_put_self scene.entity scene.priority
        { scene.lane with mainEntry := some entry }
      have gone := roster_giveUp setting recorded there ip error
      rw [Roster.put_put] at gone
      exact gone ▸ .abort stands (some entry)
  | @lead effects target spared known =>
      let choice : Effect := .stage (.setPlayer target)
      have performed := Effect.roster_performAll setting machine
        (Effect.sparesLanes_append spared (rfl : choice.sparesLanes))
      simp only [carryOut]
      split
      · next done taken =>
          rw [taken, same] at performed
          have advanced := roster_updateLane performed here (·.advance next)
          exact advanced ▸ .carry (.advance (comesTo.goesOn stands rfl))
      · next done error taken =>
          rw [taken, same] at performed
          have gone := roster_giveUp setting performed here ip error
          exact gone ▸ .abort stands scene.lane.mainEntry

/-- One step of an active lane is one of the six ways. -/
theorem step_turn (setting : Setting σ) (here : machine.world.lane? id priority = some lane)
    (active : lane.isActive) :
    ∃ ip, lane.ip? = some ip ∧
      machine.world.roster.Turn setting.source
        ((machine.sceneOf setting id priority ip lane).jumpsAt ip) id priority lane
        (machine.step setting id priority).1.world.roster := by
  obtain ⟨ip, noted, stands, journal, same⟩ := step_eq setting here active
  have spared : noted.world = machine.world := by
    rcases journal with rfl | ⟨byte, -, rfl⟩ <;> rfl
  refine ⟨ip, stands, ?_⟩
  rw [same]
  split
  · next error failed =>
      have gone := roster_giveUp setting (congrArg World.roster spared) here ip error
      exact gone ▸ .abort stands lane.mainEntry
  · next plan next worked =>
      have comesTo : (machine.sceneOf setting id priority ip lane).ComesTo ip plan next :=
        Scene.comesTo_of_workOut worked
      exact carryOut_turn comesTo spared here active stands

/-- A lane that cannot run does nothing in its turn. -/
theorem step_of_inactive (setting : Setting σ)
    (inactive : machine.world.laneActive id priority = false) :
    (machine.step setting id priority).1 = machine := by
  unfold step
  split
  · rfl
  · next lane here =>
      simp only [World.laneActive, here, Option.any_some] at inactive
      split
      · next status => simp [Lane.isActive, status] at inactive
      · next status => simp [Lane.isActive, status] at inactive
      · rfl

end Machine

end FieldMachine
