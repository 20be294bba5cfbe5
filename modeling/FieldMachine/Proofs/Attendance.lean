import FieldMachine.Proofs.Answer
import FieldMachine.Proofs.Banks
import FieldMachine.Proofs.Desk
import FieldMachine.Proofs.Moment

/-!
# A frame of the console

In a frame the console gives back the answers that are due, and the field gets its
tick.  Through all of that the docket is kept (`Machine.Serving`): every answer
that is given back takes its request off, every instruction puts down what its
lane waits for, and an activity at its end takes its token off.

What a frame leaves on the docket was there before and not due, or was put down
by one of its instructions (`Machine.FiledIn`).
-/

namespace FieldMachine

set_option autoImplicit false

open Console (Pending State Settings settingFor deliver deliverOne playFrame)

namespace Machine

/-! ## The parts of a tick and the desk -/

section Parts

variable (settings : Settings) (source : Section) (machine : Machine State)

theorem desk_applyResume (token : ResumeToken) (answer : Option UInt16) :
    (machine.applyResume (settingFor settings source) token answer).desk = machine.desk :=
  desk_of_same (machine.affairs_applyResume Console.conceals token answer)

theorem desk_runActivities (frame : Nat) (activities : List Activity) :
    (machine.runActivities (settingFor settings source) frame activities).1.desk =
      machine.desk :=
  desk_of_same (machine.affairs_runActivities Console.conceals frame activities)

/-- Answers that are given back in a tick lie no longer on the desk. -/
theorem desk_duringResumes (elapsed : UInt64) (count : Nat) :
    (machine.duringResumes (settingFor settings source) elapsed count).desk =
      { machine.desk with returned := [] } := by
  have each (machine : Machine State) (item : ResumeToken × Option UInt16) :
      (machine.applyResume (settingFor settings source) item.1 item.2).affairs State.duties =
        machine.affairs State.duties :=
    machine.affairs_applyResume Console.conceals item.1 item.2
  exact (desk_of_same (affairs_foldl _ each _)).trans rfl

end Parts

end Machine

/-! ## What a frame does -/

/-- The desk at a moment of a frame that began with another desk. -/
structure Desk.Continues (first desk : Desk) : Prop where
  frame : desk.frame = first.frame
  answerDelay : desk.answerDelay = first.answerDelay
  stuck : desk.stuck = first.stuck
  /-- Nothing is given back during a tick. -/
  returned : desk.returned = []
  pending : ∃ fresh, desk.pending = first.pending ++ fresh ∧
    ∀ pending ∈ fresh, pending.due = first.frame + first.answerDelay

namespace Machine

section Serving

variable (settings : Settings) (source : Section)

/-- The instruction of a moment puts a request down, and so its lane waits. -/
structure Files (moment : Moment State) (pending : Pending) (lane : Lane) : Prop where
  entity : pending.token.entity = moment.id
  level : pending.token.priority = moment.priority
  active : moment.machine.world.laneActive moment.id moment.priority
  waits : (moment.after (settingFor settings source)).world.lane? moment.id moment.priority =
    some lane
  listed : (moment.after (settingFor settings source)).host.pending =
    moment.machine.host.pending ++ [pending]
  due : pending.due = moment.machine.host.frame + moment.machine.host.answerDelay
  offers : source.Offers lane pending.answer

/-- A request was put down in the tick that began so. -/
def FiledIn (start : Machine State) (pending : Pending) (lane : Lane) : Prop :=
  ∃ moment ∈ start.tickMoments (settingFor settings source) settings.frameMillis,
    moment.machine.desk.frame = start.desk.frame ∧
    moment.machine.desk.answerDelay = start.desk.answerDelay ∧
    Files settings source moment pending lane

/-- A moment of a frame: what is on the docket, and how it got there. -/
structure Serving (start : Machine State) (holds : Pending → Lane → Prop)
    (dances : List ResumeToken) (given : List Pending) (machine : Machine State) : Prop where
  inner : InnerRun (settingFor settings source) start machine
  docket : machine.world.roster.Docket holds dances (given ++ machine.desk.pending)
  continues : start.desk.Continues machine.desk

/-- A frame that is attended to: its section asks in order, there is a delay, and what is put down
in it holds. -/
structure Opened (start : Machine State) (holds : Pending → Lane → Prop) : Prop where
  ordered : source.AsksInOrder
  delayed : start.desk.answerDelay ≠ 0
  arises : Arises (settingFor settings source) start
  fits : ∀ pending lane, FiledIn settings source start pending lane → holds pending lane

end Serving

/-- What the instruction of a moment puts on the desk is filed by it. -/
theorem Opens.files {settings : Settings} {source : Section} {moment : Moment State}
    (opens : Opens source moment.id moment.priority moment.machine
      (moment.after (settingFor settings source)))
    (active : moment.machine.world.laneActive moment.id moment.priority) :
    ∃ later danced requested,
      (moment.after (settingFor settings source)).world.lane? moment.id moment.priority =
        some later ∧
      danced = later.dancing moment.id moment.priority ∧
      requested.map Pending.token = later.requesting moment.id moment.priority ∧
      (∀ pending ∈ requested, Files settings source moment pending later) ∧
      (moment.after (settingFor settings source)).desk = { moment.machine.desk with
        queued := moment.machine.desk.queued ++ danced
        pending := moment.machine.desk.pending ++ requested } := by
  obtain ⟨later, danced, requested, there, dancing, asked, filed, desk⟩ := opens
  refine ⟨later, danced, requested, there, dancing, asked, fun pending member => ?_, desk⟩
  -- one instruction makes one request at most
  have alone : requested = [pending] ∧
      pending.token = later.token moment.id moment.priority := by
    unfold Lane.requesting at asked
    split at asked
    · obtain ⟨only, rfl, named⟩ := List.map_eq_singleton_iff.mp asked
      rw [List.mem_singleton.mp member]
      exact ⟨rfl, named⟩
    · rw [List.map_eq_nil_iff.mp asked] at member
      cases member
  obtain ⟨rfl, named⟩ := alone
  obtain ⟨due, offers⟩ := filed pending member
  exact ⟨congrArg ResumeToken.entity named, congrArg ResumeToken.priority named, active, there,
    congrArg Desk.pending desk, due, offers⟩

namespace Serving

variable {settings : Settings} {source : Section} {start machine after : Machine State}
  {holds : Pending → Lane → Prop} {dances : List ResumeToken} {given : List Pending}

/-- What concerns neither the lanes nor the desk goes unnoticed. -/
theorem quiet (serving : Serving settings source start holds dances given machine)
    (same : after.world.roster = machine.world.roster) (desk : after.desk = machine.desk) :
    Serving settings source start holds dances given after where
  inner := serving.inner.trans (.quiet rfl same)
  docket := by
    rw [same, desk]
    exact serving.docket
  continues := desk ▸ serving.continues

/-- The instruction of a moment of the tick. -/
theorem step {moment : Moment State}
    (serving : Serving settings source start holds moment.machine.desk.dances given moment.machine)
    (opened : Opened settings source start holds)
    (now : moment ∈ start.tickMoments (settingFor settings source) settings.frameMillis) :
    Serving settings source start holds (moment.after (settingFor settings source)).desk.dances
      given (moment.after (settingFor settings source)) := by
  cases running : moment.machine.world.laneActive moment.id moment.priority with
  | false =>
      unfold Moment.after
      rw [step_of_inactive (settingFor settings source) running]
      exact serving
  | true =>
      obtain ⟨lane, here, active⟩ := (Option.any_eq_true _ _).mp running
      have clock := serving.continues.frame
      have delay := serving.continues.answerDelay
      have opens : Opens source moment.id moment.priority moment.machine
          (moment.after (settingFor settings source)) :=
        step_opens (opened.arises.inner serving.inner) opened.ordered (delay ▸ opened.delayed)
          here active
      obtain ⟨later, danced, requested, there, dancing, asked, files, desk⟩ := opens.files running
      obtain ⟨ip, -, turn⟩ := step_turn (settingFor settings source) here active
      have fits (pending : Pending) (member : pending ∈ requested) : holds pending later :=
        opened.fits pending later ⟨moment, now, clock, delay, files pending member⟩
      have docket := serving.docket.turn here active turn there dancing asked fits
      obtain ⟨fresh, kept, due⟩ := serving.continues.pending
      have run : InnerRun (settingFor settings source) moment.machine
          (moment.after (settingFor settings source)) :=
        .single rfl (.run moment.machine moment.id moment.priority)
      refine ⟨serving.inner.trans run, ?_, ?_⟩
      · rw [desk, ← List.append_assoc, Errands.dances, ← List.append_assoc]
        exact docket
      · rw [desk]
        refine ⟨clock, delay, serving.continues.stuck, serving.continues.returned,
          fresh ++ requested, ?_, ?_⟩
        · rw [kept, List.append_assoc]
        · rw [List.forall_mem_append]
          refine ⟨due, fun pending member => ?_⟩
          rw [← clock, ← delay]
          exact (files pending member).due

/-- The turns of all entities, when all answers were given back. -/
theorem turns (serving : Serving settings source start holds machine.desk.dances given machine)
    (opened : Opened settings source start holds)
    (resumed : machine = start.duringResumes (settingFor settings source) settings.frameMillis
      start.world.pending.length) :
    Serving settings source start holds
      (machine.runEntities (settingFor settings source)).desk.dances given
      (machine.runEntities (settingFor settings source)) := by
  refine @runEntities_invariant _ _
    (fun machine => Serving settings source start holds machine.desk.dances given machine)
    (fun _ _ _ serving => serving.quiet rfl rfl) machine (fun moment listed before => ?_) serving
  subst resumed
  exact before.step opened listed

/-- An answer that is given back finds the lane that waits for it, and wakes it. -/
theorem resume {pending : Pending}
    (serving : Serving settings source start holds dances (pending :: given) machine) :
    Serving settings source start holds dances given
      (machine.applyResume (settingFor settings source) pending.token pending.answer) where
  inner := serving.inner.trans (.single rfl (.resume machine pending.token pending.answer))
  docket := by
    rw [roster_applyResume, desk_applyResume]
    exact serving.docket.wake_request
  continues := by
    rw [desk_applyResume]
    exact serving.continues

/-- Some of the answers are given back. -/
theorem resumes (serving : Serving settings source start holds dances given machine)
    (count : Nat) :
    Serving settings source start holds dances (given.drop count)
      (((given.map fun pending => (pending.token, pending.answer)).take count).foldl
        (fun machine (token, answer) =>
          machine.applyResume (settingFor settings source) token answer) machine) := by
  induction given generalizing machine count with
  | nil => simpa using serving
  | cons pending rest ih =>
      cases count with
      | zero => exact serving
      | succ count => exact ih serving.resume count

/-- The background activities take a step, and the new ones join them. -/
theorem finishTick
    (serving : Serving settings source start holds machine.desk.dances given machine) :
    Serving settings source start holds
      (machine.finishTick (settingFor settings source)).desk.dances given
      (machine.finishTick (settingFor settings source)) := by
  let setting := settingFor settings source
  let ran := machine.runActivities setting machine.world.frame machine.world.activities
  have same : ran.1.desk = machine.desk := machine.desk_runActivities settings source ..
  have docket : ran.1.world.roster.Docket holds
      ([] ++ (ran.2.filterMap Activity.wakes? ++ machine.desk.queued))
      (given ++ machine.desk.pending) := runActivities_register _ _ serving.docket
  have joined : (machine.finishTick setting).desk =
      { machine.desk with
        working := ran.2.filterMap Activity.wakes? ++ machine.desk.queued
        queued := [] } := by
    rw [← same]
    exact congrArg (fun working => { ran.1.desk with working, queued := [] })
      (List.filterMap_append)
  refine ⟨serving.inner.trans (finishTick_inner setting machine), ?_, ?_⟩
  · rw [joined, Errands.dances, List.append_nil]
    exact docket
  · rw [joined]
    exact { serving.continues with }

variable (settings source) in
/-- The answers of a tick lie on the desk when it begins. -/
theorem begin (docket : start.world.roster.Docket holds start.desk.dances
    (given ++ start.desk.pending)) (elapsed : UInt64) :
    Serving settings source start holds start.desk.dances given
      (start.duringResumes (settingFor settings source) elapsed 0) where
  inner := .quiet rfl rfl
  docket := docket
  continues := ⟨rfl, rfl, rfl, rfl, [], (List.append_nil _).symm, nofun⟩

end Serving

section Tick

variable {settings : Settings} {source : Section} {start : Machine State}
  {holds : Pending → Lane → Prop} {given : List Pending}

variable (settings source) in
/-- When so many answers were given back, the others are still on the docket. -/
theorem duringResumes_serving (docket : start.world.roster.Docket holds start.desk.dances
      (given ++ start.desk.pending))
    (returned : start.world.pending = given.map fun pending => (pending.token, pending.answer))
    (elapsed : UInt64) (count : Nat) :
    Serving settings source start holds start.desk.dances (given.drop count)
      (start.duringResumes (settingFor settings source) elapsed count) := by
  have served := (Serving.begin settings source docket elapsed).resumes count
  rw [← returned] at served
  exact served

/-- A whole tick leaves on the docket what was not due and what it puts down. -/
theorem tick_serving (opened : Opened settings source start holds)
    (docket : start.world.roster.Docket holds start.desk.dances (given ++ start.desk.pending))
    (returned : start.world.pending = given.map fun pending => (pending.token, pending.answer)) :
    Serving settings source start holds
      (start.tick (settingFor settings source) settings.frameMillis).desk.dances []
      (start.tick (settingFor settings source) settings.frameMillis) := by
  let setting := settingFor settings source
  let resumed := start.duringResumes setting settings.frameMillis start.world.pending.length
  have served : Serving settings source start holds resumed.desk.dances [] resumed := by
    have all := duringResumes_serving settings source docket returned settings.frameMillis
      given.length
    have length : start.world.pending.length = given.length := by rw [returned, List.length_map]
    rw [List.drop_length, ← length] at all
    rw [desk_duringResumes settings source start]
    exact all
  have turned := served.turns opened rfl
  have advanced : Serving settings source start holds
      ((resumed.runEntities setting).advanceActors setting).desk.dances []
      ((resumed.runEntities setting).advanceActors setting) :=
    turned.quiet (roster_advanceActors setting _) rfl
  have ticked : start.tick setting settings.frameMillis =
      ((resumed.runEntities setting).advanceActors setting).finishTick setting := by
    rw [tick, applyPending_beginTick]
  rw [ticked]
  exact advanced.finishTick

end Tick

/-! ## What an answer does -/

section Answers

variable {σ : Type} {setting : Setting σ} {machine : Machine σ}

theorem session_wake (machine : Machine σ) (token : ResumeToken) :
    (machine.wake token).1.session = machine.session := by
  unfold wake
  split <;> rfl

theorem session_setAwaitedWindow (machine : Machine σ) (reason : PauseReason) (isOpen : Bool) :
    (machine.setAwaitedWindow reason isOpen).session = machine.session := by
  unfold setAwaitedWindow
  split <;> rfl

theorem session_notify (setting : Setting σ) (machine : Machine σ) (notice : Notice) :
    (machine.notify setting notice).session = machine.session := by
  unfold notify
  cases setting.host.notify notice machine.host with
  | mk host lines =>
      obtain ⟨journal, same⟩ := noteHost_eq { machine with host } lines
      dsimp only
      rw [same]

theorem session_putCell (setting : Setting σ) (machine : Machine σ) (bank address : UInt8)
    (value : UInt16) : (machine.putCell setting bank address value).session =
      machine.session.putCell bank address.toUInt16 value := by
  unfold putCell
  dsimp only
  split
  · exact session_notify setting _ _
  · rfl

/-- The answer to a question is in its cell then, if there is such a cell. -/
theorem read_applyResume {token : ResumeToken} {window bank address : UInt8}
    (woke : (machine.wake token).2 = some (.ask window bank address))
    (there : machine.session.memory.locate bank address.toUInt16 = .ok ()) (choice : UInt16) :
    (machine.applyResume setting token (some choice)).session.memory.read bank
      address.toUInt16 = .ok choice := by
  have spared := machine.session_wake token
  unfold applyResume
  cases done : machine.wake token with
  | mk woken reason =>
      rw [done] at woke spared
      cases woke
      have same := (woken.session_setAwaitedWindow (.ask window bank address) false).trans spared
      have located : (woken.setAwaitedWindow (.ask window bank address)
          false).session.memory.locate bank address.toUInt16 = .ok () := same ▸ there
      simp only [writeCell, located]
      rw [session_putCell, same]
      exact (Memory.read_put choice there bank address.toUInt16).trans (if_pos ⟨rfl, rfl⟩)

end Answers

/-- An answer that is given back finds the lane that waits for it, and wakes it. -/
theorem Serving.wakes {settings : Settings} {source : Section} {start machine : Machine State}
    {holds : Pending → Lane → Prop} {dances : List ResumeToken} {given : List Pending}
    {pending : Pending}
    (serving : Serving settings source start holds dances (pending :: given) machine) :
    ∃ lane reason,
      machine.world.lane? pending.token.entity pending.token.priority = some lane ∧
      lane.epoch = pending.token.epoch ∧ lane.pauseReason? = some reason ∧ reason.isServed ∧
      holds pending lane ∧ (machine.wake pending.token).2 = some reason ∧
      (machine.applyResume (settingFor settings source) pending.token
        pending.answer).world.lane? pending.token.entity pending.token.priority =
          some lane.awake := by
  obtain ⟨lane, reason, here, named, paused, served, known⟩ :=
    (serving.docket.request pending List.mem_cons_self).resolve_left id
  have own : lane.token pending.token.entity pending.token.priority = pending.token := by
    rw [Lane.token, named]
  refine ⟨lane, reason, here, named, paused, served, known, ?_, ?_⟩
  · have woken := wake_paused here paused
    rw [own] at woken
    rw [woken]
  · rw [← World.lane?_roster, roster_applyResume, Roster.lane?_wake]
    refine (congrArg (Option.map _) here).trans ?_
    have heard := lane.hear_named pending.token.entity pending.token.priority
    rw [own] at heard
    rw [Option.map_some, heard]

/-! ## What the console gives back -/

section Deliver

variable {settings : Settings} {source : Section} {frame : UInt64} {machine : Machine State}

/-- What is due is given back, and all else stays. -/
theorem deliver_eq (frame : UInt64) (machine : Machine State) :
    (deliver frame machine).world.roster = machine.world.roster ∧
    (deliver frame machine).desk = { machine.desk with
      frame
      returned := machine.desk.returned ++
        (machine.desk.pending.filter (·.due ≤ frame)).map fun pending =>
          (pending.token, pending.answer)
      pending := machine.desk.pending.filter (frame < ·.due) } := by
  have each (due : List Pending) (machine : Machine State) :
      (due.foldl (deliverOne frame) machine).world.roster = machine.world.roster ∧
      (due.foldl (deliverOne frame) machine).desk = { machine.desk with
        returned := machine.desk.returned ++ due.map fun pending =>
          (pending.token, pending.answer) } := by
    induction due generalizing machine with
    | nil => exact ⟨rfl, by simp⟩
    | cons pending rest ih =>
        obtain ⟨roster, desk⟩ := ih (deliverOne frame machine pending)
        refine ⟨roster, desk.trans ?_⟩
        rw [List.map_cons, List.append_cons]
        rfl
  have later : (not ∘ fun pending : Pending => decide (pending.due ≤ frame)) =
      fun pending => decide (frame < pending.due) := by
    funext pending
    simp [← UInt64.not_le]
  unfold deliver
  rw [List.partition_eq_filter_filter, later]
  obtain ⟨roster, desk⟩ := each (machine.host.pending.filter (·.due ≤ frame))
    { machine with host := { machine.host with
        frame, pending := machine.host.pending.filter (frame < ·.due) } }
  exact ⟨roster, desk⟩

variable {holds : Pending → Lane → Prop}

/-- What is due and what stays is all that was there. -/
theorem due_append_later (frame : UInt64) (requests : List Pending) :
    (requests.filter (·.due ≤ frame) ++ requests.filter (frame < ·.due)).Perm requests := by
  have later : (fun pending : Pending => decide (frame < pending.due)) =
      fun pending => !decide (pending.due ≤ frame) := by
    funext pending
    simp [← UInt64.not_le]
  rw [later]
  exact List.filter_append_perm _ requests

/-- When the answers are given back, all requests are still on the docket. -/
theorem deliver_docket (frame : UInt64) (docket : machine.world.roster.Docket holds machine.desk.dances
      machine.desk.pending) :
    (deliver frame machine).world.roster.Docket holds (deliver frame machine).desk.dances
      (machine.desk.pending.filter (·.due ≤ frame) ++ (deliver frame machine).desk.pending) := by
  obtain ⟨roster, desk⟩ := deliver_eq frame machine
  rw [roster, desk]
  exact docket.perm (due_append_later frame _)

theorem deliver_returned (returned : machine.desk.returned = []) :
    (deliver frame machine).world.pending =
      (machine.desk.pending.filter (·.due ≤ frame)).map fun pending =>
        (pending.token, pending.answer) := by
  have given := congrArg (·.toErrands.returned) (deliver_eq frame machine).2
  rw [returned] at given
  exact given

/-- A whole frame leaves on the docket what was not due and what it puts down. -/
theorem playFrame_serving (opened : Opened settings source (deliver frame machine) holds)
    (docket : machine.world.roster.Docket holds machine.desk.dances machine.desk.pending)
    (returned : machine.desk.returned = []) :
    Serving settings source (deliver frame machine) holds
      (playFrame settings source frame machine).desk.dances []
      (playFrame settings source frame machine) :=
  tick_serving opened (deliver_docket frame docket) (deliver_returned returned)

end Deliver

end Machine

end FieldMachine
