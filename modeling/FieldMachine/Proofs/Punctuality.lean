import FieldMachine.Proofs.Attendance

/-!
# Every request is answered once and on time

The console plays a field frame by frame.  At the end of every frame its open
requests are exactly those that lanes wait for (`Machine.Attended`), and every
one of them was put down by the step in which its lane began to wait, and is kept
together with that lane until it is due (`Console.Waits`).

So every answer that is given back is given in the right frame, to a lane that
still waits for it (`Console.requests_answered_on_time`).
-/

namespace FieldMachine

set_option autoImplicit false

/-! ## Questions in order -/

/-- In a section that was read, it is enough to look at the bytecode. -/
theorem Section.asksInOrder_of_read {bytes : Array UInt8} {source : Section}
    (accepted : Section.read bytes = .ok source)
    (ordered : ∀ ip < source.codeEnd, source.codeStart ≤ ip → source.InOrderAt ip) :
    source.AsksInOrder := by
  intro ip executes stands
  obtain ⟨σ, setting, machine, id, priority, lane, rfl, arises, here, active, at_⟩ := executes
  have whole := Section.sound_of_read accepted
  obtain ⟨session, random, host, events, runs⟩ := arises
  have confined : machine.world.roster.Confined setting.source :=
    runs.roster_induction (fun event before after step confined => confined.step whole step)
      (Roster.confined_ofSection whole)
  have sound := confined.lanes id priority lane here
  have above := (sound.confined ip (Lane.isBusy_of_isActive active) at_).1
  obtain ⟨below, -⟩ := Array.getElem?_eq_some_iff.mp stands
  rw [whole.size] at below
  exact ordered ip below above stands

/-! ## The frames of the console -/

/-- The open requests are those that lanes wait for, one for each lane. -/
structure Machine.Attended (machine : Machine Console.State) : Prop where
  once : (machine.host.pending.map Console.Pending.token).Nodup
  all : ∀ token, token ∈ machine.host.pending.map Console.Pending.token ↔
    machine.world.roster.Awaits token fun _ reason => reason.isServed
  /-- Nothing that was given back is left over. -/
  returned : machine.world.pending = []
  /-- No question stopped the console. -/
  moving : machine.host.stuck = false

namespace Console

open Machine (FiledIn Opened Serving InnerRun)

variable (settings : Settings) (source : Section) (seed : UInt64)

/-- The console at the end of so many frames. -/
def played : Nat → Machine State
  | 0 => begin settings source seed
  | frames + 1 => playFrame settings source frames.toUInt64 (played frames)

theorem played_succ (frame : Nat) : played settings source seed (frame + 1) =
    playFrame settings source frame.toUInt64 (played settings source seed frame) := rfl

/-- The console goes through these states, up to the one in which the field is over. -/
theorem playFrames_eq_played (more frame : Nat) :
    ∃ last, frame ≤ last ∧ last ≤ frame + more ∧
      playFrames settings source more frame.toUInt64 (played settings source seed frame) =
        played settings source seed last := by
  induction more generalizing frame with
  | zero => exact ⟨frame, Nat.le_refl _, Nat.le_refl _, rfl⟩
  | succ more ih =>
      have clock : frame.toUInt64 + 1 = (frame + 1).toUInt64 := by
        simp [Nat.toUInt64_eq, UInt64.ofNat_add]
      unfold playFrames
      dsimp only
      rw [← played_succ]
      split
      · exact ⟨frame + 1, by omega, by omega, rfl⟩
      · obtain ⟨last, above, below, same⟩ := ih (frame + 1)
        rw [clock]
        exact ⟨last, by omega, by omega, same⟩

/-- A lane asked for something in a frame, and has waited for it since, with the request open at the
end of every frame. -/
structure Waits (asked frame : Nat) (pending : Pending) (lane : Lane) : Prop where
  before : asked < frame
  due : pending.due.toNat = asked + settings.answerDelay.toNat
  after : frame ≤ pending.due.toNat
  fresh : pending ∉ (played settings source seed asked).host.pending
  filed : FiledIn settings source
    (deliver asked.toUInt64 (played settings source seed asked)) pending lane
  since : ∀ between, asked < between → between ≤ frame →
    pending ∈ (played settings source seed between).host.pending ∧
    (played settings source seed between).world.lane? pending.token.entity
      pending.token.priority = some lane

/-- A lane waits with a request at the end of a frame, whenever that was put down. -/
def Kept (frame : Nat) (pending : Pending) (lane : Lane) : Prop :=
  ∃ asked, Waits settings source seed asked frame pending lane

/-- Everything that holds at the end of a frame. -/
structure Punctual (frame : Nat) : Prop where
  arises : Machine.Arises (settingFor settings source) (played settings source seed frame)
  docket : (played settings source seed frame).world.roster.Docket
    (Kept settings source seed frame) (played settings source seed frame).desk.dances
    (played settings source seed frame).desk.pending
  returned : (played settings source seed frame).desk.returned = []
  answerDelay : (played settings source seed frame).desk.answerDelay = settings.answerDelay
  stuck : (played settings source seed frame).desk.stuck = false

/-- At the beginning nobody waits. -/
theorem punctual_begin : Punctual settings source seed 0 := by
  let entered := Machine.enter (settingFor settings source) (.fresh settings.machine)
    (.ofSeed seed) { answerDelay := settings.answerDelay, defaultChoice := settings.defaultChoice }
  have arises : Machine.Arises (settingFor settings source) (begin settings source seed) :=
    Machine.Reachable.arises (.start (.enter _ _ _))
  have empty : (begin settings source seed).desk = entered.desk :=
    Machine.desk_of_same entered.affairs_start
  refine ⟨arises, ?_, ?_, ?_, ?_⟩
  · show (begin settings source seed).world.roster.Docket _ (begin settings source seed).desk.dances
      (begin settings source seed).desk.pending
    rw [empty]
    exact Machine.start_register (Machine.enter_register _ _ _ _)
  · exact congrArg (·.toErrands.returned) empty
  · exact congrArg Desk.answerDelay empty
  · exact congrArg Desk.stuck empty

variable {settings source seed}

theorem toNat_frame {frame : Nat} (fits : frame < UInt64.size) : frame.toUInt64.toNat = frame := by
  rw [Nat.toUInt64_eq, UInt64.toNat_ofNat', Nat.mod_eq_of_lt fits]

/-- A frame that does not overflow with the delay is known by its number. -/
theorem toNat_due {frame : Nat} (fits : frame + settings.answerDelay.toNat < UInt64.size) :
    (frame.toUInt64 + settings.answerDelay).toNat = frame + settings.answerDelay.toNat := by
  rw [UInt64.toNat_add, toNat_frame (Nat.lt_of_le_of_lt (Nat.le_add_right ..) fits),
    Nat.mod_eq_of_lt fits]

namespace Punctual

variable {frame : Nat}

/-- The desk when the answers of the next frame were given back. -/
theorem desk_deliver (punctual : Punctual settings source seed frame) :
    let desk := (deliver frame.toUInt64 (played settings source seed frame)).desk
    desk.frame = frame.toUInt64 ∧ desk.answerDelay = settings.answerDelay ∧ desk.stuck = false ∧
      desk.pending =
        (played settings source seed frame).host.pending.filter (frame.toUInt64 < ·.due) := by
  obtain ⟨-, desk⟩ := Machine.deliver_eq frame.toUInt64 (played settings source seed frame)
  dsimp only
  rw [desk]
  exact ⟨rfl, punctual.answerDelay, punctual.stuck, rfl⟩

/-- The frame that follows can be attended to. -/
theorem opened (punctual : Punctual settings source seed frame) (ordered : source.AsksInOrder)
    (delayed : 1 ≤ settings.answerDelay) :
    Opened settings source (deliver frame.toUInt64 (played settings source seed frame))
      fun pending lane => Kept settings source seed frame pending lane ∨
        FiledIn settings source (deliver frame.toUInt64 (played settings source seed frame))
          pending lane := by
  obtain ⟨roster, -⟩ := Machine.deliver_eq frame.toUInt64 (played settings source seed frame)
  refine ⟨ordered, ?_, punctual.arises.event (.other roster), fun _ _ => .inr⟩
  rw [punctual.desk_deliver.2.1]
  intro none
  rw [none] at delayed
  cases delayed

/-- What is put down in a frame is due after the delay. -/
theorem due_of_filed (punctual : Punctual settings source seed frame)
    (fits : frame + settings.answerDelay.toNat < UInt64.size) {pending : Pending} {lane : Lane}
    (filed : FiledIn settings source
      (deliver frame.toUInt64 (played settings source seed frame)) pending lane) :
    pending.due.toNat = frame + settings.answerDelay.toNat := by
  obtain ⟨clock, delay, -⟩ := punctual.desk_deliver
  obtain ⟨moment, -, time, wait, files⟩ := filed
  have due : pending.due = moment.machine.desk.frame + moment.machine.desk.answerDelay := files.due
  rw [due, time, wait, clock, delay, toNat_due fits]

/-- What is on the docket was put down in an earlier frame. -/
theorem kept_of_mem (punctual : Punctual settings source seed frame) {pending : Pending}
    (member : pending ∈ (played settings source seed frame).host.pending) :
    ∃ lane, Kept settings source seed frame pending lane := by
  obtain ⟨lane, reason, -, -, -, -, kept⟩ :=
    (punctual.docket.request pending member).resolve_left id
  exact ⟨lane, kept⟩

/-- One frame more. -/
theorem next (punctual : Punctual settings source seed frame) (ordered : source.AsksInOrder)
    (delayed : 1 ≤ settings.answerDelay)
    (fits : frame + settings.answerDelay.toNat < UInt64.size) :
    Punctual settings source seed (frame + 1) := by
  have opened := punctual.opened ordered delayed
  have serving := Machine.playFrame_serving opened
    (punctual.docket.mono fun _ _ _ _ kept => .inl kept) punctual.returned
  rw [← played_succ] at serving
  obtain ⟨clock, delay, stuck, stays⟩ := punctual.desk_deliver
  have later (pending : Pending)
      (member : pending ∈ (played settings source seed (frame + 1)).desk.pending) :
      frame + 1 ≤ pending.due.toNat := by
    obtain ⟨fresh, listed, due⟩ := serving.continues.pending
    rw [listed, stays, List.mem_append] at member
    rcases member with kept | new
    · have ahead := UInt64.lt_iff_toNat_lt.mp (of_decide_eq_true (List.mem_filter.mp kept).2)
      rw [toNat_frame (Nat.lt_of_le_of_lt (Nat.le_add_right ..) fits)] at ahead
      exact ahead
    · rw [due pending new, clock, delay, toNat_due fits]
      have some := UInt64.le_iff_toNat_le.mp delayed
      exact Nat.add_le_add_left some frame
  have docket := serving.docket
  rw [List.nil_append] at docket
  refine ⟨opened.arises.inner serving.inner, docket.mono ?_, serving.continues.returned,
    serving.continues.answerDelay.trans delay, serving.continues.stuck.trans stuck⟩
  intro pending member lane here holds
  have ahead := later pending member
  rw [World.lane?_roster] at here
  rcases holds with ⟨asked, waits⟩ | filed
  · refine ⟨asked, Nat.lt_succ_of_lt waits.before, waits.due, ahead, waits.fresh, waits.filed,
      fun between above below => ?_⟩
    rcases Nat.lt_succ_iff_lt_or_eq.mp (Nat.lt_succ_of_le below) with earlier | rfl
    · exact waits.since between above (Nat.le_of_lt_succ earlier)
    · exact ⟨member, here⟩
  · have due := punctual.due_of_filed fits filed
    refine ⟨frame, Nat.lt_succ_self _, due, ahead, fun earlier => ?_, filed,
      fun between above below => ?_⟩
    · obtain ⟨lane, asked, waits⟩ := punctual.kept_of_mem earlier
      have before := waits.before
      have same := waits.due
      omega
    · obtain rfl : between = frame + 1 := by omega
      exact ⟨member, here⟩

/-- Nothing is overdue. -/
theorem due_eq (punctual : Punctual settings source seed frame) (fits : frame < UInt64.size) :
    (played settings source seed frame).host.pending.filter (·.due ≤ frame.toUInt64) =
      (played settings source seed frame).host.pending.filter (·.due.toNat = frame) := by
  refine List.filter_congr fun pending member => decide_eq_decide.mpr ?_
  obtain ⟨lane, asked, waits⟩ := punctual.kept_of_mem member
  have ahead := waits.after
  rw [UInt64.le_iff_toNat_le, toNat_frame fits]
  omega

/-- The answers that are given back in a frame are those that are due in it. -/
theorem returned_deliver (punctual : Punctual settings source seed frame)
    (fits : frame < UInt64.size) :
    (deliver frame.toUInt64 (played settings source seed frame)).world.pending =
      ((played settings source seed frame).host.pending.filter (·.due.toNat = frame)).map
        fun pending => (pending.token, pending.answer) := by
  rw [← punctual.due_eq fits]
  exact Machine.deliver_returned punctual.returned

theorem attended (punctual : Punctual settings source seed frame) :
    (played settings source seed frame).Attended where
  once := punctual.docket.requestsOnce
  all token := by
    constructor
    · exact fun listed => (punctual.docket.served listed).resolve_left id
    · rintro ⟨lane, reason, here, named, paused, served⟩
      have listed := punctual.docket.all token.entity token.priority lane reason here paused served
      rwa [Lane.token, named] at listed
  returned := punctual.returned
  moving := punctual.stuck

end Punctual

/-- At the end of every frame, everything is in order. -/
theorem punctual (ordered : source.AsksInOrder) (delayed : 1 ≤ settings.answerDelay) (seed : UInt64)
    {frame : Nat} (fits : frame + settings.answerDelay.toNat ≤ UInt64.size) :
    Punctual settings source seed frame := by
  induction frame with
  | zero => exact punctual_begin settings source seed
  | succ frame ih =>
      have less : frame + settings.answerDelay.toNat < UInt64.size := by omega
      exact (ih (Nat.le_of_lt less)).next ordered delayed less

/-! ## Answers that are given back -/

variable (settings source seed) in
/-- The console in a frame in which so many of the answers were given back that are due. -/
def givenBack (frame count : Nat) : Machine State :=
  (deliver frame.toUInt64 (played settings source seed frame)).duringResumes
    (settingFor settings source) settings.frameMillis count

variable (settings source seed) in
/-- An answer that is given back finds the lane that waits for it, and wakes it.  The answer to a
question is one of its lines, and is written to the cell of the question. -/
structure Wakes (frame index : Nat) (pending : Pending) (lane : Lane) : Prop where
  waiting : (givenBack settings source seed frame index).world.lane? pending.token.entity
    pending.token.priority = some lane
  named : lane.epoch = pending.token.epoch
  woken : ∃ reason, reason.isServed ∧ lane.pauseReason? = some reason ∧
    ((givenBack settings source seed frame index).wake pending.token).2 = some reason
  awake : (givenBack settings source seed frame (index + 1)).world.lane? pending.token.entity
    pending.token.priority = some lane.awake
  offers : source.Offers lane pending.answer
  written : ∀ window bank address choice,
    lane.pauseReason? = some (.ask window bank address) → pending.answer = some choice →
    (givenBack settings source seed frame index).session.memory.locate bank address.toUInt16 =
      .ok () →
    (givenBack settings source seed frame (index + 1)).session.memory.read bank
      address.toUInt16 = .ok choice

theorem Punctual.wakes {frame index : Nat} {pending : Pending}
    (punctual : Punctual settings source seed frame) (fits : frame < UInt64.size)
    (due : ((played settings source seed frame).host.pending.filter
      (·.due.toNat = frame))[index]? = some pending) :
    ∃ asked lane, frame = asked + settings.answerDelay.toNat ∧
      Waits settings source seed asked frame pending lane ∧
      Wakes settings source seed frame index pending lane := by
  have member := List.mem_filter.mp (List.mem_of_getElem? due)
  have now : pending.due.toNat = frame := of_decide_eq_true member.2
  have returned := punctual.returned_deliver fits
  have docket := Machine.deliver_docket frame.toUInt64 punctual.docket
  rw [show (played settings source seed frame).desk.pending.filter (·.due ≤ frame.toUInt64) = _
    from punctual.due_eq fits] at docket
  have serving := Machine.duringResumes_serving settings source docket returned
    settings.frameMillis index
  obtain ⟨inside, here⟩ := List.getElem?_eq_some_iff.mp due
  rw [List.drop_eq_getElem_cons inside, here] at serving
  obtain ⟨lane, reason, waiting, named, paused, served, ⟨asked, waits⟩, woke, awake⟩ :=
    serving.wakes
  have handed : (deliver frame.toUInt64
      (played settings source seed frame)).world.pending[index]? =
        some (pending.token, pending.answer) := by
    rw [returned, List.getElem?_map, due, Option.map_some]
  have after : givenBack settings source seed frame (index + 1) =
      (givenBack settings source seed frame index).applyResume (settingFor settings source)
        pending.token pending.answer := Machine.duringResumes_succ _ handed settings.frameMillis
  refine ⟨asked, lane, now.symm.trans waits.due, waits, waiting, named,
    ⟨reason, served, paused, woke⟩, after ▸ awake, ?_, ?_⟩
  · obtain ⟨moment, -, -, -, files⟩ := waits.filed
    exact files.offers
  · intro window bank address choice asks answered there
    rw [paused] at asks
    cases asks
    rw [after, answered]
    exact Machine.read_applyResume woke there choice

/-- The console answers every request once and on time.

At the end of every frame, its list of open requests has one entry for each lane that waits for an
answer, with the current token of that lane, and no others.  The lane of an entry has waited with it
since the step that put it down, and the entry is due one delay after the frame of that step.

The answers that are given back in a frame are those that are due in it.  Each of them finds the lane
that still waits for it and wakes it, and the answer to a question is one of the lines that the
question offers, which is what its cell holds then. -/
theorem requests_answered_on_time (settings : Settings) (source : Section) (seed : UInt64)
    (frames : Nat) (ordered : source.AsksInOrder) (delayed : 1 ≤ settings.answerDelay)
    (fits : frames + settings.answerDelay.toNat ≤ UInt64.size) :
    (∃ last ≤ frames, playFrames settings source frames 0 (begin settings source seed) =
      played settings source seed last) ∧
    (∀ frame ≤ frames, (played settings source seed frame).Attended ∧
      ∀ pending ∈ (played settings source seed frame).host.pending, ∃ asked lane,
        Waits settings source seed asked frame pending lane) ∧
    ∀ frame < frames,
      let due := (played settings source seed frame).host.pending.filter (·.due.toNat = frame)
      (deliver frame.toUInt64 (played settings source seed frame)).world.pending =
        due.map (fun pending => (pending.token, pending.answer)) ∧
      ∀ index pending, due[index]? = some pending → ∃ asked lane,
        frame = asked + settings.answerDelay.toNat ∧
        Waits settings source seed asked frame pending lane ∧
        Wakes settings source seed frame index pending lane := by
  have all (frame : Nat) (below : frame ≤ frames) : Punctual settings source seed frame :=
    punctual ordered delayed seed (by omega)
  refine ⟨?_, fun frame below => ⟨(all frame below).attended, fun pending member => ?_⟩,
    fun frame below => ?_⟩
  · obtain ⟨last, -, below, same⟩ := playFrames_eq_played settings source seed frames 0
    exact ⟨last, by omega, same⟩
  · obtain ⟨lane, asked, waits⟩ := (all frame below).kept_of_mem member
    exact ⟨asked, lane, waits⟩
  · have small : frame < UInt64.size := by omega
    have now := all frame (Nat.le_of_lt below)
    exact ⟨now.returned_deliver small, fun index pending due => now.wakes small due⟩

end Console

/-! ## The interview on the console -/

namespace Interview

/-- The console answers after two frames, and chooses the second line if it can. -/
def settings : Console.Settings :=
  { answerDelay := 2, defaultChoice := 1, machine := { opsPerTick := 8 } }

/-- The question, as the console puts it down in its third frame. -/
def question : Console.Pending := { due := 4, token, answer := some 1 }

theorem read_bytes : Section.read bytes = .ok source := by
  have accepted : (Section.read bytes).isOk := by decide +kernel
  unfold source
  cases read : Section.read bytes with
  | ok source => rfl
  | error error => simp [read, Except.isOk, Except.toBool] at accepted

end Interview

namespace Console

/-- In the interview, the question of the third frame is answered in the fifth, and its cell holds
the second line then. -/
theorem interview_answered_on_time :
    Interview.source.AsksInOrder ∧ 1 ≤ Interview.settings.answerDelay ∧
    5 + Interview.settings.answerDelay.toNat ≤ UInt64.size ∧
    (played Interview.settings Interview.source 0 3).Attended ∧
    (played Interview.settings Interview.source 0 3).host.pending = [Interview.question] ∧
    (∃ lane, Waits Interview.settings Interview.source 0 2 4 Interview.question lane ∧
      Wakes Interview.settings Interview.source 0 4 0 Interview.question lane) ∧
    (givenBack Interview.settings Interview.source 0 4 1).session.memory.read 1 16 = .ok 1 := by
  have ordered : Interview.source.AsksInOrder :=
    Section.asksInOrder_of_read Interview.read_bytes (by decide +kernel)
  have delayed : 1 ≤ Interview.settings.answerDelay := by decide
  have fits : 5 + Interview.settings.answerDelay.toNat ≤ UInt64.size := by decide
  obtain ⟨-, frames, answers⟩ :=
    requests_answered_on_time Interview.settings Interview.source 0 5 ordered delayed fits
  have listed : (played Interview.settings Interview.source 0 3).host.pending =
      [Interview.question] := by
    decide +kernel
  have due : ((played Interview.settings Interview.source 0 4).host.pending.filter
      (·.due.toNat = 4))[0]? = some Interview.question := by
    decide +kernel
  obtain ⟨asked, lane, now, waits, wakes⟩ := (answers 4 (by decide)).2 0 Interview.question due
  obtain rfl : asked = 2 := by
    have delay : Interview.settings.answerDelay.toNat = 2 := by decide
    omega
  have there : (givenBack Interview.settings Interview.source 0 4 0).world.lane? 0 0 =
      some { status := .paused 114 (.ask 0 1 16) none, script := 0, epoch := 1 } := by
    decide +kernel
  have cell : (givenBack Interview.settings Interview.source 0 4 0).session.memory.locate 1 16 =
      .ok () := by
    have banks : ¬(givenBack Interview.settings Interview.source 0 4
        0).session.memory.bankCount ≤ 1 := by
      decide +kernel
    have cells : ¬(givenBack Interview.settings Interview.source 0 4
        0).session.memory.bankSize ≤ 16 := by
      decide +kernel
    exact (if_neg banks).trans (if_neg cells)
  refine ⟨ordered, delayed, fits, (frames 3 (by decide)).1, listed, ⟨lane, waits, wakes⟩, ?_⟩
  obtain rfl : lane = _ := Option.some.inj (wakes.waiting.symm.trans there)
  have address : (16 : UInt8).toUInt16 = 16 := by decide
  have written := wakes.written 0 1 16 1 rfl rfl
  rw [address, Nat.zero_add] at written
  exact written cell

end Console

end FieldMachine
