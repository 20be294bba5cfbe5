import FieldMachine.Host.Scripted
import FieldMachine.Proofs.Replica
import FieldMachine.Proofs.Token

/-!
# The scratch bank is invisible

No instruction reads or writes the scratch bank: a selector of 0 is an immediate
operand, and as a destination it is refused before anything is written.  The one
other way to a cell is the answer to a question, which was put away under the
bank of the question, and that is never the scratch bank
(`Machine.Arises.waits`).

So a field may be looked at with any other cells in that bank (`View.scratch`),
and nothing else changes, whatever happens to it: machines that differ in the
scratch bank alone go on to do so, and tell and ask their hosts the same
(`Machine.scratch_unseen`).
-/

namespace FieldMachine

set_option autoImplicit false

/-! ## What lanes wait for -/

namespace Roster

variable {allowed : PauseReason → Prop} {roster after : Roster}

theorem WaitsOnly.mono {more : PauseReason → Prop} (waits : roster.WaitsOnly allowed)
    (weaker : ∀ reason, allowed reason → more reason) : roster.WaitsOnly more :=
  fun id priority lane reason here paused => weaker reason (waits id priority lane reason here paused)

theorem WaitsOnly.put (waits : roster.WaitsOnly allowed) {lane : Lane}
    (fits : ∀ reason, lane.pauseReason? = some reason → allowed reason) (id : EntityId)
    (priority : Nat) : (roster.put id priority lane).WaitsOnly allowed := by
  intro other index found reason there paused
  rw [lane?_put] at there
  split at there
  · cases there
    exact fits reason paused
  · exact waits other index found reason there paused

/-- A lane that does not wait may be put anywhere. -/
theorem WaitsOnly.put_running (waits : roster.WaitsOnly allowed) {lane : Lane}
    (runs : lane.pauseReason? = none) (id : EntityId) (priority : Nat) :
    (roster.put id priority lane).WaitsOnly allowed := by
  refine waits.put ?_ id priority
  intro reason paused
  rw [runs] at paused
  cases paused

theorem WaitsOnly.complete (waits : roster.WaitsOnly allowed) (onStop : Option ResumeToken) :
    (roster.complete onStop).WaitsOnly allowed := by
  cases onStop with
  | none => exact waits
  | some token => exact waits.wake token

theorem WaitsOnly.wakeAll (waits : roster.WaitsOnly allowed) (tokens : List ResumeToken) :
    (tokens.foldl Roster.wake roster).WaitsOnly allowed := by
  induction tokens generalizing roster with
  | nil => exact waits
  | cons token rest ih => exact ih (waits.wake token)

theorem WaitsOnly.erase (waits : roster.WaitsOnly allowed) (id : EntityId) :
    (roster.erase id).WaitsOnly allowed := by
  intro other priority lane reason there paused
  by_cases gone : other = id
  · simp [Roster.erase, gone] at there
  · exact waits other priority lane reason (by simpa [Roster.erase, gone] using there) paused

theorem WaitsOnly.begins (waits : roster.WaitsOnly allowed) {id : EntityId}
    {priority script : Nat} (begins : roster.Begins id priority script after) :
    after.WaitsOnly allowed := by
  cases begins with
  | refused => exact waits
  | started admits => exact waits.put_running rfl id priority

/-- An instruction lets its own lane wait, and no other. -/
theorem WaitsOnly.turn (waits : roster.WaitsOnly allowed) (call : allowed .call)
    (awaited : ∀ reason : PauseReason, reason.IsAwaited → allowed reason) {source : Section}
    {jumps : Opcode → Prop} {id : EntityId} {priority : Nat} {lane : Lane}
    (turn : roster.Turn source jumps id priority lane after) : after.WaitsOnly allowed := by
  have ended : (roster.finish id priority lane).WaitsOnly allowed :=
    (waits.put_running rfl id priority).complete lane.onStop?
  cases turn with
  | carry carries =>
      refine waits.put ?_ id priority
      intro reason paused
      cases carries with
      | pause passes known =>
          cases paused
          exact awaited reason known
      | _ => cases paused
  | call admits goesOn => exact (waits.put_running rfl _ _).put_running rfl id priority
  | await admits passes =>
      refine (waits.put_running rfl _ _).put ?_ id priority
      rintro reason ⟨⟩
      exact call
  | stop => exact ended
  | handOver begins => exact ended.begins begins
  | abort stands mainEntry => exact waits.put_running rfl id priority

theorem WaitsOnly.step (waits : roster.WaitsOnly allowed) (call : allowed .call)
    (awaited : ∀ reason : PauseReason, reason.IsAwaited → allowed reason) {source : Section}
    {event : Event} (step : roster.Step source event after) : after.WaitsOnly allowed := by
  cases step with
  | keep => exact waits
  | turn here active turn => exact waits.turn call awaited turn
  | work => exact waits.wake _
  | resume => exact waits.wake _
  | invoke begins => exact waits.begins begins
  | remove all => exact (waits.erase _).wakeAll _

end Roster

/-! ## Looking at a field with other cells in the scratch bank -/

namespace View

variable {σ : Type}

/-- The view of the same machine with other cells in its scratch bank. -/
def scratch (cells : Array UInt16) : View σ σ :=
  { host := id, memory := (·.withScratch cells), spares := (· ≠ Memory.scratchBank) }

/-- Instructions find the same and leave the same, whatever the scratch bank holds. -/
theorem shows_scratch (setting : Setting σ) (cells : Array UInt16) :
    (scratch cells).Shows setting setting.host where
  host := ⟨fun _ => rfl, fun _ _ _ => rfl, fun _ _ => rfl⟩
  named _ named := named
  locate memory bank address := memory.locate_withScratch cells bank address
  put memory _ address value named := memory.put_withScratch cells named address value
  plan {op _} known scene _ inside :=
    let ⟨_, _, follows⟩ := op.agrees scene known
    follows.veiled ⟨cells, scene.config.opsPerTick, scene.world.starved⟩ inside
  rest continuation scene _ inside :=
    continuation.plan_takes.veiled ⟨cells, scene.config.opsPerTick, scene.world.starved⟩ inside

/-- The answer to a question is never put into the scratch bank. -/
theorem allows_scratch (cells : Array UInt16) {reason : PauseReason}
    (known : reason = .call ∨ reason.IsAwaited) : (scratch cells : View σ σ).Allows reason := by
  rintro window bank address rfl
  rcases known with called | jumped | danced | ⟨op, request, asks⟩
  · cases called
  · cases jumped
  · cases danced
  · cases asks with
    | ask dialog address asked named => exact named

end View

namespace Machine

variable {σ : Type}

/-! ## Machines that differ in the scratch bank -/

/-- Two machines that differ in nothing but what the scratch bank holds. -/
structure SameButScratch (first second : Machine σ) : Prop where
  world : second.world = first.world
  session : { second.session with memory := second.session.memory.resetScratch } =
    { first.session with memory := first.session.memory.resetScratch }
  random : second.random = first.random
  host : second.host = first.host
  journal : second.journal = first.journal

variable {setting : Setting σ} {first second : Machine σ}

theorem sameButScratch_through (machine : Machine σ) (cells : Array UInt16) :
    machine.SameButScratch (machine.through (.scratch cells)) where
  world := rfl
  session := congrArg (fun memory => { machine.session with memory })
    (machine.session.memory.resetScratch_withScratch cells)
  random := rfl
  host := rfl
  journal := rfl

/-- One of two such machines is the other one, seen with its own cells in the scratch bank. -/
theorem SameButScratch.eq_through (same : first.SameButScratch second) :
    second = first.through (.scratch second.session.memory.scratch) := by
  have emptied : second.session.memory.resetScratch = first.session.memory.resetScratch :=
    congrArg Session.memory same.session
  have rest : second.session = { first.session with memory := second.session.memory } :=
    congrArg (fun session => { session with memory := second.session.memory }) same.session
  have session : second.session =
      (View.scratch second.session.memory.scratch : View σ σ).session first.session := by
    refine rest.trans ?_
    exact congrArg (fun memory => { first.session with memory }) (Memory.eq_withScratch emptied)
  obtain ⟨world, -, random, host, journal⟩ := same
  cases second
  simp only at world random host journal session
  simp only [through, world, random, host, journal, ← session]
  rfl

/-- Entering the field makes them equal. -/
theorem SameButScratch.start (same : first.SameButScratch second) : second.start = first.start := by
  have emptied : (second.updateSession fun session =>
      { session with memory := session.memory.resetScratch }) =
      first.updateSession fun session =>
        { session with memory := session.memory.resetScratch } := by
    simp only [updateSession, same.session, same.world, same.random, same.host, same.journal]
  unfold Machine.start
  rw [emptied, same.world]

/-! ## Moves -/

variable (setting) in
/-- Every move is a run of events. -/
theorem make_runs (machine : Machine σ) (move : Move) :
    ∃ events, Runs setting events machine (machine.make setting move) := by
  have single {event : Event} {after : Machine σ} (occurs : Occurs setting event machine after) :
      ∃ events, Runs setting events machine after := ⟨[event], .cons occurs (.nil after)⟩
  have inner {after : Machine σ} (run : InnerRun setting machine after) :
      ∃ events, Runs setting events machine after := run.imp fun _ run => run.2
  cases move with
  | start => exact (start_runs setting machine).imp fun _ run => run.2
  | tick elapsed => exact inner (tick_inner setting machine elapsed)
  | invoke index priority script => exact single (.invoke machine index priority script)
  | giveBack token answer => exact single (.other rfl)
  | remove index => exact single (.remove machine index)
  | spawn activity => exact single (.other rfl)
  | loadPalette id palette => exact single (.other rfl)
  | begin elapsed entities lanes => exact inner (duringTick_inner setting machine elapsed entities lanes)
  | step id priority => exact single (.run machine id priority)

/-- What a lane can wait for at all. -/
def knownReasons (reason : PauseReason) : Prop := reason = .call ∨ reason.IsAwaited

theorem Runs.waits {events : List Event} {machine after : Machine σ}
    (runs : Runs setting events machine after)
    (waits : machine.world.roster.WaitsOnly knownReasons) :
    after.world.roster.WaitsOnly knownReasons :=
  runs.roster_induction (fun _ _ _ step waits => waits.step (.inl rfl) (fun _ => .inr) step) waits

/-- A lane waits for a call, or for one of the reasons that instructions have. -/
theorem Arises.waits {machine : Machine σ} (arises : Arises setting machine) :
    machine.world.roster.WaitsOnly knownReasons := by
  obtain ⟨session, random, host, events, runs⟩ := arises
  refine runs.waits ?_
  intro id priority lane reason here paused
  rw [show lane = {} from World.lane?_ofSection here] at paused
  cases paused

/-- Every move leaves them the same but for the scratch bank. -/
theorem SameButScratch.make (same : first.SameButScratch second)
    (waits : first.world.roster.WaitsOnly knownReasons) (move : Move) :
    (first.make setting move).SameButScratch (second.make setting move) := by
  by_cases entered : move = .start
  · subst entered
    have started : second.make setting .start = first.make setting .start := same.start
    rw [started]
    exact ⟨rfl, rfl, rfl, rfl, rfl⟩
  · let cells := second.session.memory.scratch
    have allowed : first.world.roster.WaitsOnly (View.scratch cells : View σ σ).Allows :=
      waits.mono fun reason known => View.allows_scratch cells known
    have seen : (first.through (.scratch cells)).make setting move =
        (first.make setting move).through (.scratch cells) :=
      through_make (View.shows_scratch setting cells) first allowed move
        fun started => absurd started entered
    rw [same.eq_through, seen]
    exact sameButScratch_through _ cells

/-- Whatever happens to both, they stay the same but for the scratch bank. -/
theorem SameButScratch.follow (same : first.SameButScratch second)
    (waits : first.world.roster.WaitsOnly knownReasons) (moves : List Move) :
    (first.follow setting moves).SameButScratch (second.follow setting moves) := by
  induction moves generalizing first second with
  | nil => exact same
  | cons move rest ih =>
      obtain ⟨events, runs⟩ := first.make_runs setting move
      exact ih (same.make waits move) (runs.waits waits)

/-! ## What the scratch bank holds -/

/-- No write changes the number or the size of the banks. -/
theorem shape_make (setting : Setting σ) (machine : Machine σ) (move : Move) :
    (machine.make setting move).session.memory.shape = machine.session.memory.shape := by
  have recorded : (machine.recorded.make setting.recording move).ledger.memory.shape =
      machine.session.memory.shape := by
    refine make_ledger setting (·.memory.shape = machine.session.memory.shape) ?_
      (fun _ same => same) (fun _ _ same => same) rfl move
    intro before after write same
    cases write <;> exact same
  have seen := machine.see_follow_recorded setting [move]
  exact (congrArg (·.session.memory.shape) seen).symm.trans recorded

/-- No move but the entry of the field writes the scratch bank. -/
theorem scratch_make {machine : Machine σ} (waits : machine.world.roster.WaitsOnly knownReasons)
    {move : Move} (stays : move ≠ .start) :
    (machine.make setting move).session.memory.scratch = machine.session.memory.scratch := by
  let cells := machine.session.memory.scratch
  have allowed : machine.world.roster.WaitsOnly (View.scratch cells : View σ σ).Allows :=
    waits.mono fun reason known => View.allows_scratch cells known
  have itself : machine.through (.scratch cells) = machine :=
    (SameButScratch.eq_through ⟨rfl, rfl, rfl, rfl, rfl⟩).symm
  have seen : (machine.through (.scratch cells)).make setting move =
      (machine.make setting move).through (.scratch cells) :=
    through_make (View.shows_scratch setting cells) machine allowed move
      fun started => absurd started stays
  rw [itself] at seen
  have memory : (machine.make setting move).session.memory =
      (machine.make setting move).session.memory.withScratch cells :=
    congrArg (·.session.memory) seen
  have fits : cells.size = (machine.make setting move).session.memory.scratch.size := by
    rw [Memory.size_scratch, Memory.size_scratch, shape_make]
  rw [memory]
  exact Memory.scratch_withScratch _ _ fits

theorem scratch_follow {machine : Machine σ} (waits : machine.world.roster.WaitsOnly knownReasons)
    {moves : List Move} (stays : .start ∉ moves) :
    (machine.follow setting moves).session.memory.scratch = machine.session.memory.scratch := by
  induction moves generalizing machine with
  | nil => rfl
  | cons move rest ih =>
      rw [List.mem_cons, not_or] at stays
      obtain ⟨events, runs⟩ := machine.make_runs setting move
      exact (ih (runs.waits waits) stays.2).trans (scratch_make waits (Ne.symm stays.1))

/-- Entering the field empties the scratch bank. -/
theorem scratch_start (machine : Machine σ) :
    machine.start.session.memory.scratch =
      Array.replicate machine.session.memory.scratch.size 0 := by
  have recorded : machine.recorded.start = machine.start.recorded :=
    through_start (.ofHost fun state => (state, [])) machine (View.clears_ofHost _)
  have entered := congrArg Ledger.memory machine.recorded.ledger_start
  rw [recorded] at entered
  have memory : machine.start.session.memory = machine.session.memory.resetScratch := entered
  rw [memory, Memory.scratch_resetScratch]

end Machine

/-! ## What the host hears -/

/-- The host with a record of everything that it is told and asked, the earliest contact first. -/
def Host.tapped {σ : Type} (host : Host σ) : Host (σ × List Contact) where
  senses state := host.senses state.1
  request request token state :=
    let (completion, next, lines) := host.request request token state.1
    (completion, (next, state.2 ++ [.asked request token]), lines)
  notify notice state :=
    let (next, lines) := host.notify notice state.1
    ((next, state.2 ++ [.told notice]), lines)

/-- Without its record it is the host itself. -/
theorem Host.tapped_shows {σ : Type} (host : Host σ) : host.tapped.Shows Prod.fst host where
  senses _ := rfl
  request _ _ _ := rfl
  notify _ _ := rfl

/-- The setting whose host keeps a record of everything. -/
def Setting.tapped {σ : Type} (setting : Setting σ) : Setting (σ × List Contact) :=
  setting.withHost setting.host.tapped

namespace Machine

variable {σ : Type}

/-- The machine whose host is about to begin a record of everything. -/
def tapped (machine : Machine σ) : Machine (σ × List Contact) :=
  machine.see fun state => (state, [])

/-- All that the host is told and asked during some moves, the earliest contact first. -/
def contacts (setting : Setting σ) (machine : Machine σ) (moves : List Move) : List Contact :=
  (machine.tapped.follow setting.tapped moves).host.2

/-- Keeping the record changes nothing else. -/
theorem see_follow_tapped (setting : Setting σ) (machine : Machine σ) (moves : List Move) :
    (machine.tapped.follow setting.tapped moves).see Prod.fst = machine.follow setting moves :=
  (see_follow setting.host.tapped_shows machine.tapped moves).symm

/-- What the scratch bank holds is invisible.

Let two machines differ in nothing but that, in a state that a field can be seen in, and let the
same happen to both, up to any place between two instructions.  Then they still differ in nothing
but that, and their hosts were told and asked the same.  The scratch bank of each holds what it held
before, unless the field was entered: that fills it with zeros, and makes the machines equal. -/
theorem scratch_unseen {setting : Setting σ} {first second : Machine σ}
    (visited : Visited setting first) (same : first.SameButScratch second) (moves : List Move) :
    (first.follow setting moves).SameButScratch (second.follow setting moves) ∧
    ((first.tapped.follow setting.tapped moves).see Prod.fst = first.follow setting moves ∧
      (second.tapped.follow setting.tapped moves).see Prod.fst = second.follow setting moves ∧
      second.contacts setting moves = first.contacts setting moves) ∧
    (.start ∉ moves →
      (first.follow setting moves).session.memory.scratch = first.session.memory.scratch ∧
      (second.follow setting moves).session.memory.scratch = second.session.memory.scratch) ∧
    first.start.session.memory.scratch = Array.replicate first.session.memory.scratch.size 0 ∧
    second.start = first.start := by
  have waits := visited.arises.waits
  have waitsToo : second.world.roster.WaitsOnly knownReasons := by
    rw [same.world]
    exact waits
  have tapped : first.tapped.SameButScratch second.tapped :=
    ⟨same.world, same.session, same.random, congrArg (·, []) same.host, same.journal⟩
  have heard : (first.tapped.follow setting.tapped moves).SameButScratch
      (second.tapped.follow setting.tapped moves) := tapped.follow waits moves
  refine ⟨same.follow waits moves, ⟨see_follow_tapped setting first moves,
    see_follow_tapped setting second moves, congrArg Prod.snd heard.host⟩, ?_, scratch_start first,
    same.start⟩
  intro stays
  exact ⟨scratch_follow waits stays, scratch_follow waitsToo stays⟩

/-- In the interview, with other cells in the scratch bank: the question is asked and answered in the
same way, and the cells are still there. -/
theorem interview_scratch_unseen :
    let cells : Array UInt16 := Array.replicate 256 7
    let first := Interview.shown
    let second := first.through (.scratch cells)
    let moves := [.giveBack Interview.token none, .tick 0, .giveBack Interview.token (some 1),
      .begin 0 0 0]
    first.session.memory.scratch = Array.replicate 256 0 ∧ second.session.memory.scratch = cells ∧
    (first.follow Interview.setting moves).SameButScratch (second.follow Interview.setting moves) ∧
    second.contacts Interview.setting moves = first.contacts Interview.setting moves ∧
    (first.contacts Interview.setting moves).length = 1 ∧
    (second.follow Interview.setting moves).session.memory.cellAt 1 16 = 1 ∧
    (second.follow Interview.setting moves).session.memory.scratch = cells ∧
    second.start.session.memory.scratch = Array.replicate 256 0 := by
  intro cells first second moves
  -- Before its first tick the field was entered, which has left 256 zeros.
  let before :=
    Machine.enter Interview.setting (Session.fresh Interview.setting.config) (.ofSeed 0) ()
  have reachable : Reachable Interview.setting before.start := .start (.enter _ _ _)
  have visited : Visited Interview.setting first := .between (.tick reachable 0)
  have wide : before.session.memory.scratch.size = 256 := by decide +kernel
  have ticked : first = before.start.make Interview.setting (.tick 0) := rfl
  have empty : first.session.memory.scratch = Array.replicate 256 0 := by
    rw [ticked, scratch_make (Reachable.arises reachable).waits (by simp), scratch_start, wide]
  have filled : second.session.memory.scratch = cells :=
    Memory.scratch_withScratch _ _ (by rw [empty, Array.size_replicate, Array.size_replicate])
  have stays : .start ∉ moves := by simp [moves]
  have alike : first.SameButScratch second := sameButScratch_through first cells
  obtain ⟨same, ⟨-, -, heard⟩, kept, emptied, equal⟩ := scratch_unseen visited alike moves
  refine ⟨empty, filled, same, heard, by decide +kernel, by decide +kernel,
    (kept stays).2.trans filled, ?_⟩
  rw [equal, emptied, empty, Array.size_replicate]

end Machine

end FieldMachine
