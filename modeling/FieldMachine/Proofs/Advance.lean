import FieldMachine.Proofs.Ownership

/-!
# Lanes go from instruction to instruction

Where the next instruction begins is decided twice: a listing adds the length of
the table, and a lane goes on where its operands end.  Both come to the same
place, whether the lane gets there at once, after a pause, or ticks later when
nothing is left of the instruction (`Lane.Advances`).  So in one invocation a
lane only ever stands where instructions of the listing lead (`Section.Leads`).
-/

namespace FieldMachine

set_option autoImplicit false

/-! ## One instruction -/

/-- Where a lane stands after an event that does not end its invocation: still on the instruction
at `ip`, behind it, or where the instruction jumped to. -/
inductive Lane.Advances (source : Section) (jumps : Opcode → Prop) (lane : Lane) (ip : Nat) :
    Lane → Prop
  | stays {later : Lane} (here : later.ip? = some ip)
      (rests : ∀ suspended, later.suspended? = some suspended → ∃ length,
        instructionLength? source.code ip = some length ∧ suspended.next = ip + length) :
      Advances source jumps lane ip later
  | passes {later : Lane} {length : Nat} (long : instructionLength? source.code ip = some length)
      (behind : later.ip? = some (ip + length)) (fresh : later.suspended? = none) :
      Advances source jumps lane ip later
  | jumps {later : Lane} {op : Opcode} {target : Nat} (whole : lane.suspended? = none)
      (stands : source.code[ip]? = some op.byte) (moves : jumps op)
      (lands : later.ip? = some target) (above : source.codeStart ≤ target)
      (below : target < source.codeEnd) (fresh : later.suspended? = none) :
      Advances source jumps lane ip later

namespace Lane

variable {source : Section} {jumps : Opcode → Prop} {lane : Lane}

theorem ip?_awake (lane : Lane) : lane.awake.ip? = lane.ip? := by
  obtain ⟨status, script, epoch, mainEntry⟩ := lane
  cases status <;> rfl

/-- Waking a lane leaves it with what it is in the middle of, or with nothing. -/
theorem suspended?_awake {suspended : Suspended} (left : lane.awake.suspended? = some suspended) :
    lane.suspended? = some suspended := by
  obtain ⟨status, script, epoch, mainEntry⟩ := lane
  cases status with
  | paused ip reason onStop => cases left
  | _ => exact left

theorem suspended?_rewind (lane : Lane) (ip : Nat) (suspended : Option Suspended) :
    (lane.rewind ip suspended).suspended? = suspended := rfl

/-- A sound lane that is left where it is stays on its instruction. -/
theorem Sound.stays (sound : lane.Sound source) {later : Lane} {ip : Nat}
    (here : lane.ip? = some ip) (same : later.ip? = lane.ip?)
    (rests : ∀ suspended, later.suspended? = some suspended → lane.suspended? = some suspended) :
    lane.Advances source jumps ip later := by
  refine .stays (same.trans here) ?_
  intro suspended left
  obtain ⟨-, op, -, -, long, behind⟩ := sound.resting ip suspended here (rests suspended left)
  exact ⟨op.size, long, behind⟩

theorem Passes.advances {next ip : Nat} {later : Lane} (passes : lane.Passes source next)
    (sound : lane.Sound source) (busy : lane.isBusy) (here : lane.ip? = some ip)
    (behind : later.ip? = some next) (fresh : later.suspended? = none) :
    lane.Advances source jumps ip later := by
  obtain ⟨place, length, stands, long, rfl⟩ := passes.behind sound busy
  rw [here] at stands
  cases stands
  exact .passes long behind fresh

theorem GoesOn.advances {next ip : Nat} {later : Lane} (goesOn : lane.GoesOn source jumps next)
    (sound : lane.Sound source) (busy : lane.isBusy) (here : lane.ip? = some ip)
    (behind : later.ip? = some next) (fresh : later.suspended? = none) :
    lane.Advances source jumps ip later := by
  cases goesOn with
  | passes passes => exact passes.advances sound busy here behind fresh
  | jumps there whole stands moves above below =>
      rw [here] at there
      cases there
      exact .jumps whole stands moves behind above below fresh

/-- A lane that is carried on stays on its instruction, goes on behind it, or jumps. -/
theorem Carries.advances {ip : Nat} {later : Lane} (carries : lane.Carries source jumps later)
    (sound : lane.Sound source) (busy : lane.isBusy) (here : lane.ip? = some ip) :
    lane.Advances source jumps ip later := by
  cases carries with
  | advance goesOn => exact goesOn.advances sound busy here rfl rfl
  | home entry goesOn => exact goesOn.advances sound busy here rfl rfl
  | pause passes awaited => exact passes.advances sound busy here rfl rfl
  | retry there =>
      rw [here] at there
      cases there
      exact .stays rfl (by intro suspended left; cases left)
  | @suspend place op continuation there fresh stands long owned =>
      rw [here] at there
      cases there
      refine .stays rfl ?_
      intro suspended left
      rw [suspended?_rewind, Option.some.injEq] at left
      subst left
      exact ⟨op.size, long, rfl⟩
  | @linger place suspended continuation there left inside owned =>
      rw [here] at there
      cases there
      refine .stays rfl ?_
      intro rest same
      rw [suspended?_rewind, Option.some.injEq] at same
      subst same
      obtain ⟨-, op, -, -, long, behind⟩ := sound.resting ip suspended here left
      exact ⟨op.size, long, behind⟩

end Lane

namespace Roster

variable {source : Section} {jumps : Opcode → Prop} {roster after : Roster} {id : EntityId}
  {priority : Nat} {lane later : Lane}

/-- An instruction after which its lane is still in the same invocation has carried the lane on, or
has called a script for which the lane waits. -/
theorem Turn.advances {ip : Nat} (turn : roster.Turn source jumps id priority lane after)
    (sound : lane.Sound source) (busy : lane.isBusy) (here : lane.ip? = some ip)
    (there : after.lane? id priority = some later) (still : later.isBusy)
    (same : later.epoch = lane.epoch) : lane.Advances source jumps ip later := by
  rcases turn.own there with carries | ⟨next, passes, rfl⟩ | ended | ⟨entry, script, rfl⟩
  · exact carries.advances sound busy here
  · exact passes.advances sound busy here rfl rfl
  · rw [still] at ended
    cases ended
  · have more : lane.epoch + 1 = lane.epoch := same
    simp at more

end Roster

/-! ## Whole invocations -/

namespace Opcode

/-- The opcodes that may jump. -/
def jumpers : List Opcode :=
  [.ret, .jmpf, .jmpfl, .jmpb, .jmpbl, .ifub, .ifubl, .ifsw, .ifswl, .ifuw, .ifuwl, .ifkey,
    .ifkeyon, .ifkeyoff, .ifprtyq, .ifmembq]

theorem mem_jumpers_of_jumps {op : Opcode} {scene : Scene} {cursor : Cursor}
    (moves : op.jumps scene cursor) : op ∈ jumpers := by
  unfold jumps at moves
  split at moves <;> first
    | exact False.elim moves
    | simp [jumpers]

end Opcode

/-- The places where a lane can come from `start` by whole instructions of the listing, each of
which goes on behind itself or jumps. -/
inductive Section.Leads (source : Section) (start : Nat) : Nat → Prop
  | here : Leads source start start
  | passes {place length : Nat} (leads : Leads source start place)
      (long : instructionLength? source.code place = some length) :
      Leads source start (place + length)
  | jumps {place target : Nat} {op : Opcode} (leads : Leads source start place)
      (stands : source.code[place]? = some op.byte) (jumper : op ∈ Opcode.jumpers)
      (above : source.codeStart ≤ target) (below : target < source.codeEnd) :
      Leads source start target

namespace Machine

variable {σ : Type} {setting : Setting σ} {machine after : Machine σ} {id : EntityId}
  {priority : Nat} {lane later : Lane}

/-- An event after which a lane is still in the same invocation leaves it on its instruction, behind
it, or where the instruction jumped; only its own instructions move it. -/
theorem Occurs.advances {event : Event} (occurs : Occurs setting event machine after)
    (sound : lane.Sound setting.source) (here : machine.world.lane? id priority = some lane)
    (busy : lane.isBusy) (there : after.world.lane? id priority = some later)
    (still : later.isBusy) (same : later.epoch = lane.epoch) :
    ∃ ip, lane.ip? = some ip ∧
      lane.Advances setting.source
        ((machine.sceneOf setting id priority ip lane).jumpsAt ip) ip later ∧
      (event ≠ .run id priority → later.ip? = some ip) := by
  obtain ⟨ip, stands⟩ := Lane.ip?_of_isBusy busy
  refine ⟨ip, stands, ?_⟩
  have unmoved (kept : later = lane) : lane.Advances setting.source
      ((machine.sceneOf setting id priority ip lane).jumpsAt ip) ip later := by
    subst kept
    exact sound.stays stands rfl fun suspended left => left
  by_cases own : event = .run id priority
  · subst own
    refine ⟨?_, fun foreign => absurd rfl foreign⟩
    cases occurs with
    | run =>
        cases active : machine.world.laneActive id priority with
        | false =>
            rw [step_of_inactive setting active, here] at there
            exact unmoved (Option.some.inj there).symm
        | true =>
            simp only [World.laneActive, here, Option.any_some] at active
            obtain ⟨place, found, turn⟩ := step_turn setting here active
            rw [stands] at found
            cases found
            exact turn.advances sound busy stands there still same
  · by_cases gone : event = .remove id
    · subst gone
      cases occurs with
      | remove => rw [lane?_remove_self] at there; cases there
    · rcases occurs.step.keeps own gone here busy with kept | ⟨-, woken⟩
      · have unchanged := Option.some.inj (there.symm.trans kept)
        exact ⟨unmoved unchanged, fun _ => unchanged ▸ stands⟩
      · have waked := Option.some.inj (there.symm.trans woken)
        subst waked
        refine ⟨sound.stays stands lane.ip?_awake fun suspended => Lane.suspended?_awake, ?_⟩
        intro _
        rw [Lane.ip?_awake, stands]

/-- What becomes of a lane, by any events, as long as its invocation lasts. -/
inductive Serves (setting : Setting σ) (id : EntityId) (priority : Nat) (machine : Machine σ)
    (lane : Lane) : Machine σ → Lane → Prop
  | here (here : machine.world.lane? id priority = some lane) (busy : lane.isBusy) :
      Serves setting id priority machine lane machine lane
  | after {middle after : Machine σ} {event : Event} {later last : Lane}
      (serves : Serves setting id priority machine lane middle later)
      (occurs : Occurs setting event middle after)
      (there : after.world.lane? id priority = some last) (still : last.isBusy)
      (same : last.epoch = later.epoch) : Serves setting id priority machine lane after last

/-- In one invocation a lane only comes where instructions of the listing lead. -/
theorem Serves.leads (serves : Serves setting id priority machine lane after later)
    (confined : machine.world.roster.Confined setting.source) (whole : setting.source.Sound) :
    ∃ ip place, lane.ip? = some ip ∧ later.ip? = some place ∧ setting.source.Leads ip place := by
  -- All lanes stay sound on the way, and that is what the next event needs.
  suffices kept : after.world.roster.Confined setting.source ∧
      after.world.lane? id priority = some later ∧ later.isBusy ∧
      ∃ ip place, lane.ip? = some ip ∧ later.ip? = some place ∧
        setting.source.Leads ip place from kept.2.2.2
  induction serves with
  | here here busy =>
      obtain ⟨ip, stands⟩ := Lane.ip?_of_isBusy busy
      exact ⟨confined, here, busy, ip, ip, stands, stands, .here⟩
  | @after middle after event later last serves occurs there still same ih =>
      obtain ⟨confined, here, busy, ip, place, began, stands, leads⟩ := ih
      have sound := confined.lanes id priority later here
      obtain ⟨found, standing, advances, -⟩ := occurs.advances sound here busy there still same
      rw [stands] at standing
      cases standing
      refine ⟨confined.step whole occurs.step, there, still, ip, ?_⟩
      cases advances with
      | stays unmoved rests => exact ⟨place, began, unmoved, leads⟩
      | passes long behind fresh => exact ⟨_, began, behind, leads.passes long⟩
      | jumps before byte moves lands above below fresh =>
          exact ⟨_, began, lands,
            leads.jumps byte (Opcode.mem_jumpers_of_jumps moves) above below⟩

variable (setting) in
/-- Instructions and the length table agree.

Over any code, an instruction that can be worked out lies inside the code with the length of the
table, and unless it jumps the cursor then stands behind it.  In a field whose section was read, any
event that does not end the invocation of a lane leaves the lane on its instruction, behind it, or
where the instruction jumped; what is left of an instruction goes on behind it as well.  So whatever
happens in an invocation, the lane only comes where instructions of the listing lead. -/
theorem lengths_agree :
    (∀ code scene ip byte reading cursor plan after, fetch code ip = .ok (byte, reading, cursor) →
      reading scene cursor = .ok (plan, after) →
      ∃ op length, Opcode.ofByte? byte = some op ∧ instructionLength? code ip = some length ∧
        ip + length ≤ code.size ∧ (¬op.jumps scene cursor → after.pc = ip + length)) ∧
    (∀ bytes (machine : Machine σ) id priority lane, Section.read bytes = .ok setting.source →
      Visited setting machine → machine.world.lane? id priority = some lane → lane.isBusy →
      (∀ event after later, Occurs setting event machine after →
        after.world.lane? id priority = some later → later.isBusy → later.epoch = lane.epoch →
        ∃ ip, lane.ip? = some ip ∧
          lane.Advances setting.source
            ((machine.sceneOf setting id priority ip lane).jumpsAt ip) ip later ∧
          (event ≠ .run id priority → later.ip? = some ip)) ∧
      (∀ after later, Serves setting id priority machine lane after later →
        ∃ ip place, lane.ip? = some ip ∧ later.ip? = some place ∧
          setting.source.Leads ip place)) := by
  constructor
  · intro code scene ip byte reading cursor plan after fetched read
    obtain ⟨op, rfl, worked⟩ := worked_of_fetch fetched read
    obtain ⟨-, -, rfl⟩ := fetch_eq_ok.mp fetched
    exact ⟨op, op.size, Opcode.ofByte?_byte op, worked.long, instructionLength?_le worked.long,
      worked.passes⟩
  · intro bytes machine id priority lane accepted visited here busy
    have whole := Section.sound_of_read accepted
    have confined := visited.confined whole
    have sound := confined.lanes id priority lane here
    constructor
    · intro event after later occurs there still same
      exact occurs.advances sound here busy there still same
    · intro after later serves
      exact serves.leads confined whole

/-- In the small field, the call leads its lane to the place behind it. -/
theorem sample_caller_advances :
    (Sample.entered.step Sample.setting 0 0).1.world.lane? 0 0 =
      some { status := .paused 179 .call none, script := 0, epoch := 1 } ∧
    Sample.setting.source.Leads 176 179 := by
  have begun : Sample.entered.world.lane? 0 0 =
      some { status := .active 176 0 none none, script := 0, epoch := 1 } := by decide +kernel
  have called : (Sample.entered.step Sample.setting 0 0).1.world.lane? 0 0 =
      some { status := .paused 179 .call none, script := 0, epoch := 1 } := by decide +kernel
  obtain ⟨-, agree⟩ := lengths_agree Sample.setting
  obtain ⟨-, leads⟩ := agree _ _ _ _ _ Sample.read_bytes (.between (.start (.enter _ _ _)))
    begun rfl
  have ran : Occurs Sample.setting (.run 0 0) Sample.entered
      (Sample.entered.step Sample.setting 0 0).1 := .run Sample.entered 0 0
  obtain ⟨ip, place, stands, lands, reached⟩ :=
    leads _ _ (.after (.here begun rfl) ran called rfl rfl)
  cases stands
  cases lands
  exact ⟨called, reached⟩

end Machine

end FieldMachine
