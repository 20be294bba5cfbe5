import FieldMachine.Proofs.Calls
import FieldMachine.Proofs.Docket
import FieldMachine.Proofs.Token
import Mathlib.Logic.Relation

/-!
# Calls form no circle

A lane that waits for a call waits for a script that began after its own
invocation did: a script is started only on a free lane, and a free lane is owed
nothing.  So the lanes can be ranked by the order in which their invocations
began (`Roster.Ranked`), and every wait leads from an earlier one to a later one.

That a token names one invocation and no other is what this rests on.  Epochs
are counted by machines of 32 bits, so the starts of every lane are counted along
with the events (`Machine.Lived`), and the main statement is about fields in
which no lane was started 4294967296 times (`Machine.Visited.calls_form_no_circle`).
-/

namespace FieldMachine

set_option autoImplicit false

/-- One lane waits for the end of what another one does: the first is paused for a call, and the
second is at work and owes it its completion. -/
def World.WaitsFor (world : World) (caller callee : EntityId × Nat) : Prop :=
  ∃ waiting running,
    world.lane? caller.1 caller.2 = some waiting ∧ waiting.pauseReason? = some .call ∧
    world.lane? callee.1 callee.2 = some running ∧ running.isBusy ∧
    running.onStop? = some (waiting.token caller.1 caller.2)

namespace Roster

variable {source : Section} {before middle after : Roster} {id : EntityId} {priority : Nat}
  {lane : Lane}

/-! ## How invocations begin -/

/-- Every lane that is left is in the invocation it was in, and owes what it owed or nothing. -/
def Abides (before after : Roster) : Prop :=
  ∀ id priority later, after.lane? id priority = some later →
    ∃ lane, before.lane? id priority = some lane ∧ later.epoch = lane.epoch ∧
      ∀ token, later.onStop? = some token → lane.onStop? = some token

theorem Abides.refl (roster : Roster) : roster.Abides roster :=
  fun _ _ later there => ⟨later, there, rfl, fun _ told => told⟩

theorem Abides.trans (first : before.Abides middle) (second : middle.Abides after) :
    before.Abides after := by
  intro id priority later there
  obtain ⟨lane, between, same, owes⟩ := second id priority later there
  obtain ⟨origin, here, alike, owed⟩ := first id priority lane between
  exact ⟨origin, here, same.trans alike, fun token told => owed token (owes token told)⟩

theorem abides_put (here : before.lane? id priority = some lane) (placed : Lane)
    (same : placed.epoch = lane.epoch)
    (owes : ∀ token, placed.onStop? = some token → lane.onStop? = some token) :
    before.Abides (before.put id priority placed) := by
  intro other index later there
  rw [lane?_put] at there
  split at there
  · next own =>
      obtain ⟨rfl, rfl⟩ := own
      cases there
      exact ⟨lane, here, same, owes⟩
  · exact ⟨later, there, rfl, fun _ told => told⟩

theorem abides_wake (roster : Roster) (token : ResumeToken) :
    roster.Abides (roster.wake token) := by
  intro id priority later there
  rw [lane?_wake] at there
  obtain ⟨lane, here, rfl⟩ := Option.map_eq_some_iff.mp there
  exact ⟨lane, here, lane.epoch_hear id priority token, fun owed told => by simpa using told⟩

theorem abides_wakeAll (roster : Roster) (tokens : List ResumeToken) :
    roster.Abides (tokens.foldl wake roster) := by
  induction tokens generalizing roster with
  | nil => exact .refl roster
  | cons token rest ih => exact (roster.abides_wake token).trans (ih _)

theorem abides_finish (here : before.lane? id priority = some lane) :
    before.Abides (before.finish id priority lane) := by
  have ended : before.Abides (before.put id priority lane.finish) :=
    abides_put here lane.finish rfl nofun
  unfold finish
  cases lane.onStop? with
  | none => exact ended
  | some token => exact ended.trans (abides_wake _ token)

theorem abides_erase (roster : Roster) (id : EntityId) : roster.Abides (roster.erase id) := by
  intro other priority later there
  simp only [erase] at there
  split at there
  · cases there
  · exact ⟨later, there, rfl, fun _ told => told⟩

/-- What an event does to the invocations of all lanes: none begins, or one does, and if somebody
waits for its end, that is another lane in the middle of its own invocation. -/
inductive Evolves (before : Roster) : Roster → Prop
  | abides {after : Roster} (abides : before.Abides after) : Evolves before after
  | starts {middle : Roster} {target : EntityId} {level entry script : Nat} {free : Lane}
      {onStop : Option ResumeToken} (abides : before.Abides middle)
      (here : middle.lane? target level = some free)
      (called : ∀ token, onStop = some token → ¬(token.entity = target ∧ token.priority = level) ∧
        ∃ caller, middle.lane? token.entity token.priority = some caller ∧
          caller.epoch = token.epoch) :
      Evolves before (middle.put target level (free.start entry script onStop))

theorem Abides.begins {level script : Nat} (abides : before.Abides middle)
    (begins : middle.Begins id level script after) : before.Evolves after := by
  cases begins with
  | refused => exact .abides abides
  | started admits => exact .starts abides admits.here nofun

theorem Turn.evolves {jumps : Opcode → Prop}
    (turn : before.Turn source jumps id priority lane after)
    (here : before.lane? id priority = some lane) (busy : lane.isBusy) : before.Evolves after := by
  cases turn with
  | carry carries =>
      exact .abides (abides_put here _ carries.epoch fun token told => carries.onStop? ▸ told)
  | @call target level script entry next free admits goesOn =>
      have apart := admits.ne here busy
      rw [put_comm fun same => apart ⟨same.1.symm, same.2.symm⟩]
      have advanced : before.Abides (before.put id priority (lane.advance next)) :=
        abides_put here _ rfl fun _ told => told
      refine .starts advanced ?_ nofun
      rw [lane?_put_other _ fun same => apart ⟨same.1.symm, same.2.symm⟩, admits.here]
  | @await target level script entry next free admits passes =>
      have apart := admits.ne here busy
      rw [put_comm fun same => apart ⟨same.1.symm, same.2.symm⟩]
      have paused : before.Abides (before.put id priority (lane.pause next .call)) :=
        abides_put here _ rfl fun _ told => told
      refine .starts paused ?_ ?_
      · rw [lane?_put_other _ fun same => apart ⟨same.1.symm, same.2.symm⟩, admits.here]
      · rintro token ⟨⟩
        exact ⟨apart, lane.pause next .call, lane?_put_self .., rfl⟩
  | stop => exact .abides (abides_finish here)
  | handOver begins => exact (abides_finish here).begins begins
  | abort stands mainEntry =>
      exact .abides (abides_put here (Lane.abort { lane with mainEntry } _) rfl nofun)

/-- No event begins more than one invocation. -/
theorem Step.evolves {event : Event} (step : before.Step source event after) :
    before.Evolves after := by
  cases step with
  | keep => exact .abides (.refl before)
  | turn here active turn => exact turn.evolves here (Lane.isBusy_of_isActive active)
  | work => exact .abides (abides_wake before _)
  | resume => exact .abides (abides_wake before _)
  | invoke begins => exact (Abides.refl before).begins begins
  | @remove id tokens all =>
      exact .abides ((before.abides_erase id).trans (abides_wakeAll _ tokens))

/-! ## The order in which invocations began -/

/-- How often an event starts a lane: a lane that is there before and after it, with another
epoch. -/
def starts (before after : Roster) (id : EntityId) (priority : Nat) : Nat :=
  match before.lane? id priority, after.lane? id priority with
  | some lane, some later => if later.epoch = lane.epoch then 0 else 1
  | _, _ => 0

theorem starts_le_one (before after : Roster) (id : EntityId) (priority : Nat) :
    before.starts after id priority ≤ 1 := by
  unfold starts
  split
  · split <;> simp
  · simp

theorem Abides.starts_eq (abides : before.Abides after) (id : EntityId) (priority : Nat) :
    before.starts after id priority = 0 := by
  unfold starts
  split
  · next lane later here there =>
      obtain ⟨found, known, same, -⟩ := abides id priority later there
      rw [here] at known
      cases known
      exact if_pos same
  · rfl

theorem starts_put {target : EntityId} {level entry script : Nat} {free : Lane}
    {onStop : Option ResumeToken} (abides : before.Abides middle)
    (here : middle.lane? target level = some free) (id : EntityId) (priority : Nat) :
    before.starts (middle.put target level (free.start entry script onStop)) id priority =
      if id = target ∧ priority = level then 1 else 0 := by
  by_cases own : id = target ∧ priority = level
  · obtain ⟨rfl, rfl⟩ := own
    obtain ⟨lane, known, same, -⟩ := abides id priority free here
    have renewed : ¬free.epoch + 1 = lane.epoch := by
      rw [same]
      intro wrapped
      have back : lane.epoch + 1 - lane.epoch = lane.epoch - lane.epoch :=
        congrArg (· - lane.epoch) wrapped
      rw [UInt32.add_comm, UInt32.add_sub_cancel, UInt32.sub_self] at back
      exact absurd back (by decide)
    simp only [starts, known, lane?_put_self, and_self, if_true]
    exact if_neg renewed
  · rw [if_neg own, ← abides.starts_eq id priority]
    simp only [starts, lane?_put_other _ own]

/-- The lanes were started so many times, and their invocations began in the order of `rank`. -/
structure Ranked (count rank : EntityId → Nat → Nat) (clock : Nat) (roster : Roster) : Prop where
  begun : ∀ id priority, rank id priority < clock
  counted : ∀ id priority lane, roster.lane? id priority = some lane →
    lane.epoch.toNat = count id priority
  /-- No completion is owed to an invocation that has not begun yet. -/
  known : ∀ id priority lane token, roster.lane? id priority = some lane →
    lane.onStop? = some token → token.epoch.toNat ≤ count token.entity token.priority
  /-- A callee began after its caller. -/
  later : ∀ id priority lane token caller, roster.lane? id priority = some lane →
    lane.onStop? = some token → roster.lane? token.entity token.priority = some caller →
    caller.epoch = token.epoch → rank token.entity token.priority < rank id priority

variable {count rank : EntityId → Nat → Nat} {clock : Nat}

theorem Ranked.abides (ranked : before.Ranked count rank clock) (abides : before.Abides after) :
    after.Ranked count rank clock where
  begun := ranked.begun
  counted id priority later there := by
    obtain ⟨lane, here, same, -⟩ := abides id priority later there
    rw [same]
    exact ranked.counted id priority lane here
  known id priority later token there told := by
    obtain ⟨lane, here, -, owed⟩ := abides id priority later there
    exact ranked.known id priority lane token here (owed token told)
  later id priority later token caller there told waits named := by
    obtain ⟨lane, here, -, owed⟩ := abides id priority later there
    obtain ⟨waited, found, same, -⟩ := abides _ _ caller waits
    exact ranked.later id priority lane token waited here (owed token told) found
      (same.symm.trans named)

/-- The invocation that begins last is ranked last; nobody waits for the lane yet, because no
completion bears its new epoch. -/
theorem Ranked.start (ranked : before.Ranked count rank clock) {target : EntityId}
    {level entry script : Nat} {free : Lane} {onStop : Option ResumeToken}
    (here : before.lane? target level = some free)
    (called : ∀ token, onStop = some token → ¬(token.entity = target ∧ token.priority = level) ∧
      ∃ caller, before.lane? token.entity token.priority = some caller ∧
        caller.epoch = token.epoch)
    (few : count target level + 1 < 4294967296) :
    (before.put target level (free.start entry script onStop)).Ranked
      (fun id priority => count id priority + if id = target ∧ priority = level then 1 else 0)
      (fun id priority => if id = target ∧ priority = level then clock else rank id priority)
      (clock + 1) := by
  have epoch : (free.epoch + 1).toNat = count target level + 1 := by
    have counted := ranked.counted target level free here
    rw [UInt32.toNat_add, counted]
    exact Nat.mod_eq_of_lt few
  have owed (token : ResumeToken) (told : onStop = some token) :
      token.epoch.toNat ≤ count token.entity token.priority := by
    obtain ⟨-, caller, found, named⟩ := called token told
    rw [← named]
    exact Nat.le_of_eq (ranked.counted _ _ caller found)
  constructor
  · intro id priority
    split
    · exact Nat.lt_succ_self clock
    · exact Nat.lt_succ_of_lt (ranked.begun id priority)
  · intro id priority lane there
    rw [lane?_put] at there
    split at there
    · next own =>
        obtain ⟨rfl, rfl⟩ := own
        cases there
        rw [if_pos ⟨rfl, rfl⟩]
        exact epoch
    · next other =>
        rw [if_neg other]
        exact ranked.counted id priority lane there
  · intro id priority lane token there told
    refine Nat.le_trans ?_ (Nat.le_add_right _ _)
    rw [lane?_put] at there
    split at there
    · cases there
      exact owed token told
    · exact ranked.known id priority lane token there told
  · intro id priority lane token caller there told waits named
    -- the lane that was just started is waited for by nobody
    have apart : ¬(token.entity = target ∧ token.priority = level) := by
      rintro ⟨rfl, rfl⟩
      rw [lane?_put_self] at waits
      cases waits
      have bound : token.epoch.toNat ≤ count token.entity token.priority := by
        rw [lane?_put] at there
        split at there
        · cases there
          exact owed token told
        · exact ranked.known id priority lane token there told
      rw [← named] at bound
      have renewed : (free.epoch + 1).toNat ≤ count token.entity token.priority := bound
      omega
    rw [lane?_put_other _ apart] at waits
    rw [if_neg apart]
    rw [lane?_put] at there
    split at there
    · next own =>
        rw [if_pos own]
        exact ranked.begun _ _
    · next other =>
        rw [if_neg other]
        exact ranked.later id priority lane token caller there told waits named

/-- Every wait leads to an invocation that began later. -/
theorem Ranked.lt_of_waitsFor {world : World} (ranked : world.roster.Ranked count rank clock)
    {caller callee : EntityId × Nat} (waits : world.WaitsFor caller callee) :
    rank caller.1 caller.2 < rank callee.1 callee.2 := by
  obtain ⟨waiting, running, here, -, there, -, told⟩ := waits
  exact ranked.later callee.1 callee.2 running _ waiting there told here rfl

/-- Nobody waits for himself, over however many calls. -/
theorem Ranked.irreflexive {world : World} (ranked : world.roster.Ranked count rank clock)
    (place : EntityId × Nat) : ¬Relation.TransGen world.WaitsFor place place := by
  have later {first last : EntityId × Nat} (chain : Relation.TransGen world.WaitsFor first last) :
      rank first.1 first.2 < rank last.1 last.2 := by
    induction chain with
    | single waits => exact ranked.lt_of_waitsFor waits
    | tail _ waits ih => exact Nat.lt_trans ih (ranked.lt_of_waitsFor waits)
  exact fun circle => Nat.lt_irrefl _ (later circle)

/-- From every lane, waiting leads to one that waits for no call: the order has a last moment. -/
theorem Ranked.chain_ends {world : World} (ranked : world.roster.Ranked count rank clock)
    (place : EntityId × Nat) :
    ∃ last, Relation.ReflTransGen world.WaitsFor place last ∧ ∀ next, ¬world.WaitsFor last next := by
  by_cases waits : ∃ next, world.WaitsFor place next
  · obtain ⟨next, waits⟩ := waits
    have begun := ranked.begun next.1 next.2
    have later := ranked.lt_of_waitsFor waits
    obtain ⟨last, chain, ends⟩ := ranked.chain_ends next
    exact ⟨last, chain.head waits, ends⟩
  · exact ⟨place, .refl, fun next waits' => waits ⟨next, waits'⟩⟩
termination_by clock - rank place.1 place.2

/-- Whatever happens, there is an order in which the invocations began. -/
theorem Ranked.evolves (ranked : before.Ranked count rank clock) (evolves : before.Evolves after)
    (few : ∀ id priority, count id priority + before.starts after id priority < 4294967296) :
    ∃ rank clock, after.Ranked
      (fun id priority => count id priority + before.starts after id priority) rank clock := by
  cases evolves with
  | abides abides =>
      simp only [abides.starts_eq, Nat.add_zero]
      exact ⟨rank, clock, ranked.abides abides⟩
  | @starts middle target level entry script free onStop abides here called =>
      simp only [starts_put abides here] at few ⊢
      exact ⟨_, _, (ranked.abides abides).start here called (by simpa using few target level)⟩

end Roster

/-! ## Fields that have lived for a while -/

namespace Machine

variable {σ : Type} {setting : Setting σ} {machine : Machine σ}
  {count : EntityId → Nat → Nat}

/-- The machines that events lead to from the entry of the field, with how often each lane was
started on the way. -/
inductive Lived (setting : Setting σ) : (EntityId → Nat → Nat) → Machine σ → Prop
  | enter (session : Session) (random : Random) (host : σ) :
      Lived setting (fun _ _ => 0) (enter setting session random host)
  | event {count : EntityId → Nat → Nat} {event : Event} {before after : Machine σ}
      (lived : Lived setting count before) (occurs : Occurs setting event before after) :
      Lived setting
        (fun id priority =>
          count id priority + before.world.roster.starts after.world.roster id priority)
        after

/-- The starts of all lanes can be counted along every run, and there are no more than events. -/
theorem Lived.runs {events : List Event} {after : Machine σ} (lived : Lived setting count machine)
    (runs : Runs setting events machine after) :
    ∃ count', Lived setting count' after ∧
      ∀ id priority, count' id priority ≤ count id priority + events.length := by
  induction runs generalizing count with
  | nil => exact ⟨count, lived, fun _ _ => Nat.le_refl _⟩
  | @cons event events first second third occurs rest ih =>
      obtain ⟨count', later, few⟩ := ih (lived.event occurs)
      refine ⟨count', later, fun id priority => ?_⟩
      have once := first.world.roster.starts_le_one second.world.roster id priority
      have counted := few id priority
      rw [List.length_cons]
      omega

/-- Every machine that a field can be seen in has lived so. -/
theorem Visited.lived (visited : Visited setting machine) :
    ∃ count, Lived setting count machine := by
  obtain ⟨session, random, host, events, runs⟩ := visited.arises
  obtain ⟨count, lived, -⟩ := (Lived.enter session random host).runs runs
  exact ⟨count, lived⟩

theorem Lived.ranked (lived : Lived setting count machine)
    (few : ∀ id priority, count id priority < 4294967296) :
    ∃ rank clock, machine.world.roster.Ranked count rank clock := by
  induction lived with
  | enter session random host =>
      have fresh : ∀ id priority lane,
          (World.ofSection setting.source).lane? id priority = some lane → lane = {} :=
        fun id priority lane => World.lane?_ofSection
      refine ⟨fun _ _ => 0, 1, fun _ _ => Nat.one_pos, ?_, ?_, ?_⟩
      · intro id priority lane here
        rw [fresh id priority lane here]
        rfl
      · intro id priority lane token here told
        rw [fresh id priority lane here] at told
        cases told
      · intro id priority lane token caller here told
        rw [fresh id priority lane here] at told
        cases told
  | event lived occurs ih =>
      obtain ⟨rank, clock, ranked⟩ := ih fun id priority =>
        Nat.lt_of_le_of_lt (Nat.le_add_right _ _) (few id priority)
      exact ranked.evolves occurs.step.evolves few

/-- In every state that a field can be seen in, as long as no lane was started 4294967296 times, no
lane waits for itself, over however many calls: whoever waits for a call waits, in the end, for a
lane that waits for none. -/
theorem Visited.calls_form_no_circle (visited : Visited setting machine) :
    (∃ count, Lived setting count machine) ∧
    ∀ count, Lived setting count machine → (∀ id priority, count id priority < 4294967296) →
      (∀ place, ¬Relation.TransGen machine.world.WaitsFor place place) ∧
      ∀ place, ∃ last, Relation.ReflTransGen machine.world.WaitsFor place last ∧
        ∀ next, ¬machine.world.WaitsFor last next := by
  refine ⟨visited.lived, fun count lived few => ?_⟩
  obtain ⟨rank, clock, ranked⟩ := lived.ranked few
  exact ⟨ranked.irreflexive, ranked.chain_ends⟩

end Machine

namespace Sample

def unentered : Machine Unit :=
  Machine.enter setting (Session.fresh setting.config) (.ofSeed 0) ()

/-- The field when the first entity was started and has called the second one. -/
def calling : Machine Unit := ((unentered.startScript 0 0 0 none).1.step setting 0 0).1

theorem waitsFor_calling : calling.world.WaitsFor (0, 0) (1, 1) := by
  have waits : calling.world.lane? 0 0 =
      some { status := .paused 179 .call none, script := 0, epoch := 1 } := by
    decide +kernel
  have runs : calling.world.lane? 1 1 =
      some { status := .active 181 0 none (some ⟨0, 0, 1⟩), script := 1, epoch := 1 } := by
    decide +kernel
  exact ⟨_, _, waits, rfl, runs, rfl, rfl⟩

end Sample

namespace Machine

/-- The entity that was called does not wait for its caller, and its own waiting ends. -/
theorem sample_call_ends :
    Sample.calling.world.WaitsFor (0, 0) (1, 1) ∧
    ¬Relation.TransGen Sample.calling.world.WaitsFor (1, 1) (1, 1) ∧
    ∃ last, Relation.ReflTransGen Sample.calling.world.WaitsFor (0, 0) last ∧
      ∀ next, ¬Sample.calling.world.WaitsFor last next := by
  have runs : Runs Sample.setting [.invoke 0 0 0, .run 0 0] Sample.unentered Sample.calling :=
    .cons (.invoke _ 0 0 0) (.cons (.run _ 0 0) (.nil _))
  obtain ⟨count, lived, few⟩ := (Lived.enter _ _ _).runs runs
  have visited : Visited Sample.setting Sample.calling :=
    .within (.between (.invoke (.enter _ _ _) 0 0 0)) 0 0
  obtain ⟨-, calm⟩ := visited.calls_form_no_circle
  obtain ⟨acyclic, ends⟩ := calm count lived fun id priority =>
    Nat.lt_of_le_of_lt (few id priority) (by decide)
  exact ⟨Sample.waitsFor_calling, acyclic (1, 1), ends (0, 0)⟩

end Machine

end FieldMachine
