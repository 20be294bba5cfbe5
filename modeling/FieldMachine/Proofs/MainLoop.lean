import FieldMachine.Proofs.Branch
import FieldMachine.Proofs.CallOrder
import FieldMachine.Proofs.Confinement
import FieldMachine.Proofs.Retention
import FieldMachine.Proofs.Train

/-!
# The main loop of an entity

The first script of a base lane does not end as long as nobody waits for its end: its
first return marks where the main loop of the entity begins, and every return goes on
there in the next run.  Everywhere else a return ends the invocation.

Where the loop begins is remembered by the lane (`Lane.mainEntry`).  A `Machine.Loop`
tells where the returns stood of a stretch in which no other script has begun on the
lane, and the first of them decides for all (`Machine.Loop.mainEntry`).  In a tick, no
instruction of an entity comes behind one of its base lane that does not let the lane
carry on (`Machine.tickMoments_pairwise`).
-/

namespace FieldMachine

set_option autoImplicit false

/-! ## What a return comes to -/

namespace Control

open Reading

variable {scene : Scene} {cursor : Cursor} {entry : Nat}

/-- A return ends the invocation wherever it does not go back to a main loop. -/
theorem ends_iff :
    (scene.priority ≠ 0 || scene.lane.script ≠ 0 || scene.lane.onStop?.isSome) = true ↔
      ¬comesHome scene := by
  unfold comesHome
  cases scene.lane.onStop? <;> simp [or_iff_not_imp_left]

theorem goBack_of_away (away : ¬comesHome scene) :
    goBack scene cursor = .ok (.act [] .stop, cursor) := by
  show (if (scene.priority ≠ 0 || scene.lane.script ≠ 0 || scene.lane.onStop?.isSome) = true then _
    else _ : Reading Plan) scene cursor = _
  rw [if_pos (ends_iff.mpr away)]
  rfl

/-- A return to a main loop records where it begins, and jumps there. -/
theorem goBack_eq (home : comesHome scene)
    (begins : scene.lane.mainEntry.getD cursor.pc = entry) :
    goBack scene cursor =
      (match jumpError? scene.source entry with
        | some error => return .act [.recordMain scene.entity scene.priority entry] (.fault error)
        | none => do
            jump entry
            return .act [.recordMain scene.entity scene.priority entry] .yield : Reading Plan)
        scene cursor := by
  subst begins
  show (if (scene.priority ≠ 0 || scene.lane.script ≠ 0 || scene.lane.onStop?.isSome) = true then _
    else _ : Reading Plan) scene cursor = _
  exact congrArg (fun reading : Reading Plan => reading scene cursor)
    (if_neg (mt ends_iff.mp (not_not.mpr home)))

theorem goBack_of_home (home : comesHome scene)
    (begins : scene.lane.mainEntry.getD cursor.pc = entry)
    (inside : jumpError? scene.source entry = none) (reached : entry ≤ cursor.code.size) :
    goBack scene cursor =
      .ok (.act [.recordMain scene.entity scene.priority entry] .yield,
        { cursor with pc := entry }) := by
  rw [goBack_eq home begins, inside]
  dsimp only
  rw [bind_apply, jump, inside]
  simp only [Cursor.moveTo, Int.toNat_natCast, reached, if_true]
  rfl

/-- A main loop that begins outside the bytecode cannot be gone back to. -/
theorem goBack_of_astray {error : ExecError} (home : comesHome scene)
    (begins : scene.lane.mainEntry.getD cursor.pc = entry)
    (strays : jumpError? scene.source entry = some error) :
    goBack scene cursor =
      .ok (.act [.recordMain scene.entity scene.priority entry] (.fault error), cursor) := by
  rw [goBack_eq home begins, strays]
  rfl

end Control

/-- The lane with the beginning of its main loop on record. -/
def Lane.looping (lane : Lane) (entry : Nat) : Lane := { lane with mainEntry := some entry }

/-! ## Invocations -/

/-- A lane that is in the same invocation as before owes no other completion. -/
theorem Roster.Evolves.owed {before after : Roster} {id : EntityId} {priority : Nat}
    {lane later : Lane} (evolves : before.Evolves after)
    (here : before.lane? id priority = some lane) (there : after.lane? id priority = some later)
    (same : later.epoch = lane.epoch) {token : ResumeToken} (owed : later.onStop? = some token) :
    lane.onStop? = some token := by
  cases evolves with
  | abides abides =>
      obtain ⟨found, known, -, kept⟩ := abides id priority later there
      cases known.symm.trans here
      exact kept token owed
  | @starts middle target level entry script free onStop abides freed called =>
      have unstarted : before.starts (middle.put target level (free.start entry script onStop)) id
          priority = 0 := by
        rw [Roster.starts, here, there]
        exact if_pos same
      have started := unstarted.symm.trans (Roster.starts_put abides freed id priority)
      split at started
      · cases started
      · next elsewhere =>
          rw [Roster.lane?_put_other _ elsewhere] at there
          obtain ⟨found, known, -, kept⟩ := abides id priority later there
          cases known.symm.trans here
          exact kept token owed

namespace Machine

variable {σ : Type} {setting : Setting σ} {machine : Machine σ} {id : EntityId} {priority ip : Nat}
  {lane : Lane}

/-! ## Carrying out a return -/

/-- Whether the base lane of an entity is about to carry out a return that goes back to the main
loop: it runs its first script, and nobody waits for the end. -/
structure ReturnsHome (setting : Setting σ) (machine : Machine σ) (id : EntityId) (lane : Lane)
    (ip : Nat) : Prop where
  here : machine.world.lane? id 0 = some lane
  atReturn : lane.AtReturn setting.source.code ip
  first : lane.script = 0
  unawaited : lane.onStop? = none

/-- The machine with a return on record. -/
def noteReturn (machine : Machine σ) (id : EntityId) (priority ip : Nat) : Machine σ :=
  machine.note (.executing id priority ip Opcode.ret.byte)

/-- The step of a lane on a return. -/
theorem step_of_return {plan : Plan} {after : Cursor}
    (here : machine.world.lane? id priority = some lane)
    (atReturn : lane.AtReturn setting.source.code ip)
    (read : Control.goBack (machine.sceneOf setting id priority ip lane)
      ((Cursor.atStart setting.source.code ip).forward 1) = .ok (plan, after)) :
    machine.step setting id priority =
      (machine.noteReturn id priority ip).carryOut setting id priority ip after.pc lane plan := by
  obtain ⟨active, stands, fresh, opcode⟩ := atReturn
  exact step_of_reading here active stands fresh opcode rfl read

/-- A return that does not go back to a main loop ends the invocation, and fires its completion. -/
theorem step_of_away (here : machine.world.lane? id priority = some lane)
    (atReturn : lane.AtReturn setting.source.code ip)
    (away : ¬(priority = 0 ∧ lane.script = 0 ∧ lane.onStop? = none)) :
    machine.step setting id priority =
      (((machine.noteReturn id priority ip).updateLane id priority Lane.finish).complete lane.onStop?,
        .released) :=
  step_of_return here atReturn (Control.goBack_of_away away)

namespace ReturnsHome

variable {entry : Nat}

/-- A return to a main loop inside the bytecode. -/
theorem step_home (returns : machine.ReturnsHome setting id lane ip)
    (whole : setting.source.Sound) (begins : lane.mainEntry.getD (ip + 1) = entry)
    (inside : Reading.jumpError? setting.source entry = none) :
    machine.step setting id 0 =
      (((machine.noteReturn id 0 ip).updateLane id 0 (·.looping entry)).updateLane id 0
        (·.advance entry), .holding) := by
  have below := (Reading.jumpError?_eq_none.mp inside).2
  have reached : entry ≤ setting.source.code.size := by
    rw [whole.size]
    omega
  exact step_of_return returns.here returns.atReturn
    (Control.goBack_of_home ⟨rfl, returns.first, returns.unawaited⟩ begins inside reached)

/-- A return to a main loop outside the bytecode. -/
theorem step_astray (returns : machine.ReturnsHome setting id lane ip) {error : ExecError}
    (begins : lane.mainEntry.getD (ip + 1) = entry)
    (strays : Reading.jumpError? setting.source entry = some error) :
    machine.step setting id 0 =
      (((machine.noteReturn id 0 ip).updateLane id 0 (·.looping entry)).giveUp setting id 0 ip error,
        .released) :=
  step_of_return returns.here returns.atReturn
    (Control.goBack_of_astray ⟨rfl, returns.first, returns.unawaited⟩ begins strays)

/-- What a return to the main loop makes of its lane: the lane goes on at the beginning of the loop, or
is given up, and either way the beginning is on record. -/
theorem lane?_step (returns : machine.ReturnsHome setting id lane ip)
    (whole : setting.source.Sound) (begins : lane.mainEntry.getD (ip + 1) = entry) :
    (machine.step setting id 0).1.world.lane? id 0 =
      some (if (Reading.jumpError? setting.source entry).isNone then
        (lane.looping entry).advance entry else (lane.looping entry).abort ip) := by
  have noted : (machine.noteReturn id 0 ip).world.lane? id 0 = some lane := returns.here
  have recorded := lane?_updateLane_self noted (·.looping entry)
  cases error : Reading.jumpError? setting.source entry with
  | none =>
      rw [returns.step_home whole begins error]
      exact lane?_updateLane_self recorded (·.advance entry)
  | some error' =>
      rw [returns.step_astray begins error]
      simp only [giveUp, world_notify, world_note]
      exact lane?_updateLane_self recorded (·.abort ip)

/-- A return to the main loop touches no other lane. -/
theorem lane?_step_other (returns : machine.ReturnsHome setting id lane ip)
    (whole : setting.source.Sound) {other : EntityId} {level : Nat}
    (apart : ¬(other = id ∧ level = 0)) :
    (machine.step setting id 0).1.world.lane? other level = machine.world.lane? other level := by
  have spared (changing : Machine σ) (change : Lane → Lane) :
      (changing.updateLane id 0 change).world.lane? other level =
        changing.world.lane? other level := by
    rw [updateLane, updateWorld, World.lane?_updateLane, if_neg apart]
  cases error : Reading.jumpError? setting.source (lane.mainEntry.getD (ip + 1)) with
  | none =>
      rw [returns.step_home whole rfl error, spared, spared]
      rfl
  | some error' =>
      rw [returns.step_astray rfl error]
      simp only [giveUp, world_notify, world_note]
      exact (spared _ _).trans ((spared _ _).trans rfl)

/-- A return to the main loop records where it begins, and keeps to the script. -/
theorem recorded (returns : machine.ReturnsHome setting id lane ip)
    (whole : setting.source.Sound) {later : Lane}
    (there : (machine.step setting id 0).1.world.lane? id 0 = some later) :
    later.script = lane.script ∧ later.mainEntry = some (lane.mainEntry.getD (ip + 1)) := by
  rw [returns.lane?_step whole rfl] at there
  cases there
  split <;> exact ⟨rfl, rfl⟩

/-- A return stands inside the bytecode. -/
theorem inside (returns : machine.ReturnsHome setting id lane ip) (whole : setting.source.Sound)
    (confined : machine.world.roster.Confined setting.source) :
    setting.source.codeStart ≤ ip ∧ ip < setting.source.codeEnd := by
  obtain ⟨here, ⟨active, stands, -, opcode⟩, -, -⟩ := returns
  obtain ⟨reached, -⟩ := Array.getElem?_eq_some_iff.mp opcode
  have sound := confined.lanes id 0 lane here
  exact ⟨(sound.confined ip (Lane.isBusy_of_isActive active) stands).1, whole.size ▸ reached⟩

end ReturnsHome

/-! ## What becomes of a main entry -/

/-- Where a lane comes from that is there after an event: it has kept its main entry, or lost it with
its script, or recorded one in a return to the main loop. -/
theorem Occurs.retains_or_returns {event : Event} {after : Machine σ} {later : Lane}
    (occurs : Occurs setting event machine after) (whole : setting.source.Sound)
    (there : after.world.lane? id priority = some later) :
    ∃ lane, machine.world.lane? id priority = some lane ∧
      (lane.Retains later ∨ ∃ ip, event = .run id 0 ∧ priority = 0 ∧
        machine.ReturnsHome setting id lane ip) := by
  by_cases standing : ∃ other level found ip, event = .run other level ∧
      machine.world.lane? other level = some found ∧ found.AtReturn setting.source.code ip
  · obtain ⟨other, level, found, ip, rfl, here, atReturn⟩ := standing
    cases occurs
    by_cases home : level = 0 ∧ found.script = 0 ∧ found.onStop? = none
    · obtain ⟨rfl, first, unawaited⟩ := home
      have returns : machine.ReturnsHome setting other found ip := ⟨here, atReturn, first, unawaited⟩
      by_cases own : id = other ∧ priority = 0
      · obtain ⟨rfl, rfl⟩ := own
        exact ⟨found, here, .inr ⟨ip, rfl, rfl, returns⟩⟩
      · rw [returns.lane?_step_other whole own] at there
        exact ⟨later, there, .inl (.inl (.refl later))⟩
    · rw [step_of_away here atReturn home] at there
      obtain ⟨lane, found, same⟩ := (machine.noteReturn other level ip).sameLoops_finish other level
        found.onStop? id priority later there
      exact ⟨lane, found, .inl (.inl same)⟩
  · obtain ⟨lane, here, retains⟩ := occurs.retains
      (fun other level found ip same here atReturn =>
        standing ⟨other, level, found, ip, same, here, atReturn⟩) id priority later there
    exact ⟨lane, here, .inl retains⟩

/-- Events that lead from one machine to another, among which no other script begins on the base lane
of an entity, with the places of the returns to its main loop in their order. -/
inductive Loop (setting : Setting σ) (id : EntityId) : List Nat → Machine σ → Machine σ → Prop
  | done (machine : Machine σ) : Loop setting id [] machine machine
  | aside {event : Event} {places : List Nat} {first second last : Machine σ}
      (occurs : Occurs setting event first second)
      (same : (second.world.lane? id 0).map Lane.script = (first.world.lane? id 0).map Lane.script)
      (other : ∀ lane ip, event = .run id 0 → ¬first.ReturnsHome setting id lane ip)
      (rest : Loop setting id places second last) : Loop setting id places first last
  | home {places : List Nat} {first last : Machine σ} {lane : Lane} {ip : Nat}
      (returns : first.ReturnsHome setting id lane ip)
      (rest : Loop setting id places (first.step setting id 0).1 last) :
      Loop setting id (ip :: places) first last

/-- Whether a field has just been created, or another script has just taken the place of the one on
the base lane of an entity. -/
inductive SetsOut (setting : Setting σ) (id : EntityId) : Machine σ → Prop
  | enter (session : Session) (random : Random) (host : σ) :
      SetsOut setting id (enter setting session random host)
  | replaced {event : Event} {before after : Machine σ} {lane later : Lane}
      (arises : Arises setting before) (occurs : Occurs setting event before after)
      (here : before.world.lane? id 0 = some lane) (there : after.world.lane? id 0 = some later)
      (other : later.script ≠ lane.script) : SetsOut setting id after

variable {first last : Machine σ} {places more : List Nat}

/-- Wherever a run has come, all lanes keep inside the bytecode. -/
theorem Arises.confined (arises : Arises setting machine) (whole : setting.source.Sound) :
    machine.world.roster.Confined setting.source := by
  obtain ⟨session, random, host, events, runs⟩ := arises
  exact runs.roster_induction (fun _ _ _ step confined => confined.step whole step)
    (Roster.confined_ofSection whole)

theorem SetsOut.arises (setsOut : first.SetsOut setting id) : Arises setting first := by
  cases setsOut with
  | enter session random host => exact ⟨session, random, host, [], .nil _⟩
  | replaced arises occurs here there other => exact arises.event occurs

/-- Neither a lane that was never started nor one with another script has a main entry. -/
theorem SetsOut.mainEntry (setsOut : first.SetsOut setting id) (whole : setting.source.Sound)
    (here : first.world.lane? id 0 = some lane) : lane.mainEntry = none := by
  cases setsOut with
  | enter session random host =>
      rw [World.lane?_ofSection here]
  | @replaced event before after earlier later arises occurs found there other =>
      cases here.symm.trans there
      obtain ⟨old, known, retains | ⟨ip, rfl, -, returns⟩⟩ := occurs.retains_or_returns whole there
      · cases known.symm.trans found
        exact (retains.resolve_left fun same => other same.1).2
      · cases known.symm.trans found
        cases occurs
        exact absurd (returns.recorded whole there).1 other

namespace Loop

theorem append (loop : Loop setting id places first machine)
    (further : Loop setting id more machine last) : Loop setting id (places ++ more) first last := by
  induction loop with
  | done machine => exact further
  | aside occurs same other rest ih => exact .aside occurs same other (ih further)
  | home returns rest ih => exact .home returns (ih further)

theorem arises (loop : Loop setting id places first last) (begun : Arises setting first) :
    Arises setting last := by
  induction loop with
  | done machine => exact begun
  | aside occurs same other rest ih => exact ih (begun.event occurs)
  | home returns rest ih => exact ih (begun.event (.run _ id 0))

/-- All returns to the main loop stand inside the bytecode. -/
theorem places_inside (loop : Loop setting id places first last) (begun : Arises setting first)
    (whole : setting.source.Sound) :
    ∀ place ∈ places, setting.source.codeStart ≤ place ∧ place < setting.source.codeEnd := by
  induction loop with
  | done machine => simp
  | aside occurs same other rest ih => exact ih (begun.event occurs)
  | home returns rest ih =>
      rw [List.forall_mem_cons]
      exact ⟨returns.inside whole (begun.confined whole), ih (begun.event (.run _ id 0))⟩

/-- Over a stretch in which no other script begins on the lane, its main entry stays, or is the place
behind the first return if there was none. -/
theorem mainEntry {later : Lane} (loop : Loop setting id places first last)
    (whole : setting.source.Sound) (there : last.world.lane? id 0 = some later) :
    ∃ lane, first.world.lane? id 0 = some lane ∧ later.script = lane.script ∧
      later.mainEntry = lane.mainEntry.or (places.head?.map (· + 1)) := by
  induction loop with
  | done machine => exact ⟨later, there, rfl, (Option.or_none).symm⟩
  | @aside event places first second last occurs same other rest ih =>
      obtain ⟨middle, between, script, entry⟩ := ih there
      obtain ⟨lane, here, retains | ⟨ip, own, -, returns⟩⟩ :=
        occurs.retains_or_returns whole between
      · rw [between, here] at same
        have kept : middle.script = lane.script := Option.some.inj same
        have same := retains.resolve_right fun lost => lost.1 kept
        exact ⟨lane, here, script.trans kept, by rw [entry, same.2]⟩
      · exact absurd returns (other lane ip own)
  | @home places first last lane ip returns rest ih =>
      obtain ⟨middle, between, script, entry⟩ := ih there
      obtain ⟨kept, recorded⟩ := returns.recorded whole between
      refine ⟨lane, returns.here, script.trans kept, ?_⟩
      rw [entry, recorded]
      cases lane.mainEntry <;> rfl

end Loop

/-- Every run has such a stretch at its end, as long as the entity is there. -/
theorem Arises.loop (arises : Arises setting machine)
    (here : machine.world.lane? id 0 = some lane) :
    ∃ first places, first.SetsOut setting id ∧ Loop setting id places first machine := by
  obtain ⟨session, random, host, events, runs⟩ := arises
  have entered : Arises setting (enter setting session random host) :=
    ⟨session, random, host, [], .nil _⟩
  have begun : ∃ first places, first.SetsOut setting id ∧
      Loop setting id places first (enter setting session random host) :=
    ⟨_, [], .enter session random host, .done _⟩
  generalize enter setting session random host = start at runs entered begun
  induction runs with
  | nil machine => exact begun
  | @cons event events start second last occurs rest ih =>
      refine ih here (entered.event occurs) ?_
      obtain ⟨first, places, setsOut, loop⟩ := begun
      obtain ⟨starts, counted⟩ := rest.counted id 0
      obtain ⟨later, there, -⟩ := counted.origin here
      obtain ⟨found, known, -⟩ := occurs.origin there
      by_cases same : later.script = found.script
      · have kept : (second.world.lane? id 0).map Lane.script =
            (start.world.lane? id 0).map Lane.script := by
          rw [there, known, Option.map_some, Option.map_some, same]
        by_cases own : ∃ lane ip, event = .run id 0 ∧ start.ReturnsHome setting id lane ip
        · obtain ⟨lane, ip, rfl, returns⟩ := own
          cases occurs
          exact ⟨first, places ++ [ip], setsOut, loop.append (.home returns (.done _))⟩
        · have other (lane : Lane) (ip : Nat) (ran : event = .run id 0)
              (returns : start.ReturnsHome setting id lane ip) : False :=
            own ⟨lane, ip, ran, returns⟩
          have further := loop.append (.aside occurs kept other (.done second))
          exact ⟨first, places ++ [], setsOut, further⟩
      · exact ⟨second, [], .replaced entered occurs known there same, .done second⟩

/-! ## The turn of a base lane -/

section Moments

variable (setting)

/-- Whether the instruction of a moment lets its lane carry on. -/
def carriesOn (moment : Moment σ) : Prop :=
  (moment.machine.step setting moment.id moment.priority).2 = .goOn

/-- In the turn of a lane, only the last instruction ends it. -/
theorem laneMoments_pairwise (machine : Machine σ) (id : EntityId) (priority budget : Nat) :
    (machine.laneMoments setting id priority budget).Pairwise fun moment _ =>
      carriesOn setting moment := by
  induction budget generalizing machine with
  | zero => exact .nil
  | succ budget ih =>
      rw [laneMoments]
      cases stepped : machine.step setting id priority with
      | mk next turnover =>
          cases turnover with
          | goOn => exact .cons (fun _ _ => congrArg Prod.snd stepped) (ih next)
          | holding => exact List.pairwise_singleton _ _
          | released => exact List.pairwise_singleton _ _

/-- Of the turns of some lanes in their order, none comes behind the one of the base lane. -/
theorem lanesMoments_pairwise (machine : Machine σ) (id : EntityId) {priorities : List Nat}
    (ordered : priorities.Pairwise (· > ·)) :
    (machine.lanesMoments setting id priorities).Pairwise fun moment _ =>
      0 < moment.priority ∨ carriesOn setting moment := by
  induction priorities generalizing machine with
  | nil => exact .nil
  | cons priority rest ih =>
      obtain ⟨lower, ordered⟩ := List.pairwise_cons.mp ordered
      rw [lanesMoments]
      split
      · refine List.pairwise_append.mpr ⟨?_, ?_, ?_⟩
        · exact (laneMoments_pairwise setting machine id priority _).imp .inr
        · split
          · exact ih _ ordered
          · exact .nil
        · intro moment own later among
          rw [(of_mem_laneMoments own).2]
          cases rest with
          | nil =>
              split at among
              · cases among
              · cases among
          | cons next others =>
              exact .inl (Nat.zero_lt_of_lt (lower next List.mem_cons_self))
      · exact ih machine ordered

/-- In a tick, no instruction of an entity comes behind one of its base lane that does not let the
lane carry on. -/
theorem tickMoments_pairwise (start : Machine σ) (elapsed : UInt64) :
    (start.tickMoments setting elapsed).Pairwise fun moment later =>
      later.id = moment.id → 0 < moment.priority ∨ carriesOn setting moment := by
  have each (ids : List EntityId) (once : ids.Nodup) (machine : Machine σ) :
      (machine.entitiesMoments setting ids).Pairwise fun moment later =>
        later.id = moment.id → 0 < moment.priority ∨ carriesOn setting moment := by
    induction ids generalizing machine with
    | nil => exact .nil
    | cons id rest ih =>
        obtain ⟨apart, once⟩ := List.nodup_cons.mp once
        rw [entitiesMoments]
        refine List.pairwise_append.mpr ⟨?_, ih once _, ?_⟩
        · unfold entityMoments
          split
          · exact .nil
          · have ordered : turnOrder.Pairwise (· > ·) :=
              List.pairwise_reverse.mpr List.pairwise_lt_range
            refine List.Pairwise.imp ?_ (lanesMoments_pairwise setting machine id ordered)
            exact fun ends _ => ends
        · intro moment own later among same
          have found : moment.id = id := by
            unfold entityMoments at own
            split at own
            · cases own
            · exact of_mem_lanesMoments own
          exact absurd (found ▸ same ▸ of_mem_entitiesMoments among) apart
  exact each _ List.nodup_range _

end Moments

/-! ## Invocations that have ended -/

/-- A lane that has ended owes nobody a completion as long as it is not started again. -/
theorem Starts.owes_nothing {starts : Nat} {events : List Event} {first after : Machine σ}
    {later : Lane} (counted : Starts setting id priority starts events first after)
    (never : starts = 0) (here : first.world.lane? id priority = some lane)
    (ended : lane.onStop? = none) (there : after.world.lane? id priority = some later) :
    later.onStop? = none := by
  induction counted generalizing lane with
  | nil machine =>
      cases here.symm.trans there
      exact ended
  | same occurs continues rest ih =>
      obtain ⟨middle, between, -⟩ := rest.origin there
      rw [between, here] at continues
      refine ih never between ?_ there
      by_contra owing
      obtain ⟨token, owed⟩ := Option.ne_none_iff_exists'.mp owing
      cases ended.symm.trans
        (occurs.step.evolves.owed here between (Option.some.inj continues) owed)
  | next occurs renewed rest ih => cases never

/-! ## The main loop -/

/-- What a return at `ip` does that goes back to a main loop beginning at `entry`. -/
structure GoesHome (setting : Setting σ) (machine : Machine σ) (id : EntityId) (lane : Lane)
    (ip entry : Nat) : Prop where
  bounded : setting.source.codeStart < entry ∧ entry ≤ setting.source.codeEnd
  /-- The lane has had its turn, but has not ended: it is active in the same invocation, and whatever
  happens until it runs again, it goes on at the beginning of the loop. -/
  goesOn : entry < setting.source.codeEnd →
    (machine.step setting id 0).2 = .holding ∧
    ∀ events after, Runs setting events (machine.step setting id 0).1 after →
      (∀ event ∈ events, event ≠ .run id 0 ∧ event ≠ .remove id) →
      after.world.lane? id 0 = some ((lane.looping entry).advance entry)
  /-- The return fails if the first one was the last byte of the bytecode, and no loop can begin
  behind it. -/
  fails : entry = setting.source.codeEnd →
    (machine.step setting id 0).2 = .released ∧
    (machine.step setting id 0).1.world.lane? id 0 = some ((lane.looping entry).abort ip) ∧
    (machine.step setting id 0).1.world.faults = machine.world.faults + 1

/-- What a return at `ip` does that ends its invocation. -/
structure EndsInvocation (setting : Setting σ) (machine : Machine σ) (id : EntityId) (priority : Nat)
    (lane : Lane) (ip : Nat) : Prop where
  /-- The completion, if there is one, is fired once. -/
  step : machine.step setting id priority =
    (((machine.noteReturn id priority ip).updateLane id priority Lane.finish).complete lane.onStop?,
      .released)
  ended : (machine.step setting id priority).1.world.lane? id priority = some lane.finish
  /-- Whoever waits for it is woken. -/
  heard : ∀ other level caller, ¬(other = id ∧ level = priority) →
    machine.world.lane? other level = some caller → caller.isBusy →
    lane.onStop? = some (caller.token other level) →
    (machine.step setting id priority).1.world.lane? other level = some caller.awake
  /-- Nothing is left to be fired, as long as the lane is not started again. -/
  silent : ∀ events after later,
    Starts setting id priority 0 events (machine.step setting id priority).1 after →
    after.world.lane? id priority = some later → later.onStop? = none

theorem ReturnsHome.goesHome {entry : Nat} (returns : machine.ReturnsHome setting id lane ip)
    (whole : setting.source.Sound) (begins : lane.mainEntry.getD (ip + 1) = entry)
    (bounded : setting.source.codeStart < entry ∧ entry ≤ setting.source.codeEnd) :
    machine.GoesHome setting id lane ip entry where
  bounded := bounded
  goesOn below := by
    have inside : Reading.jumpError? setting.source entry = none :=
      Reading.jumpError?_eq_none.mpr ⟨by omega, by omega⟩
    have there := returns.lane?_step whole begins
    rw [inside] at there
    refine ⟨by rw [returns.step_home whole begins inside], fun events after runs foreign => ?_⟩
    have kept := runs.leaves foreign there rfl
    exact or_self_iff.mp kept
  fails atEnd := by
    cases error : Reading.jumpError? setting.source entry with
    | none =>
        have inside := Reading.jumpError?_eq_none.mp error
        omega
    | some error' =>
        have there := returns.lane?_step whole begins
        rw [error] at there
        refine ⟨by rw [returns.step_astray begins error], there, ?_⟩
        rw [returns.step_astray begins error]
        simp only [giveUp, world_notify, world_note]
        rfl

theorem endsInvocation_of_away (here : machine.world.lane? id priority = some lane)
    (atReturn : lane.AtReturn setting.source.code ip)
    (away : ¬(priority = 0 ∧ lane.script = 0 ∧ lane.onStop? = none)) :
    machine.EndsInvocation setting id priority lane ip := by
  have stepped := step_of_away here atReturn away
  have finished : (machine.step setting id priority).1.world.roster =
      machine.world.roster.finish id priority lane := by
    rw [stepped]
    exact roster_finish rfl here
  have ended : (machine.step setting id priority).1.world.lane? id priority = some lane.finish := by
    rw [← World.lane?_roster, finished, Roster.lane?_finish_self]
  refine ⟨stepped, ended, ?_, ?_⟩
  · intro other level caller apart waiting busy owed
    rw [← World.lane?_roster, finished]
    have nothing : (machine.world.roster.finish id priority lane).Begins id 0 0
        (machine.world.roster.finish id priority lane) := .refused
    exact lane?_of_ended waiting busy (fun same => apart ⟨same.1.symm, same.2.symm⟩) owed nothing
  · intro events after later counted there
    exact counted.owes_nothing rfl ended rfl there

/-- The first script of a base lane is the main loop of its entity.

As long as the entity is there, every run ends in a stretch that set out when the field was created or
when another script has last taken the place of the one on the base lane.  Over such a stretch, the
main entry is the place behind the first return to the main loop, once there was one, and every return
of the first script that nobody waits for goes on there in the next run, unless the bytecode ends
there.  In a tick, no instruction of the entity comes behind such a return.  Every other return ends
its invocation and fires its completion. -/
theorem base_loop {bytes : Array UInt8} (accepted : Section.read bytes = .ok setting.source)
    (id : EntityId) :
    (∀ (machine : Machine σ) (lane : Lane), Arises setting machine →
      machine.world.lane? id 0 = some lane →
      ∃ first places, first.SetsOut setting id ∧ Loop setting id places first machine) ∧
    (∀ (first machine : Machine σ) (places : List Nat) (lane : Lane), first.SetsOut setting id →
      Loop setting id places first machine → machine.world.lane? id 0 = some lane →
      lane.mainEntry = places.head?.map (· + 1) ∧
      ∀ ip, lane.AtReturn setting.source.code ip → lane.script = 0 → lane.onStop? = none →
        machine.GoesHome setting id lane ip (places.headD ip + 1)) ∧
    (∀ (start : Machine σ) (elapsed : UInt64),
      (start.tickMoments setting elapsed).Pairwise fun moment later =>
        (∃ lane ip, moment.id = id ∧ moment.priority = 0 ∧
          moment.machine.ReturnsHome setting id lane ip) → later.id ≠ id) ∧
    (∀ (machine : Machine σ) (priority : Nat) (lane : Lane) (ip : Nat),
      machine.world.lane? id priority = some lane →
      lane.AtReturn setting.source.code ip →
      ¬(priority = 0 ∧ lane.script = 0 ∧ lane.onStop? = none) →
      machine.EndsInvocation setting id priority lane ip) := by
  have whole := Section.sound_of_read accepted
  refine ⟨fun machine lane arises here => arises.loop here, ?_, ?_,
    fun machine priority lane ip here atReturn away => endsInvocation_of_away here atReturn away⟩
  · intro first machine places lane setsOut loop here
    obtain ⟨begun, found, -, entry⟩ := loop.mainEntry whole here
    rw [setsOut.mainEntry whole found, Option.none_or] at entry
    refine ⟨entry, fun ip atReturn script unawaited => ?_⟩
    have returns : machine.ReturnsHome setting id lane ip := ⟨here, atReturn, script, unawaited⟩
    have arises := setsOut.arises
    refine returns.goesHome whole ?_ ?_
    · rw [entry]
      cases places <;> rfl
    · have inside : setting.source.codeStart ≤ places.headD ip ∧
          places.headD ip < setting.source.codeEnd := by
        cases places with
        | nil => exact returns.inside whole ((loop.arises arises).confined whole)
        | cons place others => exact loop.places_inside arises whole place List.mem_cons_self
      omega
  · intro start elapsed
    refine List.Pairwise.imp ?_ (tickMoments_pairwise setting start elapsed)
    rintro moment later ends ⟨lane, ip, rfl, base, returns⟩ same
    rcases ends same with higher | goesOn
    · omega
    · unfold carriesOn at goesOn
      rw [base] at goesOn
      cases error : Reading.jumpError? setting.source (lane.mainEntry.getD (ip + 1)) with
      | none =>
          rw [returns.step_home whole rfl error] at goesOn
          cases goesOn
      | some error' =>
          rw [returns.step_astray rfl error] at goesOn
          cases goesOn

end Machine

/-! ## A small field -/

/-!
Two entities: the first script of the first one calls a script of the second one and waits for it, and
comes to its main loop then.
-/

namespace Round

/-- The header, two names without a character, two script tables and eight bytes of code. -/
def bytes : Array UInt8 :=
  (([2, 5, 2, 0, 184, 0, 0, 0, 0, 2] ++ List.replicate 22 0 ++ List.replicate 16 0
    ++ [176, 0] ++ (List.replicate 31 [179, 0]).flatten
    ++ [182, 0, 183, 0] ++ (List.replicate 30 [182, 0]).flatten
    ++ [0x03, 0x01, 0x21, 0x00, 0x5F, 0x00, 0x00, 0x00] : List UInt8)).toArray

def source : Section := (Section.read bytes).toOption.getD Sample.source

def setting : Setting Unit :=
  { source, config := { opsPerTick := 8 }, host := Host.accepting }

theorem read_bytes : Section.read bytes = .ok setting.source := by
  have accepted : (Section.read bytes).isOk := by decide +kernel
  unfold setting source
  cases read : Section.read bytes with
  | ok source => rfl
  | error error => simp [read, Except.isOk, Except.toBool] at accepted

def entered : Machine Unit :=
  (Machine.enter setting (Session.fresh setting.config) (.ofSeed 0) ()).start

/-- The field after the call. -/
def called : Machine Unit := (entered.step setting 0 0).1

/-- The field in its third tick, when the main loop has come to its end for the first time. -/
def ending : Machine Unit := (((entered.tick setting 0).tick setting 0).step setting 0 0).1

/-- The lane that waits for the call. -/
def caller : Lane := { status := .paused 179 .call none, script := 0, epoch := 1 }

/-- The lane of the script that was called. -/
def callee : Lane := { status := .active 183 0 none (some (caller.token 0 0)), script := 1, epoch := 1 }

/-- The lane at the end of its main loop. -/
def looping : Lane :=
  { status := .active 181 0 none none, script := 0, epoch := 1, mainEntry := some 180 }

/-- Where the returns stand, and the main loop begins before the end of the bytecode. -/
theorem code_round :
    setting.source.code[181]? = some Opcode.ret.byte ∧
    setting.source.code[183]? = some Opcode.ret.byte ∧
    180 < setting.source.codeEnd := by
  decide +kernel

theorem lanes_round :
    ending.world.lane? 0 0 = some looping ∧
    called.world.lane? 1 1 = some callee ∧ called.world.lane? 0 0 = some caller := by
  decide +kernel

theorem arises_ending : Machine.Arises setting ending := by
  have reachable : Machine.Reachable setting ((entered.tick setting 0).tick setting 0) :=
    .tick (.tick (.start (.enter _ _ _)) 0) 0
  exact Machine.Visited.arises (.within (.between reachable) 0 0)

end Round

namespace Machine

/-- The main loop begins behind the first return and goes on there after its end, and the return of
the script that was called wakes the caller. -/
theorem round_goes_on :
    (Round.ending.step Round.setting 0 0).2 = .holding ∧
    (Round.ending.step Round.setting 0 0).1.world.lane? 0 0 =
      some { Round.looping with status := .active 180 0 none none } ∧
    (Round.called.step Round.setting 1 1).1.world.lane? 1 1 = some Round.callee.finish ∧
    (Round.called.step Round.setting 1 1).1.world.lane? 0 0 = some Round.caller.awake := by
  obtain ⟨stretches, loops, -, -⟩ := base_loop Round.read_bytes 0
  obtain ⟨-, -, -, ends⟩ := base_loop Round.read_bytes 1
  obtain ⟨here, started, waiting⟩ := Round.lanes_round
  obtain ⟨last, inner, below⟩ := Round.code_round
  obtain ⟨first, places, setsOut, loop⟩ := stretches _ _ Round.arises_ending here
  obtain ⟨entry, home⟩ := loops first _ places _ setsOut loop here
  have earliest : places.headD 181 + 1 = 180 := by
    cases places with
    | nil => cases entry
    | cons place others => exact (Option.some.inj entry).symm
  have goes := home 181 ⟨rfl, rfl, rfl, last⟩ rfl rfl
  rw [earliest] at goes
  obtain ⟨holds, next⟩ := goes.goesOn below
  have ended := ends _ 1 _ 183 started ⟨rfl, rfl, rfl, inner⟩ (by decide)
  exact ⟨holds, next [] _ (.nil _) (by simp), ended.ended,
    ended.heard 0 0 _ (by decide) waiting rfl rfl⟩

end Machine

end FieldMachine
