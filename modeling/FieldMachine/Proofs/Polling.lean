import FieldMachine.Proofs.Noninterference
import FieldMachine.Proofs.Outcome

/-!
# Polling changes nothing

An instruction that waits for something is tried again in every tick until it
goes through.  As long as it does not, nothing happens but that its lane counts
the try (`Machine.step_of_retry`): the instruction is worked out before anything
is done, and a plan to try again does nothing.

So the next try finds the lane on the same byte, and reads the same operands
(`Machine.polling_changes_nothing`).
-/

namespace FieldMachine

set_option autoImplicit false

/-- A lane that stays on its instruction is at its beginning again; the tries are counted up to a
limit. -/
theorem Lane.rewind_eq (lane : Lane) (ip : Nat) :
    lane.rewind ip none =
      { lane with
        status := .active ip (if lane.retries = 0xFFFFFFFF then 0xFFFFFFFF else lane.retries + 1)
          none lane.onStop? } := by
  unfold rewind
  split
  · next full => rw [full]
  · rfl

/-- While the camera scrolls, the wait for it is tried again. -/
theorem Screen.awaitScroll_of_scrolling {scene : Scene} {cursor : Cursor}
    (scrolling : scene.world.stage.camera.scrolling) :
    awaitScroll scene cursor = .ok (.retry [], cursor) := by
  show (if scene.world.stage.camera.scrolling then pure (Plan.retry []) else pure (Plan.next []) :
    Reading Plan) scene cursor = _
  rw [if_pos scrolling]
  rfl

namespace Machine

variable {σ : Type} {setting : Setting σ} {machine : Machine σ} {id : EntityId} {priority : Nat}
  {lane : Lane} {ip next : Nat} {entries : List Entry}

/-- The journal takes the entries one after the other. -/
theorem noteAll_eq (machine : Machine σ) (entries : List Entry) :
    entries.foldl note machine =
      { machine with journal := entries.reverse ++ machine.journal } := by
  induction entries generalizing machine with
  | nil => rfl
  | cons entry rest ih =>
      rw [List.foldl_cons, ih]
      simp [note]

/-- An instruction that is tried again leaves the machine as it was, but for the tries of its lane
and the journal. -/
theorem step_of_retry (here : machine.world.lane? id priority = some lane) (active : lane.isActive)
    (stands : lane.ip? = some ip)
    (worked : workOut setting.source.code (machine.sceneOf setting id priority ip lane) ip
      lane.suspended? = .ok (.retry entries, next)) :
    ∃ told, machine.step setting id priority =
      ({ machine with
        world := machine.world.updateLane id priority (·.rewind ip none)
        journal := told ++ machine.journal }, .holding) := by
  rw [step_eq_of_active setting here active stands, worked]
  simp only [carryOut, noteAll_eq]
  rcases onRecord_eq setting machine id priority ip lane with same | ⟨byte, -, same⟩
  · rw [same]
    exact ⟨entries.reverse, rfl⟩
  · refine ⟨entries.reverse ++ [.executing id priority ip byte], ?_⟩
    rw [same, List.append_assoc]
    rfl

/-- What the host is told and asked by one instruction. -/
theorem contacts_step (setting : Setting σ) (machine : Machine σ) (id : EntityId)
    (priority : Nat) :
    machine.contacts setting [.step id priority] =
      (machine.tapped.step setting.tapped id priority).1.host.2 := rfl

/-- The step of a lane that is at the beginning of an instruction carries this instruction out. -/
theorem step_of_fetch {retries : UInt32} {onStop : Option ResumeToken} {byte : UInt8}
    {reading : Reading Plan} {cursor : Cursor}
    (here : machine.world.lane? id priority = some lane)
    (fresh : lane.status = .active ip retries none onStop)
    (fetched : fetch setting.source.code ip = .ok (byte, reading, cursor)) :
    machine.step setting id priority =
      (machine.note (.executing id priority ip byte)).execute setting id priority ip lane reading
        cursor := by
  simp only [step, here, fresh, fetched]

/-- Polling is free of side effects, in every state and with every host.

Only the nine opcodes that poll are ever tried again, each of them only while there is something to
wait for, and never the rest of an instruction.  Nothing is changed by it but the lane that runs: it
stays at the beginning of the instruction, and counts the try up to the limit of the number.  What
is written to the journal aside, the world, the session, the random numbers and the host are as they
were; the host was told nothing, and asked nothing.

The next step of the lane, whatever has happened to the rest meanwhile, reads the same instruction
from the same place. -/
theorem polling_changes_nothing (here : machine.world.lane? id priority = some lane)
    (active : lane.isActive) (stands : lane.ip? = some ip)
    (worked : workOut setting.source.code (machine.sceneOf setting id priority ip lane) ip
      lane.suspended? = .ok (.retry entries, next)) :
    let polled : Lane :=
      { lane with
        status := .active ip (if lane.retries = 0xFFFFFFFF then 0xFFFFFFFF else lane.retries + 1)
          none lane.onStop? }
    lane.suspended? = none ∧
    (∃ op ∈ Opcode.pollers, setting.source.code[ip]? = some op.byte ∧
      op.Polls (machine.sceneOf setting id priority ip lane)
        ((Cursor.atStart setting.source.code ip).forward 1)) ∧
    (∃ told, machine.step setting id priority =
      ({ machine with
        world := machine.world.updateLane id priority fun _ => polled
        journal := told ++ machine.journal }, .holding)) ∧
    (machine.step setting id priority).1.world.lane? id priority = some polled ∧
    (∀ other index, ¬(other = id ∧ index = priority) →
      (machine.step setting id priority).1.world.lane? other index =
        machine.world.lane? other index) ∧
    (machine.step setting id priority).1.world.actor? = machine.world.actor? ∧
    machine.contacts setting [.step id priority] = [] ∧
    ∃ byte reading cursor, fetch setting.source.code ip = .ok (byte, reading, cursor) ∧
      (∃ after, reading (machine.sceneOf setting id priority ip lane) cursor =
        .ok (.retry entries, after)) ∧
      ∀ later : Machine σ, later.world.lane? id priority = some polled →
        later.step setting id priority =
          (later.note (.executing id priority ip byte)).execute setting id priority ip polled
            reading cursor := by
  intro polled
  obtain ⟨fresh, op, byte, polls⟩ := polls_of_retry worked
  obtain ⟨told, stepped⟩ := step_of_retry here active stands worked
  have same : machine.world.updateLane id priority (·.rewind ip none) =
      machine.world.updateLane id priority fun _ => polled :=
    World.updateLane_congr here (lane.rewind_eq ip)
  -- what the tries have become does not matter from here on
  obtain ⟨retries, begins⟩ : ∃ retries, polled.status = .active ip retries none lane.onStop? :=
    ⟨_, rfl⟩
  clear_value polled
  rw [same] at stepped
  refine ⟨fresh, ⟨op, polls.mem, byte, polls⟩, ⟨told, stepped⟩, ?_, ?_, ?_, ?_, ?_⟩
  · rw [stepped]
    simp [World.lane?_updateLane, here]
  · intro other index apart
    rw [stepped]
    simp [World.lane?_updateLane, apart]
  · rw [stepped]
    exact World.actor?_updateLane ..
  · have tapped : machine.tapped.world.lane? id priority = some lane := here
    have worked : workOut setting.tapped.source.code
        (machine.tapped.sceneOf setting.tapped id priority ip lane) ip lane.suspended? =
          .ok (.retry entries, next) := worked
    obtain ⟨told, stepped⟩ := step_of_retry tapped active stands worked
    rw [contacts_step, stepped]
    rfl
  · rw [fresh, workOut_none_eq_ok] at worked
    obtain ⟨byte, reading, cursor, after, fetched, read, -⟩ := worked
    exact ⟨byte, reading, cursor, fetched, ⟨after, read⟩,
      fun later again => step_of_fetch again begins fetched⟩

end Machine

/-! ## A field in which much goes on at once -/

namespace Bustle

/-- Four scripts: one lets the party gather; one starts a scroll, a fade and a shift and waits for the
scroll; one calls a script of the last entity; and that script stores a place in four cells, of which
the second operand names none. -/
def bytes : Array UInt8 :=
  ([0xC8, 0x00, 0xA0, 0x00, 0x08, 0x0A]
    ++ [0x66, 0x00, 0x00, 0x0A, 0x00, 0x14, 0x00, 0x05, 0x00]
    ++ [0x6B, 0x00, 0x00, 0x00, 0x00, 0x00, 0x01, 0x01, 0x00]
    ++ [0xC3, 0x00, 0x00, 0x01, 0x01, 0x00, 0x00, 0x00, 0x00, 0x00, 0x05, 0x00, 0x67, 0x00]
    ++ [0x03, 0x03, 0x21, 0x00]
    ++ [0x00, 0xC1, 0x10, 0x00, 0x00, 0x10, 0x11, 0x12, 0x13] : List UInt8).toArray

/-- An entity whose first script begins at one place and all others at another. -/
def scripts (name : String) (first others : Nat) : EntityScripts :=
  { name, entries := Vector.ofFn fun index => if index.val = 0 then first else others }

def source : Section :=
  { bytes, version := 0, modelCount := 0, scale := 0, creator := "", name := "bustle"
    entities :=
      #[scripts "leader" 0 0, scripts "guide" 6 6, scripts "caller" 38 38, scripts "scribe" 42 43]
    akaoOffsets := #[], codeStart := 0, codeEnd := 51, texts := #[] }

def setting : Setting Unit :=
  { source, config := { opsPerTick := 8, replicatedBanks := [1] }, host := Host.accepting }

def entered : Machine Unit :=
  (Machine.enter setting (Session.fresh setting.config) (.ofSeed 0) ()).start

/-- The field in its first tick, before the turn of the last entity. -/
def teeming : Machine Unit := entered.duringTick setting 0 3 0

theorem visited_teeming : Machine.Visited setting teeming := .during (.start (.enter _ _ _)) 0 3 0

/-- The lane that waits for the scroll. -/
def watcher : Lane := { status := .active 36 1 none none, script := 0, epoch := 1 }

theorem watcher_runs : teeming.world.lane? 1 0 = some watcher := by decide +kernel

/-- The wait for the scroll is tried again. -/
theorem watcher_polls :
    Machine.workOut setting.source.code (teeming.sceneOf setting 1 0 36 watcher) 36
      watcher.suspended? = .ok (.retry [], 37) := by
  have known : planOfByte? 0x67 = some Screen.awaitScroll :=
    planOfByte?_eq_some.mpr ⟨.scrlw, rfl, rfl⟩
  let behind := (Cursor.atStart setting.source.code 36).forward 1
  have fetched : Machine.fetch setting.source.code 36 = .ok (0x67, Screen.awaitScroll, behind) :=
    Machine.fetch_eq_ok.mpr ⟨by decide +kernel, known, rfl⟩
  have scrolling : (teeming.sceneOf setting 1 0 36 watcher).world.stage.camera.scrolling := by
    decide +kernel
  exact Machine.workOut_none_eq_ok.mpr ⟨0x67, Screen.awaitScroll, behind, behind, fetched,
    Screen.awaitScroll_of_scrolling scrolling, rfl⟩

end Bustle

namespace Machine

/-- The scroll is waited for once more: the lane has now tried twice, and nothing else has changed. -/
theorem bustle_scroll_polled :
    let after := (Bustle.teeming.step Bustle.setting 1 0).1
    Bustle.teeming.world.lane? 1 0 = some Bustle.watcher ∧ Bustle.watcher.retries = 1 ∧
    after.world.lane? 1 0 = some { Bustle.watcher with status := .active 36 2 none none } ∧
    after.world.lane? 3 1 = Bustle.teeming.world.lane? 3 1 ∧
    after.session = Bustle.teeming.session ∧
    Bustle.teeming.contacts Bustle.setting [.step 1 0] = [] := by
  obtain ⟨-, -, ⟨told, stepped⟩, there, others, -, silent, -⟩ :=
    polling_changes_nothing Bustle.watcher_runs rfl rfl Bustle.watcher_polls
  exact ⟨Bustle.watcher_runs, rfl, there, others 3 1 (by decide), by rw [stepped], silent⟩

end Machine

end FieldMachine
