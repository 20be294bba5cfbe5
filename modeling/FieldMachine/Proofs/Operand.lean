import FieldMachine.Proofs.Arithmetic
import FieldMachine.Section.Draft

/-!
# Instructions that their operands tell

Most instructions take the same bytes on every way through them: whenever these are
all there, the plan is told by the bytes, the cells that they name and the scene
(`Opcode.Plans`).  A lane that stands on such an instruction carries out the plan that
its operands tell, or is given up because the instruction is cut off or an operand cannot
be read.
-/

namespace FieldMachine

set_option autoImplicit false

open Section (byteAt wordAt)

/-- A computation that comes to a result goes on with the value of its first part. -/
theorem exists_of_bind_eq_ok {ε α β : Type} {first : Except ε α} {next : α → Except ε β}
    {result : β} (came : first >>= next = .ok result) :
    ∃ value, first = .ok value ∧ next value = .ok result := by
  cases first with
  | error error => cases came
  | ok value => exact ⟨value, rfl, came⟩

/-- The result of a computation, which can be looked up even where errors cannot be compared. -/
theorem eq_ok_of_toOption {ε α : Type} {found : Except ε α} {value : α}
    (told : found.toOption = some value) : found = .ok value := by
  cases found with
  | error error => cases told
  | ok other => exact congrArg Except.ok (Option.some.inj told)

/-- What is told by several values is told by the first of them and the rest. -/
theorem bind_eq_bind_bind {ε α β γ : Type} {found : Except ε α} {whole : α → Except ε γ}
    {rest : α → Except ε β} {next : β → Except ε γ}
    (same : ∀ value, whole value = (rest value).bind next) :
    found.bind whole = (found >>= rest).bind next := by
  cases found with
  | error error => rfl
  | ok value => exact same value

/-- An instruction that can be carried out takes all of its operands, and comes to the plan that
they tell in a scene. -/
def Opcode.Plans {α : Type} (op : Opcode)
    (operands : Scene → Array UInt8 → Nat → Except ExecError α) (plan : Scene → α → Plan) : Prop :=
  ∃ reading, op.plan? = some reading ∧ ∀ (scene : Scene) (cursor : Cursor),
    cursor.pc + (op.size - 1) ≤ cursor.code.size →
      reading scene cursor =
        ((operands scene cursor.code cursor.pc).map (plan scene)).map
          (·, cursor.forward (op.size - 1))

/-- What an instruction of a known length is worked out to. -/
theorem Opcode.Plans.of_works {α : Type} {op : Opcode} {reading : Reading Plan}
    {operands : Scene → Array UInt8 → Nat → Except ExecError α} {plan : Scene → α → Plan}
    (count : Nat) (known : op.plan? = some reading)
    (works : ∀ (scene : Scene) (cursor : Cursor), cursor.pc + count ≤ cursor.code.size →
      reading scene cursor = (operands scene cursor.code cursor.pc).bind fun told =>
        .ok (plan scene told, cursor.forward count))
    (long : op.size - 1 = count := by decide +kernel) : op.Plans operands plan := by
  refine ⟨reading, known, fun scene cursor inside => ?_⟩
  rw [long] at inside ⊢
  rw [works scene cursor inside]
  cases operands scene cursor.code cursor.pc <;> rfl

/-! ## Operands behind a cursor -/

namespace Reading

open Arithmetic

variable {scene : Scene} {cursor : Cursor}

theorem bind_session {α : Type} {next : Session → Reading α} :
    (session >>= next) scene cursor = next scene.session scene cursor := rfl

theorem bind_scene {α : Type} {next : Scene → Reading α} :
    (Reading.scene >>= next) scene cursor = next scene scene cursor := rfl

theorem word_forward {count : Nat} (inside : cursor.pc + (count + 2) ≤ cursor.code.size) :
    word scene (cursor.forward count) =
      .ok ((wordAt cursor.code (cursor.pc + count)).toUInt16, cursor.forward (count + 2)) :=
  @source_forward scene cursor count .word inside

theorem signed_forward {count : Nat} (inside : cursor.pc + (count + 2) ≤ cursor.code.size) :
    signed scene (cursor.forward count) =
      .ok ((wordAt cursor.code (cursor.pc + count)).toUInt16.toInt16,
        cursor.forward (count + 2)) := by
  show (word scene (cursor.forward count)).map (fun found => (found.1.toInt16, found.2)) = _
  rw [word_forward inside]
  rfl

end Reading

/-! ## Steps -/

namespace Machine

variable {σ α : Type} {setting : Setting σ} {machine : Machine σ} {id : EntityId}
  {priority place : Nat} {lane : Lane} {op : Opcode}
  {operands : Scene → Array UInt8 → Nat → Except ExecError α} {plan : Scene → α → Plan}

section Steps

variable (plans : op.Plans operands plan) (here : machine.world.lane? id priority = some lane)
  (begins : lane.Begins setting.source.code place op)
include plans here begins

/-- The step on an instruction all of whose bytes are there. -/
theorem step_of_plans (inside : place + op.size ≤ setting.source.code.size) :
    let scene := machine.sceneOf setting id priority place lane
    let noted := machine.note (.executing id priority place op.byte)
    machine.step setting id priority =
      match operands scene setting.source.code (place + 1) with
      | .error error => (noted.giveUp setting id priority place error, .released)
      | .ok told =>
          noted.carryOut setting id priority place (place + op.size) lane (plan scene told) := by
  obtain ⟨reading, known, works⟩ := plans
  intro scene noted
  have long : 0 < op.size := Opcode.fixedLength_pos op.byte
  have worked : reading scene ((Cursor.atStart setting.source.code place).forward 1) =
      ((operands scene setting.source.code (place + 1)).map (plan scene)).map
        (·, ((Cursor.atStart setting.source.code place).forward 1).forward (op.size - 1)) :=
    works scene ((Cursor.atStart setting.source.code place).forward 1)
      (show place + 1 + (op.size - 1) ≤ setting.source.code.size by omega)
  rw [step_of_worked here begins known worked]
  cases operands scene setting.source.code (place + 1) <;> rfl

/-- A lane that stands on an instruction after which it always goes on.  It does go on just if the
instruction lies inside the code and its operands can be read, and then what they tell was carried
out; otherwise the lane is given up. -/
theorem goOn_of_plans (goes : ∀ (machine : Machine σ) (scene : Scene) (told : α),
      (machine.carryOut setting id priority place (place + op.size) lane (plan scene told)).2 =
        .goOn) :
    let stepped := machine.step setting id priority
    let scene := machine.sceneOf setting id priority place lane
    let noted := machine.note (.executing id priority place op.byte)
    let read := operands scene setting.source.code (place + 1)
    (stepped.2 = .goOn ↔
      place + op.size ≤ setting.source.code.size ∧ ∃ told, read = .ok told) ∧
    (stepped.2 = .goOn → ∃ told, read = .ok told ∧ stepped =
      noted.carryOut setting id priority place (place + op.size) lane (plan scene told)) ∧
    (stepped.2 ≠ .goOn → ∃ error, stepped =
      (noted.giveUp setting id priority place error, .released)) := by
  intro stepped scene noted read
  have stops {error : ExecError}
      (same : stepped = (noted.giveUp setting id priority place error, .released)) :
      stepped.2 ≠ .goOn := by
    rw [same]
    exact nofun
  by_cases inside : place + op.size ≤ setting.source.code.size
  · have same : stepped = match read with
      | .error error => (noted.giveUp setting id priority place error, .released)
      | .ok told => noted.carryOut setting id priority place (place + op.size) lane
          (plan scene told) := step_of_plans plans here begins inside
    cases found : read with
    | error error =>
        rw [found] at same
        exact ⟨⟨fun went => absurd went (stops same), fun ⟨_, _, other⟩ => nomatch other⟩,
          fun went => absurd went (stops same), fun _ => ⟨error, same⟩⟩
    | ok told =>
        rw [found] at same
        have went : stepped.2 = .goOn := same ▸ goes noted scene told
        exact ⟨⟨fun _ => ⟨inside, told, rfl⟩, fun _ => went⟩, fun _ => ⟨told, rfl, same⟩,
          fun stopped => absurd went stopped⟩
  · obtain ⟨reading, known, -⟩ := plans
    obtain ⟨error, same⟩ := step_of_overrun here begins known inside
    exact ⟨⟨fun went => absurd went (stops same), fun both => absurd both.1 inside⟩,
      fun went => absurd went (stops same), fun _ => ⟨error, same⟩⟩

end Steps

/-- The machine after a lane has carried out so many instructions. -/
def afterSteps (setting : Setting σ) (id : EntityId) (priority : Nat) (machine : Machine σ) :
    Nat → Machine σ
  | 0 => machine
  | count + 1 => ((machine.afterSteps setting id priority count).step setting id priority).1

end Machine

/-! ## Fields that are told by their scripts -/

/-- A draft with an entity for each script. -/
def Draft.ofScripts (scripts : List (List UInt8)) : Draft where
  name := ""
  entities := scripts.map fun script => { name := "", scripts := [script] }

/-- The setting in which each entity has one of some scripts. -/
def Setting.ofScripts (scripts : List (List UInt8)) : Setting Unit where
  source := Section.ofBytes (Draft.ofScripts scripts).layout.toArray
  config := { opsPerTick := 8 }
  host := Host.accepting

/-- The field in which each entity has begun its script. -/
def Setting.entered (setting : Setting Unit) (session : Session) : Machine Unit :=
  (Machine.enter setting session (.ofSeed 0) ()).start

/-- The lane of a first script at a place of the code. -/
def Lane.at (place : Nat) : Lane :=
  { status := .active place 0 none none, script := 0, epoch := 1 }

theorem Lane.begins_at {code : Array UInt8} {place : Nat} {op : Opcode}
    (named : code[place]? = some op.byte) : (Lane.at place).Begins code place op :=
  ⟨rfl, rfl, rfl, named⟩

end FieldMachine
