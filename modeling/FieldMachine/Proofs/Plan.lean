import FieldMachine.Proofs.Reading

/-!
# What an instruction can come to

Almost every instruction comes to a plan that starts no script, records no main
loop and waits for no call.  All that such a plan can do to a lane is to let the
running one go on, wait, or end (`Plan.IsPlain`).

The others are calls, handing over to another script, the return of a base lane
to its main loop, walks of the party, and the choice of another player.
`Plan.Fits` lists them all.

Eight opcodes make a request of the host, each one of its own kind and for a
reason of its own (`Opcode.Asks`).
-/

namespace FieldMachine

set_option autoImplicit false

/-! ## Requests -/

/-- The requests that an opcode makes, and for which reason its lane waits then. -/
inductive Opcode.Asks : Opcode → Request → PauseReason → Prop
  | message (dialog : Dialog) (told : dialog.choices = none) :
      Asks .message (.dialog dialog) (.message dialog.window)
  /-- A question names a cell that takes the answer, and never in the scratch bank. -/
  | ask (dialog : Dialog) {bank : UInt8} (address : UInt8) (asked : dialog.choices.isSome)
      (named : bank ≠ Memory.scratchBank) :
      Asks .ask (.dialog dialog) (.ask dialog.window bank address)
  | menu (kind param : UInt8) : Asks .menu (.menu kind param) .menu
  | movie (id : UInt8) : Asks .movie (.movie id) .movie
  | battle (id : UInt16) : Asks .battle (.battle id) .battle
  | minigame (game : Minigame) : Asks .minigame (.minigame game) .minigame
  | tutorial (id : UInt8) : Asks .tutor (.tutorial id) .tutorial
  | disc (number : UInt8) : Asks .dskcg (.disc number) .discChange

/-- The endings in which an opcode makes a request. -/
def asking (op : Opcode) (ending : Ending) : Prop :=
  ∃ request reason, ending = .request request reason ∧ op.Asks request reason

/-- The endings that leave such a rest of an instruction. -/
def leaving (left : Continuation → Prop) (ending : Ending) : Prop :=
  ∃ rest, ending = .suspend rest ∧ left rest

/-- The reasons for which an instruction lets its lane wait without calling a script. -/
def PauseReason.IsAwaited (reason : PauseReason) : Prop :=
  reason = .fieldJump ∨ reason = .choreography ∨ ∃ op request, Opcode.Asks op request reason

theorem PauseReason.IsAwaited.ne_call {reason : PauseReason} (awaited : reason.IsAwaited) :
    reason ≠ .call := by
  rcases awaited with rfl | rfl | ⟨op, request, asks⟩
  · simp
  · simp
  · cases asks <;> simp

/-! ## Plain plans -/

/-- Whether an effect leaves all lanes alone, wakes none later, announces no change but one that it
makes, names no player and opens no window. -/
def Effect.isPlain : Effect → Bool
  | .startLane .. | .recordMain .. | .choreography .. | .notify (.changed _)
  | .stage (.setPlayer _) | .window _ (.setOpen _) => false
  | _ => true

/-- Whether an effect leaves all lanes alone. -/
def Effect.sparesLanes : Effect → Bool
  | .startLane .. | .recordMain .. => false
  | _ => true

theorem Effect.sparesLanes_of_isPlain {effect : Effect} (plain : effect.isPlain) :
    effect.sparesLanes := by
  cases effect with
  | startLane id priority entry script onStop => cases plain
  | recordMain id priority entry => cases plain
  | _ => rfl

/-- One more effect that leaves all lanes alone. -/
theorem Effect.sparesLanes_append {effects : List Effect} {last : Effect}
    (plain : ∀ effect ∈ effects, effect.isPlain) (spares : last.sparesLanes) :
    ∀ effect ∈ effects ++ [last], effect.sparesLanes := by
  rw [List.forall_mem_append, List.forall_mem_singleton]
  exact ⟨fun effect member => sparesLanes_of_isPlain (plain effect member), spares⟩

/-- An ending that concerns no other script; `held` tells how the instruction may hold its lane
up. -/
def Ending.IsPlain (held : Ending → Prop) : Ending → Prop
  | .advance | .stop => True
  | .suspend continuation => held (.suspend continuation)
  | .pause reason => held (.pause reason)
  | .request asked reason => held (.request asked reason)
  | .yield | .handOver .. | .fault _ => False

/-- A plan of plain effects, whose ending concerns no other script. -/
def Plan.IsPlain (held : Ending → Prop) : Plan → Prop
  | .retry _ => True
  | .act effects ending => (∀ effect ∈ effects, effect.isPlain) ∧ ending.IsPlain held

/-- An instruction that holds its lane up in no way. -/
def nothingHeld : Ending → Prop := fun _ => False

variable {held : Ending → Prop}

@[simp] theorem Plan.isPlain_retry (entries : List Entry) : (Plan.retry entries).IsPlain held :=
  trivial

@[simp] theorem Plan.isPlain_act (effects : List Effect) (ending : Ending) :
    (Plan.act effects ending).IsPlain held ↔
      (∀ effect ∈ effects, effect.isPlain) ∧ ending.IsPlain held := Iff.rfl

@[simp] theorem Plan.isPlain_next (effects : List Effect) :
    (Plan.next effects).IsPlain held ↔ ∀ effect ∈ effects, effect.isPlain := by
  simp [Plan.next, Ending.IsPlain]

theorem Plan.IsPlain.mono {more : Ending → Prop} {plan : Plan} (plain : plan.IsPlain held)
    (weaker : ∀ ending, held ending → more ending) : plan.IsPlain more := by
  cases plan with
  | retry entries => trivial
  | act effects ending =>
      refine ⟨plain.1, ?_⟩
      cases ending with
      | suspend continuation => exact weaker _ plain.2
      | pause reason => exact weaker _ plain.2
      | request request reason => exact weaker _ plain.2
      | _ => exact plain.2

/-! ## All plans -/

/-- The token that names an invocation of a lane. -/
def Lane.token (lane : Lane) (id : EntityId) (priority : Nat) : ResumeToken :=
  { entity := id, priority, epoch := lane.epoch }

/-- What an instruction of a lane can come to; `held` tells how it may hold the lane up. -/
inductive Plan.Fits (scene : Scene) (held : Ending → Prop) : Plan → Prop
  | plain {plan : Plan} (plain : plan.IsPlain held) : Fits scene held plan
  /-- A script was started, and nobody waits for its end. -/
  | call {target : EntityId} {entity : Entity} {priority script entry : Nat} {told : Entry}
      (known : scene.world.entity? target = some entity)
      (admitted : entity.admission priority script = .ok entry) :
      Fits scene held (.act [.startLane target priority entry script none, .log told] .advance)
  /-- A script was started, and the lane waits for its end. -/
  | await {target : EntityId} {entity : Entity} {priority script entry : Nat} {told : Entry}
      (known : scene.world.entity? target = some entity)
      (admitted : entity.admission priority script = .ok entry) :
      Fits scene held (.act
        [.startLane target priority entry script
          (some (scene.lane.token scene.entity scene.priority)), .log told] (.pause .call))
  /-- The party walks, and the lane waits until it has arrived. -/
  | dance {effects : List Effect} {walks : List Walk} {frames : UInt16}
      (spared : ∀ effect ∈ effects, effect.isPlain) :
      Fits scene held (.act
        (effects ++ [.choreography walks frames (scene.lane.token scene.entity scene.priority)])
        (.pause .choreography))
  | handOver (priority script : Nat) : Fits scene held (.act [] (.handOver priority script))
  /-- The base lane goes on in its main loop. -/
  | home (entry : Nat) :
      Fits scene held (.act [.recordMain scene.entity scene.priority entry] .yield)
  /-- The main loop begins outside the bytecode. -/
  | lost (entry : Nat) {error : ExecError}
      (strays : Reading.jumpError? scene.source entry = some error) :
      Fits scene held (.act [.recordMain scene.entity scene.priority entry] (.fault error))
  /-- An entity that is registered becomes the player. -/
  | lead {effects : List Effect} {target : EntityId}
      (spared : ∀ effect ∈ effects, effect.isPlain)
      (known : scene.IsPopulated → (scene.world.entity? target).isSome) :
      Fits scene held (.act (effects ++ [.stage (.setPlayer target)]) .advance)

theorem Plan.Fits.mono {scene : Scene} {more : Ending → Prop} {plan : Plan}
    (fits : plan.Fits scene held) (weaker : ∀ ending, held ending → more ending) :
    plan.Fits scene more := by
  cases fits with
  | plain plain => exact .plain (plain.mono weaker)
  | call known admitted => exact .call known admitted
  | await known admitted => exact .await known admitted
  | dance spared => exact .dance spared
  | handOver priority script => exact .handOver priority script
  | home entry => exact .home entry
  | lost entry strays => exact .lost entry strays
  | lead spared known => exact .lead spared known

/-- Whether a plan gives the lane up. -/
def Plan.isLost : Plan → Bool
  | .act _ (.fault _) => true
  | _ => false

/-- Whether a plan lets the lane go on with another instruction. -/
def Plan.carriesOn : Plan → Bool
  | .act _ .advance | .act _ .yield => true
  | _ => false

/-- A plan that lets the lane go on, or gives it up, does not hold it up. -/
theorem Plan.Fits.of_moving {scene : Scene} {more : Ending → Prop} {plan : Plan}
    (fits : plan.Fits scene held) (moving : plan.isLost ∨ plan.carriesOn) :
    plan.Fits scene more := by
  cases fits with
  | @plain plan plain =>
      cases plan with
      | retry entries => exact .plain (by simp)
      | act effects ending =>
          cases ending with
          | suspend continuation => simp [isLost, carriesOn] at moving
          | pause reason => simp [isLost, carriesOn] at moving
          | request request reason => simp [isLost, carriesOn] at moving
          | _ => exact .plain plain
  | call known admitted => exact .call known admitted
  | await known admitted => exact .await known admitted
  | dance spared => exact .dance spared
  | handOver priority script => exact .handOver priority script
  | home entry => exact .home entry
  | lost entry strays => exact .lost entry strays
  | lead spared known => exact .lead spared known

/-- Changes of the running body leave all lanes alone. -/
theorem changeSelf_takes {scene : Scene} (changes : List ActorChange) :
    (Reading.changeSelf changes).Takes scene 0 fun effects =>
      ∀ effect ∈ effects, effect.isPlain :=
  .withScene (fun _ => rfl) fun _ _ => .pure (by simp [Effect.isPlain])

end FieldMachine
