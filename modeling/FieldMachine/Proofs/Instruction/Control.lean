import FieldMachine.Proofs.Prudence
import FieldMachine.Instruction.Control

/-!
# Operands and effects of the returns, calls, jumps and waits

These instructions may go on at another place of the bytecode.  `Follows` says
of such a reading how many operand bytes it takes all the same, when it jumps,
and that a jump ends inside the bytecode.
-/

namespace FieldMachine

set_option autoImplicit false

/-! ## Readings that may jump -/

namespace Reading

/-- A reading of `count` operand bytes that goes on behind them unless it `jumps`. -/
structure Follows (reading : Reading Plan) (scene : Scene) (count : Nat)
    (jumps : Cursor → Prop) (held : Ending → Prop) : Prop where
  result {cursor after : Cursor} {plan : Plan} (inside : cursor.pc ≤ cursor.code.size)
    (worked : reading scene cursor = .ok (plan, after)) :
    cursor.pc + count ≤ cursor.code.size ∧ plan.Fits scene held ∧
      (¬jumps cursor → after = cursor.forward count) ∧
      (jumps cursor → !plan.isLost →
        plan.carriesOn ∧ scene.source.codeStart ≤ after.pc ∧ after.pc < scene.source.codeEnd)
  onto {cursor : Cursor} {code : Array UInt8} (inside : cursor.pc ≤ cursor.code.size)
    (agree : AgreeFrom cursor.pc cursor.code code) :
    reading scene (cursor.onto code) =
      (reading scene cursor).map fun (plan, after) => (plan, after.onto code)
  veiled (veil : Veil) {cursor : Cursor} (inside : cursor.pc ≤ cursor.code.size) :
    reading (scene.behind veil) cursor = reading scene cursor
  spares (populated : scene.IsPopulated) {cursor : Cursor} (inside : cursor.pc ≤ cursor.code.size) :
    reading scene cursor ≠ .error .entityGone

namespace Follows

variable {α : Type} {scene : Scene} {count more : Nat} {held : Ending → Prop}

/-- A reading that always takes the same bytes never jumps. -/
theorem of_takes {reading : Reading Plan}
    (takes : reading.Takes scene count (Plan.Fits scene held)) :
    reading.Follows scene count (fun _ => False) held where
  result inside worked :=
    let ⟨moved, reached, fit⟩ := takes.result inside worked
    ⟨reached, fit, fun _ => moved, False.elim⟩
  onto := takes.onto
  veiled := takes.veiled
  spares := takes.spares

theorem of_plain {reading : Reading Plan}
    (takes : reading.Takes scene count (Plan.IsPlain held)) :
    reading.Follows scene count (fun _ => False) held :=
  of_takes (takes.mono fun _ plain => .plain plain)

theorem mono {reading : Reading Plan} {jumps : Cursor → Prop} {wider : Ending → Prop}
    (follows : reading.Follows scene count jumps held)
    (weaker : ∀ plan : Plan, plan.Fits scene held → plan.Fits scene wider) :
    reading.Follows scene count jumps wider where
  result inside worked :=
    let ⟨reached, fit, passes, lands⟩ := follows.result inside worked
    ⟨reached, weaker _ fit, passes, lands⟩
  onto := follows.onto
  veiled := follows.veiled
  spares := follows.spares

/-- What is read first decides about the jump together with the rest. -/
theorem bind {reading : Reading α} {next : α → Reading Plan} {mid : α → Prop}
    {jumps : α → Cursor → Prop} {whole : Cursor → Prop}
    (first : reading.Takes scene count mid)
    (rest : ∀ value, mid value → (next value).Follows scene more (jumps value) held)
    (same : ∀ {cursor after : Cursor} {value : α},
      reading scene cursor = .ok (value, after) → (jumps value after ↔ whole cursor)) :
    (reading >>= next).Follows scene (count + more) whole held where
  result {cursor after plan} inside worked := by
    rw [bind_apply] at worked
    cases read : reading scene cursor with
    | error error => rw [read] at worked; cases worked
    | ok found =>
        obtain ⟨value, between⟩ := found
        rw [read] at worked
        obtain ⟨rfl, reached, fit⟩ := first.result inside read
        obtain ⟨ended, fit, passes, lands⟩ := (rest value fit).result reached worked
        refine ⟨by simpa [Nat.add_assoc] using ended, fit, ?_, ?_⟩
        · intro stays
          rw [passes fun moves => stays ((same read).mp moves), Cursor.forward_forward]
        · intro moves
          exact lands ((same read).mpr moves)
  onto {cursor code} inside agree := by
    rw [bind_apply, bind_apply, first.onto inside agree]
    cases read : reading scene cursor with
    | error error => rfl
    | ok found =>
        obtain ⟨value, between⟩ := found
        obtain ⟨rfl, reached, fit⟩ := first.result inside read
        exact (rest value fit).onto reached (agree.mono (Nat.le_add_right _ _))
  veiled veil {cursor} inside := by
    rw [bind_apply, bind_apply, first.veiled veil inside]
    cases read : reading scene cursor with
    | error error => rfl
    | ok found =>
        obtain ⟨value, between⟩ := found
        obtain ⟨rfl, reached, fit⟩ := first.result inside read
        exact (rest value fit).veiled veil reached
  spares populated {cursor} inside := by
    rw [bind_apply]
    cases read : reading scene cursor with
    | error error =>
        rintro ⟨⟩
        exact first.spares populated inside read
    | ok found =>
        obtain ⟨value, between⟩ := found
        obtain ⟨rfl, reached, fit⟩ := first.result inside read
        exact (rest value fit).spares populated reached

/-- Whether a reading jumps may be known before it begins. -/
theorem after {reading : Reading α} {next : α → Reading Plan} {mid : α → Prop} {moves : Prop}
    (first : reading.Takes scene count mid)
    (rest : ∀ value, mid value → (next value).Follows scene more (fun _ => moves) held) :
    (reading >>= next).Follows scene (count + more) (fun _ => moves) held :=
  bind first rest fun _ => Iff.rfl

/-- A look at the scene takes no bytes. -/
theorem look {reading : Reading α} {next : α → Reading Plan} {mid : α → Prop} {moves : Prop}
    (first : reading.Takes scene 0 mid)
    (rest : ∀ value, mid value → (next value).Follows scene more (fun _ => moves) held) :
    (reading >>= next).Follows scene more (fun _ => moves) held := by
  simpa using after first rest

/-- A look at the scene, where what is behind the veil makes no difference to what follows. -/
theorem withScene {next : Scene → Reading Plan} {jumps : Cursor → Prop}
    (same : ∀ veil, next (scene.behind veil) = next scene)
    (rest : ∀ here, here = scene → (next here).Follows scene count jumps held) :
    (Reading.scene >>= next).Follows scene count jumps held where
  result := (rest scene rfl).result
  onto := (rest scene rfl).onto
  veiled veil {cursor} inside := by
    show next (scene.behind veil) (scene.behind veil) cursor = next scene scene cursor
    rw [same, (rest scene rfl).veiled veil inside]
  spares := (rest scene rfl).spares

end Follows

theorem here_takes {scene : Scene} : here.Takes scene 0 fun _ => True where
  result inside worked := by
    cases worked
    exact ⟨rfl, inside, trivial⟩
  onto _ _ := rfl
  veiled _ _ _ := rfl
  spares _ _ _ := nofun

theorem instructionStart_takes {scene : Scene} : instructionStart.Takes scene 0 fun _ => True where
  result inside worked := by
    cases worked
    exact ⟨rfl, inside, trivial⟩
  onto _ _ := rfl
  veiled _ _ _ := rfl
  spares _ _ _ := nofun

/-- There is no error exactly for the targets inside the bytecode. -/
theorem jumpError?_eq_none {source : Section} {target : Int} :
    jumpError? source target = none ↔
      (source.codeStart : Int) ≤ target ∧ target < source.codeEnd := by
  unfold jumpError?
  split
  · next outside => simp at outside; simp; omega
  · next inside => simp at inside; simp; omega

theorem jumpError?_ne_entityGone {source : Section} {target : Int} :
    jumpError? source target ≠ some .entityGone := by
  unfold jumpError?
  split <;> simp

/-- A jump ends inside the bytecode. -/
theorem jump_follows {scene : Scene} {held : Ending → Prop} (target : Int) {plan : Plan}
    (fit : plan.Fits scene held) (moves : plan.carriesOn) :
    (do jump target; return plan : Reading Plan).Follows scene 0 (fun _ => True) held where
  result {cursor after found} inside worked := by
    rw [bind_apply] at worked
    unfold jump at worked
    cases error : jumpError? scene.source target with
    | some error' => simp only [error] at worked; cases worked
    | none =>
        obtain ⟨above, below⟩ := jumpError?_eq_none.mp error
        cases moved : cursor.moveTo target.toNat with
        | error error' => simp only [error, moved] at worked; cases worked
        | ok next =>
            simp only [error, moved] at worked
            cases worked
            obtain ⟨-, rfl⟩ := Cursor.moveTo_eq_ok.mp moved
            refine ⟨inside, fit, fun stays => absurd trivial stays, fun _ _ => ⟨moves, ?_⟩⟩
            simp only
            omega
  onto {cursor code} inside agree := by
    rw [bind_apply, bind_apply]
    unfold jump
    cases jumpError? scene.source target with
    | some error => rfl
    | none =>
        simp only [Cursor.moveTo_onto agree.size]
        cases cursor.moveTo target.toNat <;> rfl
  veiled _ _ _ := rfl
  spares _ {cursor} _ := by
    rw [bind_apply]
    unfold jump
    cases strays : jumpError? scene.source target with
    | some error =>
        rintro ⟨⟩
        exact jumpError?_ne_entityGone strays
    | none =>
        cases moved : cursor.moveTo target.toNat with
        | error error =>
            rintro ⟨⟩
            exact cursor.moveTo_ne_entityGone _ moved
        | ok next => rintro ⟨⟩

end Reading

namespace Control

open Reading

variable {scene : Scene} {cursor : Cursor}

/-! ## Returns -/

/-- The return of a base lane whose first script nobody waits for. -/
def comesHome (scene : Scene) : Prop :=
  scene.priority = 0 ∧ scene.lane.script = 0 ∧ scene.lane.onStop? = none

theorem goBack_follows :
    goBack.Follows scene 0 (fun _ => comesHome scene) nothingHeld := by
  refine .look here_takes fun next _ => .withScene (fun _ => rfl) fun here same => ?_
  subst same
  split
  · next ends =>
      have stays : comesHome here = False := by
        simp [comesHome] at ends ⊢
        grind
      rw [stays]
      exact .of_plain (.pure (by simp [Ending.IsPlain]))
  · next goesOn =>
      have moves : comesHome here = True := by
        simp at goesOn
        simp [comesHome, goesOn]
      rw [moves]
      dsimp only
      split
      · next error strays =>
          -- the lane is given up, so that the cursor no longer matters
          exact {
            result := by
              intro cursor after plan inside worked
              cases worked
              exact ⟨inside, .lost _ strays, fun stays => absurd trivial stays, by simp [Plan.isLost]⟩
            onto := by
              intro cursor code inside agree
              rfl
            veiled := by
              intro cells cursor inside
              rfl
            spares := by
              rintro populated cursor inside ⟨⟩ }
      · exact jump_follows _ (.home _) rfl

theorem goBack_prudent : goBack.Gives scene cursor (Plan.IsPrudent False) := by
  refine .past fun next => .past fun here => ?_
  split
  · exact .pure .idle
  · dsimp only
    split
    · exact .pure (.sure (by simp [Effect.isSure]))
    · exact .past fun _ => .pure (.sure (by simp [Effect.isSure]))

/-! ## Calls -/

theorem callee_takes : callee.Takes scene 1 fun _ => True :=
  .byte fun _ => .pure trivial

/-- The priority and the script of a call are those of the byte at the cursor. -/
theorem callee_gives {next : Nat × Nat → Reading Plan} {ends : Plan → Prop}
    (rest : (next ((cursor.peek 0 >>> 5).toNat, (cursor.peek 0 &&& 0x1F).toNat)).Gives scene
      (cursor.forward 1) ends) : (callee >>= next).Gives scene cursor ends := by
  rw [callee, bind_assoc]
  exact .byte rest

theorem call_takes (strength : CallStrength) {target : EntityId} (priority script : Nat)
    (registered : (scene.world.entity? target).isSome) :
    (call strength target priority script).Takes scene 0 (Plan.Fits scene nothingHeld) := by
  refine .withScene (fun _ => rfl) fun here same => ?_
  subst same
  split
  · next entity known =>
      dsimp only
      split
      · exact .ite (fun _ => .pure (.plain (by simp [Effect.isPlain])))
          fun _ => .pure (.plain (by simp))
      · next entry admitted =>
          refine .look token_takes fun caller same => .pure ?_
          subst same
          by_cases waits : strength = .wait
          · simp only [waits, if_true]
            exact .await known admitted
          · simp only [waits, if_false]
            exact .call known admitted
  · next absent =>
      obtain ⟨entity, known⟩ := Option.isSome_iff_exists.mp registered
      exact absurd known (absent entity)

/-- Whether an entity refuses a call, whose priority and script are packed into a byte. -/
def refuses (world : World) (target : EntityId) (packed : UInt8) : Prop :=
  ∃ entity refusal, world.entity? target = some entity ∧
    entity.admission (packed >>> 5).toNat (packed &&& 0x1F).toNat = .error refusal

/-- A call is tried again if it insists and is refused. -/
theorem call_polls (strength : CallStrength) (target : EntityId) (packed : UInt8) :
    (call strength target (packed >>> 5).toNat (packed &&& 0x1F).toNat).Gives scene cursor
      (Plan.IsPrudent (strength ≠ .forget ∧ refuses scene.world target packed)) := by
  refine .withScene ?_
  split
  · next entity known =>
      dsimp only
      split
      · next refusal refused =>
          exact .ite (fun _ => .pure (.sure (by simp [Effect.isSure]))) fun insists =>
            .pure (.retry _ ⟨insists, entity, refusal, known, refused⟩)
      · exact .past fun _ => .pure (.sure (by simp [Effect.isSure]))
  · exact .fail

theorem callEntity_takes (strength : CallStrength) :
    (callEntity strength).Takes scene 2 (Plan.Fits scene nothingHeld) :=
  .byte fun _ => callee_takes.bind fun _ _ => .look (entityAt_takes _) fun _ known =>
    call_takes _ _ _ known

theorem callEntity_polls (strength : CallStrength) :
    (callEntity strength).Gives scene cursor (Plan.IsPrudent (strength ≠ .forget ∧
      refuses scene.world (cursor.peek 0).toNat (cursor.peek 1))) := by
  refine .byte (callee_gives (.bind (entityAt_gives _) fun target named => ?_))
  subst named
  simpa using call_polls strength (cursor.peek 0).toNat (cursor.peek 1)

theorem callMember_takes (strength : CallStrength) :
    (callMember strength).Takes scene 2 (Plan.Fits scene nothingHeld) :=
  .byte fun _ => callee_takes.bind fun _ _ => .look (partyEntity_takes _) fun _ known =>
    call_takes _ _ _ known

theorem callMember_polls (strength : CallStrength) :
    (callMember strength).Gives scene cursor (Plan.IsPrudent (strength ≠ .forget ∧
      ∃ target, partyMember scene.session scene.world (cursor.peek 0) = .ok target ∧
        refuses scene.world target (cursor.peek 1))) := by
  refine .byte (callee_gives (.bind (partyEntity_gives _) fun target named => ?_))
  refine (call_polls strength target (cursor.peek 1)).mono fun plan prudent => prudent.mono ?_
  rintro ⟨insists, refused⟩
  exact ⟨insists, target, named, refused⟩

theorem handOver_takes : handOver.Takes scene 1 (Plan.Fits scene nothingHeld) :=
  callee_takes.bind fun _ _ => .pure (.handOver _ _)

theorem handOver_prudent : handOver.Gives scene cursor (Plan.IsPrudent False) :=
  .past fun _ => .pure .idle

/-! ## Jumps -/

theorem offset_takes (wide : Bool) : (offset wide).Takes scene (wide.toNat + 1) fun _ => True := by
  cases wide with
  | true => exact .word fun _ => .pure trivial
  | false => exact .byte fun _ => .pure trivial

theorem next_fits : (Plan.next []).Fits scene nothingHeld := .plain (by simp)

/-- What follows the offset of a jump takes no more bytes. -/
theorem offset_follows {next : Nat → Reading Plan} {moves : Prop} (wide : Bool)
    (rest : ∀ distance, (next distance).Follows scene 0 (fun _ => moves) nothingHeld) :
    (offset wide >>= next).Follows scene (wide.toNat + 1) (fun _ => moves) nothingHeld := by
  have whole := Follows.after (offset_takes wide) fun distance _ => rest distance
  simpa using whole

theorem jumpForward_follows (wide : Bool) :
    (jumpForward wide).Follows scene (wide.toNat + 1) (fun _ => True) nothingHeld :=
  .look here_takes fun _ _ => offset_follows wide fun _ => jump_follows _ next_fits rfl

theorem jumpForward_prudent (wide : Bool) :
    (jumpForward wide).Gives scene cursor (Plan.IsPrudent False) :=
  .past fun _ => .past fun _ => .past fun _ => .pure .idle

theorem jumpBackward_follows (wide : Bool) :
    (jumpBackward wide).Follows scene (wide.toNat + 1) (fun _ => True) nothingHeld :=
  offset_follows wide fun _ => .look instructionStart_takes fun _ _ => jump_follows _ next_fits rfl

theorem jumpBackward_prudent (wide : Bool) :
    (jumpBackward wide).Gives scene cursor (Plan.IsPrudent False) :=
  .past fun _ => .past fun _ => .past fun _ => .pure .idle

theorem jumpUnless_follows (wide condition : Bool) :
    (jumpUnless wide condition).Follows scene (wide.toNat + 1) (fun _ => condition = false)
      nothingHeld := by
  refine .look here_takes fun _ _ => offset_follows wide fun distance => ?_
  cases condition with
  | true => simpa using Follows.of_plain (.pure (by simp))
  | false => simpa using jump_follows _ next_fits rfl

theorem jumpUnless_prudent (wide condition : Bool) :
    (jumpUnless wide condition).Gives scene cursor (Plan.IsPrudent False) := by
  refine .past fun _ => .past fun _ => ?_
  cases condition with
  | true => exact .pure .idle
  | false => exact .past fun _ => .pure .idle

/-- A conditional jump is taken exactly when its condition fails. -/
theorem unless_follows {condition : Reading Bool} {count : Nat} (wide : Bool)
    (taken : condition.Takes scene count fun _ => True) :
    (condition >>= jumpUnless wide).Follows scene (count + (wide.toNat + 1))
      (fun cursor => ∃ after, condition scene cursor = .ok (false, after)) nothingHeld := by
  refine .bind taken (fun verdict _ => jumpUnless_follows wide verdict) ?_
  intro cursor after verdict read
  simp [read]

theorem unless_prudent {condition : Reading Bool} (wide : Bool) :
    (condition >>= jumpUnless wide).Gives scene cursor (Plan.IsPrudent False) :=
  .past fun verdict => jumpUnless_prudent wide verdict

/-! ## Conditions -/

/-- The verdict of a comparison. -/
def comparison (width : Width) : Reading Bool := do
  let (a, b) ← sides width (← selectors)
  let kind ← byte
  match Comparison.ofByte? kind with
  | none => invalid "comparison" kind.toUInt32
  | some comparison => return comparison.test a b

/-- Whether one of some buttons is in a set of buttons. -/
def keysAmong (buttons : Keys → Buttons) : Reading Bool := do
  let mask := (← word) &&& knownButtons
  return buttons (← Reading.scene).world.keys &&& mask ≠ 0

/-- Whether a character is in the party. -/
def inParty : Reading Bool := do
  let character ← byte
  return (← session).party.contains character

/-- Whether the party switcher offers a character. -/
def available : Reading Bool := do
  let character ← byte
  return (← session).party.isAvailable character

theorem compare_eq (width : Width) (wide : Bool) :
    compare width wide = comparison width >>= jumpUnless wide := by
  simp only [compare, comparison, bind_assoc]
  congr; funext selectors
  congr; funext sides
  congr; funext kind
  cases Comparison.ofByte? kind <;> rfl

theorem compareKeys_eq (buttons : Keys → Buttons) :
    compareKeys buttons = keysAmong buttons >>= jumpUnless false := by
  simp only [compareKeys, keysAmong, bind_assoc, pure_bind]

theorem compareParty_eq : compareParty = inParty >>= jumpUnless false := by
  simp only [compareParty, inParty, bind_assoc, pure_bind]

theorem compareAvailable_eq : compareAvailable = available >>= jumpUnless false := by
  simp only [compareAvailable, available, bind_assoc, pure_bind]

/-- How many bytes one side of a comparison takes. -/
def Width.bytes : Width → Nat
  | .byte => 1
  | .signedWord | .word => 2

theorem sides_takes (width : Width) (selectors : Selectors) :
    (sides width selectors).Takes scene (2 * width.bytes) fun _ => True := by
  cases width with
  | byte =>
      exact .byte fun _ => .byte fun _ => .loadByte fun _ => .loadByte fun _ => .pure trivial
  | signedWord =>
      exact .signed fun _ => .signed fun _ => .loadCoordinate fun _ => .loadCoordinate fun _ =>
        .pure trivial
  | word => exact .word fun _ => .word fun _ => .load fun _ => .load fun _ => .pure trivial

theorem comparison_takes (width : Width) :
    (comparison width).Takes scene (2 * width.bytes + 1 + 1) fun _ => True := by
  refine .selectors fun _ => (sides_takes width _).bind fun _ _ => .byte fun _ => ?_
  split
  · exact .invalid
  · exact .pure trivial

theorem keysAmong_takes (buttons : Keys → Buttons) :
    (keysAmong buttons).Takes scene 2 fun _ => True :=
  .word fun _ => .withScene (fun _ => rfl) fun _ _ => .pure trivial

theorem inParty_takes : inParty.Takes scene 1 fun _ => True :=
  .byte fun _ => .withSession (fun _ => rfl) fun _ _ => .pure trivial

theorem available_takes : available.Takes scene 1 fun _ => True :=
  .byte fun _ => .withSession (fun _ => rfl) fun _ _ => .pure trivial

/-! ## Waiting -/

theorem wait_takes : wait.Takes scene 2 (Plan.IsPlain nothingHeld) :=
  .word fun _ => .withScene (fun _ => rfl) fun _ _ => .ite (fun _ => .pure (by simp)) fun _ =>
    .pure (by simp)

/-- A wait is tried again until it has been retried as often as it says. -/
theorem wait_polls :
    wait.Gives scene cursor (Plan.IsPrudent
      (∃ frames after, cursor.word = .ok (frames, after) ∧
        scene.lane.retries < frames.toUInt32)) :=
  .both fun frames after read => .withScene <| .ite (fun _ => .pure .idle) fun counting =>
    .pure (.retry [] ⟨frames, after, read, UInt32.not_le.mp counting⟩)

theorem nothing_takes : nothing.Takes scene 0 (Plan.IsPlain nothingHeld) := .pure (by simp)

theorem nothing_prudent : nothing.Gives scene cursor (Plan.IsPrudent False) :=
  .pure .idle

end Control

end FieldMachine
