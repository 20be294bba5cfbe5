import FieldMachine.Proofs.Outcome

/-!
# Changes of the fade

Two opcodes change the fade of the screen.  Each comes to a plan that is nothing but
one change (`Plan.Fades`): a new fade takes the place of any other, or there is none
any more, and either way the serial is a new one.  All other opcodes leave the fade
alone, and so does what is left of any instruction (`Opcode.fades_or_spares`).
-/

namespace FieldMachine

set_option autoImplicit false

/-! ## Changes of the fade -/

/-- How an instruction changes the fade of the screen. -/
inductive FadeChange
  /-- A fade takes the place of any other. -/
  | begin (color : FadeColor) (start target step : UInt16) (subtractive : Bool)
  | clear
deriving DecidableEq

namespace FadeChange

/-- The fade after a change. -/
def apply (fade : Fade) : FadeChange → Fade
  | begin color start target _ subtractive =>
      let amount := min start fadeFull
      { red := color.red, green := color.green, blue := color.blue, amount, subtractive,
        active := amount ≠ target, serial := fade.serial + 1 }
  | clear => { fade with serial := fade.serial + 1, amount := 0, active := false }

/-- The activity that carries the fade on, unless it is at its target already. -/
def begun? (fade : Fade) : FadeChange → Option Fading
  | begin _ start target step _ =>
      if min start fadeFull ≠ target then
        some { target, step := max step 1, serial := fade.serial + 1 }
      else none
  | clear => none

theorem serial_apply (change : FadeChange) (fade : Fade) :
    (change.apply fade).serial = fade.serial + 1 := by
  cases change <;> rfl

end FadeChange

/-- The change of the fade that an effect makes. -/
def Effect.fadeChange? : Effect → Option FadeChange
  | .fade color start target step subtractive => some (.begin color start target step subtractive)
  | .clearFade => some .clear
  | _ => none

/-- The changes of the fade that a plan makes. -/
def Plan.fadeChanges : Plan → List FadeChange
  | .retry _ => []
  | .act effects _ => effects.filterMap Effect.fadeChange?

/-! ## Which opcodes change the fade -/

/-- Whether an effect leaves the fade alone. -/
def Effect.sparesFade (effect : Effect) : Bool := effect.fadeChange?.isNone

/-- Whether a plan leaves the fade alone. -/
def Plan.sparesFade : Plan → Bool
  | .retry _ => true
  | .act effects _ => effects.all Effect.sparesFade

theorem Plan.fadeChange?_of_sparesFade {effects : List Effect} {ending : Ending}
    (spares : (Plan.act effects ending).sparesFade) :
    ∀ effect ∈ effects, effect.fadeChange? = none := fun effect among =>
  Option.isNone_iff_eq_none.mp (List.all_eq_true.mp spares effect among)

theorem Plan.fadeChanges_of_sparesFade {plan : Plan} (spares : plan.sparesFade) :
    plan.fadeChanges = [] := by
  cases plan with
  | retry entries => rfl
  | act effects ending => exact List.filterMap_eq_nil_iff.mpr (fadeChange?_of_sparesFade spares)

/-- Effects that leave the fade alone, one after the other. -/
theorem Effect.sparesFade_append {first second : List Effect} (spares : first.all sparesFade)
    (others : second.all sparesFade) : (first ++ second).all sparesFade := by
  rw [List.all_append, spares, others]
  rfl

section Handlers

open Reading

variable {scene : Scene} {cursor : Cursor}

/-- Some effects that are the same but for what they concern. -/
theorem Effect.sparesFade_map {α : Type} {effect : α → Effect} (items : List α)
    (spares : ∀ item, (effect item).sparesFade) : (items.map effect).all sparesFade := by
  rw [List.all_map, List.all_eq_true]
  exact fun item _ => spares item

theorem changeSelf_sparesFade (changes : List ActorChange) :
    (changeSelf changes).Gives scene cursor (·.all Effect.sparesFade) :=
  .past fun _ => .pure (Effect.sparesFade_map changes fun _ => rfl)

theorem Dialogue.changeWindow_sparesFade (id : UInt8) (changes : List WindowChange) :
    (changeWindow id changes).Gives scene cursor (·.all Effect.sparesFade) :=
  .past fun _ => .pure (Effect.sparesFade_map changes fun _ => rfl)

theorem Dialogue.closeWindow_sparesFade (reset : Bool) :
    (closeWindow reset).Gives scene cursor (·.sparesFade) :=
  .past fun _ => .bind (changeWindow_sparesFade _ _) fun _ spares =>
    .pure (Effect.sparesFade_append spares rfl)

theorem Arithmetic.storeResult_sparesFade (selector address : UInt8) (result : Option UInt16) :
    (storeResult selector address result).sparesFade := by
  cases result <;> rfl

/-- Operations write at most one cell. -/
theorem Arithmetic.binary_sparesFade (width : Width) (operation : Operation) :
    (binary width operation).Gives scene cursor (·.sparesFade) :=
  .past fun _ => .past fun _ => .past fun _ => .past fun _ => .past fun _ =>
    .pure (storeResult_sparesFade _ _ _)

theorem Arithmetic.unary_sparesFade (width : Width) (operation : Operation) :
    (unary width operation).Gives scene cursor (·.sparesFade) :=
  .past fun _ => .past fun _ => .past fun _ => .pure (storeResult_sparesFade _ _ _)

/-- A conditional jump does nothing else. -/
theorem Control.unless_sparesFade {condition : Reading Bool} (wide : Bool) :
    (condition >>= jumpUnless wide).Gives scene cursor (·.sparesFade) :=
  .past fun _ => .past fun _ => .past fun _ => .ite (fun _ => .past fun _ => .pure rfl) fun _ =>
    .pure rfl

theorem Control.call_sparesFade (strength : CallStrength) (target : EntityId)
    (priority script : Nat) :
    (call strength target priority script).Gives scene cursor (·.sparesFade) := by
  refine .past fun _ => ?_
  split
  · dsimp only
    split
    · exact .ite (fun _ => .pure rfl) fun _ => .pure rfl
    · exact .past fun _ => .pure rfl
  · exact .fail

namespace Movement

theorem playCharacter_sparesFade : playCharacter.Gives scene cursor (·.sparesFade) :=
  .past fun _ => .bind (changeSelf_sparesFade _) fun _ spares => .past fun _ =>
    .ite (fun _ => .past fun _ => .pure (Effect.sparesFade_append spares rfl)) fun _ => .pure spares

theorem arrive_sparesFade (goal : MoveGoal) (style : MoveStyle) :
    (arrive goal style).Gives scene cursor (·.all Effect.sparesFade) := by
  refine .past fun _ => ?_
  cases goal <;> cases style <;> exact .past fun _ => .past fun _ => changeSelf_sparesFade _

theorem walkOn_sparesFade (style : MoveStyle) (way next : Point) (triangle : UInt16) :
    (walkOn style way next triangle).Gives scene cursor (·.all Effect.sparesFade) :=
  .past fun _ => .past fun _ => changeSelf_sparesFade _

theorem walk_sparesFade (goal : MoveGoal) (style : MoveStyle) :
    (walk goal style).Gives scene cursor (·.sparesFade) := by
  refine .past fun _ => ?_
  split
  · exact .pure rfl
  · refine .past fun _ => .ite
      (fun _ => .bind (arrive_sparesFade goal style) fun _ spares => .pure spares) fun _ => ?_
    dsimp only
    split
    · exact .pure rfl
    · exact .bind (walkOn_sparesFade style _ _ _) fun _ spares => .pure spares

theorem follow_sparesFade (path : Path) (rest : Path → Continuation) :
    (follow path rest).Gives scene cursor (·.sparesFade) :=
  .ite (fun _ => .bind (changeSelf_sparesFade _) fun _ spares => .pure spares) fun _ =>
    .bind (changeSelf_sparesFade _) fun _ spares => .pure spares

theorem climb_sparesFade : climb.Gives scene cursor (·.sparesFade) := by
  refine .past fun _ => .past fun _ => .past fun _ => .past fun _ => .past fun _ => .past fun _ =>
    .past fun _ => .past fun _ => .past fun _ => .past fun _ => .past fun _ => .past fun _ =>
      .past fun _ => .past fun _ => .past fun _ => .past fun _ =>
        .bind (changeSelf_sparesFade _) fun climbing spares =>
          .bind (follow_sparesFade _ _) fun plan others => ?_
  cases plan with
  | retry entries => exact .pure rfl
  | act effects ending => exact .pure (Effect.sparesFade_append spares others)

theorem turnTo_sparesFade (goal : UInt8) (rotation : Rotation) (steps : UInt8) (smooth : Bool) :
    (turnTo goal rotation steps smooth).Gives scene cursor (·.sparesFade) :=
  .ite (fun _ => .bind (changeSelf_sparesFade _) fun _ spares => .pure spares) fun _ =>
    .past fun _ => .bind (changeSelf_sparesFade _) fun _ spares => .pure spares

end Movement

theorem Acting.playFrames_sparesFade (id : UInt8) (first last : UInt16) (speed : UInt8)
    (returnToIdle wait : Bool) :
    (playFrames id first last speed returnToIdle wait).Gives scene cursor (·.sparesFade) :=
  .bind (changeSelf_sparesFade _) fun _ spares => .pure spares

theorem Company.walkTogether_sparesFade {first : List Effect} (walks : List Walk)
    (frames : UInt16) (spares : first.all Effect.sparesFade) :
    (walkTogether first walks frames).Gives scene cursor (·.sparesFade) :=
  .past fun _ => .pure (Effect.sparesFade_append spares rfl)

theorem Company.part_sparesFade : part.Gives scene cursor (·.sparesFade) :=
  .past fun _ => .past fun _ => .past fun _ => .past fun _ => .past fun _ => .past fun _ =>
    .past fun _ => .past fun _ => .past fun _ => .past fun _ => .past fun _ => .past fun _ =>
      .past fun _ => .past fun _ => .past fun _ => .past fun _ => .past fun _ => .past fun _ =>
        walkTogether_sparesFade _ _ (by
          rw [List.all_flatMap, List.all_eq_true]
          intro entity among
          rfl)

theorem Acting.awaitEnd_sparesFade : awaitEnd.Gives scene cursor (·.sparesFade) :=
  .past fun _ => .ite (fun _ => .pure rfl) fun _ => .pure rfl

/-- The rest of an instruction leaves the fade alone. -/
theorem Continuation.sparesFade (continuation : Continuation) :
    continuation.plan.Gives scene cursor (·.sparesFade) := by
  cases continuation with
  | move goal style => exact Movement.walk_sparesFade goal style
  | jump path => exact Movement.follow_sparesFade path .jump
  | ladder path => exact Movement.follow_sparesFade path .ladder
  | animation => exact Acting.awaitEnd_sparesFade

/-- The opcodes that change the fade. -/
def Opcode.faders : List Opcode := [.fade, .nfade]

/-- Every other opcode leaves the fade alone, from wherever it is read. -/
theorem Opcode.sparesFade (op : Opcode) (scene : Scene) (cursor : Cursor) {reading : Reading Plan}
    (known : op.plan? = some reading) (other : op ∉ faders) :
    reading.Gives scene cursor (·.sparesFade) := by
  cases op with
  | fade | nfade => exact absurd (by decide) other
  | special | bgmovie | kawai | kawiw | slip | gwcol | swcol | vwoft | setx | getx | searchx
  | line | sline | mppal | cppal2 | rtpal2 | adpal2 | chmph | cmusc => cases known
  | wcls | wclse =>
      cases known
      exact Dialogue.closeWindow_sparesFade _
  | pc =>
      cases known
      exact Movement.playCharacter_sparesFade
  | lader =>
      cases known
      exact Movement.climb_sparesFade
  | req | reqsw | reqew | preq | prqsw | prqew =>
      cases known
      exact .past fun _ => .past fun _ => .past fun _ => Control.call_sparesFade _ _ _ _
  | ifub | ifubl | ifsw | ifswl | ifuw | ifuwl =>
      cases known
      exact Control.compare_eq _ _ ▸ Control.unless_sparesFade _
  | ifkey | ifkeyon | ifkeyoff =>
      cases known
      exact Control.compareKeys_eq _ ▸ Control.unless_sparesFade _
  | plusSat | minusSat | setbyte | plus | minus | mul | div | mod | and | or | xor | lbyte
  | plus2Sat | minus2Sat | setword | plus2 | minus2 | mul2 | div2 | mod2 | and2 | or2 | xor2
  | hbyte =>
      cases known
      exact Arithmetic.binary_sparesFade _ _
  | incSat | decSat | inc | dec | inc2Sat | dec2Sat | inc2 | dec2 =>
      cases known
      exact Arithmetic.unary_sparesFade _ _
  | animb =>
      cases known
      exact .bind (changeSelf_sparesFade _) fun _ spares => .pure spares
  | split =>
      cases known
      exact Company.part_sparesFade
  | _ =>
      cases known
      -- The other handlers are followed branch by branch.
      repeat' first
        | with_reducible refine .bind (changeSelf_sparesFade _) fun _ spares => ?_
        | with_reducible refine .bind (Dialogue.changeWindow_sparesFade _ _) fun _ spares => ?_
        | with_reducible exact Movement.walk_sparesFade _ _
        | with_reducible exact Movement.follow_sparesFade _ _
        | with_reducible exact Movement.turnTo_sparesFade _ _ _ _
        | with_reducible exact Acting.playFrames_sparesFade _ _ _ _ _ _
        | with_reducible refine .past fun _ => ?_
        | with_reducible refine .ite (fun _ => ?_) fun _ => ?_
        | with_reducible refine .pure ?_
          first
          | rfl
          | exact spares
        | with_reducible exact .fail
        | with_reducible exact .invalid
        | dsimp only
        | split
        | refine .past fun _ => ?_
        | refine .ite (fun _ => ?_) fun _ => ?_
        | exact .pure rfl

/-- A plan that is nothing but one change of the fade. -/
def Plan.Fades (change : FadeChange) (plan : Plan) : Prop :=
  ∃ effect, effect.fadeChange? = some change ∧ plan = .next [effect]

theorem Plan.Fades.fadeChanges {change : FadeChange} {plan : Plan} (fades : plan.Fades change) :
    plan.fadeChanges = [change] := by
  obtain ⟨effect, told, rfl⟩ := fades
  simp [Plan.next, Plan.fadeChanges, told]

theorem Screen.fade_fades :
    Screen.fade.Gives scene cursor fun plan => ∃ change, plan.Fades change :=
  .past fun _ => .past fun _ => .past fun _ => .past fun _ => .past fun _ => .past fun _ =>
    .past fun _ => .past fun _ => .past fun _ => .past fun _ => .past fun _ =>
      .ite (fun _ => .pure ⟨_, _, rfl, rfl⟩) fun _ =>
        .ite (fun _ => .pure ⟨_, _, rfl, rfl⟩) fun _ =>
          .ite (fun _ => .pure ⟨_, _, rfl, rfl⟩) fun _ => .pure ⟨_, _, rfl, rfl⟩

/-- The change of an `NFADE`, whose operands begin at the cursor: unless its kind is zero, a fade from
the present amount, in steps of which as many as it has frames fit in the full amount. -/
theorem Screen.fadeOver_fades :
    Screen.fadeOver.Gives scene cursor fun plan => ∃ color, plan.Fades
      (if cursor.peek 2 = 0 then .clear
        else .begin color scene.world.stage.fade.amount fadeFull
          (max (fadeFull / max (cursor.peek 6).toUInt16 1) 1) (cursor.peek 2 = 12)) := by
  refine .selectors <| .selectors <| .byte <| .byte <| .byte <| .byte <| .byte <| .byte <|
    .past fun red => .past fun green => .past fun blue => ?_
  simp only [Cursor.peek_forward]
  split
  · exact .pure ⟨{}, _, rfl, rfl⟩
  · exact .withStage (.pure ⟨⟨red, green, blue⟩, _, rfl, rfl⟩)

end Handlers

/-- The changes of the fade that an opcode can come to: one, or none. -/
theorem Opcode.fades_or_spares {op : Opcode} {scene : Scene} {cursor after : Cursor}
    {reading : Reading Plan} {plan : Plan} (known : op.plan? = some reading)
    (worked : reading scene cursor = .ok (plan, after)) :
    (op ∈ faders ∧ ∃ change, plan.Fades change) ∨ (op ∉ faders ∧ plan.sparesFade) := by
  by_cases fader : op ∈ faders
  · refine .inl ⟨fader, ?_⟩
    simp only [faders, List.mem_cons, List.not_mem_nil, or_false] at fader
    rcases fader with rfl | rfl
    · cases known
      exact Screen.fade_fades plan after worked
    · cases known
      obtain ⟨color, fades⟩ := Screen.fadeOver_fades plan after worked
      exact ⟨_, fades⟩
  · exact .inr ⟨fader, op.sparesFade scene cursor known fader plan after worked⟩

end FieldMachine
