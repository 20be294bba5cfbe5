import FieldMachine.Proofs.Prudence
import FieldMachine.Instruction.Movement

/-!
# Operands and effects of the placing, walking and turning instructions

A walk, a jump and a climb may leave a rest of themselves, and the rest of each
is of its own kind.
-/

namespace FieldMachine.Movement

set_option autoImplicit false

open Reading

variable {scene : Scene} {cursor : Cursor}

/-! ## Identity -/

theorem playCharacter_takes : playCharacter.Takes scene 1 (Plan.Fits scene nothingHeld) := by
  refine .byte fun _ => .look (changeSelf_takes _) fun effects spared =>
    .withSession (fun _ => rfl) fun _ _ => .ite (fun _ => ?_) fun _ => ?_
  · exact .withScene (fun _ => rfl) fun _ same => .pure (.lead spared fun populated => same ▸ populated)
  · exact .pure (.plain (by simpa using spared))

theorem playCharacter_prudent :
    playCharacter.Gives scene cursor (Plan.IsPrudent False) := by
  refine .past fun _ => .bind (changeSelf_gives _) fun effects sure => .past fun _ =>
    .ite (fun _ => .past fun _ => .pure (.sure ?_)) fun _ => .pure (.sure sure)
  rw [List.forall_mem_append]
  exact ⟨sure, by simp [Effect.isSure]⟩

theorem setModel_takes : setModel.Takes scene 1 (Plan.IsPlain nothingHeld) :=
  .byte fun _ => .look (changeSelf_takes _) fun _ spared => .pure (by simpa using spared)

theorem setModel_prudent : setModel.Gives scene cursor (Plan.IsPrudent False) :=
  .past fun _ => .changeSelf

theorem setPlayer_takes : setPlayer.Takes scene 1 (Plan.Fits scene nothingHeld) :=
  .byte fun _ => .look (entityAt_takes _) fun _ known =>
    .pure (@Plan.Fits.lead _ _ [] _ (by simp) fun _ => known)

theorem setPlayer_prudent : setPlayer.Gives scene cursor (Plan.IsPrudent False) :=
  .past fun _ => .past fun _ => .pure (.sure (by simp [Effect.isSure]))

theorem setFlag_takes (flag : ActorFlag) {read : Reading Bool}
    (taken : read.Takes scene 1 fun _ => True) :
    (setFlag flag read).Takes scene 1 (Plan.IsPlain nothingHeld) :=
  taken.bind fun _ _ => .look (changeSelf_takes _) fun _ spared => .pure (by simpa using spared)

theorem setFlag_prudent (flag : ActorFlag) (read : Reading Bool) :
    (setFlag flag read).Gives scene cursor (Plan.IsPrudent False) :=
  .past fun _ => .changeSelf

theorem allowControl_takes : allowControl.Takes scene 1 (Plan.IsPlain nothingHeld) :=
  .inverseSwitch fun _ => .pure (by simp [Effect.isPlain])

theorem allowControl_prudent : allowControl.Gives scene cursor (Plan.IsPrudent False) :=
  .past fun _ => .pure (.sure (by simp [Effect.isSure]))

theorem lockTriangle_takes : lockTriangle.Takes scene 3 (Plan.IsPlain nothingHeld) :=
  .word fun _ => .switch fun _ => .pure (by simp [Effect.isPlain])

theorem lockTriangle_prudent : lockTriangle.Gives scene cursor (Plan.IsPrudent False) :=
  .past fun _ => .past fun _ => .pure (.sure (by simp [Effect.isSure]))

/-! ## Places -/

theorem placeAt_takes (x y : Int32) (z : Option Int32) (hint : UInt16) :
    (placeAt x y z hint).Takes scene 0 fun _ => True :=
  .look senses_takes fun _ _ => .look self_takes fun _ _ => .pure trivial

theorem place_takes : place.Takes scene 10 (Plan.IsPlain nothingHeld) :=
  .selectors fun _ => .selectors fun _ => .signed fun _ => .signed fun _ => .signed fun _ =>
    .word fun _ => .loadCoordinate fun _ => .loadCoordinate fun _ => .loadCoordinate fun _ =>
      .load fun _ =>
        .look (changeSelf_takes _) fun _ spared => .pure (by simpa using spared)

theorem place_prudent : place.Gives scene cursor (Plan.IsPrudent False) :=
  .past fun _ => .past fun _ => .past fun _ => .past fun _ => .past fun _ => .past fun _ => .past
    fun _ => .past fun _ => .past fun _ => .past fun _ => .changeSelf

theorem placeOnTriangle_takes : placeOnTriangle.Takes scene 8 (Plan.IsPlain nothingHeld) :=
  .selectors fun _ => .selectors fun _ => .signed fun _ => .signed fun _ => .word fun _ =>
    .loadCoordinate fun _ => .loadCoordinate fun _ => .load fun _ =>
      .look senses_takes fun _ _ => .look self_takes fun _ _ =>
        .look (changeSelf_takes _) fun _ spared => .pure (by simpa using spared)

theorem placeOnTriangle_prudent : placeOnTriangle.Gives scene cursor (Plan.IsPrudent False) :=
  .past fun _ => .past fun _ => .past fun _ => .past fun _ => .past fun _ => .past fun _ => .past
    fun _ => .past fun _ => .past fun _ => .past fun _ => .changeSelf

theorem placeInSpace_takes : placeInSpace.Takes scene 8 (Plan.IsPlain nothingHeld) :=
  .selectors fun _ => .selectors fun _ => .signed fun _ => .signed fun _ => .signed fun _ =>
    .loadCoordinate fun _ => .loadCoordinate fun _ => .loadCoordinate fun _ =>
      .look self_takes fun _ _ => .look (placeAt_takes _ _ _ _) fun _ _ =>
        .look (changeSelf_takes _) fun _ spared => .pure (by simpa using spared)

theorem placeInSpace_prudent : placeInSpace.Gives scene cursor (Plan.IsPrudent False) :=
  .past fun _ => .past fun _ => .past fun _ => .past fun _ => .past fun _ => .past fun _ => .past
    fun _ => .past fun _ => .past fun _ => .past fun _ => .changeSelf

theorem storePlace_takes : storePlace.Takes scene 7 (Plan.IsPlain nothingHeld) :=
  .selectors fun _ => .selectors fun _ => .byte fun _ => .byte fun _ => .byte fun _ =>
    .byte fun _ => .byte fun _ => .look (actorAt_takes _) fun _ _ =>
      .pure (by simp [Effect.isPlain])

theorem storePlace_stores : storePlace.Gives scene cursor (Plan.Stores (cursor.cells 3 4)) :=
  .selectors <| .selectors <| .byte <| .byte <| .byte <| .byte <| .byte <|
    .past fun _ =>
      .pure ⟨[⟨_, _, _⟩, ⟨_, _, _⟩, ⟨_, _, _⟩, ⟨_, _, _⟩],
        by rfl, rfl⟩

theorem storeGround_takes : storeGround.Takes scene 4 (Plan.IsPlain nothingHeld) :=
  .selectors fun _ => .byte fun _ => .byte fun _ => .byte fun _ =>
    .look (actorAt_takes _) fun _ _ => .pure (by simp [Effect.isPlain])

theorem storeGround_stores : storeGround.Gives scene cursor (Plan.Stores (cursor.cells 2 2)) :=
  .selectors <| .byte <| .byte <| .byte <| .past fun _ =>
    .pure ⟨[⟨_, _, _⟩, ⟨_, _, _⟩],
      by rfl, rfl⟩

theorem storeTriangle_takes : storeTriangle.Takes scene 3 (Plan.IsPlain nothingHeld) :=
  .selectors fun _ => .byte fun _ => .byte fun _ =>
    .look (actorAt_takes _) fun _ _ => .pure (by simp [Effect.isPlain])

theorem storeTriangle_prudent : storeTriangle.Gives scene cursor (Plan.IsPrudent False) :=
  .past fun _ => .past fun _ => .past fun _ => .past fun _ => .pure (.store _ _ _)

theorem storeDirection_takes : storeDirection.Takes scene 3 (Plan.IsPlain nothingHeld) :=
  .selectors fun _ => .byte fun _ => .byte fun _ =>
    .look (actorAt_takes _) fun _ _ => .pure (by simp [Effect.isPlain])

theorem storeDirection_prudent : storeDirection.Gives scene cursor (Plan.IsPrudent False) :=
  .past fun _ => .past fun _ => .past fun _ => .past fun _ => .pure (.store _ _ _)

/-! ## Walking -/

theorem loopedAnimation_takes (id : UInt8) :
    (loopedAnimation id).Takes scene 0 fun _ => True :=
  .look senses_takes fun _ _ => .look self_takes fun _ _ => .pure trivial

theorem arrive_takes (goal : MoveGoal) (style : MoveStyle) :
    (arrive goal style).Takes scene 0 fun effects => ∀ effect ∈ effects, effect.isPlain := by
  have placed (point : Point) (hint : UInt16) :
      ((fun change => [change]) <$> placeAt point.x point.y none hint).Takes scene 0
        fun _ => True :=
    (placeAt_takes _ _ _ _).map fun _ _ => trivial
  have animated (id : UInt8) :
      ((fun animation => [ActorChange.animate animation]) <$> loopedAnimation id).Takes scene 0
        fun _ => True :=
    (loopedAnimation_takes _).map fun _ _ => trivial
  have none (kept : List ActorChange) :
      (pure kept : Reading (List ActorChange)).Takes scene 0 fun _ => True := .pure trivial
  refine .look self_takes fun actor _ => ?_
  cases goal with
  | point point =>
      refine .look (placed _ _) fun _ _ => ?_
      cases style with
      | walk => exact .look (animated _) fun _ _ => changeSelf_takes _
      | _ => exact .look (none _) fun _ _ => changeSelf_takes _
  | entity target =>
      refine .look (none _) fun _ _ => ?_
      cases style with
      | walk => exact .look (animated _) fun _ _ => changeSelf_takes _
      | _ => exact .look (none _) fun _ _ => changeSelf_takes _

theorem arrive_gives (goal : MoveGoal) (style : MoveStyle) :
    (arrive goal style).Gives scene cursor fun effects => ∀ effect ∈ effects, effect.isSure := by
  refine .past fun _ => ?_
  cases goal <;> cases style <;> exact .past fun _ => .past fun _ => changeSelf_gives _

theorem walkOn_takes (style : MoveStyle) (way next : Point) (triangle : UInt16) :
    (walkOn style way next triangle).Takes scene 0 fun effects =>
      ∀ effect ∈ effects, effect.isPlain :=
  .look self_takes fun _ _ => .look senses_takes fun _ _ => changeSelf_takes _

theorem walkOn_gives (style : MoveStyle) (way next : Point) (triangle : UInt16) :
    (walkOn style way next triangle).Gives scene cursor fun effects =>
      ∀ effect ∈ effects, effect.isSure :=
  .past fun _ => .past fun _ => changeSelf_gives _

/-- What is left of a walk is the same walk. -/
theorem walk_takes (goal : MoveGoal) (style : MoveStyle) :
    (walk goal style).Takes scene 0 (Plan.IsPlain (leaving (· = .move goal style))) := by
  refine .withScene (fun _ => rfl) fun here _ => ?_
  split
  · exact .pure (by simp)
  · refine .look self_takes fun _ _ => .ite (fun _ => ?_) fun _ => ?_
    · exact .look (arrive_takes _ _) fun _ spared => .pure (by simpa using spared)
    · dsimp only
      split
      · exact .pure (by simp [Ending.IsPlain, leaving])
      · exact .look (walkOn_takes _ _ _ _) fun _ spared => .pure ⟨spared, _, rfl, rfl⟩

theorem walk_prudent (goal : MoveGoal) (style : MoveStyle) :
    (walk goal style).Gives scene cursor (Plan.IsPrudent False) := by
  refine .past fun here => ?_
  split
  · exact .pure .idle
  · refine .past fun actor => .ite (fun _ => ?_) fun _ => ?_
    · exact .bind (arrive_gives goal style) fun _ sure => .pure (.sure sure)
    · dsimp only
      split
      · exact .pure .idle
      · exact .bind (walkOn_gives style _ _ _) fun _ sure => .pure (.sure sure)

theorem walkToPoint_takes (style : MoveStyle) :
    (walkToPoint style).Takes scene 5
      (Plan.IsPlain (leaving fun rest => ∃ goal, rest = .move (.point goal) style)) :=
  .selectors fun _ => .signed fun _ => .signed fun _ => .loadCoordinate fun _ =>
    .loadCoordinate fun _ =>
      (walk_takes _ _).mono fun _ plain => plain.mono fun _ ⟨rest, left, same⟩ => ⟨rest, left, _, same⟩

theorem walkToPoint_prudent (style : MoveStyle) :
    (walkToPoint style).Gives scene cursor (Plan.IsPrudent False) :=
  .past fun _ => .past fun _ => .past fun _ => .past fun _ => .past fun _ => walk_prudent _ _

theorem walkToEntity_takes :
    walkToEntity.Takes scene 1
      (Plan.IsPlain (leaving fun rest => ∃ target, rest = .move (.entity target) .walk)) :=
  .byte fun _ => .look (entityAt_takes _) fun _ _ =>
    (walk_takes _ _).mono fun _ plain => plain.mono fun _ ⟨rest, left, same⟩ => ⟨rest, left, _, same⟩

theorem walkToEntity_prudent : walkToEntity.Gives scene cursor (Plan.IsPrudent False) :=
  .past fun _ => .past fun _ => walk_prudent _ _

theorem walkToMember_takes :
    walkToMember.Takes scene 1
      (Plan.IsPlain (leaving fun rest => ∃ target, rest = .move (.entity target) .walk)) :=
  .byte fun _ => .look (partyEntity_takes _) fun _ _ =>
    (walk_takes _ _).mono fun _ plain => plain.mono fun _ ⟨rest, left, same⟩ => ⟨rest, left, _, same⟩

theorem walkToMember_prudent : walkToMember.Gives scene cursor (Plan.IsPrudent False) :=
  .past fun _ => .past fun _ => walk_prudent _ _

/-! ## Jumps and climbs -/

theorem follow_takes (path : Path) (rest : Path → Continuation) :
    (follow path rest).Takes scene 0
      (Plan.IsPlain (leaving fun continuation => ∃ path, continuation = rest path)) := by
  refine .ite (fun _ => ?_) fun _ => ?_
  · exact .look (changeSelf_takes _) fun _ spared => .pure (by simpa using spared)
  · exact .look (changeSelf_takes _) fun _ spared => .pure ⟨spared, _, rfl, _, rfl⟩

/-- One tick of a jump or a climb is carried out for certain. -/
theorem follow_gives (path : Path) (rest : Path → Continuation) :
    (follow path rest).Gives scene cursor fun plan => ∃ effects ending,
      plan = .act effects ending ∧ ∀ effect ∈ effects, effect.isSure := by
  refine .ite (fun _ => ?_) fun _ => ?_
  · exact .bind (changeSelf_gives _) fun _ sure => .pure ⟨_, _, rfl, sure⟩
  · exact .bind (changeSelf_gives _) fun _ sure => .pure ⟨_, _, rfl, sure⟩

theorem follow_prudent (path : Path) (rest : Path → Continuation) :
    (follow path rest).Gives scene cursor (Plan.IsPrudent False) :=
  (follow_gives path rest).mono fun _ ⟨_, _, same, sure⟩ => same ▸ .sure sure

theorem jump_takes :
    jump.Takes scene 10 (Plan.IsPlain (leaving fun rest => ∃ path, rest = .jump path)) :=
  .selectors fun _ => .selectors fun _ => .signed fun _ => .signed fun _ => .word fun _ =>
    .signed fun _ => .loadCoordinate fun _ => .loadCoordinate fun _ => .load fun _ =>
      .loadCoordinate fun _ => .look self_takes fun _ _ => .look senses_takes fun _ _ =>
        follow_takes _ _

theorem jump_prudent : jump.Gives scene cursor (Plan.IsPrudent False) :=
  .past fun _ => .past fun _ => .past fun _ => .past fun _ => .past fun _ => .past fun _ => .past
    fun _ => .past fun _ => .past fun _ => .past fun _ => .past fun _ => .past fun _ =>
    follow_prudent _ _

theorem climb_takes :
    climb.Takes scene 14 (Plan.IsPlain (leaving fun rest => ∃ path, rest = .ladder path)) := by
  refine .selectors fun _ => .selectors fun _ => .signed fun _ => .signed fun _ =>
    .signed fun _ => .word fun _ => .byte fun _ => .byte fun _ => .byte fun _ => .byte fun _ =>
      .loadCoordinate fun _ => .loadCoordinate fun _ => .loadCoordinate fun _ => .load fun _ =>
        .look self_takes fun _ _ => .look (loopedAnimation_takes _) fun _ _ =>
          .look (changeSelf_takes _) fun climbing climbingSpared =>
            .look (follow_takes _ _) fun plan plain => ?_
  cases plan with
  | retry entries => exact .pure (by simp)
  | act effects ending =>
      refine .pure ⟨?_, plain.2⟩
      rw [List.forall_mem_append]
      exact ⟨climbingSpared, plain.1⟩

theorem climb_prudent : climb.Gives scene cursor (Plan.IsPrudent False) := by
  refine .past fun _ => .past fun _ => .past fun _ => .past fun _ => .past fun _ => .past fun _ => .past
    fun _ => .past fun _ => .past fun _ => .past fun _ => .past fun _ => .past fun _ => .past fun
    _ => .past fun _ => .past fun _ => .past fun _ =>
    .bind (changeSelf_gives _) fun climbing climbingSure => .bind (follow_gives _ _) ?_
  rintro _ _ ⟨effects, ending, rfl, sure⟩
  refine .pure (.sure ?_)
  rw [List.forall_mem_append]
  exact ⟨climbingSure, sure⟩

/-! ## Turning -/

theorem turnTo_takes (goal : UInt8) (rotation : Rotation) (steps : UInt8) (smooth : Bool) :
    (turnTo goal rotation steps smooth).Takes scene 0 (Plan.IsPlain nothingHeld) := by
  refine .ite (fun _ => ?_) fun _ => ?_
  · exact .look (changeSelf_takes _) fun _ spared => .pure (by simpa using spared)
  · exact .look self_takes fun _ _ =>
      .look (changeSelf_takes _) fun _ spared => .pure (by simpa using spared)

theorem turnTo_prudent (goal : UInt8) (rotation : Rotation) (steps : UInt8) (smooth : Bool) :
    (turnTo goal rotation steps smooth).Gives scene cursor (Plan.IsPrudent False) :=
  .ite (fun _ => .changeSelf) fun _ => .past fun _ => .changeSelf

theorem directionTo_takes {id : EntityId} (known : (scene.world.entity? id).isSome) :
    (directionTo id).Takes scene 0 fun _ => True :=
  .look (actorOf_takes fun _ => known) fun _ _ => .look self_takes fun _ _ => .pure trivial

theorem turnToEntity_takes : turnToEntity.Takes scene 3 (Plan.IsPlain nothingHeld) :=
  .byte fun _ => .byte fun _ => .byte fun _ => .look (entityAt_takes _) fun _ known =>
    .look (directionTo_takes known) fun _ _ => turnTo_takes _ _ _ _

theorem turnToEntity_prudent : turnToEntity.Gives scene cursor (Plan.IsPrudent False) :=
  .past fun _ => .past fun _ => .past fun _ => .past fun _ => .past fun _ => turnTo_prudent _ _ _
    _

theorem turnToMember_takes : turnToMember.Takes scene 3 (Plan.IsPlain nothingHeld) :=
  .byte fun _ => .byte fun _ => .byte fun _ => .look (partyEntity_takes _) fun _ known =>
    .look (directionTo_takes known) fun _ _ => turnTo_takes _ _ _ _

theorem turnToMember_prudent : turnToMember.Gives scene cursor (Plan.IsPrudent False) :=
  .past fun _ => .past fun _ => .past fun _ => .past fun _ => .past fun _ => turnTo_prudent _ _ _
    _

theorem face_takes : face.Takes scene 2 (Plan.IsPlain nothingHeld) :=
  .selectors fun _ => .byte fun _ => .loadByte fun _ => turnTo_takes _ _ _ _

theorem face_prudent : face.Gives scene cursor (Plan.IsPrudent False) :=
  .past fun _ => .past fun _ => .past fun _ => turnTo_prudent _ _ _ _

theorem faceEntity_takes : faceEntity.Takes scene 1 (Plan.IsPlain nothingHeld) :=
  .byte fun _ => .look (entityAt_takes _) fun _ known => .look (directionTo_takes known) fun _ _ =>
    turnTo_takes _ _ _ _

theorem faceEntity_prudent : faceEntity.Gives scene cursor (Plan.IsPrudent False) :=
  .past fun _ => .past fun _ => .past fun _ => turnTo_prudent _ _ _ _

theorem faceMember_takes : faceMember.Takes scene 1 (Plan.IsPlain nothingHeld) :=
  .byte fun _ => .look (partyEntity_takes _) fun _ known => .look (directionTo_takes known) fun _ _ =>
    turnTo_takes _ _ _ _

theorem faceMember_prudent : faceMember.Gives scene cursor (Plan.IsPrudent False) :=
  .past fun _ => .past fun _ => .past fun _ => turnTo_prudent _ _ _ _

theorem turn_takes : turn.Takes scene 5 (Plan.IsPlain nothingHeld) :=
  .selectors fun _ => .byte fun _ => .byte fun _ => .byte fun _ => .byte fun _ =>
    .loadByte fun _ => turnTo_takes _ _ _ _

theorem turn_prudent : turn.Gives scene cursor (Plan.IsPrudent False) :=
  .past fun _ => .past fun _ => .past fun _ => .past fun _ => .past fun _ => .past fun _ =>
    turnTo_prudent _ _ _ _

theorem awaitTurn_takes : awaitTurn.Takes scene 0 (Plan.IsPlain nothingHeld) :=
  .look self_takes fun _ _ => .ite (fun _ => .pure (by simp)) fun _ => .pure (by simp)

/-- The wait for a turn is tried again while the running body turns. -/
theorem awaitTurn_polls :
    awaitTurn.Gives scene cursor (Plan.IsPrudent
      (∃ actor, scene.world.actor? scene.entity = some actor ∧ actor.turn.isSome)) :=
  .bind self_gives fun actor known =>
    .ite (fun turning => .pure (.retry [] ⟨actor, known, turning⟩)) fun _ => .pure .idle

/-! ## Speeds, ranges and offsets -/

theorem loadedWord_takes : loadedWord.Takes scene 3 fun _ => True :=
  .selectors fun _ => .word fun _ => load_takes _ _

theorem loadedByte_takes : loadedByte.Takes scene 2 fun _ => True :=
  .selectors fun _ => .byte fun _ => .loadByte fun _ => .pure trivial

theorem setNumber_takes {read : Reading UInt16} {count : Nat} (change : UInt16 → ActorChange)
    (taken : read.Takes scene count fun _ => True) :
    (setNumber read change).Takes scene count (Plan.IsPlain nothingHeld) :=
  taken.bind fun _ _ => .look (changeSelf_takes _) fun _ spared => .pure (by simpa using spared)

theorem setNumber_prudent (read : Reading UInt16) (change : UInt16 → ActorChange) :
    (setNumber read change).Gives scene cursor (Plan.IsPrudent False) :=
  .past fun _ => .changeSelf

theorem shift_takes : shift.Takes scene 11 (Plan.IsPlain nothingHeld) :=
  .selectors fun _ => .selectors fun _ => .byte fun _ => .signed fun _ => .signed fun _ =>
    .signed fun _ => .word fun _ => .loadSigned fun _ => .loadSigned fun _ =>
      .loadSigned fun _ => .load fun _ => .withScene (fun _ => rfl) fun _ _ =>
        .pure (by simp [Effect.isPlain])

theorem shift_prudent : shift.Gives scene cursor (Plan.IsPrudent False) :=
  .past fun _ => .past fun _ => .past fun _ => .past fun _ => .past fun _ => .past fun _ => .past
    fun _ => .past fun _ => .past fun _ => .past fun _ => .past fun _ => .past fun _ => .pure
    (.sure (by simp [Effect.isSure]))

theorem awaitShift_takes : awaitShift.Takes scene 0 (Plan.IsPlain nothingHeld) :=
  .look self_takes fun _ _ => .ite (fun _ => .pure (by simp)) fun _ => .pure (by simp)

/-- The wait for a shift is tried again while the picture of the running body is moving. -/
theorem awaitShift_polls :
    awaitShift.Gives scene cursor (Plan.IsPrudent
      (∃ actor, scene.world.actor? scene.entity = some actor ∧ actor.offsetMoving)) :=
  .bind self_gives fun actor known =>
    .ite (fun moving => .pure (.retry [] ⟨actor, known, moving⟩)) fun _ => .pure .idle

end FieldMachine.Movement
