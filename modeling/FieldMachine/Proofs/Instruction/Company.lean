import FieldMachine.Proofs.Prudence
import FieldMachine.Instruction.Company

/-!
# Operands and effects of the party instructions
-/

namespace FieldMachine.Company

set_option autoImplicit false

open Reading

variable {scene : Scene} {cursor : Cursor}

/-! ## Party slots -/

theorem assignLoaded_takes : assignLoaded.Takes scene 5 (Plan.IsPlain nothingHeld) :=
  .selectors fun _ => .selectors fun _ => .byte fun _ => .byte fun _ => .byte fun _ =>
    .loadByte fun _ => .loadByte fun _ => .loadByte fun _ =>
      .pure (by simp [Effect.isPlain])

theorem assignLoaded_prudent : assignLoaded.Gives scene cursor (Plan.IsPrudent False) :=
  .past fun _ => .past fun _ => .past fun _ => .past fun _ => .past fun _ => .past fun _ => .past
    fun _ => .past fun _ => .pure (.sure (by simp [Effect.isSure]))

theorem assign_takes : assign.Takes scene 3 (Plan.IsPlain nothingHeld) :=
  .byte fun _ => .byte fun _ => .byte fun _ => .pure (by simp [Effect.isPlain])

theorem assign_prudent : assign.Gives scene cursor (Plan.IsPrudent False) :=
  .past fun _ => .past fun _ => .past fun _ => .pure (.sure (by simp [Effect.isSure]))

theorem storeSlots_takes : storeSlots.Takes scene 5 (Plan.IsPlain nothingHeld) :=
  .selectors fun _ => .selectors fun _ => .byte fun _ => .byte fun _ => .byte fun _ =>
    .withSession (fun _ => rfl) fun _ _ => .pure (by simp [Effect.isPlain])

theorem storeSlots_stores : storeSlots.Gives scene cursor (Plan.Stores (cursor.cells 2 3)) :=
  .selectors <| .selectors <| .byte <| .byte <| .byte <| .past fun _ =>
    .pure ⟨[⟨_, _, _⟩, ⟨_, _, _⟩, ⟨_, _, _⟩],
      by rfl, rfl⟩

theorem storeSlot_takes : storeSlot.Takes scene 3 (Plan.IsPlain nothingHeld) :=
  .selectors fun _ => .byte fun _ => .byte fun _ =>
    .withSession (fun _ => rfl) fun _ _ => .pure (by simp [Effect.isPlain])

theorem storeSlot_prudent : storeSlot.Gives scene cursor (Plan.IsPrudent False) :=
  .past fun _ => .past fun _ => .past fun _ => .past fun _ => .pure (.store _ _ _)

theorem add_takes : add.Takes scene 1 (Plan.IsPlain nothingHeld) :=
  .byte fun _ => .withSession (fun _ => rfl) fun _ _ =>
    .pure (by
      rw [Plan.isPlain_next, List.forall_mem_append]
      refine ⟨?_, by simp [Effect.isPlain]⟩
      split <;> simp [Effect.isPlain])

theorem add_prudent : add.Gives scene cursor (Plan.IsPrudent False) :=
  .past fun _ => .past fun _ => .pure (.sure (by
    rw [List.forall_mem_append]
    refine ⟨?_, by simp [Effect.isSure]⟩
    split <;> simp [Effect.isSure]))

theorem remove_takes : remove.Takes scene 1 (Plan.IsPlain nothingHeld) :=
  .byte fun _ => .pure (by simp [Effect.isPlain])

theorem remove_prudent : remove.Gives scene cursor (Plan.IsPrudent False) :=
  .past fun _ => .pure (.sure (by simp [Effect.isSure]))

theorem setAvailable_takes : setAvailable.Takes scene 2 (Plan.IsPlain nothingHeld) :=
  .switch fun _ => .byte fun _ => .pure (by simp [Effect.isPlain])

theorem setAvailable_prudent : setAvailable.Gives scene cursor (Plan.IsPrudent False) :=
  .past fun _ => .past fun _ => .pure (.sure (by simp [Effect.isSure]))

theorem setLocked_takes (on : Bool) : (setLocked on).Takes scene 1 (Plan.IsPlain nothingHeld) :=
  .byte fun _ => .pure (by simp [Effect.isPlain])

theorem setLocked_prudent (on : Bool) : (setLocked on).Gives scene cursor (Plan.IsPrudent False) :=
  .past fun _ => .pure (.sure (by simp [Effect.isSure]))

/-! ## Gil and points -/

theorem changeGil_takes (change : UInt32 → SessionChange) :
    (changeGil change).Takes scene 5 (Plan.IsPlain nothingHeld) :=
  .selectors fun _ => .splitLong fun _ => .pure (by simp [Effect.isPlain])

theorem changeGil_prudent (change : UInt32 → SessionChange) :
    (changeGil change).Gives scene cursor (Plan.IsPrudent False) :=
  .past fun _ => .past fun _ => .pure (.sure (by simp [Effect.isSure]))

theorem storeGil_takes : storeGil.Takes scene 3 (Plan.IsPlain nothingHeld) :=
  .selectors fun _ => .byte fun _ => .byte fun _ =>
    .withSession (fun _ => rfl) fun _ _ => .pure (by simp [Effect.isPlain])

theorem storeGil_stores : storeGil.Gives scene cursor (Plan.Stores (cursor.cells 1 2)) :=
  .selectors <| .byte <| .byte <| .past fun _ =>
    .pure ⟨[⟨_, _, _⟩, ⟨_, _, _⟩],
      by rfl, rfl⟩

theorem change_takes (made : SessionChange) :
    (change made).Takes scene 0 (Plan.IsPlain nothingHeld) :=
  .pure (by simp [Effect.isPlain])

theorem change_prudent (made : SessionChange) :
    (change made).Gives scene cursor (Plan.IsPrudent False) :=
  .pure (.sure (by simp [Effect.isSure]))

theorem changePoints_takes (change : UInt8 → UInt16 → SessionChange) :
    (changePoints change).Takes scene 4 (Plan.IsPlain nothingHeld) := by
  refine .selectors fun _ => .byte fun slot => .word fun _ => .load fun _ =>
    .withSession (fun _ => rfl) fun session _ => ?_
  cases session.party.slot slot.toNat with
  | none => exact .fail
  | some character =>
      exact .ite (fun _ => .invalid) fun _ => .pure (by simp [Effect.isPlain])

theorem changePoints_prudent (change : UInt8 → UInt16 → SessionChange) :
    (changePoints change).Gives scene cursor (Plan.IsPrudent False) := by
  refine .past fun _ => .past fun slot => .past fun _ => .past fun _ => .past fun session => ?_
  cases session.party.slot slot.toNat with
  | none => exact .fail
  | some character =>
      exact .ite (fun _ => .invalid) fun _ => .pure (.sure (by simp [Effect.isSure]))

/-! ## Items and materia -/

theorem changeItem_takes (change : UInt16 → UInt8 → SessionChange) :
    (changeItem change).Takes scene 4 (Plan.IsPlain nothingHeld) :=
  .selectors fun _ => .word fun _ => .byte fun _ => .load fun _ => .loadByte fun _ =>
    .pure (by simp [Effect.isPlain])

theorem changeItem_prudent (change : UInt16 → UInt8 → SessionChange) :
    (changeItem change).Gives scene cursor (Plan.IsPrudent False) :=
  .past fun _ => .past fun _ => .past fun _ => .past fun _ => .past fun _ => .pure (.sure (by
    simp [Effect.isSure]))

theorem storeItemCount_takes : storeItemCount.Takes scene 4 (Plan.IsPlain nothingHeld) :=
  .selectors fun _ => .word fun _ => .byte fun _ => .load fun _ =>
    .withSession (fun _ => rfl) fun _ _ => .pure (by simp [Effect.isPlain])

theorem storeItemCount_prudent : storeItemCount.Gives scene cursor (Plan.IsPrudent False) :=
  .past fun _ => .past fun _ => .past fun _ => .past fun _ => .past fun _ => .pure (.store _ _ _)

theorem materia_takes (selectors : Selectors) :
    (materia selectors).Takes scene 4 fun _ => True :=
  .byte fun _ => .triple fun _ => .loadByte fun _ =>
    .ite (fun _ => .pure trivial) fun _ => .load fun _ => .pure trivial

theorem addMateria_takes : addMateria.Takes scene 6 (Plan.IsPlain nothingHeld) :=
  .selectors fun _ => .selectors fun _ =>
    (materia_takes _).bind fun _ _ => .pure (by simp [Effect.isPlain])

theorem addMateria_prudent : addMateria.Gives scene cursor (Plan.IsPrudent False) :=
  .past fun _ => .past fun _ => .past fun _ => .pure (.sure (by simp [Effect.isSure]))

theorem dropMateria_takes : dropMateria.Takes scene 7 (Plan.IsPlain nothingHeld) :=
  .selectors fun _ => .selectors fun _ =>
    (materia_takes _).bind fun _ _ => .byte fun _ => .load fun _ =>
      .pure (by simp [Effect.isPlain])

theorem dropMateria_prudent : dropMateria.Gives scene cursor (Plan.IsPrudent False) :=
  .past fun _ => .past fun _ => .past fun _ => .past fun _ => .past fun _ => .pure (.sure (by
    simp [Effect.isSure]))

theorem storeMateriaCount_takes : storeMateriaCount.Takes scene 9 (Plan.IsPlain nothingHeld) :=
  .selectors fun _ => .selectors fun _ => .selectors fun _ =>
    (materia_takes _).bind fun _ _ => .byte fun _ => .byte fun _ =>
      .withSession (fun _ => rfl) fun _ _ => .pure (by simp [Effect.isPlain])

theorem storeMateriaCount_prudent : storeMateriaCount.Gives scene cursor (Plan.IsPrudent False) :=
  .past fun _ => .past fun _ => .past fun _ => .past fun _ => .past fun _ => .past fun _ => .past
    fun _ => .pure (.store _ _ _)

/-! ## Places of party members -/

theorem storePlace_takes : storePlace.Takes scene 7 (Plan.IsPlain nothingHeld) :=
  .selectors fun _ => .selectors fun _ => .byte fun _ => .byte fun _ => .byte fun _ =>
    .byte fun _ => .byte fun _ => .look (partyEntity_takes _) fun _ known =>
      .look (actorOf_takes fun _ => known) fun _ _ => .pure (by simp [Effect.isPlain])

theorem storePlace_stores : storePlace.Gives scene cursor (Plan.Stores (cursor.cells 3 4)) :=
  .selectors <| .selectors <| .byte <| .byte <| .byte <| .byte <| .byte <|
    .past fun _ => .past fun _ =>
      .pure ⟨[⟨_, _, _⟩, ⟨_, _, _⟩, ⟨_, _, _⟩, ⟨_, _, _⟩],
        by rfl, rfl⟩

theorem storeDirection_takes : storeDirection.Takes scene 3 (Plan.IsPlain nothingHeld) :=
  .selectors fun _ => .byte fun _ => .byte fun _ => .look (partyEntity_takes _) fun _ known =>
    .look (actorOf_takes fun _ => known) fun _ _ => .pure (by simp [Effect.isPlain])

theorem storeDirection_prudent : storeDirection.Gives scene cursor (Plan.IsPrudent False) :=
  .past fun _ => .past fun _ => .past fun _ => .past fun _ => .past fun _ => .pure (.store _ _ _)

/-! ## Gathering and parting -/

theorem leaderAndOthers_takes :
    leaderAndOthers.Takes scene 0 fun found => (scene.world.entity? found.1).isSome :=
  .look (partyEntity_takes _) fun _ known => .withScene (fun _ => rfl) fun _ _ => .pure known

theorem walkTogether_takes {first : List Effect} (walks : List Walk) (frames : UInt16)
    (spared : ∀ effect ∈ first, effect.isPlain) :
    (walkTogether first walks frames).Takes scene 0 (Plan.Fits scene nothingHeld) := by
  refine .look token_takes fun token same => .pure ?_
  subst same
  let told := Effect.log (.choreographyStarted scene.entity walks.length frames)
  have all : ∀ effect ∈ first ++ [told], effect.isPlain := by
    rw [List.forall_mem_append]
    exact ⟨spared, by simp [told, Effect.isPlain]⟩
  have dances : Plan.Fits scene nothingHeld (.act ((first ++ [told]) ++
      [.choreography walks frames (scene.lane.token scene.entity scene.priority)])
        (.pause .choreography)) := .dance all
  rw [List.append_assoc] at dances
  exact dances

theorem walkTogether_prudent {first : List Effect} (walks : List Walk) (frames : UInt16)
    (sure : ∀ effect ∈ first, effect.isSure) :
    (walkTogether first walks frames).Gives scene cursor (Plan.IsPrudent False) :=
  .past fun _ => .pure (.sure (by
    rw [List.forall_mem_append]
    exact ⟨sure, by simp [Effect.isSure]⟩))

theorem gather_takes : gather.Takes scene 1 (Plan.Fits scene nothingHeld) :=
  .byte fun _ => .look leaderAndOthers_takes fun _ known => .look (actorOf_takes fun _ => known) fun _ _ =>
    walkTogether_takes _ _ (by simp)

theorem gather_prudent : gather.Gives scene cursor (Plan.IsPrudent False) :=
  .past fun _ => .past fun _ => .past fun _ => walkTogether_prudent _ _ (by simp)

theorem part_takes : part.Takes scene 14 (Plan.Fits scene nothingHeld) :=
  .selectors fun _ => .selectors fun _ => .selectors fun _ => .signed fun _ => .signed fun _ =>
    .byte fun _ => .signed fun _ => .signed fun _ => .byte fun _ => .byte fun _ =>
      .loadCoordinate fun _ => .loadCoordinate fun _ => .loadByte fun _ =>
        .loadCoordinate fun _ => .loadCoordinate fun _ => .loadByte fun _ =>
          .look leaderAndOthers_takes fun _ known => .look (actorOf_takes fun _ => known) fun _ _ =>
            walkTogether_takes _ _ (by
              intro effect member
              obtain ⟨entity, -, member⟩ := List.mem_flatMap.mp member
              simp only [List.mem_cons, List.not_mem_nil, or_false] at member
              rcases member with rfl | rfl <;> rfl)

theorem part_prudent : part.Gives scene cursor (Plan.IsPrudent False) :=
  .past fun _ => .past fun _ => .past fun _ => .past fun _ => .past fun _ => .past fun _ => .past
    fun _ => .past fun _ => .past fun _ => .past fun _ => .past fun _ => .past fun _ => .past fun
    _ => .past fun _ => .past fun _ => .past fun _ => .past fun _ => .past fun _ =>
    walkTogether_prudent _ _ (by
    intro effect member
    obtain ⟨entity, -, member⟩ := List.mem_flatMap.mp member
    simp only [List.mem_cons, List.not_mem_nil, or_false] at member
    rcases member with rfl | rfl <;> rfl)

end FieldMachine.Company
