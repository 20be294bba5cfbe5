import FieldMachine.Proofs.Scratch

/-!
# Readings that take a known number of bytes

Most instructions take the same number of operand bytes on every way through
them.  `Reading.Takes` says so of a reading: whenever it comes to a value, the
cursor has moved on by exactly `count` bytes, all of them inside the code.

It also says that the reading looks at no byte before the cursor.  In another
code of the same size that agrees from the cursor on (`AgreeFrom`), it comes to
the same value or gives up with the same error.  And it never looks behind the
`Veil`: whatever the scratch bank, the budget and the counter of used-up turns
are, the reading comes to the same.  Where the running entity is registered, it
never finds an entity gone that was there when it was looked up.

A reading is built from operands and looks at the scene by `bind`; the rules
below follow it step by step and add up the bytes.
-/

namespace FieldMachine

set_option autoImplicit false

/-! ## Cursors -/

namespace Cursor

/-- The cursor some bytes further on. -/
def forward (cursor : Cursor) (count : Nat) : Cursor := { cursor with pc := cursor.pc + count }

/-- The cursor at the same place of another code. -/
def onto (cursor : Cursor) (code : Array UInt8) : Cursor := { cursor with code }

@[simp] theorem pc_forward (cursor : Cursor) (count : Nat) :
    (cursor.forward count).pc = cursor.pc + count := rfl

@[simp] theorem code_forward (cursor : Cursor) (count : Nat) :
    (cursor.forward count).code = cursor.code := rfl

@[simp] theorem start_forward (cursor : Cursor) (count : Nat) :
    (cursor.forward count).start = cursor.start := rfl

@[simp] theorem pc_onto (cursor : Cursor) (code : Array UInt8) :
    (cursor.onto code).pc = cursor.pc := rfl

@[simp] theorem code_onto (cursor : Cursor) (code : Array UInt8) :
    (cursor.onto code).code = code := rfl

@[simp] theorem forward_forward (cursor : Cursor) (first second : Nat) :
    (cursor.forward first).forward second = cursor.forward (first + second) := by
  simp [forward, Nat.add_assoc]

/-- Stepping over bytes succeeds exactly when they lie inside the code. -/
theorem skip_eq_ok {cursor after : Cursor} {count : Nat} :
    cursor.skip count = .ok after ↔
      cursor.pc + count ≤ cursor.code.size ∧ after = cursor.forward count := by
  unfold skip
  split
  · simp [forward, *, eq_comm]
  · simp [*]

theorem skip_ne_entityGone (cursor : Cursor) (count : Nat) :
    cursor.skip count ≠ .error .entityGone := by
  unfold skip
  split <;> simp

/-- Moving succeeds exactly up to the end of the code. -/
theorem moveTo_eq_ok {cursor after : Cursor} {place : Nat} :
    cursor.moveTo place = .ok after ↔
      place ≤ cursor.code.size ∧ after = { cursor with pc := place } := by
  unfold moveTo
  split
  · simp [*, eq_comm]
  · simp [*]

theorem moveTo_ne_entityGone (cursor : Cursor) (place : Nat) :
    cursor.moveTo place ≠ .error .entityGone := by
  unfold moveTo
  split <;> simp

end Cursor

/-! ## Codes that agree -/

/-- Two codes of one size that agree from a place on. -/
structure AgreeFrom (place : Nat) (first second : Array UInt8) : Prop where
  size : second.size = first.size
  byte : ∀ index, place ≤ index → second[index]? = first[index]?

theorem AgreeFrom.mono {place later : Nat} {first second : Array UInt8}
    (agree : AgreeFrom place first second) (le : place ≤ later) :
    AgreeFrom later first second :=
  ⟨agree.size, fun index reached => agree.byte index (Nat.le_trans le reached)⟩

namespace Cursor

theorem peek_onto {cursor : Cursor} {code : Array UInt8}
    (agree : AgreeFrom cursor.pc cursor.code code) (offset : Nat) :
    (cursor.onto code).peek offset = cursor.peek offset := by
  simp [peek, agree.byte (cursor.pc + offset) (Nat.le_add_right _ _)]

theorem skip_onto {cursor : Cursor} {code : Array UInt8}
    (agree : AgreeFrom cursor.pc cursor.code code) (count : Nat) :
    (cursor.onto code).skip count = (cursor.skip count).map (·.onto code) := by
  by_cases inside : cursor.pc + count ≤ cursor.code.size
  · simp [skip, agree.size, inside, Except.map, onto]
  · simp [skip, agree.size, inside, Except.map]

theorem moveTo_onto {cursor : Cursor} {code : Array UInt8} (size : code.size = cursor.code.size)
    (place : Nat) : (cursor.onto code).moveTo place = (cursor.moveTo place).map (·.onto code) := by
  by_cases inside : place ≤ cursor.code.size
  · simp [moveTo, size, inside, Except.map, onto]
  · simp [moveTo, size, inside, Except.map]

end Cursor

/-! ## Readings -/

/-- Whether the entity that runs is registered. -/
def Scene.IsPopulated (scene : Scene) : Prop := (scene.world.entity? scene.entity).isSome

namespace Reading

variable {α β : Type}

theorem pure_apply (value : α) (scene : Scene) (cursor : Cursor) :
    (pure value : Reading α) scene cursor = .ok (value, cursor) := rfl

theorem bind_apply (reading : Reading α) (next : α → Reading β) (scene : Scene)
    (cursor : Cursor) :
    (reading >>= next) scene cursor =
      (reading scene cursor).bind fun (value, after) => next value scene after := rfl

/-- A reading whose bytes are the `count` bytes behind the cursor, and whose values fit; it does not
look behind the veil, and finds no entity gone. -/
structure Takes (reading : Reading α) (scene : Scene) (count : Nat) (fits : α → Prop) :
    Prop where
  result {cursor after : Cursor} {value : α} (inside : cursor.pc ≤ cursor.code.size)
    (worked : reading scene cursor = .ok (value, after)) :
    after = cursor.forward count ∧ cursor.pc + count ≤ cursor.code.size ∧ fits value
  onto {cursor : Cursor} {code : Array UInt8} (inside : cursor.pc ≤ cursor.code.size)
    (agree : AgreeFrom cursor.pc cursor.code code) :
    reading scene (cursor.onto code) =
      (reading scene cursor).map fun (value, after) => (value, after.onto code)
  veiled (veil : Veil) {cursor : Cursor} (inside : cursor.pc ≤ cursor.code.size) :
    reading (scene.behind veil) cursor = reading scene cursor
  spares (populated : scene.IsPopulated) {cursor : Cursor} (inside : cursor.pc ≤ cursor.code.size) :
    reading scene cursor ≠ .error .entityGone

namespace Takes

variable {scene : Scene} {count more : Nat}

/-! ## Rules -/

section Rules

variable {reading : Reading α} {next : α → Reading β} {fits mid : α → Prop} {ends : β → Prop}

theorem mono (takes : Takes reading scene count mid)
    (weaker : ∀ value, mid value → fits value) : Takes reading scene count fits where
  result inside worked :=
    let ⟨moved, reached, fit⟩ := takes.result inside worked
    ⟨moved, reached, weaker _ fit⟩
  onto := takes.onto
  veiled := takes.veiled
  spares := takes.spares

theorem pure {value : α} (fit : fits value) : Takes (pure value) scene 0 fits where
  result inside worked := by
    rw [pure_apply] at worked
    cases worked
    exact ⟨rfl, inside, fit⟩
  onto _ _ := rfl
  veiled _ _ _ := rfl
  spares _ _ _ := nofun

/-- One reading after the other takes the bytes of both. -/
theorem bind (first : Takes reading scene count mid)
    (rest : ∀ value, mid value → Takes (next value) scene more ends) :
    Takes (reading >>= next) scene (count + more) ends where
  result {cursor after value} inside worked := by
    rw [bind_apply] at worked
    cases read : reading scene cursor with
    | error error => rw [read] at worked; cases worked
    | ok found =>
        obtain ⟨middle, between⟩ := found
        rw [read] at worked
        obtain ⟨rfl, reached, fit⟩ := first.result inside read
        obtain ⟨rfl, ended, fit⟩ := (rest middle fit).result reached worked
        exact ⟨by simp, by simpa [Nat.add_assoc] using ended, fit⟩
  onto {cursor code} inside agree := by
    rw [bind_apply, bind_apply, first.onto inside agree]
    cases read : reading scene cursor with
    | error error => rfl
    | ok found =>
        obtain ⟨middle, between⟩ := found
        obtain ⟨rfl, reached, fit⟩ := first.result inside read
        exact (rest middle fit).onto reached (agree.mono (Nat.le_add_right _ _))
  veiled veil {cursor} inside := by
    rw [bind_apply, bind_apply, first.veiled veil inside]
    cases read : reading scene cursor with
    | error error => rfl
    | ok found =>
        obtain ⟨middle, between⟩ := found
        obtain ⟨rfl, reached, fit⟩ := first.result inside read
        exact (rest middle fit).veiled veil reached
  spares populated {cursor} inside := by
    rw [bind_apply]
    cases read : reading scene cursor with
    | error error =>
        rintro ⟨⟩
        exact first.spares populated inside read
    | ok found =>
        obtain ⟨middle, between⟩ := found
        obtain ⟨rfl, reached, fit⟩ := first.result inside read
        exact (rest middle fit).spares populated reached

theorem map {change : α → β} (takes : Takes reading scene count mid)
    (fit : ∀ value, mid value → ends (change value)) :
    Takes (change <$> reading) scene count ends := by
  rw [← bind_pure_comp]
  exact takes.bind fun value found => .pure (fit value found)

/-- A look at the scene takes no bytes. -/
theorem look (first : Takes reading scene 0 mid)
    (rest : ∀ value, mid value → Takes (next value) scene more ends) :
    Takes (reading >>= next) scene more ends := by
  simpa using first.bind rest

theorem ite {condition : Prop} [Decidable condition] {other : Reading α}
    (yes : condition → Takes reading scene count fits)
    (no : ¬condition → Takes other scene count fits) :
    Takes (if condition then reading else other) scene count fits := by
  split
  · exact yes ‹_›
  · exact no ‹_›

/-- A reading that gives the instruction up, whatever its bytes are. -/
theorem of_error {error : Scene → ExecError}
    (same : ∀ veil, error (scene.behind veil) = error scene)
    (known : scene.IsPopulated → error scene ≠ .entityGone) :
    Takes (fun scene _ => .error (error scene)) scene count fits where
  result _ worked := by cases worked
  onto _ _ := rfl
  veiled veil _ _ := congrArg Except.error (same veil)
  spares populated _ _ gone := known populated (Except.error.inj gone)

theorem fail {error : ExecError}
    (known : scene.IsPopulated → error ≠ .entityGone := by rintro - ⟨⟩) :
    Takes (Reading.fail error) scene count fits :=
  of_error (fun _ => rfl) known

theorem invalid {what : String} {number : UInt32} :
    Takes (Reading.invalid what number) scene count fits :=
  of_error (fun _ => rfl) fun _ => nofun

/-- A value worked out from the bytes that the cursor steps over. -/
theorem of_bytes (value : Cursor → α)
    (same : ∀ {cursor : Cursor} {code : Array UInt8}, AgreeFrom cursor.pc cursor.code code →
      value (cursor.onto code) = value cursor) :
    Takes (fun _ cursor => (cursor.skip count).map (value cursor, ·)) scene count
      fun _ => True where
  result {cursor after found} _ worked := by
    cases moved : cursor.skip count with
    | error error => simp [moved, Except.map] at worked
    | ok next =>
        simp only [moved, Except.map] at worked
        cases worked
        obtain ⟨reached, rfl⟩ := Cursor.skip_eq_ok.mp moved
        exact ⟨rfl, reached, trivial⟩
  onto {cursor code} _ agree := by
    rw [Cursor.skip_onto agree, same agree]
    cases cursor.skip count <;> rfl
  veiled _ _ _ := rfl
  spares _ {cursor} _ gone := by
    cases moved : cursor.skip count with
    | error error =>
        rw [moved] at gone
        cases gone
        exact cursor.skip_ne_entityGone count moved
    | ok next => rw [moved] at gone; cases gone

/-- A look at the scene, where what is behind the veil makes no difference to what follows. -/
theorem withScene {next : Scene → Reading β}
    (same : ∀ veil, next (scene.behind veil) = next scene)
    (rest : ∀ here, here = scene → Takes (next here) scene more ends) :
    Takes (Reading.scene >>= next) scene more ends where
  result := (rest scene rfl).result
  onto := (rest scene rfl).onto
  veiled veil {cursor} inside := by
    show next (scene.behind veil) (scene.behind veil) cursor = next scene scene cursor
    rw [same, (rest scene rfl).veiled veil inside]
  spares := (rest scene rfl).spares

/-- A look at the session, whose scratch bank makes no difference to what follows. -/
theorem withSession {next : Session → Reading β}
    (same : ∀ cells, next (scene.session.withScratch cells) = next scene.session)
    (rest : ∀ here, here = scene.session → Takes (next here) scene more ends) :
    Takes (Reading.session >>= next) scene more ends where
  result := (rest scene.session rfl).result
  onto := (rest scene.session rfl).onto
  veiled veil {cursor} inside := by
    show next (scene.session.withScratch veil.cells) (scene.behind veil) cursor =
      next scene.session scene cursor
    rw [same, (rest scene.session rfl).veiled veil inside]
  spares := (rest scene.session rfl).spares

end Rules

end Takes

/-! ## Operands -/

section Operands

variable {scene : Scene}

theorem byte_takes : byte.Takes scene 1 fun _ => True :=
  .of_bytes (·.peek 0) fun agree => Cursor.peek_onto agree 0

theorem word_takes : word.Takes scene 2 fun _ => True :=
  .of_bytes (fun cursor => (cursor.peek 0).toUInt16 ||| ((cursor.peek 1).toUInt16 <<< 8))
    fun agree => by simp only [Cursor.peek_onto agree]

theorem triple_takes : triple.Takes scene 3 fun _ => True :=
  .of_bytes (fun cursor => (cursor.peek 0).toUInt32 ||| ((cursor.peek 1).toUInt32 <<< 8)
      ||| ((cursor.peek 2).toUInt32 <<< 16))
    fun agree => by simp only [Cursor.peek_onto agree]

theorem long_takes : long.Takes scene 4 fun _ => True :=
  .of_bytes (fun cursor => (cursor.peek 0).toUInt32 ||| ((cursor.peek 1).toUInt32 <<< 8)
      ||| ((cursor.peek 2).toUInt32 <<< 16) ||| ((cursor.peek 3).toUInt32 <<< 24))
    fun agree => by simp only [Cursor.peek_onto agree]

theorem signed_takes : signed.Takes scene 2 fun _ => True := by
  show Takes (word >>= fun value => pure value.toInt16) scene 2 _
  exact word_takes.bind fun _ _ => .pure trivial

theorem selectors_takes : selectors.Takes scene 1 fun _ => True :=
  byte_takes.bind fun _ _ => .pure trivial

theorem switch_takes : switch.Takes scene 1 fun _ => True :=
  byte_takes.bind fun _ _ => .pure trivial

theorem inverseSwitch_takes : inverseSwitch.Takes scene 1 fun _ => True :=
  byte_takes.bind fun _ _ => .pure trivial

end Operands

/-! ## Looks at the scene -/

section Looks

variable {scene : Scene}

theorem stage_takes : stage.Takes scene 0 (· = scene.world.stage) :=
  .withScene (fun _ => rfl) fun _ same => .pure (by rw [same])

theorem senses_takes : senses.Takes scene 0 (· = scene.senses) :=
  .withScene (fun _ => rfl) fun _ same => .pure (by rw [same])

theorem token_takes : token.Takes scene 0
    (· = { entity := scene.entity, priority := scene.priority, epoch := scene.lane.epoch }) :=
  .withScene (fun _ => rfl) fun _ same => .pure (by rw [same])

theorem load_takes (selector : UInt8) (raw : UInt16) :
    (load selector raw).Takes scene 0 fun _ => True where
  result {cursor after value} inside worked := by
    unfold load at worked
    split at worked
    · cases worked
      exact ⟨rfl, inside, trivial⟩
    · split at worked
      · cases worked
        exact ⟨rfl, inside, trivial⟩
      · cases worked
  onto {cursor code} _ _ := by
    unfold load
    split
    · rfl
    · cases scene.session.memory.read selector raw <;> rfl
  veiled veil _ _ := by
    unfold load
    split
    · rfl
    · next named =>
        rw [show (scene.behind veil).session.memory.read selector raw =
          scene.session.memory.read selector raw from Memory.read_withScratch _ veil.cells named raw]
  spares _ _ _ := by
    unfold load
    split
    · nofun
    · split <;> nofun

theorem loadSigned_takes (selector : UInt8) (raw : Int16) :
    (loadSigned selector raw).Takes scene 0 fun _ => True :=
  (load_takes _ _).look fun _ _ => .pure trivial

theorem loadCoordinate_takes (selector : UInt8) (raw : Int16) :
    (loadCoordinate selector raw).Takes scene 0 fun _ => True :=
  (loadSigned_takes _ _).look fun _ _ => .pure trivial

theorem loadByte_takes (selector raw : UInt8) :
    (loadByte selector raw).Takes scene 0 fun _ => True :=
  (load_takes _ _).look fun _ _ => .pure trivial

theorem entityAt_takes (index : UInt8) :
    (entityAt index).Takes scene 0 fun id => (scene.world.entity? id).isSome := by
  refine .withScene (fun _ => rfl) fun _ same => ?_
  subst same
  split
  · next entity known => exact .pure (by simp [known])
  · exact .fail

/-- The body of an entity that is known to be registered, at least while the running one is. -/
theorem actorOf_takes {id : EntityId}
    (known : scene.IsPopulated → (scene.world.entity? id).isSome) :
    (actorOf id).Takes scene 0 fun _ => True := by
  refine .withScene (fun _ => rfl) fun _ same => ?_
  subst same
  split
  · exact .pure trivial
  · next absent =>
      refine .fail fun populated => ?_
      have here := known populated
      simp [Option.map_eq_none_iff.mp absent] at here

theorem self_takes : self.Takes scene 0 fun _ => True :=
  .withScene (fun _ => rfl) fun _ same => actorOf_takes fun populated => same ▸ populated

theorem actorAt_takes (index : UInt8) : (actorAt index).Takes scene 0 fun _ => True :=
  (entityAt_takes index).look fun _ known => actorOf_takes fun _ => known

/-- Whoever plays a character is registered. -/
theorem isSome_of_characterEntity? {world : World} {character : UInt8} {id : EntityId}
    (plays : world.characterEntity? character = some id) : (world.entity? id).isSome := by
  have present := List.mem_of_find?_eq_some plays
  exact (List.mem_filter.mp present).2

/-- The member in a slot of the party is registered. -/
theorem isSome_of_partyMember {session : Session} {world : World} {slot : UInt8} {id : EntityId}
    (member : partyMember session world slot = .ok id) : (world.entity? id).isSome := by
  unfold partyMember at member
  split at member
  · cases member
  · split at member
    · cases member
    · next plays =>
        cases member
        exact isSome_of_characterEntity? plays

theorem partyMember_ne_entityGone (session : Session) (world : World) (slot : UInt8) :
    partyMember session world slot ≠ .error .entityGone := by
  unfold partyMember
  split
  · nofun
  · split <;> nofun

theorem partyEntity_takes (slot : UInt8) :
    (partyEntity slot).Takes scene 0 fun id => (scene.world.entity? id).isSome := by
  refine .withScene (fun _ => rfl) fun _ same => ?_
  subst same
  split
  · next member => exact .pure (isSome_of_partyMember member)
  · next error refused =>
      exact .fail fun _ gone => partyMember_ne_entityGone _ _ _ (gone ▸ refused)

end Looks

/-! ## One operand after the other -/

namespace Takes

variable {scene : Scene} {more : Nat} {ends : β → Prop}

theorem byte {next : UInt8 → Reading β} (rest : ∀ value, (next value).Takes scene more ends) :
    (Reading.byte >>= next).Takes scene (more + 1) ends :=
  Nat.add_comm 1 more ▸ byte_takes.bind fun value _ => rest value

theorem word {next : UInt16 → Reading β} (rest : ∀ value, (next value).Takes scene more ends) :
    (Reading.word >>= next).Takes scene (more + 2) ends :=
  Nat.add_comm 2 more ▸ word_takes.bind fun value _ => rest value

theorem signed {next : Int16 → Reading β} (rest : ∀ value, (next value).Takes scene more ends) :
    (Reading.signed >>= next).Takes scene (more + 2) ends :=
  Nat.add_comm 2 more ▸ signed_takes.bind fun value _ => rest value

theorem triple {next : UInt32 → Reading β} (rest : ∀ value, (next value).Takes scene more ends) :
    (Reading.triple >>= next).Takes scene (more + 3) ends :=
  Nat.add_comm 3 more ▸ triple_takes.bind fun value _ => rest value

theorem long {next : UInt32 → Reading β} (rest : ∀ value, (next value).Takes scene more ends) :
    (Reading.long >>= next).Takes scene (more + 4) ends :=
  Nat.add_comm 4 more ▸ long_takes.bind fun value _ => rest value

theorem selectors {next : Selectors → Reading β}
    (rest : ∀ value, (next value).Takes scene more ends) :
    (Reading.selectors >>= next).Takes scene (more + 1) ends :=
  Nat.add_comm 1 more ▸ selectors_takes.bind fun value _ => rest value

theorem switch {next : Bool → Reading β} (rest : ∀ value, (next value).Takes scene more ends) :
    (Reading.switch >>= next).Takes scene (more + 1) ends :=
  Nat.add_comm 1 more ▸ switch_takes.bind fun value _ => rest value

theorem inverseSwitch {next : Bool → Reading β}
    (rest : ∀ value, (next value).Takes scene more ends) :
    (Reading.inverseSwitch >>= next).Takes scene (more + 1) ends :=
  Nat.add_comm 1 more ▸ inverseSwitch_takes.bind fun value _ => rest value

theorem load {selector : UInt8} {raw : UInt16} {next : UInt16 → Reading β}
    (rest : ∀ value, (next value).Takes scene more ends) :
    (Reading.load selector raw >>= next).Takes scene more ends :=
  (load_takes _ _).look fun value _ => rest value

theorem loadSigned {selector : UInt8} {raw : Int16} {next : Int16 → Reading β}
    (rest : ∀ value, (next value).Takes scene more ends) :
    (Reading.loadSigned selector raw >>= next).Takes scene more ends :=
  (loadSigned_takes _ _).look fun value _ => rest value

theorem loadCoordinate {selector : UInt8} {raw : Int16} {next : Int32 → Reading β}
    (rest : ∀ value, (next value).Takes scene more ends) :
    (Reading.loadCoordinate selector raw >>= next).Takes scene more ends :=
  (loadCoordinate_takes _ _).look fun value _ => rest value

theorem loadByte {selector raw : UInt8} {next : UInt8 → Reading β}
    (rest : ∀ value, (next value).Takes scene more ends) :
    (Reading.loadByte selector raw >>= next).Takes scene more ends :=
  (loadByte_takes _ _).look fun value _ => rest value

end Takes

theorem splitLong_takes {scene : Scene} (low high : UInt8) :
    (splitLong low high).Takes scene 4 fun _ => True :=
  .word fun _ => .word fun _ => .load fun _ => .load fun _ => .pure trivial

theorem Takes.splitLong {scene : Scene} {more : Nat} {ends : β → Prop} {low high : UInt8}
    {next : UInt32 → Reading β} (rest : ∀ value, (next value).Takes scene more ends) :
    (Reading.splitLong low high >>= next).Takes scene (more + 4) ends :=
  Nat.add_comm 4 more ▸ (splitLong_takes low high).bind fun value _ => rest value

end Reading

end FieldMachine
