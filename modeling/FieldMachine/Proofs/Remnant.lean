import FieldMachine.Proofs.Listing

/-!
# Instructions that the bytecode cuts off

A lane sees the bytecode alone, while a listing measures an instruction in the whole
section.  So they can disagree about an instruction that does not fit before the
end of the bytecode.  A lane is never able to carry it out.  A listing shows what
is left of it only when it does not fit before the end of the section either;
otherwise the string table completes it, and the line shows bytes of the string
table as operands and takes a target from them
(`Listing.cut_unless_completed`, `Listing.borrowing_shows_strings`).
-/

namespace FieldMachine

set_option autoImplicit false

/-! ## Lengths in the bytecode and in the section -/

/-- An instruction has the same length in any code that goes on behind it. -/
theorem instructionLength?_of_le {code whole : Array UInt8} {start length : Nat}
    (same : ∀ (place : Nat) (byte : UInt8), code[place]? = some byte → whole[place]? = some byte)
    (le : code.size ≤ whole.size) (long : instructionLength? code start = some length) :
    instructionLength? whole start = some length := by
  -- Only the last check looks at more than the bytes of the instruction itself.
  have kept (found : Nat)
      (fits : (if start + found ≤ code.size then some found else none) = some length) :
      (if start + found ≤ whole.size then some found else none) = some length := by
    obtain ⟨inside, equal⟩ := Option.ite_none_right_eq_some.mp fits
    rw [if_pos (Nat.le_trans inside le), equal]
  unfold instructionLength? at long ⊢
  obtain ⟨byte, here, long⟩ := Option.bind_eq_some_iff.mp long
  refine Option.bind_eq_some_iff.mpr ⟨byte, same _ _ here, ?_⟩
  dsimp only at long ⊢
  split at long
  · next payload =>
      obtain ⟨size, there, long⟩ := Option.bind_eq_some_iff.mp long
      rw [if_pos payload]
      exact Option.bind_eq_some_iff.mpr ⟨size, same _ _ there, kept _ long⟩
  · next plain =>
      rw [if_neg plain]
      split at long
      · next stated =>
          obtain ⟨own, there, long⟩ := Option.bind_eq_some_iff.mp long
          rw [if_pos stated]
          exact Option.bind_eq_some_iff.mpr ⟨own, same _ _ there, kept _ long⟩
      · next fixed =>
          obtain ⟨found, table, long⟩ := Option.bind_eq_some_iff.mp long
          rw [if_neg fixed]
          exact Option.bind_eq_some_iff.mpr ⟨found, table, kept _ long⟩

/-- An instruction that lies inside the bytecode has the same length in the section. -/
theorem Section.instructionLength?_of_code {source : Section} (sound : source.Sound)
    {start length : Nat} (long : instructionLength? source.code start = some length) :
    instructionLength? source.bytes start = some length :=
  instructionLength?_of_le (fun _ _ => getElem?_bytes_of_code)
    (sound.size ▸ sound.codeEnd_le) long

/-- No instruction is worked out that does not fit before the end of the code. -/
theorem Machine.workOut_eq_error {code : Array UInt8} {place : Nat} (scene : Scene)
    (short : instructionLength? code place = none) :
    ∃ error, workOut code scene place none = .error error := by
  cases worked : workOut code scene place none with
  | error error => exact ⟨error, rfl⟩
  | ok came =>
      obtain ⟨byte, reading, cursor, after, fetched, read, -⟩ := workOut_none_eq_ok.mp worked
      obtain ⟨op, -, known⟩ := worked_of_fetch fetched read
      rw [known.long] at short
      cases short

namespace Listing

variable {bytes : Array UInt8} {source : Section} {start finish : Nat}

/-! ## Lines -/

/-- Each line of a script is about an instruction that fits before the end of the section, or about
what is left of the script where none does. -/
theorem mem_instructions {start : Nat} {line : ListedInstruction}
    (among : line ∈ (instructions bytes finish start).1) :
    line.address < finish ∧
      ((∃ length, instructionLength? bytes line.address = some length ∧
          line = instructionAt bytes line.address length) ∨
        (instructionLength? bytes line.address = none ∧
          line = remnantAt bytes line.address finish)) := by
  rw [instructions] at among
  split at among
  · next before =>
      cases long : instructionLength? bytes start with
      | none =>
          rw [long] at among
          cases List.mem_singleton.mp among
          exact ⟨before, .inr ⟨long, rfl⟩⟩
      | some length =>
          rw [long] at among
          obtain ⟨positive, -⟩ := bounds_of_instructionLength? long
          dsimp only at among
          rw [Nat.max_eq_left positive] at among
          rcases List.mem_cons.mp among with first | later
          · cases first
            exact ⟨before, .inl ⟨length, long, rfl⟩⟩
          · exact mem_instructions later
  · cases among
termination_by finish - start

/-- How a line of a script lies to the end of the bytecode. -/
structure Meets (source : Section) (scriptEnd : Nat) (line : ListedInstruction) : Prop where
  begins : line.address < source.codeEnd
  /-- An instruction that fits before the end of the bytecode is listed whole. -/
  whole : ∀ length, instructionLength? source.code line.address = some length →
    line = instructionAt source.bytes line.address length ∧ line.finish ≤ source.codeEnd
  /-- No lane carries out one that does not. -/
  refused : instructionLength? source.code line.address = none →
    ∀ scene, ∃ error, Machine.workOut source.code scene line.address none = .error error
  /-- What is left of it is listed, if it does not fit before the end of the section either. -/
  cut : instructionLength? source.bytes line.address = none →
    line = remnantAt source.bytes line.address scriptEnd ∧ line.finish ≤ source.codeEnd
  /-- Otherwise it is listed as if the string table belonged to it. -/
  completed : ∀ length, instructionLength? source.code line.address = none →
    instructionLength? source.bytes line.address = some length →
      line = instructionAt source.bytes line.address length
  /-- Only such lines show bytes of the string table. -/
  borrows : source.codeEnd < line.finish → instructionLength? source.code line.address = none ∧
    instructionLength? source.bytes line.address ≠ none

theorem meets_of_mem (sound : source.Sound) (within : finish ≤ source.codeEnd)
    {line : ListedInstruction} (among : line ∈ (instructions source.bytes finish start).1) :
    Meets source finish line := by
  obtain ⟨before, shown⟩ := mem_instructions among
  have inSection : finish ≤ source.bytes.size := Nat.le_trans within sound.codeEnd_le
  have listed {length : Nat} (long : instructionLength? source.bytes line.address = some length) :
      line = instructionAt source.bytes line.address length := by
    rcases shown with ⟨other, known, same⟩ | ⟨none, -⟩
    · rwa [Option.some.inj (known.symm.trans long)] at same
    · rw [none] at long
      cases long
  have whole (length : Nat) (fits : instructionLength? source.code line.address = some length) :
      line = instructionAt source.bytes line.address length ∧ line.finish ≤ source.codeEnd := by
    have long := Section.instructionLength?_of_code sound fits
    have same := listed long
    refine ⟨same, ?_⟩
    rw [same, (@shows_instructionAt _ _ _ finish long).2, ← sound.size]
    exact instructionLength?_le fits
  have cut (short : instructionLength? source.bytes line.address = none) :
      line = remnantAt source.bytes line.address finish ∧ line.finish ≤ source.codeEnd := by
    rcases shown with ⟨other, known, -⟩ | ⟨-, same⟩
    · rw [short] at known
      cases known
    · refine ⟨same, ?_⟩
      rw [same, (shows_remnantAt short before inSection).2]
      exact within
  exact
    { begins := Nat.lt_of_lt_of_le before within
      whole
      refused := fun short scene => Machine.workOut_eq_error scene short
      cut
      completed := fun length _ long => listed long
      borrows := fun reaches => by
        refine ⟨?_, fun short => Nat.not_le_of_lt reaches (cut short).2⟩
        cases fits : instructionLength? source.code line.address with
        | none => rfl
        | some length => exact absurd (whole length fits).2 (Nat.not_le_of_lt reaches) }

/-- A listing and the lanes agree on which instructions the end of the bytecode cuts off, and on
what is left of them, unless the string table completes them. -/
theorem cut_unless_completed {bytes : Array UInt8} (accepted : Section.read bytes = .ok source)
    {entity : ListedEntity} (listed : entity ∈ (Listing.entities source).1)
    {script : ListedScript} (own : script ∈ entity.scripts)
    {line : ListedInstruction} (among : line ∈ script.instructions) :
    Meets source (scriptEnd source script.offset) line := by
  rw [instructions_of_mem listed own] at among
  exact meets_of_mem (Section.sound_of_read accepted) (scriptEnd_le ..) among

/-! ## A jump that takes its distance from the string table -/

/-- The bytecode ends behind the first byte of a jump, and the text `Hi` follows. -/
def borrowing : Array UInt8 :=
  (([2, 5, 1, 0, 107, 0, 0, 0, 0, 2] ++ List.replicate 22 0 ++ List.replicate 8 0
    ++ [106, 0] ++ (List.replicate 31 [104, 0]).flatten
    ++ [0x00, 0x00, 0x10] ++ [1, 0, 4, 0, 72, 105, 0xFF] : List UInt8)).toArray

theorem read_borrowing : Section.read borrowing = .ok (Section.ofBytes borrowing) :=
  Section.read_eq_ofBytes (by decide +kernel)

theorem scriptEnd_borrowing : scriptEnd (Section.ofBytes borrowing) 106 = 107 := by
  decide +kernel

/-- The jump is listed as if the number of texts were its distance. -/
theorem borrowing_lists_jump :
    ∃ entity ∈ (Listing.entities (Section.ofBytes borrowing)).1, ∃ script ∈ entity.scripts,
      script.offset = 106 ∧ script.instructions = [instructionAt borrowing 106 2] := by
  have found : (Section.ofBytes borrowing).entities[0]? = some (Section.scriptsOf borrowing 0) := by
    decide +kernel
  have own : (0, 106) ∈ ownSlots (Section.scriptsOf borrowing 0) :=
    mem_ownSlots (by decide +kernel) nofun
  have long : instructionLength? borrowing 106 = some 2 := by decide +kernel
  have lines : (instructions borrowing 107 106).1 = [instructionAt borrowing 106 2] := by
    rw [instructions, if_pos (by decide), long]
    dsimp only
    rw [instructions, if_neg (by decide)]
    rfl
  refine ⟨_, List.mem_of_getElem? (getElem?_entities found),
    listedScript (Section.ofBytes borrowing) 0 106, ?_, rfl, ?_⟩
  · rw [scripts_eq]
    exact List.mem_map.mpr ⟨_, own, rfl⟩
  · rw [listedScript, scriptEnd_borrowing]
    exact lines

/-- No lane carries the jump out. -/
theorem borrowing_lane_refuses :
    ∃ entity ∈ (Listing.entities (Section.ofBytes borrowing)).1, ∃ script ∈ entity.scripts,
      ∃ line ∈ script.instructions, line = instructionAt borrowing 106 2 ∧
        Meets (Section.ofBytes borrowing) 107 line ∧
        ∀ scene, ∃ error,
          Machine.workOut (Section.ofBytes borrowing).code scene 106 none = .error error := by
  obtain ⟨entity, listed, script, own, offset, lines⟩ := borrowing_lists_jump
  have among : instructionAt borrowing 106 2 ∈ script.instructions := by
    rw [lines]
    exact List.mem_singleton.mpr rfl
  have meets := cut_unless_completed read_borrowing listed own among
  rw [offset, scriptEnd_borrowing] at meets
  exact ⟨entity, listed, script, own, _, among, rfl, meets, meets.refused (by decide +kernel)⟩

/-- The jump does not fit before the end of the bytecode.  Still it is not listed as cut off there:
its operand is a byte of the string table, and it has a target. -/
theorem borrowing_shows_strings :
    ∃ source, Section.read borrowing = .ok source ∧
      ∃ entity ∈ (Listing.entities source).1, ∃ script ∈ entity.scripts,
        ∃ line ∈ script.instructions,
          instructionLength? source.code line.address = none ∧
          line ≠ remnantAt source.bytes line.address (scriptEnd source script.offset) ∧
          source.codeEnd < line.finish ∧ line.operands = [1] ∧ line.target = some 108 := by
  obtain ⟨entity, listed, script, own, offset, lines⟩ := borrowing_lists_jump
  refine ⟨_, read_borrowing, entity, listed, script, own, instructionAt borrowing 106 2, ?_,
    by decide +kernel, fun same => ?_, by decide +kernel, by decide +kernel, by decide +kernel⟩
  · rw [lines]
    exact List.mem_singleton.mpr rfl
  · have blind := congrArg ListedInstruction.target same
    have jumps : (instructionAt borrowing 106 2).target = some 108 := by decide +kernel
    rw [jumps] at blind
    cases blind

end Listing

end FieldMachine
