import FieldMachine.Console.Play
import FieldMachine.Proofs.Banks

/-!
# The dump of the banks

The dump prints a line for every cell that is not zero, in ascending order of banks and
addresses, and each line shows the value of its cell (`Console.dump_lists`).

A bank is read by the low byte of its number.  So the dump of a store of up to 256 banks is
that of its cells, and in a larger one the banks from the 257th on, which no name reaches,
are shown with the cells of the first ones (`Console.dump_repeats`).
-/

namespace FieldMachine

set_option autoImplicit false

/-! ## The cells of a bank -/

namespace Bank

/-- The cell at an address together with the address, unless it is zero. -/
def occupied? (cells : Array UInt16) (address : Nat) : Option (Nat × UInt16) :=
  (cells[address]?.filter (· ≠ 0)).map (address, ·)

theorem occupied?_eq_some {cells : Array UInt16} {place address : Nat} {value : UInt16} :
    occupied? cells place = some (address, value) ↔
      place = address ∧ cells[address]? = some value ∧ value ≠ 0 := by
  simp only [occupied?, Option.map_eq_some_iff, Option.filter_eq_some_iff, Prod.mk.injEq,
    decide_eq_true_eq]
  constructor
  · rintro ⟨found, ⟨here, some⟩, rfl, rfl⟩
    exact ⟨rfl, here, some⟩
  · rintro ⟨rfl, here, some⟩
    exact ⟨value, ⟨here, some⟩, rfl, rfl⟩

/-- The cells below an address that are not zero come in front of what was found before. -/
theorem foldRev_eq (cells : Array UInt16) {count : Nat} (inside : count ≤ cells.size)
    (found : List (Nat × UInt16)) :
    count.foldRev (fun address below found =>
        have within : address < cells.size := Nat.lt_of_lt_of_le below inside
        let value := cells[address]
        if value = 0 then found else (address, value) :: found) found =
      (List.range count).filterMap (occupied? cells) ++ found := by
  induction count generalizing found with
  | zero => rfl
  | succ count ih =>
      have last : (List.filterMap (occupied? cells) [count]) =
          if cells[count] = 0 then [] else [(count, cells[count])] := by
        rw [List.filterMap_cons, occupied?, Array.getElem?_eq_getElem inside]
        by_cases zero : cells[count] = 0 <;> simp [zero, Option.filter]
      rw [Nat.foldRev_succ, ih (Nat.le_of_succ_le inside), List.range_succ, List.filterMap_append,
        List.append_assoc, last]
      refine congrArg (_ ++ ·) ?_
      dsimp only
      split <;> rfl

theorem nonzero_eq (bank : Bank) :
    bank.nonzero = (List.range bank.cells.size).filterMap (occupied? bank.cells) :=
  (foldRev_eq bank.cells (Nat.le_refl _) []).trans (List.append_nil _)

theorem mem_nonzero {bank : Bank} {address : Nat} {value : UInt16} :
    (address, value) ∈ bank.nonzero ↔ bank.cells[address]? = some value ∧ value ≠ 0 := by
  rw [nonzero_eq, List.mem_filterMap]
  simp only [occupied?_eq_some, List.mem_range]
  constructor
  · rintro ⟨place, -, rfl, held⟩
    exact held
  · intro held
    exact ⟨address, (Array.getElem?_eq_some_iff.mp held.1).1, rfl, held⟩

theorem pairwise_nonzero (bank : Bank) : bank.nonzero.Pairwise (·.1 < ·.1) := by
  rw [nonzero_eq, List.pairwise_filterMap]
  refine List.pairwise_lt_range.imp fun {first second} less one found other met => ?_
  rw [(occupied?_eq_some.mp found).1, (occupied?_eq_some.mp met).1] at less
  exact less

end Bank

/-! ## The cells of all banks -/

namespace Memory

variable {memory : Memory}

/-- A cell that is not zero exists, and its bank has a name. -/
theorem bounds_of_cell {number address : Nat} (held : memory.cell number address ≠ 0) :
    number < memory.bankCount ∧ number < 256 ∧ address < memory.bankSize := by
  unfold cell at held
  cases here : memory.rows[number]? with
  | none =>
      rw [here] at held
      exact absurd rfl held
  | some row =>
      cases there : row[address]? with
      | none =>
          rw [here, Option.bind_some, there] at held
          exact absurd rfl held
      | some value =>
          obtain ⟨known, -⟩ := Array.getElem?_eq_some_iff.mp here
          obtain ⟨inside, -⟩ := Array.getElem?_eq_some_iff.mp there
          rw [memory.size_rows] at known
          rw [memory.size_row row (Array.mem_of_getElem? here)] at inside
          obtain ⟨counted, named⟩ := Nat.lt_min.mp known
          exact ⟨counted, named, (Nat.lt_min.mp inside).1⟩

theorem cell_eq_getD (number address : Nat) :
    memory.cell number address = ((memory.rows[number]?.getD #[])[address]?).getD 0 := by
  unfold cell
  cases memory.rows[number]? <;> rfl

theorem mem_nonzero {number : UInt8} {address : Nat} {value : UInt16} :
    (address, value) ∈ memory.nonzero number ↔
      value = memory.cell number.toNat address ∧ value ≠ 0 := by
  have shown : memory.nonzero number =
      match memory.locate number 0 with
      | .error _ => []
      | .ok _ => Bank.nonzero ⟨memory.bankSize, memory.rows[number.toNat]?.getD #[]⟩ := by
    unfold nonzero bank
    cases memory.locate number 0 <;> rfl
  rw [shown]
  cases stands : memory.locate number 0 with
  | error refusal =>
      refine ⟨nofun, fun ⟨same, held⟩ => ?_⟩
      obtain ⟨counted, -, inside⟩ := bounds_of_cell (same ▸ held)
      have first : memory.locate number 0 = .ok () :=
        locate_eq_ok.mpr ⟨counted, Nat.lt_of_le_of_lt (Nat.zero_le _) inside⟩
      cases stands.symm.trans first
  | ok =>
      rw [Bank.mem_nonzero, cell_eq_getD]
      refine and_congr_left fun held => ?_
      cases (memory.rows[number.toNat]?.getD #[])[address]? with
      | none => exact ⟨nofun, fun zero => absurd zero held⟩
      | some found =>
          exact ⟨fun same => (Option.some.inj same).symm, fun same => congrArg some same.symm⟩

theorem pairwise_nonzero (number : UInt8) : (memory.nonzero number).Pairwise (·.1 < ·.1) := by
  unfold nonzero
  split
  · exact .nil
  · next bank _ => exact bank.pairwise_nonzero

/-- One cell comes before another: in an earlier bank, or in the same one at a lower address. -/
def Before (first second : Nat × Nat × UInt16) : Prop :=
  first.1 < second.1 ∨ first.1 = second.1 ∧ first.2.1 < second.2.1

theorem mem_nonzeroCells {number address : Nat} {value : UInt16} :
    (number, address, value) ∈ memory.nonzeroCells ↔
      value = memory.cell number address ∧ value ≠ 0 := by
  have byte {number : Nat} (named : number < 256) : number.toUInt8.toNat = number :=
    Nat.mod_eq_of_lt named
  constructor
  · intro member
    obtain ⟨number, known, member⟩ := List.mem_flatMap.mp member
    obtain ⟨cell, found, same⟩ := List.mem_map.mp member
    cases same
    have held := mem_nonzero.mp found
    rwa [byte (Nat.lt_min.mp (List.mem_range.mp known)).2] at held
  · rintro ⟨same, held⟩
    obtain ⟨counted, named, -⟩ := bounds_of_cell (same ▸ held)
    refine List.mem_flatMap.mpr ⟨number, List.mem_range.mpr (Nat.lt_min.mpr ⟨counted, named⟩),
      List.mem_map.mpr ⟨(address, value), ?_, rfl⟩⟩
    rw [mem_nonzero, byte named]
    exact ⟨same, held⟩

theorem pairwise_nonzeroCells (memory : Memory) : memory.nonzeroCells.Pairwise Before := by
  refine List.pairwise_flatMap.mpr ⟨fun number _ => ?_, ?_⟩
  · exact List.pairwise_map.mpr
      ((memory.pairwise_nonzero number.toUInt8).imp fun less => .inr ⟨rfl, less⟩)
  · refine List.pairwise_lt_range.imp fun {first second} less one member other met => ?_
    obtain ⟨_, -, rfl⟩ := List.mem_map.mp member
    obtain ⟨_, -, rfl⟩ := List.mem_map.mp met
    exact .inl less

end Memory

/-! ## The lines -/

namespace Console

open Memory (Before)

/-- The cells that the dump shows: those of the banks in each round through them, under the numbers
of that round. -/
def shownCells (memory : Memory) : List (Nat × Nat × UInt16) :=
  (List.range (memory.bankCount / UInt8.size + 1)).flatMap fun round =>
    (memory.nonzeroCells.filter fun cell => round * UInt8.size + cell.1 < memory.bankCount).map
      fun cell => (round * UInt8.size + cell.1, cell.2)

/-- The line about a cell with its bank and address. -/
def lineOf (cell : Nat × Nat × UInt16) : String := cellLine cell.1 cell.2.1 cell.2.2

theorem memoryLines_eq (memory : Memory) : memoryLines memory = (shownCells memory).map lineOf := by
  -- A line is left out where the number is past the last bank.
  have each (offset : Nat) (cells : List (Nat × Nat × UInt16)) :
      cells.filterMap (fun cell =>
          bankLine? memory.bankCount (offset + cell.1) cell.2.1 cell.2.2) =
        ((cells.filter fun cell => offset + cell.1 < memory.bankCount).map
          fun cell => (offset + cell.1, cell.2)).map lineOf := by
    induction cells with
    | nil => rfl
    | cons cell rest ih =>
        obtain ⟨bank, address, value⟩ := cell
        rw [List.filterMap_cons, ih, List.filter_cons]
        by_cases known : offset + bank < memory.bankCount <;> simp [bankLine?, known, lineOf]
  unfold memoryLines shownCells
  dsimp only
  split
  · next empty =>
      rw [List.isEmpty_iff.mp empty]
      simp
  · rw [List.map_flatMap]
    exact congrArg (List.flatMap · _) (funext fun round => each (round * UInt8.size) _)

theorem mem_shownCells {memory : Memory} {number address : Nat} {value : UInt16} :
    (number, address, value) ∈ shownCells memory ↔
      number < memory.bankCount ∧ value = memory.cell (number % 256) address ∧ value ≠ 0 := by
  constructor
  · intro member
    obtain ⟨round, -, member⟩ := List.mem_flatMap.mp member
    obtain ⟨⟨bank, place, held⟩, found, same⟩ := List.mem_map.mp member
    cases same
    obtain ⟨found, counted⟩ := List.mem_filter.mp found
    obtain ⟨same, held⟩ := Memory.mem_nonzeroCells.mp found
    have named : bank < 256 := (Memory.bounds_of_cell (same ▸ held)).2.1
    have folded : (round * UInt8.size + bank) % 256 = bank := by
      rw [show UInt8.size = 256 from rfl]
      omega
    rw [folded]
    exact ⟨of_decide_eq_true counted, same, held⟩
  · rintro ⟨counted, same, held⟩
    have whole : number / 256 * UInt8.size + number % 256 = number := by
      rw [show UInt8.size = 256 from rfl]
      omega
    have round : number / 256 < memory.bankCount / UInt8.size + 1 := by
      rw [show UInt8.size = 256 from rfl]
      omega
    refine List.mem_flatMap.mpr ⟨number / 256, List.mem_range.mpr round,
      List.mem_map.mpr ⟨(number % 256, address, value), List.mem_filter.mpr ⟨?_, ?_⟩, ?_⟩⟩
    · exact Memory.mem_nonzeroCells.mpr ⟨same, held⟩
    · rw [whole]
      exact decide_eq_true counted
    · rw [whole]

theorem pairwise_shownCells (memory : Memory) : (shownCells memory).Pairwise Before := by
  have named {offset : Nat} {cell : Nat × Nat × UInt16}
      (member : cell ∈ (memory.nonzeroCells.filter fun cell =>
        offset + cell.1 < memory.bankCount).map fun cell => (offset + cell.1, cell.2)) :
      offset ≤ cell.1 ∧ cell.1 < offset + 256 := by
    obtain ⟨⟨bank, place, value⟩, found, rfl⟩ := List.mem_map.mp member
    obtain ⟨same, held⟩ := Memory.mem_nonzeroCells.mp (List.mem_filter.mp found).1
    have small := (Memory.bounds_of_cell (same ▸ held)).2.1
    exact ⟨Nat.le_add_right .., Nat.add_lt_add_left small _⟩
  refine List.pairwise_flatMap.mpr ⟨fun round _ => ?_, ?_⟩
  · refine List.pairwise_map.mpr ((memory.pairwise_nonzeroCells.filter _).imp ?_)
    rintro first second (less | ⟨same, less⟩)
    · exact .inl (Nat.add_lt_add_left less _)
    · exact .inr ⟨congrArg (_ + ·) same, less⟩
  · refine List.pairwise_lt_range.imp fun {first second} less one member other met => .inl ?_
    have reached := (named member).2
    have begun := (named met).1
    rw [show UInt8.size = 256 from rfl] at reached begun
    omega

/-- The digits of a number tell it. -/
theorem toList_toString (number : Nat) : (toString number).toList = Nat.toDigits 10 number :=
  String.toList_ofList

/-- A line tells the bank of its cell. -/
theorem bank_of_lineOf {first second : Nat × Nat × UInt16} (same : lineOf first = lineOf second) :
    first.1 = second.1 := by
  have label (number : Nat) (rest : List Char) :
      (Nat.toDigits 10 number ++ ']' :: rest).takeWhile Char.isDigit = Nat.toDigits 10 number := by
    rw [List.takeWhile_append_of_pos fun digit member =>
      Nat.isDigit_of_mem_toDigits (by decide) (by decide) member]
    exact List.append_nil _
  have begins (cell : Nat × Nat × UInt16) : ∃ rest,
      (lineOf cell).toList = '[' :: (Nat.toDigits 10 cell.1 ++ ']' :: rest) := by
    simp only [lineOf, cellLine, String.toList_append, String.append_assoc, toList_toString]
    exact ⟨_, rfl⟩
  obtain ⟨rest, shown⟩ := begins first
  obtain ⟨others, told⟩ := begins second
  rw [same, told, List.cons.injEq] at shown
  have digits := congrArg (List.takeWhile Char.isDigit) shown.2
  rw [label, label] at digits
  have number (number : Nat) : Nat.ofDigitChars 10 (Nat.toDigits 10 number) 0 = number :=
    Nat.ofDigitChars_toDigits (by decide) (by decide)
  rw [← number first.1, ← number second.1, digits]

/-- What is shown are the cells of a store that are not zero, each under its own bank. -/
def IsDumpOf (memory : Memory) (shown : List (Nat × Nat × UInt16)) : Prop :=
  ∀ number address value, (number, address, value) ∈ shown ↔
    (number < memory.bankCount ∧ address < memory.bankSize) ∧
      value = memory.cell number address ∧ value ≠ 0

/-- What is shown is the dump of a store just if none of the banks that are shown twice holds
anything. -/
theorem isDumpOf_iff (memory : Memory) :
    IsDumpOf memory (shownCells memory) ↔
      ∀ number address, number + 256 < memory.bankCount → memory.cell number address = 0 := by
  constructor
  · intro faithful number address twice
    refine Decidable.byContradiction fun held => ?_
    have named := (Memory.bounds_of_cell held).2.1
    have again : (number + 256) % 256 = number := by omega
    have shown : (number + 256, address, memory.cell number address) ∈ shownCells memory :=
      mem_shownCells.mpr ⟨twice, by rw [again], held⟩
    obtain ⟨-, same, -⟩ := (faithful ..).mp shown
    have unnamed := (Memory.bounds_of_cell (same ▸ held)).2.1
    omega
  · intro nothing number address value
    rw [mem_shownCells]
    constructor
    · rintro ⟨counted, same, held⟩
      have first : number < 256 := by
        refine Nat.lt_of_not_le fun past => ?_
        exact held (same.trans (nothing (number % 256) address (by omega)))
      rw [Nat.mod_eq_of_lt first] at same
      exact ⟨⟨counted, (Memory.bounds_of_cell (same ▸ held)).2.2⟩, same, held⟩
    · rintro ⟨⟨counted, -⟩, same, held⟩
      have named := (Memory.bounds_of_cell (same ▸ held)).2.1
      rw [Nat.mod_eq_of_lt named]
      exact ⟨counted, same, held⟩

/-- The dump of the banks shows cells that are not zero.

Each line is about one cell and tells its bank, and the lines are in ascending order of banks and
addresses, so that no cell is shown twice.  Shown under a number below the number of banks are the
cells of the bank that the low byte of the number names, each with its own value.

These are the cells of the store and no others, if there are up to 256 banks; and in a store with
more of them, just if no bank holds anything that has a second number. -/
theorem dump_lists (memory : Memory) :
    ∃ shown : List (Nat × Nat × UInt16),
      memoryLines memory = shown.map lineOf ∧
      (∀ first second, lineOf first = lineOf second → first.1 = second.1) ∧
      shown.Pairwise Before ∧
      (∀ number address value, (number, address, value) ∈ shown ↔
        number < memory.bankCount ∧ value = memory.cell (number % 256) address ∧ value ≠ 0) ∧
      (memory.bankCount ≤ 256 → IsDumpOf memory shown) ∧
      (IsDumpOf memory shown ↔
        ∀ number address, number + 256 < memory.bankCount → memory.cell number address = 0) := by
  refine ⟨shownCells memory, memoryLines_eq memory, fun first second => bank_of_lineOf,
    pairwise_shownCells memory, fun number address value => mem_shownCells, fun few => ?_,
    isDumpOf_iff memory⟩
  exact (isDumpOf_iff memory).mpr fun number address twice => by omega

/-- A store of so many banks that holds a single number. -/
def single (count : Nat) : Memory :=
  ((Session.fresh { bankCount := count }).putCell 1 5 7).memory

theorem cell_single {count : Nat} (counted : 1 < count) (number address : Nat) :
    (single count).cell number address = if 1 = number ∧ 5 = address then 7 else 0 := by
  have stands : (Memory.blank count 256).locate 1 5 = .ok () :=
    Memory.locate_eq_ok.mpr ⟨counted, show (5 : Nat) < 256 by decide⟩
  have put := Memory.cell_put 7 stands number address
  rw [Memory.cell_blank] at put
  exact put

/-- The number is shown, and nothing else. -/
theorem dump_lists_single : ∃ shown, memoryLines (single 16) = shown.map lineOf ∧
    IsDumpOf (single 16) shown ∧ (1, 5, 7) ∈ shown := by
  obtain ⟨shown, lines, -, -, listed, faithful, -⟩ := dump_lists (single 16)
  refine ⟨shown, lines, faithful (show (16 : Nat) ≤ 256 by decide),
    (listed 1 5 7).mpr ⟨?_, ?_, ?_⟩⟩
  · exact (show (1 : Nat) < 16 by decide)
  · rw [cell_single (by decide)]
    rfl
  · decide

/-- In a store of 258 banks the number is shown once more under a bank that is empty. -/
theorem dump_repeats : cellLine 257 5 7 ∈ memoryLines (single 258) ∧
    (∀ address, (single 258).cell 257 address = 0) ∧
    ¬IsDumpOf (single 258) (shownCells (single 258)) := by
  have again : (257, 5, 7) ∈ shownCells (single 258) := by
    refine mem_shownCells.mpr ⟨show (257 : Nat) < 258 by decide, ?_, by decide⟩
    rw [cell_single (by decide)]
    rfl
  have empty (address : Nat) : (single 258).cell 257 address = 0 := by
    rw [cell_single (by decide)]
    exact if_neg fun both => absurd both.1 (by decide)
  refine ⟨?_, empty, fun faithful => ?_⟩
  · rw [memoryLines_eq]
    exact List.mem_map.mpr ⟨_, again, rfl⟩
  · obtain ⟨-, same, held⟩ := (faithful 257 5 7).mp again
    exact held (same.trans (empty 5))

end Console

end FieldMachine
