import FieldMachine.Reading

/-!
# The scratch bank

No instruction reaches bank 0, since a selector of 0 stands for an immediate
operand.  `Memory.withScratch` puts other cells into that bank; names of the
other banks read and write what they did before.  What else no instruction looks
at stands behind the same `Veil`.
-/

namespace FieldMachine

set_option autoImplicit false

namespace Memory

variable (memory : Memory) (cells : Array UInt16)

/-- The memory with other cells in its scratch bank, which has to be as large as they are many. -/
def withScratch : Memory :=
  memory.modifyRow scratchBank (fun row => if cells.size = row.size then cells else row) fun row => by
    split
    · assumption
    · rfl

/-- The cells of the scratch bank. -/
def scratch : Array UInt16 := (memory.rows[scratchBank.toNat]?).getD #[]

/-- How many banks there are, and how large they are. -/
def shape : Nat × Nat := (memory.bankCount, memory.bankSize)

/-- Without banks there is no scratch bank. -/
theorem size_scratch : memory.scratch.size =
    if 0 < namedBanks memory.shape.1 then namedCells memory.shape.2 else 0 := by
  have count : memory.rows.size = namedBanks memory.shape.1 := memory.size_rows
  unfold scratch
  rw [← count]
  split
  · next some =>
      have here : memory.rows[scratchBank.toNat]? = .some memory.rows[0] :=
        Array.getElem?_eq_getElem some
      rw [here, Option.getD_some]
      exact memory.size_row _ (Array.getElem_mem some)
  · next none =>
      have here : memory.rows[scratchBank.toNat]? = .none :=
        Array.getElem?_eq_none (Nat.le_of_not_lt none)
      rw [here]
      rfl

/-- A memory is known by its shape and its rows. -/
theorem ext_rows {first second : Memory} (count : second.bankCount = first.bankCount)
    (size : second.bankSize = first.bankSize)
    (rows : ∀ index : Nat, second.rows[index]? = first.rows[index]?) : second = first := by
  obtain ⟨_, _, firstRows, _, _⟩ := first
  obtain ⟨_, _, secondRows, _, _⟩ := second
  obtain rfl : secondRows = firstRows := Array.ext_getElem? rows
  cases count
  cases size
  rfl

theorem rows_modifyRow (bank : UInt8) (change : Array UInt16 → Array UInt16)
    (kept : ∀ row : Array UInt16, (change row).size = row.size) (index : Nat) :
    (memory.modifyRow bank change kept).rows[index]? =
      if bank.toNat = index then memory.rows[index]?.map change else memory.rows[index]? :=
  Array.getElem?_modify ..

/-- Changes of the rows of different banks do not depend on their order. -/
theorem modifyRow_comm {first second : UInt8} (apart : first ≠ second)
    {change other : Array UInt16 → Array UInt16}
    (kept : ∀ row : Array UInt16, (change row).size = row.size)
    (keptToo : ∀ row : Array UInt16, (other row).size = row.size) :
    (memory.modifyRow first change kept).modifyRow second other keptToo =
      (memory.modifyRow second other keptToo).modifyRow first change kept := by
  refine ext_rows rfl rfl fun index => ?_
  simp only [rows_modifyRow]
  by_cases own : first.toNat = index
  · have foreign : second.toNat ≠ index := fun same =>
      apart (UInt8.toNat_inj.mp (own.trans same.symm))
    simp [own, foreign]
  · simp [own]

theorem locate_withScratch (bank : UInt8) (address : UInt16) :
    (memory.withScratch cells).locate bank address = memory.locate bank address := rfl

theorem read_withScratch {bank : UInt8} (named : bank ≠ scratchBank) (address : UInt16) :
    (memory.withScratch cells).read bank address = memory.read bank address := by
  have apart : scratchBank.toNat ≠ bank.toNat := fun same => named (UInt8.toNat_inj.mp same.symm)
  have row : (memory.withScratch cells).rows[bank.toNat]? = memory.rows[bank.toNat]? := by
    rw [withScratch, rows_modifyRow, if_neg apart]
  simp only [read, locate_withScratch, cellAt, row]

theorem put_withScratch {bank : UInt8} (named : bank ≠ scratchBank) (address value : UInt16) :
    (memory.withScratch cells).put bank address value =
      (memory.put bank address value).withScratch cells :=
  memory.modifyRow_comm named.symm _ _

theorem scratch_withScratch (fits : cells.size = memory.scratch.size) :
    (memory.withScratch cells).scratch = cells := by
  unfold scratch at fits ⊢
  rw [withScratch, rows_modifyRow, if_pos rfl]
  cases old : memory.rows[scratchBank.toNat]? with
  | none =>
      rw [old] at fits
      exact (Array.eq_empty_of_size_eq_zero fits).symm
  | some row =>
      rw [old, Option.getD_some] at fits
      rw [Option.map_some, Option.getD_some, if_pos fits]

/-- The scratch bank is emptied whatever it holds. -/
theorem resetScratch_withScratch :
    (memory.withScratch cells).resetScratch = memory.resetScratch := by
  refine ext_rows rfl rfl fun index => ?_
  simp only [resetScratch, withScratch, rows_modifyRow]
  split
  · rw [Option.map_map]
    refine congrArg (Option.map · _) (funext fun row => ?_)
    simp only [Function.comp_apply]
    split
    · next fits => rw [fits]
    · rfl
  · rfl

/-- An empty scratch bank holds zeros. -/
theorem scratch_resetScratch :
    memory.resetScratch.scratch = Array.replicate memory.scratch.size 0 := by
  unfold scratch
  rw [resetScratch, rows_modifyRow, if_pos rfl]
  cases memory.rows[scratchBank.toNat]? <;> rfl

/-- Memories that are the same once the scratch bank is empty differ in its cells alone. -/
theorem eq_withScratch {first second : Memory}
    (same : second.resetScratch = first.resetScratch) :
    second = first.withScratch second.scratch := by
  have count : second.bankCount = first.bankCount := congrArg (·.bankCount) same
  have size : second.bankSize = first.bankSize := congrArg (·.bankSize) same
  refine ext_rows count size fun index => ?_
  have rows := congrArg (fun memory => memory.rows[index]?) same
  simp only [resetScratch, rows_modifyRow] at rows
  rw [withScratch, rows_modifyRow]
  split
  · next own =>
      rw [if_pos own, if_pos own] at rows
      subst own
      unfold scratch
      cases old : first.rows[scratchBank.toNat]? with
      | none =>
          rw [old] at rows
          exact Option.map_eq_none_iff.mp rows
      | some row =>
          rw [old] at rows
          obtain ⟨other, found, sized⟩ := Option.map_eq_some_iff.mp rows
          have fits : other.size = row.size := by simpa using congrArg Array.size sized
          rw [found, Option.getD_some, Option.map_some, if_pos fits]
  · next foreign =>
      rw [if_neg foreign, if_neg foreign] at rows
      exact rows

end Memory

/-- The session with other cells in the scratch bank of its memory. -/
def Session.withScratch (session : Session) (cells : Array UInt16) : Session :=
  { session with memory := session.memory.withScratch cells }

/-- What no instruction can see: the cells of the scratch bank, the budget of a turn, and how often
a turn has used it up. -/
structure Veil where
  cells : Array UInt16
  budget : Nat
  starved : Nat

/-- The scene with other things behind the veil. -/
def Scene.behind (scene : Scene) (veil : Veil) : Scene :=
  { scene with
    config := { scene.config with opsPerTick := veil.budget }
    world := { scene.world with starved := veil.starved }
    session := scene.session.withScratch veil.cells }

end FieldMachine
