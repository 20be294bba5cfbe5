/-!
# Memory banks

The cells that every script of a session shares: a fixed number of banks, each
a row of sixteen-bit cells of one common size.  A cell is named by its bank and
its address inside the bank, and a name outside the store is refused with an
`AddressError` instead of being wrapped around; a bank that does not exist is
reported before an address that does not.

A bank is named by a byte and an address by two, so that a store of any size
holds no more than the first 256 banks and the first 65536 cells of each.  No
name reaches the other ones, and they stay zero.

Bank 0 is the scratch bank.  It is emptied on every field entry, and no
instruction reaches it, since a selector of 0 stands for an immediate operand.
-/

namespace FieldMachine

set_option autoImplicit false

/-- Why a cell cannot be read or written. -/
inductive AddressError
  /-- The bank lies past the last one. -/
  | noBank (bank : UInt8) (count : Nat)
  /-- The address lies past the end of its bank. -/
  | noCell (bank : UInt8) (address : UInt16) (size : Nat)
  /-- A destination was given as an immediate operand. -/
  | immediateDestination
deriving DecidableEq

/-- The text that reports an address error. -/
def AddressError.message : AddressError → String
  | .noBank bank count => s!"bank {bank} out of range ({count} banks)"
  | .noCell bank address size => s!"address {address} out of range in bank {bank} (size {size})"
  | .immediateDestination => "bank selector 0 is an immediate and cannot be written"

/-! ## One bank -/

/-- One bank: its size, and the cells that an address can name. -/
structure Bank where
  size : Nat
  cells : Array UInt16
deriving DecidableEq

namespace Bank

/-- All cells of a bank in the order of their addresses; those that no address names are zero. -/
def toList (bank : Bank) : List UInt16 :=
  bank.cells.toList ++ List.replicate (bank.size - bank.cells.size) 0

/-- The cells of a bank that are not zero, with their addresses. -/
def nonzero (bank : Bank) : List (Nat × UInt16) :=
  bank.cells.size.foldRev
    (fun address _ found =>
      let value := bank.cells[address]
      if value = 0 then found else (address, value) :: found)
    []

end Bank

/-! ## The store -/

/-- The number of banks that have a name, in a store of `count` banks. -/
def namedBanks (count : Nat) : Nat := min count UInt8.size

/-- The number of cells that have an address, in a bank of `size` cells. -/
def namedCells (size : Nat) : Nat := min size UInt16.size

/-- The banks of a session: `bankCount` of them, with `bankSize` cells each.  The rows hold the cells
that have a name. -/
structure Memory where
  bankCount : Nat
  bankSize : Nat
  rows : Array (Array UInt16)
  size_rows : rows.size = namedBanks bankCount
  size_row : ∀ row ∈ rows, row.size = namedCells bankSize
deriving DecidableEq

/-- Changing a row in a way that keeps its size keeps the size of every row. -/
theorem size_of_mem_modify {rows : Array (Array UInt16)} {size : Nat} (index : Nat)
    (change : Array UInt16 → Array UInt16)
    (kept : ∀ row : Array UInt16, (change row).size = row.size)
    (sized : ∀ row ∈ rows, row.size = size) :
    ∀ row ∈ rows.modify index change, row.size = size := by
  intro row member
  obtain ⟨place, bound, found⟩ := Array.mem_iff_getElem.1 member
  rw [Array.getElem_modify] at found
  rw [Array.size_modify] at bound
  have old : rows[place].size = size := sized _ (Array.getElem_mem bound)
  split at found
  · rw [← found, kept, old]
  · rw [← found, old]

namespace Memory

/-- The bank that is emptied on field entry. -/
def scratchBank : UInt8 := 0

/-- `count` banks of `size` cells, all zero. -/
def blank (count size : Nat) : Memory where
  bankCount := count
  bankSize := size
  rows := Array.replicate (namedBanks count) (Array.replicate (namedCells size) 0)
  size_rows := Array.size_replicate
  size_row := fun row member => by rw [(Array.mem_replicate.1 member).2, Array.size_replicate]

/-- Checks that a cell exists; the bank is checked before the address. -/
def locate (memory : Memory) (bank : UInt8) (address : UInt16) : Except AddressError Unit :=
  if memory.bankCount ≤ bank.toNat then
    .error (.noBank bank memory.bankCount)
  else if memory.bankSize ≤ address.toNat then
    .error (.noCell bank address memory.bankSize)
  else
    .ok ()

/-- The cell at an existing name, and 0 elsewhere. -/
def cellAt (memory : Memory) (bank : UInt8) (address : UInt16) : UInt16 :=
  (memory.rows[bank.toNat]?.bind (·[address.toNat]?)).getD 0

/-- Reads one cell. -/
def read (memory : Memory) (bank : UInt8) (address : UInt16) : Except AddressError UInt16 := do
  memory.locate bank address
  return memory.cellAt bank address

/-- Changes the row of one bank, in a way that keeps its size. -/
def modifyRow (memory : Memory) (bank : UInt8) (change : Array UInt16 → Array UInt16)
    (kept : ∀ row : Array UInt16, (change row).size = row.size) : Memory :=
  { memory with
    rows := memory.rows.modify bank.toNat change
    size_rows := Array.size_modify.trans memory.size_rows
    size_row := size_of_mem_modify bank.toNat change kept memory.size_row }

/-- Puts a value into the cell at an existing name; elsewhere there is nothing to change. -/
def put (memory : Memory) (bank : UInt8) (address : UInt16) (value : UInt16) : Memory :=
  memory.modifyRow bank (·.setIfInBounds address.toNat value) fun _ => Array.size_setIfInBounds

/-- Writes one cell. -/
def write (memory : Memory) (bank : UInt8) (address : UInt16) (value : UInt16) :
    Except AddressError Memory := do
  memory.locate bank address
  return memory.put bank address value

/-- One bank with all its cells; a bank without cells is refused. -/
def bank (memory : Memory) (number : UInt8) : Except AddressError Bank := do
  memory.locate number 0
  return { size := memory.bankSize, cells := memory.rows[number.toNat]?.getD #[] }

/-- The cells of one bank that are not zero, with their addresses; a bank without cells has none. -/
def nonzero (memory : Memory) (number : UInt8) : List (Nat × UInt16) :=
  match memory.bank number with
  | .error _ => []
  | .ok bank => bank.nonzero

/-- The cells of all banks that are not zero, with their banks and addresses. -/
def nonzeroCells (memory : Memory) : List (Nat × Nat × UInt16) :=
  (List.range (namedBanks memory.bankCount)).flatMap fun number =>
    (memory.nonzero number.toUInt8).map fun cell => (number, cell)

/-- Empties the scratch bank. -/
def resetScratch (memory : Memory) : Memory :=
  memory.modifyRow scratchBank (fun row => Array.replicate row.size 0)
    fun _ => Array.size_replicate

end Memory

end FieldMachine
