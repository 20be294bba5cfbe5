import FieldMachine.Config
import FieldMachine.Json.Record
import FieldMachine.Text.Blank

/-!
# Stored configurations

How a configuration of the machine is written down, and how the environment
overrides its budget of instructions.
-/

namespace FieldMachine.Config

set_option autoImplicit false

/-- What a count can be at most, and one more. -/
def countLimit : Nat := 0x10000000000000000

/-- The names of the fields, in their order. -/
def fieldNames : List String :=
  ["ops_per_tick", "bank_count", "bank_size", "replicated_banks", "move_divisor"]

/-- The stored form. -/
def toJson (config : Config) : Json :=
  .object [
    ("ops_per_tick", .ofNat config.opsPerTick),
    ("bank_count", .ofNat config.bankCount),
    ("bank_size", .ofNat config.bankSize),
    ("replicated_banks", .array (config.replicatedBanks.map fun bank => .ofNat bank.toNat)),
    ("move_divisor", .ofNat config.moveDivisor.toNat)]

/-- Reads a list of banks. -/
def banks? (json : Json) : Option (List UInt8) := do
  let items ← json.items?
  items.mapM fun item => (item.nat? 256).map Nat.toUInt8

/-- Reads a stored configuration; a field that is not there has its default. -/
def ofJson? (json : Json) : Option Config := do
  match ← json.record? fieldNames with
  | [ops, count, size, banks, divisor] =>
      let default : Config := {}
      return {
        opsPerTick := ← ops.orElse default.opsPerTick (Json.nat? countLimit)
        bankCount := ← count.orElse default.bankCount (Json.nat? countLimit)
        bankSize := ← size.orElse default.bankSize (Json.nat? countLimit)
        replicatedBanks := ← banks.orElse default.replicatedBanks banks?
        moveDivisor := ← divisor.orElse default.moveDivisor
          fun json => (json.nat? 65536).map Nat.toUInt16 }
  | _ => none

/-- The variable of the environment that overrides the budget of instructions. -/
def budgetVariable : String := "FIELD_VM_MAX_OPS"

/-- Applies the value of the variable that overrides the budget; one that is not a count is
ignored. -/
def withBudget (config : Config) (value : Option String) : Config :=
  match value.bind fun text => Numeral.unsigned? countLimit (Text.trim text) with
  | some opsPerTick => { config with opsPerTick }
  | none => config

end FieldMachine.Config
