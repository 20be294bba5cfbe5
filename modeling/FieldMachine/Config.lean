/-!
# Machine configuration

The tunable numbers of the machine.  The budget of instructions per tick and the
movement divisor belong to the frame rate of the loop that drives the machine;
nothing in a script depends on them.
-/

namespace FieldMachine

set_option autoImplicit false

/-- The tunable numbers of the machine. -/
structure Config where
  /-- How many instructions one lane may carry out in one tick. -/
  opsPerTick : Nat := 512
  bankCount : Nat := 16
  bankSize : Nat := 256
  /-- The banks whose writes are announced to the host. -/
  replicatedBanks : List UInt8 := []
  /-- Units of movement speed per field unit walked in one tick. -/
  moveDivisor : UInt16 := 64
deriving DecidableEq

/-- Whether writes to a bank are announced to the host. -/
def Config.isReplicated (config : Config) (bank : UInt8) : Bool :=
  config.replicatedBanks.contains bank

end FieldMachine
