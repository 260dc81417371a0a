import ChipEight.Text.Numeral

/-!
# Control flow

Where the program counter goes once an instruction has run.
-/

namespace ChipEight

/-- What happens to the program counter. -/
inductive Flow where
  /-- On to the following instruction. -/
  | next
  /-- Past the following instruction. -/
  | skip
  | goto (address : UInt16)
  /-- Nowhere: the same instruction runs again. -/
  | stay
  deriving DecidableEq, Repr

namespace Flow

/-- Skips the following instruction when a condition holds. -/
def skipWhen (condition : Bool) : Flow :=
  if condition then .skip else .next

/-- The program counter that follows another under a flow. -/
def after : Flow → UInt16 → UInt16
  | .next, counter => counter + 2
  | .skip, counter => counter + 4
  | .goto address, _ => address
  | .stay, counter => counter

/-- The name of a flow, with its target if it has one. -/
def record : Flow → String
  | .next => "Next"
  | .skip => "Skip"
  | .goto address => "Goto(" ++ Text.decimal address.toNat ++ ")"
  | .stay => "Stay"

end Flow

end ChipEight
