import ChipEight.Text.Numeral

/-!
# Failures

What can go wrong while a program runs, and what can be wrong with the settings
of a console before it starts.  Each cause has one message.
-/

namespace ChipEight

open ChipEight.Text

/-- Why an instruction could not be executed; each cause names the place of the
instruction. -/
inductive Fault where
  /-- The word at the program counter encodes no operation. -/
  | unknownOpcode (word counter : UInt16)
  /-- A call while every slot of the return stack is taken. -/
  | stackOverflow (counter : UInt16)
  /-- A return while no call is open. -/
  | stackUnderflow (counter : UInt16)
  deriving DecidableEq, Repr

def Fault.message : Fault → String
  | .unknownOpcode word counter =>
      "unknown opcode " ++ markedHexadecimal 4 word.toNat ++
        " at " ++ markedHexadecimal 3 counter.toNat
  | .stackOverflow counter =>
      "stack overflow: call at " ++ markedHexadecimal 3 counter.toNat ++
        " with a full stack"
  | .stackUnderflow counter =>
      "stack underflow: return at " ++
        markedHexadecimal 3 counter.toNat ++ " with an empty stack"

/-- Why a console could not be set up. -/
inductive SetupError where
  /-- A rate that no clock can keep; `clock` names which. -/
  | invalidRate (clock : String) (hertz : UInt32)
  /-- A thread the system refused to start; `cause` is the system's reason. -/
  | threadRefused (thread cause : String)
  deriving DecidableEq, Repr

namespace SetupError

def message : SetupError → String
  | .invalidRate clock hertz =>
      clock ++ " rate must be above 0 Hz, got " ++ decimal hertz.toNat
  | .threadRefused thread _ =>
      "failed to spawn the " ++ thread ++ " thread"

/-- The message of the underlying failure, where there is one. -/
def cause? : SetupError → Option String
  | .invalidRate _ _ => none
  | .threadRefused _ cause => some cause

end SetupError

end ChipEight
