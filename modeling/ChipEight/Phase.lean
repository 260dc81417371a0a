/-!
# Phases of a console

A console starts out without a program, runs once it has one, and may be paused
and resumed from then on.
-/

namespace ChipEight

/-- What a console is doing. -/
inductive Phase where
  /-- No program was loaded yet. -/
  | initial
  /-- The clocks are running. -/
  | running
  /-- The clocks stand still. -/
  | paused
  deriving DecidableEq, Repr

namespace Phase

/-- The phase a byte stands for; a byte that stands for none is read as the
initial phase. -/
def ofByte (byte : UInt8) : Phase :=
  if byte = 1 then
    .running
  else if byte = 2 then
    .paused
  else
    .initial

def name : Phase → String
  | .initial => "Initial"
  | .running => "Running"
  | .paused => "Paused"

end Phase

end ChipEight
