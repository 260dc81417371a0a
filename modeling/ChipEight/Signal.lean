import ChipEight.Notice

/-!
# Requests and signals

What can be asked of a console that runs by itself, and what it sends out.
-/

namespace ChipEight

/-- What a client can ask of a console. -/
inductive Request where
  /-- Start over, with a new program or the one loaded last. -/
  | restart (program : Option (List UInt8))
  /-- Stop the clocks. -/
  | pause
  /-- Let the clocks go on after a pause. -/
  | resume
  /-- Press or release a key. -/
  | key (key : UInt8) (pressed : Bool)
  /-- Send back the state of the machine. -/
  | inspect
  /-- End the service. -/
  | shutdown
  deriving DecidableEq, Repr

/-- What a console sends out. -/
inductive Signal where
  /-- The console has entered a phase. -/
  | entered (phase : Phase)
  /-- The sound timer ran out. -/
  | sounded
  /-- The answer to an inspection. -/
  | answered (state : State)
  /-- A line for the log. -/
  | noted (notice : Notice)
  deriving DecidableEq, Repr

namespace Signal

def phase? : Signal → Option Phase
  | .entered phase => some phase
  | _ => none

def answer? : Signal → Option State
  | .answered state => some state
  | _ => none

def notice? : Signal → Option Notice
  | .noted notice => some notice
  | _ => none

end Signal

end ChipEight
