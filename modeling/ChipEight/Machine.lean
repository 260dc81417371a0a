import ChipEight.Instruction.Execution
import ChipEight.KeyStream
import ChipEight.Notice

/-!
# The machine

The state together with its random source, and the three things that happen to
it: one instruction is executed, the timers count down once, a key is pressed or
released.  A failing instruction leaves everything but the redraw mark as it
was.

What an instruction and a count of the timers do is said of the state alone; the
machine only supplies the random byte an instruction asks for.
-/

namespace ChipEight

namespace State

/-- The instruction the program counter points at. -/
def instruction (state : State) : Instruction :=
  Instruction.decode state.fetch

/-- Executes the instruction at the program counter, given the byte the random
source would supply.  The outcome is that instruction, or the fault it met. -/
def step
    (state : State) (chance : UInt8) :
    State × Except Fault Instruction :=
  let ready := { state with redraw := false }
  let instruction := ready.instruction
  match instruction.execute chance ready with
  | .ok (flow, after) =>
      ({ after with counter := flow.after ready.counter },
        .ok instruction)
  | .error fault => (ready, .error fault)

/-- Counts both timers down by one; the second component tells whether the
sound timer was found run out. -/
def tick (state : State) : State × Bool :=
  let delay :=
    if state.delayTimer = 0 then 0 else state.delayTimer - 1
  match state.soundTimer with
  | none => ({ state with delayTimer := delay }, false)
  | some sound =>
      if sound = 0 then
        ({ state with delayTimer := delay, soundTimer := none }, true)
      else
        ({ state with
            delayTimer := delay
            soundTimer := some (sound - 1) },
          false)

end State

/-- A console that is driven from outside, one event at a time. -/
structure Machine where
  state : State
  source : KeyStream
  deriving DecidableEq, Repr

namespace Machine

def fresh (source : KeyStream) : Machine where
  state := State.fresh
  source := source

/-- The machine with a program loaded and all other state thrown away.  The
random source goes on where it was. -/
def reset (machine : Machine) (program : List UInt8) : Machine :=
  { machine with state := State.ofProgram program }

def setKey (machine : Machine) (key : UInt8) (pressed : Bool) : Machine :=
  { machine with state := machine.state.setKey key pressed }

/-- The notice of the instruction that the next step executes. -/
def trace (machine : Machine) : Notice :=
  .executing machine.state.counter machine.state.fetch

/-- The random byte an instruction is given; zero for one that needs none. -/
def chance (machine : Machine) (instruction : Instruction) : UInt8 :=
  if instruction.usesRandom then machine.source.byte else 0

/-- The random source behind an instruction. -/
def sourceAfter (machine : Machine) (instruction : Instruction) :
    KeyStream :=
  if instruction.usesRandom then
    machine.source.advance
  else
    machine.source

/-- Executes the instruction at the program counter.  The outcome is that
instruction, or the fault it met. -/
def step (machine : Machine) : Machine × Except Fault Instruction :=
  let instruction := machine.state.instruction
  match machine.state.step (machine.chance instruction) with
  | (state, .ok executed) =>
      ({ state := state, source := machine.sourceAfter instruction },
        .ok executed)
  | (state, .error fault) =>
      ({ machine with state := state }, .error fault)

/-- Counts both timers down by one; the second component tells whether the
sound timer was found run out. -/
def tick (machine : Machine) : Machine × Bool :=
  let (state, expired) := machine.state.tick
  ({ machine with state := state }, expired)

end Machine

end ChipEight
