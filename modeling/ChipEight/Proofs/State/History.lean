import ChipEight.Machine

/-!
# Histories of a state

Everything that can be done to a state from outside, in any order and any number
of times.  Each step is given its random byte along, so a history fixes what the
random source supplies and nothing else.
-/

namespace ChipEight

/-- One thing done to a state from outside. -/
inductive Input where
  /-- All is thrown away and a program loaded. -/
  | reset (program : List UInt8)
  /-- One instruction is executed, or fails, with a random byte at hand. -/
  | step (chance : UInt8)
  | tick
  | key (key : UInt8) (pressed : Bool)
  deriving DecidableEq, Repr

namespace State

def apply (state : State) : Input → State
  | .reset program => State.ofProgram program
  | .step chance => (state.step chance).1
  | .tick => state.tick.1
  | .key key pressed => state.setKey key pressed

def run (state : State) : List Input → State
  | [] => state
  | input :: rest => (state.apply input).run rest

/-- What holds at first and is kept by every input holds after every
history. -/
theorem run_keeps
    {holds : State → Prop}
    (kept : ∀ state input, holds state → holds (state.apply input))
    {state : State} (atFirst : holds state) (history : List Input) :
    holds (state.run history) := by
  induction history generalizing state with
  | nil => exact atFirst
  | cons input rest inductionHypothesis =>
      exact inductionHypothesis (kept state input atFirst)

theorem step_of_ok
    {state after : State} {chance : UInt8} {flow : Flow}
    (ran : state.instruction.execute chance { state with redraw := false } =
      .ok (flow, after)) :
    state.step chance =
      ({ after with counter := flow.after state.counter },
        .ok state.instruction) := by
  have sameInstruction :
      State.instruction { state with redraw := false } =
        state.instruction := rfl
  simp only [step, sameInstruction, ran]

theorem step_of_error
    {state : State} {chance : UInt8} {fault : Fault}
    (failed :
      state.instruction.execute chance { state with redraw := false } =
        .error fault) :
    state.step chance = ({ state with redraw := false }, .error fault) := by
  have sameInstruction :
      State.instruction { state with redraw := false } =
        state.instruction := rfl
  simp only [step, sameInstruction, failed]

/-- A step either executes the instruction at the counter, or fails with the
fault of that instruction and leaves everything but the redraw mark alone. -/
theorem step_cases (state : State) (chance : UInt8) :
    (∃ flow after,
        state.instruction.execute chance { state with redraw := false } =
            .ok (flow, after) ∧
          state.step chance =
            ({ after with counter := flow.after state.counter },
              .ok state.instruction)) ∨
      ∃ fault,
        state.instruction.execute chance { state with redraw := false } =
            .error fault ∧
          state.step chance =
            ({ state with redraw := false }, .error fault) := by
  cases outcome :
      state.instruction.execute chance { state with redraw := false } with
  | ok result => exact Or.inl ⟨result.1, result.2, rfl, step_of_ok outcome⟩
  | error fault => exact Or.inr ⟨fault, rfl, step_of_error outcome⟩

/-- Counting the timers down changes nothing but the timers. -/
theorem tick_frame (state : State) :
    ∃ delay sound,
      state.tick.1 =
        { state with delayTimer := delay, soundTimer := sound } := by
  cases sounding : state.soundTimer with
  | none =>
      simp only [tick, sounding]
      exact ⟨_, _, rfl⟩
  | some sound =>
      by_cases silent : sound = 0
      · simp only [tick, sounding, if_pos silent]
        exact ⟨_, _, rfl⟩
      · simp only [tick, sounding, if_neg silent]
        exact ⟨_, _, rfl⟩

/-- Pressing or releasing a key changes nothing but the keypad. -/
theorem setKey_frame (state : State) (key : UInt8) (pressed : Bool) :
    ∃ keypad, state.setKey key pressed = { state with keypad := keypad } := by
  by_cases present : key.toNat < keyCount
  · simp only [setKey, dif_pos present]
    exact ⟨_, rfl⟩
  · simp only [setKey, dif_neg present]
    exact ⟨_, rfl⟩

end State

/-- A step of a machine is a step of its state with the byte its source
supplies. -/
theorem Machine.step_eq (machine : Machine) :
    let chance := machine.chance machine.state.instruction
    machine.step.1.state = (machine.state.step chance).1 ∧
      machine.step.2 = (machine.state.step chance).2 := by
  intro chance
  unfold Machine.step
  rcases outcome : machine.state.step chance with ⟨state, _ | executed⟩ <;>
    simp only [chance] at outcome <;> simp only [outcome, and_self]

end ChipEight
