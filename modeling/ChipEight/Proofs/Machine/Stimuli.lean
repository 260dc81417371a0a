import ChipEight.Proofs.Instruction.Overlooked
import ChipEight.Proofs.State.History

/-!
# Runs of a machine

A machine is driven by stimuli, and each of them is answered: a step with its
outcome, a count of the timers with whether the sound timer was found run out, and
the others with nothing.

A change of the state that the instruction at the counter overlooks, and that has
nothing to do with the place, memory and the redraw mark, can be made before a step
or after it.
-/

namespace ChipEight

/-- One thing that is done to a machine from outside. -/
inductive Stimulus where
  | reset (program : List UInt8)
  | step
  | tick
  | key (key : UInt8) (pressed : Bool)
  deriving DecidableEq, Repr

/-- What a machine answers. -/
inductive Response where
  | stepped (outcome : Except Fault Instruction)
  /-- Whether the sound timer was found run out. -/
  | ticked (expired : Bool)
  | silent

namespace Response

def outcome? : Response → Option (Except Fault Instruction)
  | .stepped outcome => some outcome
  | _ => none

/-- Whether the answer has a sound begin. -/
def sounds : Response → Bool
  | .ticked expired => expired
  | _ => false

end Response

namespace Machine

def respond (machine : Machine) : Stimulus → Machine × Response
  | .reset program => (machine.reset program, .silent)
  | .step => (machine.step.1, .stepped machine.step.2)
  | .tick => (machine.tick.1, .ticked machine.tick.2)
  | .key key pressed => (machine.setKey key pressed, .silent)

def run (machine : Machine) : List Stimulus → Machine × List Response
  | [] => (machine, [])
  | stimulus :: rest =>
      let answered := machine.respond stimulus
      let later := answered.1.run rest
      (later.1, answered.2 :: later.2)

/-- How the steps of a run come out, in their order. -/
def outcomes (machine : Machine) (stimuli : List Stimulus) :
    List (Except Fault Instruction) :=
  (machine.run stimuli).2.filterMap Response.outcome?

/-- How many times the sound is triggered in a run. -/
def soundTriggers (machine : Machine) (stimuli : List Stimulus) : Nat :=
  (machine.run stimuli).2.countP Response.sounds

end Machine

namespace State

/-- Whether a change has nothing to do with what a step works on whatever its
instruction: the place, memory and the redraw mark. -/
structure Aside (change : State → State) : Prop where
  counter : ∀ state, (change state).counter = state.counter
  stack : ∀ state, (change state).stack = state.stack
  memory : ∀ state, (change state).memory = state.memory
  placed :
    ∀ state counter stack,
      change (state.withPlace counter stack) =
        (change state).withPlace counter stack
  cleared :
    ∀ state, change { state with redraw := false } =
      { change state with redraw := false }

theorem aside_withTimers (delay : UInt8) (sound : Option UInt8) :
    Aside (withTimers delay sound) := by
  constructor <;> intros <;> rfl

theorem aside_withKeypad (keypad : Vector Bool keyCount) :
    Aside (withKeypad keypad) := by
  constructor <;> intros <;> rfl

theorem aside_cleared :
    Aside fun state => { state with redraw := false } := by
  constructor <;> intros <;> rfl

variable {state other : State} {change : State → State}

theorem Aside.instruction_eq (aside : Aside change) (state : State) :
    (change state).instruction = state.instruction := by
  simp only [instruction, fetch, aside.counter, aside.memory]

theorem Aside.moved
    (aside : Aside change) (state : State) (counter : UInt16) :
    change { state with counter := counter } =
      { change state with counter := counter } := by
  have placed := aside.placed state counter state.stack
  simp only [withPlace] at placed
  rw [placed, ← aside.stack]

/-- A change that is overlooked can be made before a step or after it. -/
theorem step_of_overlooks
    (aside : Aside change)
    (overlooked : state.instruction.Overlooks change) (chance : UInt8) :
    (change state).step chance =
      (change (state.step chance).1, (state.step chance).2) := by
  have executed := overlooked chance { state with redraw := false }
  rw [aside.cleared] at executed
  have sameInstruction := aside.instruction_eq state
  cases outcome :
      state.instruction.execute chance { state with redraw := false } with
  | ok result =>
      have ran :
          (change state).instruction.execute chance
              { change state with redraw := false } =
            .ok (result.1, change result.2) := by
        rw [sameInstruction, executed, outcome]
        rfl
      rw [step_of_ok ran, step_of_ok outcome, sameInstruction,
        aside.counter]
      exact Prod.ext (aside.moved result.2 _).symm rfl
  | error fault =>
      have failed :
          (change state).instruction.execute chance
              { change state with redraw := false } = .error fault := by
        rw [sameInstruction, executed, outcome]
        rfl
      rw [step_of_error failed, step_of_error outcome, aside.cleared]

/-- Counting down looks at the timers only. -/
theorem tick_of_sameTimers
    (sameDelay : other.delayTimer = state.delayTimer)
    (sameSound : other.soundTimer = state.soundTimer) :
    other.tick =
      (other.withTimers state.tick.1.delayTimer state.tick.1.soundTimer,
        state.tick.2) := by
  cases sounding : state.soundTimer with
  | none => simp only [tick, sameDelay, sameSound, sounding, withTimers]
  | some sound =>
      by_cases runOut : sound = 0
      · simp only [tick, sameDelay, sameSound, sounding, if_pos runOut,
          withTimers]
      · simp only [tick, sameDelay, sameSound, sounding, if_neg runOut,
          withTimers]

/-- Pressing or releasing a key looks at the keypad only. -/
theorem setKey_of_sameKeypad
    (sameKeypad : other.keypad = state.keypad)
    (key : UInt8) (pressed : Bool) :
    other.setKey key pressed =
      other.withKeypad (state.setKey key pressed).keypad := by
  by_cases present : key.toNat < keyCount
  · simp only [setKey, dif_pos present, withKeypad, sameKeypad]
  · simp only [setKey, dif_neg present, withKeypad, ← sameKeypad]

theorem tick_withTimers (state : State) :
    state.tick =
      (state.withTimers state.tick.1.delayTimer state.tick.1.soundTimer,
        state.tick.2) :=
  tick_of_sameTimers rfl rfl

theorem setKey_withKeypad (state : State) (key : UInt8) (pressed : Bool) :
    state.setKey key pressed =
      state.withKeypad (state.setKey key pressed).keypad :=
  setKey_of_sameKeypad rfl key pressed

end State

namespace Machine

variable {machine : Machine} {changed : State}

/-- What a change of the state does to a step of the machine, it does with the
same byte from the random source. -/
theorem step_of_state
    (change : State → State)
    (sameInstruction : changed.instruction = machine.state.instruction)
    (stepped : ∀ chance, changed.step chance =
      (change (machine.state.step chance).1,
        (machine.state.step chance).2)) :
    ({ machine with state := changed } : Machine).step =
      ({ machine.step.1 with state := change machine.step.1.state },
        machine.step.2) := by
  have sameChance :
      ({ machine with state := changed } : Machine).chance
          machine.state.instruction =
        machine.chance machine.state.instruction := rfl
  unfold step
  simp only [sameInstruction, sameChance, stepped]
  rcases machine.state.step (machine.chance machine.state.instruction)
    with ⟨after, _ | _⟩ <;> rfl

end Machine

end ChipEight
