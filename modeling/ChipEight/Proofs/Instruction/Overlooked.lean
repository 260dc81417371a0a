import ChipEight.Proofs.Instruction.Frame

/-!
# What instructions look at

An instruction overlooks a change of the state if it does after the change what
it does without it, with the change made to its outcome.  Then it neither looks
at what the change replaces nor replaces it itself, and where it fails, it fails
with the same fault.

Three instructions work on the timers and three look at the keypad.  The counter
and the return stack are looked at by calls and returns, and by a word that
encodes no operation, since its fault names the counter.
-/

namespace ChipEight

namespace State

def withTimers
    (delay : UInt8) (sound : Option UInt8) (state : State) : State :=
  { state with delayTimer := delay, soundTimer := sound }

def withKeypad (keypad : Vector Bool keyCount) (state : State) : State :=
  { state with keypad := keypad }

def withPlace
    (counter : UInt16) (stack : Vector UInt16 stackDepth)
    (state : State) : State :=
  { state with counter := counter, stack := stack }

end State

namespace Instruction

def usesTimers : Instruction → Bool
  | .getDelay _ | .setDelay _ | .setSound _ => true
  | _ => false

def readsKeypad : Instruction → Bool
  | .skipIfPressed _ | .skipIfNotPressed _ | .waitKey _ => true
  | _ => false

/-- Whether the place of an instruction in the program matters to it. -/
def usesPlace (instruction : Instruction) : Bool :=
  instruction.usesStack || instruction == .unknown

/-- Whether it makes no difference to an instruction if the state is changed
before it is executed or afterwards. -/
def Overlooks (instruction : Instruction) (change : State → State) : Prop :=
  ∀ chance state,
    instruction.execute chance (change state) =
      (instruction.execute chance state).map (Prod.map id change)

variable {instruction : Instruction}

theorem overlooks_withTimers
    (unused : instruction.usesTimers = false)
    (delay : UInt8) (sound : Option UInt8) :
    instruction.Overlooks (State.withTimers delay sound) := by
  intro chance state
  cases instruction with
  | getDelay x => cases unused
  | setDelay x => cases unused
  | setSound x => cases unused
  | returnFromCall =>
      have sameDepth : (state.withTimers delay sound).depth = state.depth := rfl
      simp only [execute, returnOn, sameDepth]
      split <;> rfl
  | call address =>
      have sameDepth : (state.withTimers delay sound).depth = state.depth := rfl
      simp only [execute, callOn, sameDepth]
      split <;> rfl
  | waitKey x =>
      have sameKey :
          (state.withTimers delay sound).firstKey? = state.firstKey? := rfl
      simp only [execute, waitKeyOn, sameKey]
      cases state.firstKey? <;> rfl
  | loadRegisters x =>
      simp only [execute, loadRegistersOn, State.withTimers, Except.map,
        Prod.map, id]
  | _ => rfl

theorem overlooks_withKeypad
    (unread : instruction.readsKeypad = false)
    (keypad : Vector Bool keyCount) :
    instruction.Overlooks (State.withKeypad keypad) := by
  intro chance state
  cases instruction with
  | skipIfPressed x => cases unread
  | skipIfNotPressed x => cases unread
  | waitKey x => cases unread
  | returnFromCall =>
      have sameDepth : (state.withKeypad keypad).depth = state.depth := rfl
      simp only [execute, returnOn, sameDepth]
      split <;> rfl
  | call address =>
      have sameDepth : (state.withKeypad keypad).depth = state.depth := rfl
      simp only [execute, callOn, sameDepth]
      split <;> rfl
  | loadRegisters x =>
      simp only [execute, loadRegistersOn, State.withKeypad, Except.map,
        Prod.map, id]
  | _ => rfl

theorem overlooks_withPlace
    (unused : instruction.usesPlace = false)
    (counter : UInt16) (stack : Vector UInt16 stackDepth) :
    instruction.Overlooks (State.withPlace counter stack) := by
  intro chance state
  cases instruction with
  | call address => cases unused
  | returnFromCall => cases unused
  | unknown => cases unused
  | waitKey x =>
      have sameKey :
          (state.withPlace counter stack).firstKey? = state.firstKey? := rfl
      simp only [execute, waitKeyOn, sameKey]
      cases state.firstKey? <;> rfl
  | loadRegisters x =>
      simp only [execute, loadRegistersOn, State.withPlace, Except.map,
        Prod.map, id]
  | _ => rfl

end Instruction

end ChipEight
