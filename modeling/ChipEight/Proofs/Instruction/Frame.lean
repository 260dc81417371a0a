import ChipEight.Instruction.Execution

/-!
# What instructions leave alone

Only a call and a return touch the return stack and its depth; only clearing and
drawing touch the screen, and they mark it for redrawing.  All of this is read off
the instruction, whatever its operands and the state are.
-/

namespace ChipEight.Instruction

/-- Whether an instruction works on the return stack. -/
def usesStack : Instruction → Bool
  | .call _ | .returnFromCall => true
  | _ => false

/-- Whether an instruction works on the screen. -/
def usesScreen : Instruction → Bool
  | .clearScreen | .draw _ _ _ => true
  | _ => false

variable {instruction : Instruction} {chance : UInt8} {flow : Flow}
  {state after : State}

/-! ## Executions with two outcomes -/

theorem execute_call
    {address : UInt16}
    (executed : (call address).execute chance state = .ok (flow, after)) :
    state.depth.toNat < stackDepth ∧
      flow = .goto address ∧ after = state.push (state.counter + 2) := by
  simp only [execute, callOn] at executed
  split at executed
  case isTrue => cases executed
  case isFalse notFull =>
    cases executed
    exact ⟨Nat.lt_of_not_le notFull, rfl, rfl⟩

theorem execute_returnFromCall
    (executed : returnFromCall.execute chance state = .ok (flow, after)) :
    state.depth ≠ 0 ∧
      flow = .goto state.latestAddress ∧ after = state.pop := by
  simp only [execute, returnOn] at executed
  split at executed
  case isTrue => cases executed
  case isFalse notEmpty =>
    cases executed
    exact ⟨notEmpty, rfl, rfl⟩

theorem execute_waitKey
    {x : UInt8}
    (executed : (waitKey x).execute chance state = .ok (flow, after)) :
    (state.firstKey? = none ∧ flow = .stay ∧ after = state) ∨
      ∃ key, state.firstKey? = some key ∧
        flow = .next ∧ after = state.setRegister x key := by
  simp only [execute, waitKeyOn] at executed
  split at executed
  case h_1 key down =>
    cases executed
    exact Or.inr ⟨key, down, rfl, rfl⟩
  case h_2 allUp =>
    cases executed
    exact Or.inl ⟨allUp, rfl, rfl⟩

/-! ## Parts left alone -/

theorem stack_execute
    (executed : instruction.execute chance state = .ok (flow, after))
    (unused : instruction.usesStack = false) :
    after.stack = state.stack ∧ after.depth = state.depth := by
  cases instruction with
  | call address => cases unused
  | returnFromCall => cases unused
  | unknown => cases executed
  | waitKey x =>
      rcases execute_waitKey executed with
        ⟨_, _, rfl⟩ | ⟨key, _, _, rfl⟩ <;> exact ⟨rfl, rfl⟩
  | loadRegisters x =>
      cases executed
      simp only [loadRegistersOn, and_self]
  | _ =>
      cases executed
      exact ⟨rfl, rfl⟩

theorem screen_execute
    (executed : instruction.execute chance state = .ok (flow, after))
    (unused : instruction.usesScreen = false) :
    after.screen = state.screen := by
  cases instruction with
  | clearScreen => cases unused
  | draw x y rows => cases unused
  | unknown => cases executed
  | returnFromCall =>
      obtain ⟨_, _, rfl⟩ := execute_returnFromCall executed
      rfl
  | call address =>
      obtain ⟨_, _, rfl⟩ := execute_call executed
      rfl
  | waitKey x =>
      rcases execute_waitKey executed with
        ⟨_, _, rfl⟩ | ⟨key, _, _, rfl⟩ <;> rfl
  | loadRegisters x =>
      cases executed
      simp only [loadRegistersOn]
  | _ =>
      cases executed
      rfl

/-- Working on the screen is what sets the redraw mark. -/
theorem redraw_execute
    (executed : instruction.execute chance state = .ok (flow, after)) :
    after.redraw = (instruction.usesScreen || state.redraw) := by
  cases instruction with
  | unknown => cases executed
  | returnFromCall =>
      obtain ⟨_, _, rfl⟩ := execute_returnFromCall executed
      rfl
  | call address =>
      obtain ⟨_, _, rfl⟩ := execute_call executed
      rfl
  | waitKey x =>
      rcases execute_waitKey executed with
        ⟨_, _, rfl⟩ | ⟨key, _, _, rfl⟩ <;> rfl
  | loadRegisters x =>
      cases executed
      simp only [loadRegistersOn, usesScreen, Bool.false_or]
  | _ =>
      cases executed
      rfl

end ChipEight.Instruction
