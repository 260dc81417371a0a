import ChipEight.Proofs.Instruction.Frame
import ChipEight.Proofs.State.History

/-!
# Calls and returns

The return stack seen as a list: the addresses in the slots below its depth, the
oldest first.  A call appends the address behind it to that list and a return
takes the last address off; nothing else touches it.

The list a history ought to have left is computed beside the stack, from what the
steps report alone: `openCallsAfter` holds one address for every call that was
executed and not yet returned from.  `returnStack_lifo` states that both lists
agree after every history, that a call fails exactly on a list of sixteen and a
return exactly on an empty one, and that a call is answered by the address behind
it at the first return that takes the stack back to where the call found it.
-/

namespace ChipEight.State

/-! ## The stack as a list -/

/-- The return addresses held by the stack, the oldest first. -/
def returnAddresses (state : State) : List UInt16 :=
  state.stack.toList.take state.depth.toNat

theorem length_returnAddresses
    {state : State} (bounded : state.depth.toNat ≤ stackDepth) :
    state.returnAddresses.length = state.depth.toNat := by
  unfold returnAddresses
  rw [List.length_take, Vector.length_toList]
  exact Nat.min_eq_left bounded

/-- The slot of a depth below the limit is the depth itself. -/
theorem val_stackSlot
    {depth : UInt8} (room : depth.toNat < stackDepth) :
    (stackSlot depth).val = depth.toNat :=
  Nat.mod_eq_of_lt room

theorem toNat_depth_push
    {state : State} (room : state.depth.toNat < stackDepth)
    (address : UInt16) :
    (state.push address).depth.toNat = state.depth.toNat + 1 := by
  have small : state.depth.toNat + 1 < 256 := by
    have : stackDepth = 16 := rfl
    omega
  simp only [push, UInt8.toNat_add, UInt8.toNat_one]
  exact Nat.mod_eq_of_lt small

theorem toNat_depth_pop
    {state : State} (present : state.depth ≠ 0) :
    state.pop.depth.toNat + 1 = state.depth.toNat := by
  have positive : state.depth.toNat ≠ 0 := by
    intro empty
    exact present (UInt8.toNat_inj.mp empty)
  have reached : (1 : UInt8) ≤ state.depth := by
    rw [UInt8.le_iff_toNat_le, UInt8.toNat_one]
    omega
  simp only [pop, UInt8.toNat_sub_of_le _ _ reached, UInt8.toNat_one]
  omega

theorem returnAddresses_push
    {state : State} (room : state.depth.toNat < stackDepth)
    (address : UInt16) :
    (state.push address).returnAddresses =
      state.returnAddresses ++ [address] := by
  have slot := val_stackSlot room
  have inRange :
      state.depth.toNat < (state.stack.toList.set state.depth.toNat
        address).length := by
    simpa using room
  unfold returnAddresses
  rw [toNat_depth_push room]
  simp only [push, Vector.toList_set, slot]
  rw [List.take_add_one, List.getElem?_eq_getElem inRange,
    List.getElem_set_self, Option.toList_some,
    List.take_set_of_le (Nat.le_refl _)]

theorem returnAddresses_pop
    {state : State} (bounded : state.depth.toNat ≤ stackDepth)
    (present : state.depth ≠ 0) :
    state.returnAddresses =
      state.pop.returnAddresses ++
        [state.latestAddress] := by
  have shorter := toNat_depth_pop present
  have room : state.pop.depth.toNat < stackDepth := by omega
  have slot := val_stackSlot room
  have inRange : state.pop.depth.toNat < state.stack.toList.length := by
    simpa using room
  have sameStack : state.pop.stack = state.stack := rfl
  unfold returnAddresses
  rw [← shorter, List.take_add_one, List.getElem?_eq_getElem inRange,
    sameStack, Option.toList_some]
  simp only [Vector.getElem_toList, latestAddress, Fin.getElem_fin, slot]

/-! ## Steps that use the stack -/

variable {state : State} {calls : List UInt16}

theorem step_call
    {address : UInt16} (chance : UInt8)
    (isCall : state.instruction = .call address)
    (room : state.depth.toNat < stackDepth) :
    state.step chance =
      ({ (state.push (state.counter + 2)) with
          counter := address
          redraw := false },
        .ok (.call address)) := by
  have sameInstruction :
      State.instruction { state with redraw := false } =
        .call address := isCall
  have notFull : ¬ stackDepth ≤ state.depth.toNat := by omega
  simp only [step, sameInstruction, Instruction.execute,
    Instruction.callOn, if_neg notFull]
  rfl

theorem step_call_of_full
    {address : UInt16} (chance : UInt8)
    (isCall : state.instruction = .call address)
    (full : stackDepth ≤ state.depth.toNat) :
    state.step chance =
      ({ state with redraw := false },
        .error (.stackOverflow state.counter)) := by
  have sameInstruction :
      State.instruction { state with redraw := false } =
        .call address := isCall
  simp only [step, sameInstruction, Instruction.execute,
    Instruction.callOn, if_pos full]

theorem step_return
    (chance : UInt8)
    (isReturn : state.instruction = .returnFromCall)
    (present : state.depth ≠ 0) :
    state.step chance =
      ({ state.pop with
          counter := state.latestAddress
          redraw := false },
        .ok .returnFromCall) := by
  have sameInstruction :
      State.instruction { state with redraw := false } =
        .returnFromCall := isReturn
  simp only [step, sameInstruction, Instruction.execute,
    Instruction.returnOn, if_neg present]
  rfl

theorem step_return_of_empty
    (chance : UInt8)
    (isReturn : state.instruction = .returnFromCall)
    (empty : state.depth = 0) :
    state.step chance =
      ({ state with redraw := false },
        .error (.stackUnderflow state.counter)) := by
  have sameInstruction :
      State.instruction { state with redraw := false } =
        .returnFromCall := isReturn
  simp only [step, sameInstruction, Instruction.execute,
    Instruction.returnOn, if_pos empty]

/-- Any other step keeps the list, whether it succeeds or fails. -/
theorem returnAddresses_step
    (chance : UInt8) (unused : state.instruction.usesStack = false) :
    (state.step chance).1.depth = state.depth ∧
      (state.step chance).1.returnAddresses = state.returnAddresses := by
  rcases step_cases state chance with
    ⟨flow, after, executed, outcome⟩ | ⟨fault, _, outcome⟩
  · obtain ⟨sameStack, sameDepth⟩ :=
      Instruction.stack_execute executed unused
    rw [outcome]
    unfold returnAddresses
    rw [sameStack, sameDepth]
    exact ⟨rfl, rfl⟩
  · rw [outcome]
    exact ⟨rfl, rfl⟩

/-- A step reports the instruction at the counter, if it reports one. -/
theorem step_reports
    {chance : UInt8} {instruction : Instruction}
    (reported : (state.step chance).2 = .ok instruction) :
    state.instruction = instruction := by
  rcases step_cases state chance with
    ⟨flow, after, _, outcome⟩ | ⟨fault, _, outcome⟩
  · rw [outcome] at reported
    exact Except.ok.inj reported
  · rw [outcome] at reported
    cases reported

/-! ## The calls that are open -/

/-- The calls open after a step, given those open before it, the address behind
the instruction and what the step reports: an executed call adds the address, an
executed return takes off the latest. -/
def openCallsReported
    (calls : List UInt16) (behind : UInt16) :
    Except Fault Instruction → List UInt16
  | .ok (.call _) => calls ++ [behind]
  | .ok .returnFromCall => calls.dropLast
  | _ => calls

theorem openCallsReported_call
    (calls : List UInt16) (behind address : UInt16) :
    openCallsReported calls behind (.ok (.call address)) =
      calls ++ [behind] := rfl

theorem openCallsReported_return
    (calls : List UInt16) (behind : UInt16) :
    openCallsReported calls behind (.ok .returnFromCall) =
      calls.dropLast := rfl

theorem openCallsReported_error
    (calls : List UInt16) (behind : UInt16) (fault : Fault) :
    openCallsReported calls behind (.error fault) = calls := rfl

theorem openCallsReported_of_unused
    {instruction : Instruction}
    (unused : instruction.usesStack = false)
    (calls : List UInt16) (behind : UInt16) :
    openCallsReported calls behind (.ok instruction) = calls := by
  cases instruction with
  | call address => cases unused
  | returnFromCall => cases unused
  | _ => rfl

/-- The calls open after one input, given those open before it; a reset forgets
them. -/
def openCalls
    (state : State) (calls : List UInt16) : Input → List UInt16
  | .reset _ => []
  | .step chance =>
      openCallsReported calls (state.counter + 2) (state.step chance).2
  | .tick | .key _ _ => calls

def openCallsAfter
    (state : State) (calls : List UInt16) : List Input → List UInt16
  | [] => calls
  | input :: rest =>
      (state.apply input).openCallsAfter
        (state.openCalls calls input) rest

/-- The stack holds exactly the calls that are open, and not more than it has
slots for. -/
structure Holds (state : State) (calls : List UInt16) : Prop where
  bounded : state.depth.toNat ≤ stackDepth
  addresses : state.returnAddresses = calls

theorem Holds.length
    (holds : state.Holds calls) : state.depth.toNat = calls.length := by
  rw [← holds.addresses, length_returnAddresses holds.bounded]

theorem Holds.depth_eq_zero_iff
    (holds : state.Holds calls) : state.depth = 0 ↔ calls = [] := by
  rw [← List.length_eq_zero_iff, ← holds.length]
  exact UInt8.toNat_inj.symm

/-- A return that finds a call open takes the latest off and goes there. -/
theorem Holds.step_return
    (holds : state.Holds calls) (chance : UInt8)
    (isReturn : state.instruction = .returnFromCall)
    (nonempty : calls ≠ []) :
    calls = (state.step chance).1.returnAddresses ++
        [(state.step chance).1.counter] ∧
      (state.step chance).1.depth.toNat ≤ stackDepth ∧
      (state.step chance).2 = .ok .returnFromCall := by
  have present : state.depth ≠ 0 := by
    intro empty
    exact nonempty (holds.depth_eq_zero_iff.mp empty)
  have split := returnAddresses_pop holds.bounded present
  have shorter := toNat_depth_pop present
  have bounded := holds.bounded
  rw [State.step_return chance isReturn present, ← holds.addresses]
  refine ⟨split, ?_, rfl⟩
  change state.pop.depth.toNat ≤ stackDepth
  omega

theorem Holds.step
    (holds : state.Holds calls) (chance : UInt8) :
    (state.step chance).1.Holds
      (state.openCalls calls (.step chance)) := by
  by_cases unused : state.instruction.usesStack = false
  · obtain ⟨sameDepth, sameAddresses⟩ :=
      returnAddresses_step chance unused
    have sameCalls :
        state.openCalls calls (.step chance) = calls := by
      simp only [openCalls]
      rcases reported : (state.step chance).2 with fault | instruction
      · exact openCallsReported_error calls _ fault
      · rw [step_reports reported] at unused
        exact openCallsReported_of_unused unused calls _
    rw [sameCalls]
    exact ⟨sameDepth ▸ holds.bounded, sameAddresses.trans holds.addresses⟩
  · cases isUsed : state.instruction with
    | call address =>
        by_cases room : state.depth.toNat < stackDepth
        · have pushed := step_call chance isUsed room
          have longer := toNat_depth_push room (state.counter + 2)
          have appended := returnAddresses_push room (state.counter + 2)
          simp only [openCalls, pushed, openCallsReported_call]
          refine ⟨?_, ?_⟩
          · change (state.push (state.counter + 2)).depth.toNat ≤ stackDepth
            omega
          · rw [← holds.addresses]
            exact appended
        · have failed :=
            step_call_of_full chance isUsed (Nat.le_of_not_lt room)
          simp only [openCalls, failed, openCallsReported_error]
          exact ⟨holds.bounded, holds.addresses⟩
    | returnFromCall =>
        by_cases empty : calls = []
        · have failed :=
            step_return_of_empty chance isUsed
              (holds.depth_eq_zero_iff.mpr empty)
          simp only [openCalls, failed, openCallsReported_error]
          exact ⟨holds.bounded, holds.addresses⟩
        · obtain ⟨split, bounded, reported⟩ :=
            holds.step_return chance isUsed empty
          simp only [openCalls, reported, openCallsReported_return]
          refine ⟨bounded, ?_⟩
          rw [split, List.dropLast_concat]
    | _ =>
        rw [isUsed] at unused
        exact absurd rfl unused

/-- Every input keeps the stack and the open calls together. -/
theorem Holds.apply
    (holds : state.Holds calls) (input : Input) :
    (state.apply input).Holds (state.openCalls calls input) := by
  cases input with
  | reset program => exact ⟨Nat.zero_le _, rfl⟩
  | step chance => exact holds.step chance
  | tick =>
      obtain ⟨delay, sound, ticked⟩ := tick_frame state
      simp only [State.apply, ticked]
      exact ⟨holds.bounded, holds.addresses⟩
  | key key pressed =>
      obtain ⟨keypad, pressed⟩ := setKey_frame state key pressed
      simp only [State.apply, pressed]
      exact ⟨holds.bounded, holds.addresses⟩

theorem Holds.run
    (holds : state.Holds calls) (history : List Input) :
    (state.run history).Holds (state.openCallsAfter calls history) := by
  induction history generalizing state calls with
  | nil => exact holds
  | cons input rest inductionHypothesis =>
      exact inductionHypothesis (holds.apply input)

theorem holds_fresh : State.fresh.Holds [] :=
  ⟨Nat.zero_le _, rfl⟩

/-! ## Calls and their returns -/

/-- The next step, given its random byte, is a return that takes the stack back
to a depth. -/
def ReturnsTo (state : State) (chance depth : UInt8) : Prop :=
  (state.step chance).2 = .ok .returnFromCall ∧
    (state.step chance).1.depth = depth

/-- No step on the way of a history is a return that takes the stack back to a
depth. -/
def StaysAbove
    (state : State) (depth : UInt8) (history : List Input) : Prop :=
  ∀ earlier chance later,
    history = earlier ++ .step chance :: later →
      ¬ (state.run earlier).ReturnsTo chance depth

theorem staysAbove_nil (state : State) (depth : UInt8) :
    state.StaysAbove depth [] := by
  intro earlier chance later shape
  simp at shape

theorem staysAbove_cons_iff
    {depth : UInt8} {input : Input} {rest : List Input} :
    state.StaysAbove depth (input :: rest) ↔
      (∀ chance, input = .step chance → ¬ state.ReturnsTo chance depth) ∧
        (state.apply input).StaysAbove depth rest := by
  constructor
  · intro stays
    constructor
    · intro chance isStep
      exact stays [] chance rest (by rw [isStep]; rfl)
    · intro earlier chance later shape
      exact stays (input :: earlier) chance later (by rw [shape]; rfl)
  · rintro ⟨atHead, atTail⟩ earlier chance later shape
    cases earlier with
    | nil => exact atHead chance (List.cons.inj shape).1
    | cons first others =>
        obtain ⟨sameInput, sameRest⟩ := List.cons.inj shape
        rw [← sameInput]
        exact atTail others chance later sameRest

variable {older newer : List UInt16} {back : UInt16} {depth : UInt8}

/-- An open call stays open under an input that is no reset and does not return
from it. -/
theorem Holds.keeps_call
    (holds : state.Holds (older ++ back :: newer))
    (belongs : depth.toNat = older.length) (input : Input)
    (noReset : ∀ program, input ≠ .reset program)
    (stays : ∀ chance, input = .step chance →
      ¬ state.ReturnsTo chance depth) :
    ∃ newer',
      state.openCalls (older ++ back :: newer) input =
        older ++ back :: newer' := by
  cases input with
  | reset program => exact absurd rfl (noReset program)
  | tick => exact ⟨newer, rfl⟩
  | key key pressed => exact ⟨newer, rfl⟩
  | step chance =>
      have afterStep := holds.step chance
      simp only [openCalls] at afterStep ⊢
      rcases reported : (state.step chance).2 with fault | instruction
      · exact ⟨newer, openCallsReported_error _ _ fault⟩
      · rw [reported] at afterStep
        by_cases unused : instruction.usesStack = false
        · exact ⟨newer, openCallsReported_of_unused unused _ _⟩
        · cases instruction with
          | call address =>
              rw [openCallsReported_call]
              exact ⟨newer ++ [state.counter + 2], by simp⟩
          | returnFromCall =>
              rw [openCallsReported_return] at afterStep ⊢
              -- Only its own return takes off the last address there is.
              have notLast : newer ≠ [] := by
                intro isLast
                subst isLast
                apply stays chance rfl
                refine ⟨reported, UInt8.toNat_inj.mp ?_⟩
                rw [afterStep.length, belongs, List.dropLast_concat]
              refine ⟨newer.dropLast, ?_⟩
              rw [List.dropLast_append_of_ne_nil (List.cons_ne_nil _ _),
                List.dropLast_cons_of_ne_nil notLast]
          | _ => exact absurd rfl unused

theorem Holds.run_keeps_call
    (holds : state.Holds (older ++ back :: newer))
    (belongs : depth.toNat = older.length) (history : List Input)
    (noReset : ∀ program, .reset program ∉ history)
    (stays : state.StaysAbove depth history) :
    ∃ newer', (state.run history).Holds (older ++ back :: newer') := by
  induction history generalizing state newer with
  | nil => exact ⟨newer, holds⟩
  | cons input rest inductionHypothesis =>
      have inputNoReset : ∀ program, input ≠ .reset program := by
        intro program isReset
        exact noReset program (isReset ▸ List.mem_cons_self)
      obtain ⟨atHead, atTail⟩ := staysAbove_cons_iff.mp stays
      obtain ⟨middle, sameCalls⟩ :=
        holds.keeps_call belongs input inputNoReset atHead
      have afterInput := holds.apply input
      rw [sameCalls] at afterInput
      exact inductionHypothesis afterInput
        (fun program member =>
          noReset program (List.mem_cons_of_mem input member))
        atTail

/-- A return to the depth below an open call goes to the address of that
call. -/
theorem Holds.counter_of_returnsTo
    (holds : state.Holds (older ++ back :: newer))
    (belongs : depth.toNat = older.length)
    {chance : UInt8} (returns : state.ReturnsTo chance depth) :
    (state.step chance).1.counter = back := by
  obtain ⟨reported, reached⟩ := returns
  obtain ⟨split, bounded, _⟩ :=
    holds.step_return chance (step_reports reported) (by simp)
  have remaining :
      (state.step chance).1.returnAddresses.length = older.length := by
    rw [length_returnAddresses bounded, reached, belongs]
  have parts := List.append_inj split.symm remaining
  exact (List.cons.inj parts.2).1

/-- The return stack is a list of bounded length that is used at its end only.
After every history from a fresh state, resets included, it holds the address
behind every call that was executed since the last reset and not returned from.
A call fails exactly when sixteen are open and a return exactly when none is.  A
call that is executed is answered, at the first return that takes the stack back
to the depth it was executed at, by going on behind it, whatever happened in
between. -/
theorem returnStack_lifo (history : List Input) :
    let state := State.fresh.run history
    let calls := State.fresh.openCallsAfter [] history
    state.returnAddresses = calls ∧
      state.depth.toNat = calls.length ∧
      calls.length ≤ stackDepth ∧
      (∀ chance address, state.instruction = .call address →
        (state.step chance).2 =
          if calls.length = stackDepth then
            .error (.stackOverflow state.counter)
          else
            .ok (.call address)) ∧
      (∀ chance, state.instruction = .returnFromCall →
        (state.step chance).2 =
          if calls = [] then
            .error (.stackUnderflow state.counter)
          else
            .ok .returnFromCall) ∧
      ∀ chance address body last,
        (state.step chance).2 = .ok (.call address) →
        (∀ program, .reset program ∉ body) →
        (state.step chance).1.StaysAbove state.depth body →
        ((state.step chance).1.run body).ReturnsTo last state.depth →
        (((state.step chance).1.run body).step last).1.counter =
          state.counter + 2 := by
  intro state calls
  have holds : state.Holds calls := holds_fresh.run history
  have bounded := holds.bounded
  have sameLength := holds.length
  refine ⟨holds.addresses, sameLength, sameLength ▸ bounded, ?_, ?_, ?_⟩
  · intro chance address isCall
    by_cases full : calls.length = stackDepth
    · rw [if_pos full,
        step_call_of_full chance isCall
          (Nat.le_of_eq (sameLength.trans full).symm)]
    · have room : state.depth.toNat < stackDepth := by omega
      rw [if_neg full, step_call chance isCall room]
  · intro chance isReturn
    by_cases empty : calls = []
    · rw [if_pos empty,
        step_return_of_empty chance isReturn
          (holds.depth_eq_zero_iff.mpr empty)]
    · rw [if_neg empty]
      exact (holds.step_return chance isReturn empty).2.2
  · intro chance address body last reported noReset stays returns
    have called := holds.step chance
    simp only [openCalls, reported, openCallsReported_call] at called
    obtain ⟨newer, afterBody⟩ :=
      called.run_keeps_call sameLength body noReset stays
    exact afterBody.counter_of_returnsTo sameLength returns

def nestedCalls : List UInt8 :=
  [ 0x22, 0x06, 0x00, 0x00, 0x00, 0x00,
    0x22, 0x0A, 0x00, 0xEE, 0x00, 0xEE ]

theorem returnStack_lifo_nestedCalls :
    let called := ((State.fresh.run [.reset nestedCalls]).step 0).1
    let body : List Input := [.tick, .step 0, .key 3 true, .step 0]
    called.StaysAbove 0 body ∧
      (called.run body).ReturnsTo 0 0 ∧
      ((called.run body).step 0).1.counter = 0x202 := by
  intro called body
  have start : (State.fresh.run [.reset nestedCalls]).depth = 0 := rfl
  have noReset : ∀ program, .reset program ∉ body := by simp [body]
  -- One evaluation for all of it, because each one loads the program anew.
  obtain ⟨isCall, isInnerCall, innerDepth, isReturn, present, lastDepth⟩ :
      (State.fresh.run [.reset nestedCalls]).instruction = .call 0x206 ∧
        (called.run [.tick]).instruction = .call 0x20A ∧
        ((called.run [.tick, .step 0, .key 3 true]).step 0).1.depth = 1 ∧
        (called.run body).instruction = .returnFromCall ∧
        (called.run body).depth ≠ 0 ∧
        ((called.run body).step 0).1.depth = 0 := by
    decide +kernel
  have reported :
      ((State.fresh.run [.reset nestedCalls]).step 0).2 =
        .ok (.call 0x206) := by
    rw [step_call 0 isCall (by decide)]
  have stays : called.StaysAbove 0 body := by
    refine staysAbove_cons_iff.mpr ⟨nofun, ?_⟩
    refine staysAbove_cons_iff.mpr ⟨?_, ?_⟩
    · rintro _ ⟨rfl⟩ ⟨isReturn, _⟩
      have isBoth := isInnerCall.symm.trans (step_reports isReturn)
      cases isBoth
    · refine staysAbove_cons_iff.mpr ⟨nofun, ?_⟩
      refine staysAbove_cons_iff.mpr ⟨?_, staysAbove_nil _ _⟩
      rintro _ ⟨rfl⟩ ⟨_, reached⟩
      have sameDepth := innerDepth.symm.trans reached
      cases sameDepth
  have returns : (called.run body).ReturnsTo 0 0 := by
    refine ⟨?_, lastDepth⟩
    rw [step_return 0 isReturn present]
  exact ⟨stays, returns,
    (returnStack_lifo [.reset nestedCalls]).2.2.2.2.2 0 0x206 body 0
      reported noReset (start ▸ stays) (start ▸ returns)⟩

end ChipEight.State
