import ChipEight.Proofs.Instruction.Frame
import ChipEight.Proofs.State.History

/-!
# Faults and successes of a step

Whether a step fails, and with which fault, is decided before anything happens:
`State.fault?` reads it off the counter, the depth of the return stack and the
memory, and looks at nothing else.  A step that fails leaves everything but the
redraw mark alone.  A step that succeeds marks the screen for redrawing exactly if
its instruction works on the screen.

So a machine is stuck once an instruction has failed: executing that instruction
again fails again and changes nothing, and keys and timers have no influence on it.
-/

namespace ChipEight

namespace State

/-- The fault that the next step meets, if it meets one. -/
def fault? (state : State) : Option Fault :=
  match state.instruction with
  | .unknown => some (.unknownOpcode state.fetch state.counter)
  | .call _ =>
      if stackDepth ≤ state.depth.toNat then
        some (.stackOverflow state.counter)
      else
        none
  | .returnFromCall =>
      if state.depth = 0 then
        some (.stackUnderflow state.counter)
      else
        none
  | _ => none

variable {state other : State}

theorem fault?_congr
    (sameCounter : other.counter = state.counter)
    (sameDepth : other.depth = state.depth)
    (sameMemory : other.memory = state.memory) :
    other.fault? = state.fault? := by
  have sameWord : other.fetch = state.fetch := by
    simp only [fetch, sameCounter, sameMemory]
  have sameInstruction : other.instruction = state.instruction := by
    simp only [instruction, sameWord]
  unfold fault?
  rw [sameInstruction, sameWord, sameCounter, sameDepth]

/-- Executing the instruction at the counter fails with the fault that is met, and
succeeds if none is. -/
theorem execute_eq_error_iff (state : State) (chance : UInt8) (fault : Fault) :
    state.instruction.execute chance state = .error fault ↔
      state.fault? = some fault := by
  unfold fault?
  cases isInstruction : state.instruction with
  | unknown => simp only [Instruction.execute, Except.error.injEq, Option.some.injEq]
  | call address =>
      by_cases full : stackDepth ≤ state.depth.toNat
      · simp only [Instruction.execute, Instruction.callOn, if_pos full,
          Except.error.injEq, Option.some.injEq]
      · simp only [Instruction.execute, Instruction.callOn, if_neg full,
          reduceCtorEq]
  | returnFromCall =>
      by_cases empty : state.depth = 0
      · simp only [Instruction.execute, Instruction.returnOn, if_pos empty,
          Except.error.injEq, Option.some.injEq]
      · simp only [Instruction.execute, Instruction.returnOn, if_neg empty,
          reduceCtorEq]
  | _ => simp only [Instruction.execute, reduceCtorEq]

/-- A step fails exactly with the fault that is met, and leaves the state as it is
but for the redraw mark. -/
theorem step_eq_error_iff
    (state : State) (chance : UInt8) (after : State) (fault : Fault) :
    state.step chance = (after, .error fault) ↔
      state.fault? = some fault ∧ after = { state with redraw := false } := by
  have ready := execute_eq_error_iff { state with redraw := false } chance fault
  have sameFault : fault? { state with redraw := false } = state.fault? :=
    fault?_congr rfl rfl rfl
  rw [sameFault] at ready
  rcases state.step_cases chance with
    ⟨flow, reached, executed, stepped⟩ | ⟨met, failed, stepped⟩
  · constructor
    · intro isError
      rw [stepped] at isError
      cases isError
    · rintro ⟨isMet, _⟩
      have failed := ready.mpr isMet
      rw [show instruction { state with redraw := false } =
        state.instruction from rfl, executed] at failed
      cases failed
  · constructor
    · intro isError
      rw [stepped] at isError
      cases isError
      exact ⟨ready.mp failed, rfl⟩
    · rintro ⟨isMet, rfl⟩
      have sameOutcome := failed.symm.trans (ready.mpr isMet)
      cases sameOutcome
      exact stepped

theorem step_ok
    {chance : UInt8} {after : State} {executed : Instruction}
    (succeeded : state.step chance = (after, .ok executed)) :
    executed = state.instruction ∧
      after.redraw = executed.usesScreen ∧
      (executed.usesScreen = false → after.screen = state.screen) := by
  rcases state.step_cases chance with
    ⟨flow, reached, ran, stepped⟩ | ⟨met, _, stepped⟩
  · have outcome := stepped.symm.trans succeeded
    cases outcome
    refine ⟨rfl, ?_, ?_⟩
    · have marked := Instruction.redraw_execute ran
      rw [Bool.or_false] at marked
      exact marked
    · intro unused
      have kept := Instruction.screen_execute ran unused
      exact kept
  · rw [stepped] at succeeded
    cases succeeded

end State

namespace Machine

variable {machine after : Machine}

/-- A machine fails exactly with the fault its state meets, and remains as it is but
for the redraw mark; its random source does not move. -/
theorem step_eq_error_iff (machine after : Machine) (fault : Fault) :
    machine.step = (after, .error fault) ↔
      machine.state.fault? = some fault ∧
        after =
          { machine with state := { machine.state with redraw := false } } := by
  rcases stepped :
      machine.state.step (machine.chance machine.state.instruction) with
    ⟨state, met | executed⟩
  · obtain ⟨isMet, rfl⟩ := (State.step_eq_error_iff _ _ _ _).mp stepped
    simp only [step, stepped, isMet, Prod.mk.injEq, Except.error.injEq,
      Option.some.injEq]
    constructor
    · rintro ⟨rfl, rfl⟩
      exact ⟨rfl, rfl⟩
    · rintro ⟨rfl, rfl⟩
      exact ⟨rfl, rfl⟩
  · have noFault : machine.state.fault? ≠ some fault := by
      intro isMet
      have failed :=
        (State.step_eq_error_iff machine.state
          (machine.chance machine.state.instruction) _ fault).mpr
          ⟨isMet, rfl⟩
      rw [stepped] at failed
      cases failed
    simp only [step, stepped, Prod.mk.injEq, reduceCtorEq, and_false, noFault,
      false_and]

theorem step_ok
    {executed : Instruction}
    (succeeded : machine.step = (after, .ok executed)) :
    executed = machine.state.instruction ∧
      after.state.redraw = executed.usesScreen ∧
      (executed.usesScreen = false →
        after.state.screen = machine.state.screen) := by
  rcases stepped :
      machine.state.step (machine.chance machine.state.instruction) with
    ⟨state, met | ran⟩
  · simp only [step, stepped] at succeeded
    cases succeeded
  · simp only [step, stepped] at succeeded
    cases succeeded
    exact State.step_ok stepped

/-- A step comes out as the fault that the machine meets, and as its instruction if it
meets none. -/
theorem outcome_step (machine : Machine) :
    machine.step.2 =
      match machine.state.fault? with
      | some fault => .error fault
      | none => .ok machine.state.instruction := by
  rcases stepped : machine.step with ⟨after, fault | executed⟩
  · obtain ⟨met, _⟩ := (step_eq_error_iff _ _ _).mp stepped
    rw [met]
  · cases met : machine.state.fault? with
    | none => rw [(step_ok stepped).1]
    | some fault =>
        have failed := (step_eq_error_iff _ _ _).mpr ⟨met, rfl⟩
        rw [stepped] at failed
        cases failed

/-! ## Stuck machines -/

/-- Whether a machine fails to execute its instruction and remains as it is. -/
def Stuck (machine : Machine) (fault : Fault) : Prop :=
  machine.step = (machine, .error fault)

theorem stuck_iff (machine : Machine) (fault : Fault) :
    machine.Stuck fault ↔
      machine.state.fault? = some fault ∧ machine.state.redraw = false := by
  rw [Stuck, step_eq_error_iff]
  refine and_congr_right fun _ => ⟨fun same => ?_, fun unmarked => ?_⟩
  · exact congrArg (fun machine => machine.state.redraw) same
  · rw [← unmarked]

theorem stuck_of_step
    {fault : Fault} (failed : machine.step = (after, .error fault)) :
    after.Stuck fault := by
  obtain ⟨met, rfl⟩ := (step_eq_error_iff _ _ _).mp failed
  have sameFault :
      State.fault? { machine.state with redraw := false } =
        machine.state.fault? := State.fault?_congr rfl rfl rfl
  exact (stuck_iff _ _).mpr ⟨sameFault.trans met, rfl⟩

/-- Whether two machines have the same random source and agree in all of their
states but the keypad and the timers. -/
def SameProgress (machine other : Machine) : Prop :=
  ∃ keypad delay sound,
    other =
      { machine with
        state :=
          { machine.state with
            keypad := keypad
            delayTimer := delay
            soundTimer := sound } }

theorem SameProgress.refl (machine : Machine) :
    machine.SameProgress machine :=
  ⟨_, _, _, rfl⟩

theorem SameProgress.trans
    {other later : Machine} (same : machine.SameProgress other)
    (sameLater : other.SameProgress later) :
    machine.SameProgress later := by
  obtain ⟨_, _, _, rfl⟩ := same
  obtain ⟨keypad, delay, sound, rfl⟩ := sameLater
  exact ⟨keypad, delay, sound, rfl⟩

theorem sameProgress_setKey (machine : Machine) (key : UInt8) (pressed : Bool) :
    machine.SameProgress (machine.setKey key pressed) := by
  obtain ⟨keypad, changed⟩ := machine.state.setKey_frame key pressed
  simp only [setKey, changed]
  exact ⟨_, _, _, rfl⟩

theorem sameProgress_tick (machine : Machine) :
    machine.SameProgress machine.tick.1 := by
  obtain ⟨delay, sound, ticked⟩ := machine.state.tick_frame
  simp only [tick, ticked]
  exact ⟨_, _, _, rfl⟩

theorem SameProgress.screen_eq
    {other : Machine} (same : machine.SameProgress other) :
    other.state.screen = machine.state.screen := by
  obtain ⟨_, _, _, rfl⟩ := same
  rfl

/-- Neither keys nor timers get a machine going again. -/
theorem SameProgress.stuck
    {other : Machine} {fault : Fault} (same : machine.SameProgress other)
    (stuck : machine.Stuck fault) : other.Stuck fault := by
  obtain ⟨met, unmarked⟩ := (stuck_iff _ _).mp stuck
  obtain ⟨_, _, _, rfl⟩ := same
  refine (stuck_iff _ _).mpr ⟨?_, unmarked⟩
  exact (State.fault?_congr rfl rfl rfl).trans met

end Machine

end ChipEight
