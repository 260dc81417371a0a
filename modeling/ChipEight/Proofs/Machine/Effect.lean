import ChipEight.Proofs.Instruction.Footprint
import ChipEight.Proofs.Machine.Timers
import ChipEight.Proofs.State.CallStack
import ChipEight.Proofs.State.Faults
import ChipEight.Proofs.State.Index

/-!
# The effect of a step

Which parts of the machine a successful step changes is told by its instruction alone.
-/

namespace ChipEight

namespace Instruction

variable {instruction : Instruction} {chance : UInt8} {flow : Flow}
  {state after : State}

/-- A call writes to the first free slot of the return stack only. -/
theorem slot_execute
    (executed : instruction.execute chance state = .ok (flow, after))
    (slot : Fin stackDepth) (used : slot.val ≠ state.depth.toNat) :
    after.stack.get slot = state.stack.get slot := by
  cases calling : instruction.calls with
  | false => rw [(keeps_execute executed).stack calling]
  | true =>
      cases instruction with
      | call address =>
          obtain ⟨room, _, rfl⟩ := execute_call executed
          have apart : (State.stackSlot state.depth).val ≠ slot.val := by
            rw [State.val_stackSlot room]
            exact Ne.symm used
          exact Vector.getElem_set_ne
            (State.stackSlot state.depth).isLt slot.isLt apart
      | _ => cases calling

theorem index_execute_of_unmoved
    (executed : instruction.execute chance state = .ok (flow, after))
    (unmoved : instruction.movesIndex = false) :
    after.index = state.index := by
  rw [index_execute executed]
  cases instruction with
  | loadIndex address => cases unmoved
  | addIndex x => cases unmoved
  | loadFont x => cases unmoved
  | _ => rfl

end Instruction

namespace Machine

/-- What a successful step does to a machine, part by part: the instruction says which
parts it may change, and all others are kept. -/
structure Effect
    (before after : Machine) (executed : Instruction) : Prop where
  redraw : after.state.redraw = executed.usesScreen
  screen :
    executed.usesScreen = false →
      after.state.screen = before.state.screen
  memory :
    executed.writesMemory = false →
      after.state.memory = before.state.memory
  depth :
    executed.usesStack = false → after.state.depth = before.state.depth
  stack : executed.calls = false → after.state.stack = before.state.stack
  slots : ∀ slot : Fin stackDepth, slot.val ≠ before.state.depth.toNat →
    after.state.stack.get slot = before.state.stack.get slot
  index :
    executed.movesIndex = false → after.state.index = before.state.index
  delayTimer :
    executed.setsDelay = false →
      after.state.delayTimer = before.state.delayTimer
  soundTimer :
    executed.setsSound = false →
      after.state.soundTimer = before.state.soundTimer
  keypad : after.state.keypad = before.state.keypad
  source :
    after.source =
      if executed.usesRandom then before.source.advance else before.source
  registers : ∀ slot, ¬ executed.MayWrite slot →
    after.state.registers.get slot = before.state.registers.get slot
  skip :
    executed.Skips before.state →
      after.state.counter = before.state.counter + 4
  stay :
    executed.Waits before.state →
      after.state.counter = before.state.counter
  next :
    executed.leaps = false → ¬ executed.Skips before.state →
      ¬ executed.Waits before.state →
        after.state.counter = before.state.counter + 2

variable {machine after : Machine} {executed : Instruction}

/-- A successful step is the execution of the instruction at the counter. -/
theorem exists_execute_of_step
    (succeeded : machine.step = (after, .ok executed)) :
    executed = machine.state.instruction ∧
      ∃ flow reached,
        executed.execute (machine.chance executed)
            { machine.state with redraw := false } =
          .ok (flow, reached) ∧
        after =
          { state :=
              { reached with
                counter := flow.after machine.state.counter }
            source := machine.sourceAfter executed } := by
  obtain ⟨isInstruction, _⟩ := step_ok succeeded
  subst isInstruction
  refine ⟨rfl, ?_⟩
  rcases machine.state.step_cases
      (machine.chance machine.state.instruction) with
    ⟨flow, reached, ran, stepped⟩ | ⟨fault, _, stepped⟩
  · simp only [step, stepped, Prod.mk.injEq, and_true] at succeeded
    exact ⟨flow, reached, ran, succeeded.symm⟩
  · simp only [step, stepped] at succeeded
    cases succeeded

/-- A successful step executes the instruction at the counter, and what it changes is what
this instruction may change. -/
theorem effect_step
    (succeeded : machine.step = (after, .ok executed)) :
    executed = Instruction.decode machine.state.fetch ∧
      machine.Effect after executed := by
  obtain ⟨isInstruction, flow, reached, ran, rfl⟩ :=
    exists_execute_of_step succeeded
  have keeps := Instruction.keeps_execute ran
  have follows := Instruction.follows_execute ran
  have redraw := Instruction.redraw_execute ran
  have screen := Instruction.screen_execute ran
  have stack := Instruction.stack_execute ran
  have slots := Instruction.slot_execute ran
  have index := Instruction.index_execute_of_unmoved ran
  have delayTimer := Instruction.delayTimer_execute ran
  have soundTimer := Instruction.soundTimer_execute ran
  refine ⟨isInstruction, ?_⟩
  exact
    { redraw := redraw.trans (Bool.or_false _)
      screen := screen
      memory := keeps.memory
      depth := fun unused => (stack unused).2
      stack := keeps.stack
      slots := slots
      index := index
      delayTimer := delayTimer
      soundTimer := soundTimer
      keypad := keeps.keypad
      source := rfl
      registers := keeps.registers
      skip := fun skips => by rw [follows.skip skips]; rfl
      stay := fun waits => by rw [follows.stay waits]; rfl
      next := fun unleaping fails awake => by
        rw [follows.next unleaping fails awake]
        rfl }

/-- A random byte of which no bit is used is drawn all the same, so that the source is no
longer where it was, and nothing else but the counter and the register named is
changed. -/
theorem effect_step_maskedRandom :
    let machine :=
      (fresh (KeyStream.ofSeed 0)).reset [0xC1, 0x00]
    ∃ after,
      machine.step = (after, .ok (.random 1 0)) ∧
        machine.Effect after (.random 1 0) ∧
        after.source = machine.source.advance ∧
        after.source ≠ machine.source ∧
        after.state.counter = 0x202 := by
  intro machine
  have isRandom : machine.state.instruction = .random 1 0 := by
    decide +kernel
  have faultless : machine.state.fault? = none := by
    rw [State.fault?, isRandom]
  have stepped : machine.step = (machine.step.1, .ok (.random 1 0)) := by
    have outcome := machine.outcome_step
    rw [faultless, isRandom] at outcome
    exact Prod.ext rfl outcome
  have effect := (effect_step stepped).2
  have drawn : machine.step.1.source = machine.source.advance := effect.source
  have moved : machine.step.1.source ≠ machine.source := by
    rw [drawn]
    exact machine.source.advance_ne
  exact ⟨_, stepped, effect, drawn, moved, effect.next rfl id id⟩

end Machine

end ChipEight
