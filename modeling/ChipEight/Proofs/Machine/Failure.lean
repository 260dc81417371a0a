import ChipEight.Proofs.State.Faults
import ChipEight.Proofs.State.Safety

/-!
# Failing steps

A step fails on three occasions only: the word at the counter encodes no operation, a
return finds the stack empty, or a call finds it full.  What it leaves behind then is the
machine as it was, with the redraw mark cleared.
-/

namespace ChipEight

namespace State

/-- The faults that a state cannot avoid, each with the occasion for it. -/
inductive Provokes (state : State) : Fault → Prop
  | unknownOpcode
      (unknown : Instruction.decode state.fetch = .unknown) :
      Provokes state (.unknownOpcode state.fetch state.counter)
  | stackUnderflow
      (returns : Instruction.decode state.fetch = .returnFromCall)
      (empty : state.depth = 0) :
      Provokes state (.stackUnderflow state.counter)
  | stackOverflow {address : UInt16}
      (calls : Instruction.decode state.fetch = .call address)
      (full : state.depth.toNat = stackDepth) :
      Provokes state (.stackOverflow state.counter)

variable {state : State} {fault : Fault}

theorem Provokes.fault?_eq
    (provoked : state.Provokes fault) : state.fault? = some fault := by
  cases provoked with
  | unknownOpcode unknown =>
      simp only [fault?, instruction, unknown]
  | stackUnderflow returns empty =>
      simp only [fault?, instruction, returns, if_pos empty]
  | stackOverflow calls full =>
      have atLimit : stackDepth ≤ state.depth.toNat :=
        Nat.le_of_eq full.symm
      simp only [fault?, instruction, calls, if_pos atLimit]

theorem provokes_of_fault?_eq
    (bounded : state.depth.toNat ≤ stackDepth)
    (met : state.fault? = some fault) : state.Provokes fault := by
  cases isInstruction : Instruction.decode state.fetch with
  | unknown =>
      simp only [fault?, instruction, isInstruction, Option.some.injEq] at met
      subst met
      exact .unknownOpcode isInstruction
  | call address =>
      by_cases full : stackDepth ≤ state.depth.toNat
      · simp only [fault?, instruction, isInstruction, if_pos full,
          Option.some.injEq] at met
        subst met
        exact .stackOverflow isInstruction (by omega)
      · simp only [fault?, instruction, isInstruction, if_neg full,
          reduceCtorEq] at met
  | returnFromCall =>
      by_cases empty : state.depth = 0
      · simp only [fault?, instruction, isInstruction, if_pos empty,
          Option.some.injEq] at met
        subst met
        exact .stackUnderflow isInstruction empty
      · simp only [fault?, instruction, isInstruction, if_neg empty,
          reduceCtorEq] at met
  | _ =>
      simp only [fault?, instruction, isInstruction, reduceCtorEq] at met

theorem fault?_eq_some_iff_provokes
    (bounded : state.depth.toNat ≤ stackDepth) :
    state.fault? = some fault ↔ state.Provokes fault :=
  ⟨provokes_of_fault?_eq bounded, Provokes.fault?_eq⟩

end State

namespace Machine

variable {machine : Machine}

/-- A step goes through without leaving the bounds of the machine.  It fails exactly if its
state provokes a fault, and with that fault; and when it fails, the whole machine, random
source included, is as before except that the redraw mark is cleared. -/
theorem step_fails_iff_provoked
    (bounded : machine.state.depth.toNat ≤ stackDepth) :
    (∀ chance,
      Guarded.step machine.state chance =
        some (machine.state.step chance)) ∧
      (∀ fault,
        machine.step.2 = .error fault ↔ machine.state.Provokes fault) ∧
      ∀ fault, machine.step.2 = .error fault →
        machine.step.1 =
          { machine with
            state := { machine.state with redraw := false } } := by
  refine ⟨fun chance => Guarded.step_eq chance bounded, ?fails, ?atomic⟩
  case fails =>
    intro fault
    rw [← State.fault?_eq_some_iff_provokes bounded, outcome_step]
    cases machine.state.fault? with
    | none => simp only [reduceCtorEq]
    | some met => simp only [Except.error.injEq, Option.some.injEq]
  case atomic =>
    intro fault failed
    have stepped : machine.step = (machine.step.1, .error fault) :=
      Prod.ext rfl failed
    exact ((step_eq_error_iff machine _ fault).mp stepped).2

/-- A call with every slot of the stack taken, while the screen is marked for redrawing. -/
theorem step_fails_iff_provoked_fullStack :
    let state : State :=
      { State.ofProgram [0x22, 0x00] with depth := 16, redraw := true }
    let machine : Machine := ⟨state, KeyStream.ofSeed 0⟩
    machine.state.depth.toNat ≤ stackDepth ∧
      machine.state.Provokes (.stackOverflow 0x200) ∧
      machine.step =
        (⟨{ state with redraw := false }, KeyStream.ofSeed 0⟩,
          .error (.stackOverflow 0x200)) := by
  intro state machine
  have bounded : machine.state.depth.toNat ≤ stackDepth := by decide
  have calls :
      Instruction.decode machine.state.fetch = .call 0x200 := by
    decide +kernel
  have provoked : machine.state.Provokes (.stackOverflow 0x200) :=
    .stackOverflow calls rfl
  obtain ⟨_, fails, atomic⟩ := step_fails_iff_provoked bounded
  have failed := (fails _).mpr provoked
  exact ⟨bounded, provoked, Prod.ext (atomic _ failed) failed⟩

end Machine

end ChipEight
