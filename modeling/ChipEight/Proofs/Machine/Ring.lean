import ChipEight.Proofs.Machine.Stimuli
import ChipEight.Proofs.State.CallStack
import Mathlib.Data.List.Forall2

/-!
# Program addresses on the ring of memory

The counter and the return addresses have sixteen bits, and memory is a ring of
4096 cells.  What the upper four bits of a program address are never matters: two
machines that differ in them alone answer every stimulus alike, up to those bits
in the place a fault names, and go on differing in them alone.

So the address space is a ring as well.  A machine that is brought back on the
ring after every stimulus, by clearing the upper bits of its program addresses,
does what the machine does that is left alone.
-/

namespace ChipEight

namespace Memory

/-- Whether two addresses are congruent modulo the size of memory. -/
def SameCell (first second : UInt16) : Prop :=
  first.toNat % memorySize = second.toNat % memorySize

instance (first second : UInt16) : Decidable (SameCell first second) :=
  inferInstanceAs (Decidable (_ = _))

/-- The address below the end of memory that names the same cell. -/
def ringAddress (address : UInt16) : UInt16 :=
  UInt16.ofNat (address.toNat % memorySize)

variable {first second : UInt16}

theorem SameCell.refl (address : UInt16) : SameCell address address :=
  rfl

theorem SameCell.add
    (same : SameCell first second) (offset : UInt16) :
    SameCell (first + offset) (second + offset) := by
  simp only [SameCell, memorySize, UInt16.toNat_add] at *
  omega

theorem read_of_sameCell
    (same : SameCell first second) (memory : Memory) :
    memory.read first = memory.read second := by
  have sameCell : cell first = cell second := Fin.ext same
  simp only [read, sameCell]

theorem toNat_ringAddress (address : UInt16) :
    (ringAddress address).toNat = address.toNat % memorySize := by
  have small : address.toNat % memorySize < 65536 := by
    have : address.toNat % memorySize < memorySize :=
      Nat.mod_lt _ (by decide)
    simp only [memorySize] at *
    omega
  exact UInt16.toNat_ofNat_of_lt' small

theorem sameCell_ringAddress (address : UInt16) :
    SameCell address (ringAddress address) := by
  simp only [SameCell, toNat_ringAddress, Nat.mod_mod]

end Memory

open Memory

theorem Memory.SameCell.after
    {first second : UInt16} (same : SameCell first second) (flow : Flow) :
    SameCell (flow.after first) (flow.after second) := by
  cases flow with
  | next => exact same.add 2
  | skip => exact same.add 4
  | goto address => exact SameCell.refl address
  | stay => exact same

/-- The same fault at congruent places. -/
inductive Fault.SameOnRing : Fault → Fault → Prop
  | unknownOpcode (word : UInt16) {first second : UInt16} :
      SameCell first second →
      SameOnRing (.unknownOpcode word first) (.unknownOpcode word second)
  | stackOverflow {first second : UInt16} :
      SameCell first second →
      SameOnRing (.stackOverflow first) (.stackOverflow second)
  | stackUnderflow {first second : UInt16} :
      SameCell first second →
      SameOnRing (.stackUnderflow first) (.stackUnderflow second)

theorem Fault.sameOnRing_refl (fault : Fault) : fault.SameOnRing fault := by
  cases fault with
  | unknownOpcode word counter => exact .unknownOpcode word (SameCell.refl _)
  | stackOverflow counter => exact .stackOverflow (SameCell.refl _)
  | stackUnderflow counter => exact .stackUnderflow (SameCell.refl _)

/-- The same instruction executed, or the same fault at congruent places. -/
inductive SameOutcome :
    Except Fault Instruction → Except Fault Instruction → Prop
  | ok (instruction : Instruction) :
      SameOutcome (.ok instruction) (.ok instruction)
  | error {fault other : Fault} :
      fault.SameOnRing other → SameOutcome (.error fault) (.error other)

/-- The same answer, up to the place a fault names. -/
inductive Response.SameOnRing : Response → Response → Prop
  | stepped {outcome other : Except Fault Instruction} :
      SameOutcome outcome other →
      SameOnRing (.stepped outcome) (.stepped other)
  | ticked (expired : Bool) : SameOnRing (.ticked expired) (.ticked expired)
  | silent : SameOnRing .silent .silent

namespace State

/-- Whether two states are equal but for the counter and the return addresses,
and there congruent modulo the size of memory. -/
structure SameOnRing (state other : State) : Prop where
  counter : SameCell state.counter other.counter
  stack :
    ∀ slot : Fin stackDepth, SameCell state.stack[slot] other.stack[slot]
  rest : other = state.withPlace other.counter other.stack

theorem SameOnRing.refl (state : State) : state.SameOnRing state where
  counter := SameCell.refl _
  stack _ := SameCell.refl _
  rest := rfl

variable {state other : State}

theorem SameOnRing.fetch_eq (same : state.SameOnRing other) :
    other.fetch = state.fetch := by
  have sameMemory : other.memory = state.memory := by
    rw [same.rest]
    rfl
  simp only [fetch, sameMemory, read_of_sameCell same.counter,
    read_of_sameCell (same.counter.add 1)]

theorem SameOnRing.instruction_eq (same : state.SameOnRing other) :
    other.instruction = state.instruction := by
  simp only [instruction, same.fetch_eq]

theorem SameOnRing.depth_eq (same : state.SameOnRing other) :
    other.depth = state.depth := by
  rw [same.rest]
  rfl

theorem SameOnRing.change
    {change : State → State} (same : state.SameOnRing other)
    (aside : Aside change) :
    (change state).SameOnRing (change other) where
  counter := by
    rw [aside.counter, aside.counter]
    exact same.counter
  stack slot := by
    rw [aside.stack, aside.stack]
    exact same.stack slot
  rest := by
    rw [aside.counter, aside.stack, ← aside.placed, ← same.rest]

theorem SameOnRing.cleared (same : state.SameOnRing other) :
    SameOnRing
      { state with redraw := false } { other with redraw := false } :=
  same.change aside_cleared

/-- An instruction that its place does not matter to leaves the return addresses
alone. -/
theorem stack_execute_of_unused
    {instruction : Instruction} {chance : UInt8} {flow : Flow}
    {after : State}
    (unused : instruction.usesPlace = false)
    (ran : instruction.execute chance state = .ok (flow, after)) :
    after.stack = state.stack := by
  rw [Instruction.usesPlace, Bool.or_eq_false_iff] at unused
  exact (Instruction.stack_execute ran unused.1).1

theorem SameOnRing.step_of_unused
    (same : state.SameOnRing other)
    (unused : state.instruction.usesPlace = false) (chance : UInt8) :
    (state.step chance).1.SameOnRing (other.step chance).1 ∧
      SameOutcome (state.step chance).2 (other.step chance).2 := by
  -- The other state is this one with its place changed, and that is overlooked.
  have executed :=
    Instruction.overlooks_withPlace unused other.counter other.stack chance
      { state with redraw := false }
  have sameReady := same.cleared.rest
  rw [← sameReady, ← same.instruction_eq] at executed
  cases outcome :
      state.instruction.execute chance { state with redraw := false } with
  | ok result =>
      rw [same.instruction_eq, outcome, ← same.instruction_eq] at executed
      have sameStack := stack_execute_of_unused unused outcome
      rw [step_of_ok outcome, step_of_ok executed, same.instruction_eq]
      refine ⟨⟨same.counter.after result.1, ?_, rfl⟩, .ok _⟩
      intro slot
      simp only [sameStack]
      exact same.stack slot
  | error fault =>
      rw [same.instruction_eq, outcome, ← same.instruction_eq] at executed
      rw [step_of_error outcome, step_of_error executed]
      exact ⟨same.cleared, .error fault.sameOnRing_refl⟩

theorem SameOnRing.step_of_call
    (same : state.SameOnRing other) {address : UInt16}
    (isCall : state.instruction = .call address) (chance : UInt8) :
    (state.step chance).1.SameOnRing (other.step chance).1 ∧
      SameOutcome (state.step chance).2 (other.step chance).2 := by
  have otherIsCall := same.instruction_eq.trans isCall
  by_cases room : state.depth.toNat < stackDepth
  · have otherRoom : other.depth.toNat < stackDepth := by
      rw [same.depth_eq]
      exact room
    rw [step_call chance isCall room, step_call chance otherIsCall otherRoom]
    refine ⟨⟨SameCell.refl _, ?_, ?_⟩, .ok _⟩
    · intro slot
      simp only [push, same.depth_eq, Fin.getElem_fin, Vector.getElem_set]
      -- The slot that is pushed to, and the others.
      split
      · exact same.counter.add 2
      · exact same.stack slot
    · rw [same.rest]
      rfl
  · have full : stackDepth ≤ state.depth.toNat := Nat.le_of_not_lt room
    have otherFull : stackDepth ≤ other.depth.toNat := by
      rw [same.depth_eq]
      exact full
    rw [step_call_of_full chance isCall full,
      step_call_of_full chance otherIsCall otherFull]
    exact ⟨same.cleared, .error (.stackOverflow same.counter)⟩

theorem SameOnRing.step_of_return
    (same : state.SameOnRing other)
    (isReturn : state.instruction = .returnFromCall) (chance : UInt8) :
    (state.step chance).1.SameOnRing (other.step chance).1 ∧
      SameOutcome (state.step chance).2 (other.step chance).2 := by
  have otherIsReturn := same.instruction_eq.trans isReturn
  by_cases empty : state.depth = 0
  · have otherEmpty := same.depth_eq.trans empty
    rw [step_return_of_empty chance isReturn empty,
      step_return_of_empty chance otherIsReturn otherEmpty]
    exact ⟨same.cleared, .error (.stackUnderflow same.counter)⟩
  · have otherPresent : other.depth ≠ 0 := by
      rw [same.depth_eq]
      exact empty
    rw [step_return chance isReturn empty,
      step_return chance otherIsReturn otherPresent]
    refine ⟨⟨?_, same.stack, ?_⟩, .ok _⟩
    · have sameSlot :
          stackSlot other.pop.depth = stackSlot state.pop.depth := by
        rw [pop, pop, same.depth_eq]
      simp only [latestAddress, sameSlot]
      exact same.stack _
    · rw [same.rest]
      rfl

theorem SameOnRing.step_of_unknown
    (same : state.SameOnRing other)
    (isUnknown : state.instruction = .unknown) (chance : UInt8) :
    (state.step chance).1.SameOnRing (other.step chance).1 ∧
      SameOutcome (state.step chance).2 (other.step chance).2 := by
  have failed :
      state.instruction.execute chance { state with redraw := false } =
        .error (.unknownOpcode state.fetch state.counter) := by
    rw [isUnknown]
    rfl
  have otherFailed :
      other.instruction.execute chance { other with redraw := false } =
        .error (.unknownOpcode state.fetch other.counter) := by
    rw [same.instruction_eq, isUnknown, ← same.fetch_eq]
    rfl
  rw [step_of_error failed, step_of_error otherFailed]
  exact ⟨same.cleared, .error (.unknownOpcode _ same.counter)⟩

theorem SameOnRing.step
    (same : state.SameOnRing other) (chance : UInt8) :
    (state.step chance).1.SameOnRing (other.step chance).1 ∧
      SameOutcome (state.step chance).2 (other.step chance).2 := by
  cases isInstruction : state.instruction with
  | call address => exact same.step_of_call isInstruction chance
  | returnFromCall => exact same.step_of_return isInstruction chance
  | unknown => exact same.step_of_unknown isInstruction chance
  | _ =>
      refine same.step_of_unused ?_ chance
      rw [isInstruction]
      rfl

theorem SameOnRing.tick (same : state.SameOnRing other) :
    state.tick.1.SameOnRing other.tick.1 ∧ other.tick.2 = state.tick.2 := by
  have counted :
      other.tick =
        (other.withTimers state.tick.1.delayTimer state.tick.1.soundTimer,
          state.tick.2) :=
    tick_of_sameTimers (by rw [same.rest, withPlace])
      (by rw [same.rest, withPlace])
  have changed :=
    same.change
      (aside_withTimers state.tick.1.delayTimer state.tick.1.soundTimer)
  have own :
      state.tick.1 =
        state.withTimers state.tick.1.delayTimer state.tick.1.soundTimer :=
    congrArg Prod.fst state.tick_withTimers
  rw [← own] at changed
  rw [counted]
  exact ⟨changed, rfl⟩

theorem SameOnRing.setKey
    (same : state.SameOnRing other) (key : UInt8) (pressed : Bool) :
    (state.setKey key pressed).SameOnRing (other.setKey key pressed) := by
  have sameKeypad : other.keypad = state.keypad := by
    rw [same.rest, withPlace]
  have changed :=
    same.change (aside_withKeypad (state.setKey key pressed).keypad)
  rw [← state.setKey_withKeypad, ← setKey_of_sameKeypad sameKeypad]
    at changed
  exact changed

end State

namespace Machine

/-- Whether two machines have states that are equal on the ring, and the same
random source. -/
structure SameOnRing (machine other : Machine) : Prop where
  state : machine.state.SameOnRing other.state
  source : other.source = machine.source

variable {machine other : Machine}

theorem SameOnRing.step (same : machine.SameOnRing other) :
    machine.step.1.SameOnRing other.step.1 ∧
      SameOutcome machine.step.2 other.step.2 := by
  have sameInstruction := same.state.instruction_eq
  have sameChance :
      other.chance machine.state.instruction =
        machine.chance machine.state.instruction := by
    simp only [chance, same.source]
  have sameSource :
      other.sourceAfter machine.state.instruction =
        machine.sourceAfter machine.state.instruction := by
    simp only [sourceAfter, same.source]
  obtain ⟨sameState, sameOutcome⟩ :=
    same.state.step (machine.chance machine.state.instruction)
  unfold Machine.step
  simp only [sameInstruction, sameChance, sameSource]
  generalize machine.state.step _ = result at sameState sameOutcome ⊢
  generalize other.state.step _ = otherResult at sameState sameOutcome ⊢
  obtain ⟨after, outcome⟩ := result
  obtain ⟨otherAfter, otherOutcome⟩ := otherResult
  cases sameOutcome with
  | ok executed => exact ⟨⟨sameState, rfl⟩, .ok executed⟩
  | error sameFault => exact ⟨⟨sameState, same.source⟩, .error sameFault⟩

theorem SameOnRing.respond
    (same : machine.SameOnRing other) (stimulus : Stimulus) :
    (machine.respond stimulus).1.SameOnRing (other.respond stimulus).1 ∧
      (machine.respond stimulus).2.SameOnRing
        (other.respond stimulus).2 := by
  cases stimulus with
  | reset program =>
      exact ⟨⟨State.SameOnRing.refl _, same.source⟩, .silent⟩
  | step =>
      obtain ⟨sameMachine, sameOutcome⟩ := same.step
      exact ⟨sameMachine, .stepped sameOutcome⟩
  | tick =>
      obtain ⟨sameState, sameFlag⟩ := same.state.tick
      refine ⟨⟨sameState, same.source⟩, ?_⟩
      simp only [Machine.respond, tick, sameFlag]
      exact .ticked _
  | key key pressed =>
      exact ⟨⟨same.state.setKey key pressed, same.source⟩, .silent⟩

/-- Machines that are equal on the ring stay so in every run, and give the same
answers. -/
theorem SameOnRing.run
    (same : machine.SameOnRing other) (stimuli : List Stimulus) :
    (machine.run stimuli).1.SameOnRing (other.run stimuli).1 ∧
      List.Forall₂ Response.SameOnRing
        (machine.run stimuli).2 (other.run stimuli).2 := by
  induction stimuli generalizing machine other with
  | nil => exact ⟨same, .nil⟩
  | cons stimulus rest inductionHypothesis =>
      obtain ⟨sameNext, sameAnswer⟩ := same.respond stimulus
      obtain ⟨sameLast, sameAnswers⟩ := inductionHypothesis sameNext
      exact ⟨sameLast, .cons sameAnswer sameAnswers⟩

/-! ## A machine that stays on the ring -/

/-- The machine with its program addresses brought below the end of memory. -/
def onRing (machine : Machine) : Machine :=
  { machine with
    state :=
      machine.state.withPlace (ringAddress machine.state.counter)
        (machine.state.stack.map ringAddress) }

/-- A run in which the program addresses are brought below the end of memory
before every stimulus and at the end. -/
def runOnRing (machine : Machine) : List Stimulus → Machine × List Response
  | [] => (machine.onRing, [])
  | stimulus :: rest =>
      let answered := machine.onRing.respond stimulus
      let later := answered.1.runOnRing rest
      (later.1, answered.2 :: later.2)

theorem sameOnRing_onRing (same : machine.SameOnRing other) :
    machine.SameOnRing other.onRing where
  state := {
    counter := same.state.counter.trans (sameCell_ringAddress _)
    stack := by
      intro slot
      have sameCell := sameCell_ringAddress other.state.stack[slot]
      simp only [onRing, State.withPlace, Fin.getElem_fin, Vector.getElem_map]
      exact (same.state.stack slot).trans sameCell
    rest := by
      simp only [onRing]
      rw [same.state.rest]
      rfl }
  source := same.source

/-- Bringing the addresses back on the ring between the stimuli changes
nothing else. -/
theorem SameOnRing.runOnRing
    (same : machine.SameOnRing other) (stimuli : List Stimulus) :
    (machine.run stimuli).1.SameOnRing (other.runOnRing stimuli).1 ∧
      List.Forall₂ Response.SameOnRing
        (machine.run stimuli).2 (other.runOnRing stimuli).2 := by
  induction stimuli generalizing machine other with
  | nil => exact ⟨sameOnRing_onRing same, .nil⟩
  | cons stimulus rest inductionHypothesis =>
      obtain ⟨sameNext, sameAnswer⟩ :=
        (sameOnRing_onRing same).respond stimulus
      obtain ⟨sameLast, sameAnswers⟩ := inductionHypothesis sameNext
      exact ⟨sameLast, .cons sameAnswer sameAnswers⟩

theorem counter_runOnRing_lt (machine : Machine) (stimuli : List Stimulus) :
    (machine.runOnRing stimuli).1.state.counter.toNat < memorySize := by
  induction stimuli generalizing machine with
  | nil =>
      simp only [runOnRing, onRing, State.withPlace, toNat_ringAddress]
      exact Nat.mod_lt _ (by decide)
  | cons stimulus rest inductionHypothesis =>
      exact inductionHypothesis _

/-- Program addresses matter only modulo the size of memory.  Two machines that
are equal on the ring give the same answers to every run of stimuli, up to the
place a fault names, and are equal on the ring in the end; and nothing changes in
this if one of them is kept on the ring, so that its counter never leaves
memory. -/
theorem addresses_modulo_memory
    {machine other : Machine} (same : machine.SameOnRing other)
    (stimuli : List Stimulus) :
    (machine.run stimuli).1.SameOnRing (other.run stimuli).1 ∧
      List.Forall₂ Response.SameOnRing
        (machine.run stimuli).2 (other.run stimuli).2 ∧
      (machine.run stimuli).1.SameOnRing (other.runOnRing stimuli).1 ∧
      List.Forall₂ Response.SameOnRing
        (machine.run stimuli).2 (other.runOnRing stimuli).2 ∧
      (other.runOnRing stimuli).1.state.counter.toNat < memorySize := by
  obtain ⟨sameLast, sameAnswers⟩ := same.run stimuli
  obtain ⟨sameRing, sameRingAnswers⟩ := same.runOnRing stimuli
  exact ⟨sameLast, sameAnswers, sameRing, sameRingAnswers,
    counter_runOnRing_lt other stimuli⟩

/-- A jump past the end of memory meets the first glyph of the font, which is no
instruction, wherever the program was started on the ring. -/
theorem addresses_modulo_memory_pastEnd :
    let machine :=
      (Machine.fresh (KeyStream.ofSeed 0)).reset [0x60, 0x01, 0xBF, 0xFF]
    let other : Machine :=
      { machine with
        state :=
          machine.state.withPlace 0xF200 (Vector.replicate stackDepth 0x3000) }
    let stimuli : List Stimulus := [.step, .key 7 true, .step, .tick, .step]
    machine.SameOnRing other ∧
      machine.outcomes stimuli =
        [.ok (.load 0 1), .ok (.jumpOffset 0xFFF),
          .error (.unknownOpcode 0xF090 0x1000)] ∧
      (machine.run stimuli).1.SameOnRing (other.run stimuli).1 ∧
      (machine.run stimuli).1.SameOnRing (other.runOnRing stimuli).1 ∧
      List.Forall₂ Response.SameOnRing
        (machine.run stimuli).2 (other.runOnRing stimuli).2 ∧
      (other.runOnRing stimuli).1.state.counter = 0 := by
  intro machine other stimuli
  have same : machine.SameOnRing other := {
    state := {
      counter := by
        decide +kernel
      stack := by
        decide +kernel
      rest := rfl }
    source := rfl }
  obtain ⟨outcomes, onRing⟩ :
      machine.outcomes stimuli =
          [.ok (.load 0 1), .ok (.jumpOffset 0xFFF),
            .error (.unknownOpcode 0xF090 0x1000)] ∧
        (other.runOnRing stimuli).1.state.counter = 0 := by
    decide +kernel
  obtain ⟨sameLast, _, sameRing, sameAnswers, _⟩ :=
    addresses_modulo_memory same stimuli
  exact ⟨same, outcomes, sameLast, sameRing, sameAnswers, onRing⟩

end Machine

end ChipEight
