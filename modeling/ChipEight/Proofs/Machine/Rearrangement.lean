import ChipEight.Proofs.Machine.Stimuli

/-!
# Stimuli in another order

Steps, counts of the timers and changes of a key come from independent sides, and
nothing fixes an order between them.  It matters only where the instruction at
the counter works on the timers or looks at the keypad, and between two changes
of one key.  Everywhere else neighbours can be exchanged: the machine that results
is the same, with its random source, and each of the two is answered as before.

A run is rearranged by such exchanges, any number of them.
-/

namespace ChipEight

namespace State

variable {state : State}

theorem timers_step
    (unused : state.instruction.usesTimers = false) (chance : UInt8) :
    (state.step chance).1.delayTimer = state.delayTimer ∧
      (state.step chance).1.soundTimer = state.soundTimer := by
  -- What is overlooked is not written either: set the timers to what they are.
  have own :=
    step_of_overlooks (aside_withTimers state.delayTimer state.soundTimer)
      (Instruction.overlooks_withTimers unused _ _) chance
  have sameState :
      state.withTimers state.delayTimer state.soundTimer = state := rfl
  rw [sameState] at own
  exact ⟨congrArg (fun outcome => outcome.1.delayTimer) own,
    congrArg (fun outcome => outcome.1.soundTimer) own⟩

theorem keypad_step
    (unread : state.instruction.readsKeypad = false) (chance : UInt8) :
    (state.step chance).1.keypad = state.keypad := by
  have own :=
    step_of_overlooks (aside_withKeypad state.keypad)
      (Instruction.overlooks_withKeypad unread _) chance
  have sameState : state.withKeypad state.keypad = state := rfl
  rw [sameState] at own
  exact congrArg (fun outcome => outcome.1.keypad) own

theorem instruction_tick (state : State) :
    state.tick.1.instruction = state.instruction := by
  rw [tick_withTimers]
  rfl

theorem instruction_setKey (state : State) (key : UInt8) (pressed : Bool) :
    (state.setKey key pressed).instruction = state.instruction := by
  rw [setKey_withKeypad]
  rfl

theorem step_tick
    (unused : state.instruction.usesTimers = false) (chance : UInt8) :
    state.tick.1.step chance =
        ((state.step chance).1.tick.1, (state.step chance).2) ∧
      (state.step chance).1.tick.2 = state.tick.2 := by
  -- The step leaves the timers alone, so counting down finds them as before it.
  obtain ⟨sameDelay, sameSound⟩ := timers_step unused chance
  have later := tick_of_sameTimers sameDelay sameSound
  constructor
  · rw [later, congrArg Prod.fst state.tick_withTimers]
    exact step_of_overlooks (aside_withTimers _ _)
      (Instruction.overlooks_withTimers unused _ _) chance
  · rw [later]

theorem step_setKey
    (unread : state.instruction.readsKeypad = false)
    (key : UInt8) (pressed : Bool) (chance : UInt8) :
    (state.setKey key pressed).step chance =
      ((state.step chance).1.setKey key pressed,
        (state.step chance).2) := by
  have sameKeypad := keypad_step unread chance
  rw [setKey_of_sameKeypad sameKeypad, setKey_withKeypad]
  exact step_of_overlooks (aside_withKeypad _)
    (Instruction.overlooks_withKeypad unread _) chance

theorem tick_setKey (state : State) (key : UInt8) (pressed : Bool) :
    (state.setKey key pressed).tick =
      (state.tick.1.setKey key pressed, state.tick.2) := by
  have set := state.setKey_withKeypad key pressed
  have counted := congrArg Prod.fst state.tick_withTimers
  have setLater :
      state.tick.1.setKey key pressed =
        state.tick.1.withKeypad (state.setKey key pressed).keypad :=
    setKey_of_sameKeypad (by rw [counted, withTimers]) key pressed
  have countedLater :
      (state.setKey key pressed).tick =
        ((state.setKey key pressed).withTimers
            state.tick.1.delayTimer state.tick.1.soundTimer,
          state.tick.2) :=
    tick_of_sameTimers (by rw [set, withKeypad]) (by rw [set, withKeypad])
  rw [countedLater, setLater, counted, set]
  rfl

theorem setKey_comm
    (state : State) {key second : UInt8} (different : key ≠ second)
    (pressed down : Bool) :
    (state.setKey key pressed).setKey second down =
      (state.setKey second down).setKey key pressed := by
  have differentSlots : key.toNat ≠ second.toNat :=
    fun same => different (UInt8.toNat_inj.mp same)
  by_cases present : key.toNat < keyCount
  · by_cases secondPresent : second.toNat < keyCount
    · simp only [setKey, dif_pos present, dif_pos secondPresent]
      rw [Vector.set_comm _ _ differentSlots]
    · simp only [setKey, dif_pos present, dif_neg secondPresent]
  · simp only [setKey, dif_neg present]

end State

namespace Machine

/-- Whether two stimuli can come in either order: both orders lead to the same
machine, and each stimulus is answered as in the other order. -/
structure Exchangeable (machine : Machine) (first second : Stimulus) :
    Prop where
  machine_eq :
    ((machine.respond second).1.respond first).1 =
      ((machine.respond first).1.respond second).1
  first_eq :
    ((machine.respond second).1.respond first).2 =
      (machine.respond first).2
  second_eq :
    ((machine.respond first).1.respond second).2 =
      (machine.respond second).2

/-- Whether two stimuli have nothing to do with each other, as far as the
instruction at the counter and the names of the keys tell. -/
def Independent (machine : Machine) : Stimulus → Stimulus → Prop
  | .step, .tick | .tick, .step =>
      machine.state.instruction.usesTimers = false
  | .step, .key _ _ | .key _ _, .step =>
      machine.state.instruction.readsKeypad = false
  | .tick, .key _ _ | .key _ _, .tick => True
  | .key first _, .key second _ => first ≠ second
  | _, _ => False

/-- Whether a run becomes another by exchanging independent neighbours, each
time at the machine that has come about by then. -/
inductive Rearranged : Machine → List Stimulus → List Stimulus → Prop
  | refl (machine : Machine) (stimuli : List Stimulus) :
      Rearranged machine stimuli stimuli
  | trans {machine : Machine} {source middle target : List Stimulus} :
      Rearranged machine source middle →
      Rearranged machine middle target →
      Rearranged machine source target
  | cons {machine : Machine} (head : Stimulus)
      {source target : List Stimulus} :
      Rearranged (machine.respond head).1 source target →
      Rearranged machine (head :: source) (head :: target)
  | swap {machine : Machine} (first second : Stimulus)
      (rest : List Stimulus) :
      machine.Independent first second →
      Rearranged machine
        (first :: second :: rest) (second :: first :: rest)

variable {machine : Machine} {first second : Stimulus}

theorem Exchangeable.symm
    (exchangeable : machine.Exchangeable first second) :
    machine.Exchangeable second first where
  machine_eq := exchangeable.machine_eq.symm
  first_eq := exchangeable.second_eq
  second_eq := exchangeable.first_eq

theorem exchangeable_step_tick
    (unused : machine.state.instruction.usesTimers = false) :
    machine.Exchangeable .step .tick := by
  have stepped :
      machine.tick.1.step =
        ({ machine.step.1 with state := machine.step.1.state.tick.1 },
          machine.step.2) :=
    step_of_state (fun state => state.tick.1) machine.state.instruction_tick
      (fun chance => (State.step_tick unused chance).1)
  have expired : machine.step.1.tick.2 = machine.tick.2 := by
    have sameState := machine.step_eq.1
    unfold tick
    rw [sameState]
    exact (State.step_tick unused _).2
  constructor
  · simp only [respond, stepped]
    rfl
  · simp only [respond, stepped]
  · simp only [respond, expired]

theorem exchangeable_step_key
    (unread : machine.state.instruction.readsKeypad = false)
    (key : UInt8) (pressed : Bool) :
    machine.Exchangeable .step (.key key pressed) := by
  have stepped :
      (machine.setKey key pressed).step =
        (machine.step.1.setKey key pressed, machine.step.2) :=
    step_of_state (fun state => state.setKey key pressed)
      (machine.state.instruction_setKey key pressed)
      (State.step_setKey unread key pressed)
  constructor
  · simp only [respond, stepped]
  · simp only [respond, stepped]
  · rfl

theorem exchangeable_tick_key
    (machine : Machine) (key : UInt8) (pressed : Bool) :
    machine.Exchangeable .tick (.key key pressed) := by
  have counted :
      (machine.setKey key pressed).tick =
        (machine.tick.1.setKey key pressed, machine.tick.2) := by
    unfold tick setKey
    rw [State.tick_setKey]
  constructor
  · simp only [respond, counted]
  · simp only [respond, counted]
  · rfl

theorem exchangeable_keys
    (machine : Machine) {key other : UInt8} (different : key ≠ other)
    (pressed down : Bool) :
    machine.Exchangeable (.key key pressed) (.key other down) := by
  constructor
  · simp only [respond, setKey, State.setKey_comm _ different]
  · rfl
  · rfl

theorem exchangeable_of_independent
    (independent : machine.Independent first second) :
    machine.Exchangeable first second := by
  cases first with
  | reset program => cases independent
  | step =>
      cases second with
      | reset program => cases independent
      | step => cases independent
      | tick => exact exchangeable_step_tick independent
      | key key pressed => exact exchangeable_step_key independent key pressed
  | tick =>
      cases second with
      | reset program => cases independent
      | step => exact (exchangeable_step_tick independent).symm
      | tick => cases independent
      | key key pressed => exact machine.exchangeable_tick_key key pressed
  | key key pressed =>
      cases second with
      | reset program => cases independent
      | step => exact (exchangeable_step_key independent key pressed).symm
      | tick => exact (machine.exchangeable_tick_key key pressed).symm
      | key other down =>
          exact machine.exchangeable_keys independent pressed down

/-- Steps are never exchanged with steps. -/
theorem outcome?_of_independent
    (independent : machine.Independent first second) :
    (machine.respond first).2.outcome? = none ∨
      (machine.respond second).2.outcome? = none := by
  cases first with
  | reset program => cases independent
  | step =>
      cases second with
      | step => cases independent
      | _ => exact Or.inr rfl
  | tick => exact Or.inl rfl
  | key key pressed => exact Or.inl rfl

theorem run_swap
    (exchangeable : machine.Exchangeable first second)
    (rest : List Stimulus) :
    ∃ last responses,
      machine.run (first :: second :: rest) =
          (last, (machine.respond first).2 ::
            (machine.respond second).2 :: responses) ∧
        machine.run (second :: first :: rest) =
          (last, (machine.respond second).2 ::
            (machine.respond first).2 :: responses) := by
  let both := ((machine.respond first).1.respond second).1
  refine ⟨(both.run rest).1, (both.run rest).2, ?_, ?_⟩
  · simp only [run, exchangeable.second_eq, both]
  · simp only [run, exchangeable.machine_eq, exchangeable.first_eq, both]

theorem run_rearranged
    {stimuli target : List Stimulus}
    (rearranged : machine.Rearranged stimuli target) :
    (machine.run target).1 = (machine.run stimuli).1 ∧
      machine.outcomes target = machine.outcomes stimuli ∧
      (machine.run target).2.Perm (machine.run stimuli).2 := by
  -- By induction on the exchanges; each of them is a swap at the machine that the
  -- stimuli in front of it have led to.
  induction rearranged with
  | refl machine stimuli => exact ⟨rfl, rfl, List.Perm.refl _⟩
  | trans _ _ firstHypothesis secondHypothesis =>
      obtain ⟨firstMachine, firstOutcomes, firstPerm⟩ := firstHypothesis
      obtain ⟨secondMachine, secondOutcomes, secondPerm⟩ := secondHypothesis
      exact ⟨secondMachine.trans firstMachine,
        secondOutcomes.trans firstOutcomes, secondPerm.trans firstPerm⟩
  | cons head _ inductionHypothesis =>
      obtain ⟨sameMachine, sameOutcomes, perm⟩ := inductionHypothesis
      refine ⟨sameMachine, ?_, perm.cons _⟩
      simp only [outcomes, run, List.filterMap_cons]
      simp only [outcomes] at sameOutcomes
      rw [sameOutcomes]
  | swap first second rest independent =>
      obtain ⟨last, responses, before, after⟩ :=
        run_swap (exchangeable_of_independent independent) rest
      refine ⟨?_, ?_, ?_⟩
      · rw [before, after]
      · unfold outcomes
        rw [before, after]
        rcases outcome?_of_independent independent with none | none
        · simp only [List.filterMap_cons, none]
        · simp only [List.filterMap_cons, none]
      · rw [before, after]
        exact List.Perm.swap _ _ _

/-- What comes from independent sides commutes.  A step and a count of the timers
can be exchanged unless the instruction works on the timers, a step and a change
of a key unless the instruction looks at the keypad, and a count of the timers
and changes of different keys always.  So whatever exchanges of this kind are made
in a run, it ends with the same machine and the same random source, its steps come
out the same and it triggers the sound as often. -/
theorem stimuli_commute (machine : Machine) :
    (machine.state.instruction.usesTimers = false →
        machine.Exchangeable .step .tick) ∧
      (machine.state.instruction.readsKeypad = false →
        ∀ key pressed, machine.Exchangeable .step (.key key pressed)) ∧
      (∀ key pressed, machine.Exchangeable .tick (.key key pressed)) ∧
      (∀ key other pressed down, key ≠ other →
        machine.Exchangeable (.key key pressed) (.key other down)) ∧
      ∀ stimuli rearranged, machine.Rearranged stimuli rearranged →
        (machine.run rearranged).1 = (machine.run stimuli).1 ∧
          machine.outcomes rearranged = machine.outcomes stimuli ∧
          machine.soundTriggers rearranged =
            machine.soundTriggers stimuli := by
  refine ⟨exchangeable_step_tick, exchangeable_step_key,
    machine.exchangeable_tick_key, ?_, ?_⟩
  · intro key other pressed down different
    exact machine.exchangeable_keys different pressed down
  · intro stimuli rearranged exchanged
    obtain ⟨sameMachine, sameOutcomes, perm⟩ := run_rearranged exchanged
    exact ⟨sameMachine, sameOutcomes, perm.countP_eq _⟩

/-- A tone of length one is set, and then a key is pressed, an instruction is
executed and the timers count down; the order of these three does not matter. -/
theorem stimuli_commute_tone :
    let machine :=
      ((Machine.fresh (KeyStream.ofSeed 0)).reset
        [0xF0, 0x18, 0x60, 0x07, 0x12, 0x00]).step.1
    let played : List Stimulus := [.step, .key 2 true, .key 5 true, .tick]
    let rearranged : List Stimulus :=
      [.key 5 true, .step, .tick, .key 2 true]
    machine.state.instruction = .load 0 7 ∧
      machine.Rearranged played rearranged ∧
      machine.Exchangeable .step .tick ∧
      machine.Exchangeable .step (.key 5 true) ∧
      machine.Exchangeable (.key 2 true) (.key 5 true) ∧
      (machine.run rearranged).1 = (machine.run played).1 ∧
      machine.soundTriggers rearranged = 1 := by
  intro machine played rearranged
  obtain ⟨loads, sounds⟩ :
      machine.state.instruction = .load 0 7 ∧
        machine.soundTriggers played = 1 := by
    decide +kernel
  have unused : machine.state.instruction.usesTimers = false := by
    rw [loads]
    rfl
  have unread : machine.state.instruction.readsKeypad = false := by
    rw [loads]
    rfl
  have keysDiffer : (2 : UInt8) ≠ 5 := by
    decide
  have exchanged : machine.Rearranged played rearranged :=
    .trans (.cons .step (.swap (.key 2 true) (.key 5 true) _ keysDiffer))
      (.trans
        (.cons .step (.cons _ (.swap (.key 2 true) .tick _ trivial)))
        (.swap .step (.key 5 true) _ unread))
  obtain ⟨stepTick, stepKey, _, keys, runs⟩ := stimuli_commute machine
  obtain ⟨sameMachine, _, sameTriggers⟩ := runs _ _ exchanged
  exact ⟨loads, exchanged, stepTick unused, stepKey unread 5 true,
    keys 2 5 true true keysDiffer, sameMachine, sameTriggers.trans sounds⟩

end Machine

end ChipEight
