import ChipEight.Proofs.Instruction.Footprint
import ChipEight.Proofs.Machine.Rearrangement
import ChipEight.Proofs.Machine.Timers
import ChipEight.Proofs.State.Faults

/-!
# Waiting for a key

An instruction that waits for a key does so by being executed again and again.  As long as
no key is down when a step is taken, every step executes it and comes no further, whatever
the timers and the keys do in between.  `Unattended` says which runs these are: keys may be
pressed, as long as they are released before the next step.

What waits is still there when a step finds a key down, so one theorem about a single step
tells how the waiting ends: with the lowest of the keys that are down.
-/

namespace ChipEight

namespace State

/-- Whether no key is down. -/
def AllUp (state : State) : Prop :=
  ∀ key, state.keypad.get key = false

instance (state : State) : Decidable state.AllUp :=
  inferInstanceAs (Decidable (∀ key, state.keypad.get key = false))

variable {state : State} {x key : UInt8}

theorem firstKey?_of_allUp (allUp : state.AllUp) : state.firstKey? = none :=
  (Instruction.firstKey?_eq_none_iff state).mpr allUp

/-- If a key is down, a lowest one is. -/
theorem exists_firstKey?
    (down : ∃ key, state.keypad.get key = true) :
    ∃ lowest : Fin keyCount,
      state.firstKey? = some (UInt8.ofNat lowest.val) ∧
        state.keypad.get lowest = true ∧
        ∀ key, state.keypad.get key = true → lowest ≤ key := by
  cases found : state.keypad.toList.findIdx? id with
  | none =>
      obtain ⟨key, isDown⟩ := down
      have noneDown : state.firstKey? = none := by
        rw [firstKey?, found]
        rfl
      have isUp := (Instruction.firstKey?_eq_none_iff state).mp noneDown key
      rw [isDown] at isUp
      cases isUp
  | some place =>
      obtain ⟨inRange, isDown, lowerUp⟩ :=
        List.findIdx?_eq_some_iff_getElem.mp found
      have inKeypad : place < keyCount := by simpa using inRange
      have placeDown : state.keypad[place] = true := by simpa using isDown
      refine ⟨⟨place, inKeypad⟩, ?_, placeDown, ?_⟩
      · rw [firstKey?, found]
        rfl
      · intro key keyDown
        refine Nat.le_of_not_lt fun lower => ?_
        have isDownAsWell : state.keypad[key.val] = true := keyDown
        exact lowerUp key.val lower (by simpa using isDownAsWell)

/-! ## One step -/

theorem step_waitKey_of_up
    (waits : state.instruction = .waitKey x)
    (noneDown : state.firstKey? = none) (chance : UInt8) :
    state.step chance =
      ({ state with redraw := false }, .ok (.waitKey x)) := by
  have stillUp :
      State.firstKey? { state with redraw := false } = none := noneDown
  have ran :
      state.instruction.execute chance { state with redraw := false } =
        .ok (.stay, { state with redraw := false }) := by
    simp only [waits, Instruction.execute, Instruction.waitKeyOn, stillUp]
  rw [step_of_ok ran, waits]
  rfl

theorem step_waitKey_of_down
    (waits : state.instruction = .waitKey x)
    (first : state.firstKey? = some key) (chance : UInt8) :
    state.step chance =
      ({ state.setRegister x key with
          counter := state.counter + 2
          redraw := false },
        .ok (.waitKey x)) := by
  have stillFirst :
      State.firstKey? { state with redraw := false } = some key := first
  have ran :
      state.instruction.execute chance { state with redraw := false } =
        .ok (.next,
          setRegister { state with redraw := false } x key) := by
    simp only [waits, Instruction.execute, Instruction.waitKeyOn, stillFirst]
  rw [step_of_ok ran, waits]
  rfl

/-! ## Keys -/

/-- Of two changes of one key, the later one counts. -/
theorem setKey_setKey (state : State) (key : UInt8) (pressed down : Bool) :
    (state.setKey key pressed).setKey key down = state.setKey key down := by
  by_cases present : key.toNat < keyCount
  · simp only [setKey, dif_pos present, Vector.set_set]
  · simp only [setKey, dif_neg present]

theorem setKey_of_up
    (up : ∀ slot : Fin keyCount, slot.val = key.toNat →
      state.keypad.get slot = false) :
    state.setKey key false = state := by
  by_cases present : key.toNat < keyCount
  · have isUp : state.keypad[key.toNat] = false :=
      up ⟨key.toNat, present⟩ rfl
    have same : state.keypad.set key.toNat false present = state.keypad := by
      rw [← isUp]
      exact Vector.set_getElem_self present
    simp only [setKey, dif_pos present, same]
  · simp only [setKey, dif_neg present]

theorem AllUp.setKey
    (allUp : state.AllUp) {pressed : Bool}
    (quiet : pressed = false ∨ keyCount ≤ key.toNat) :
    (state.setKey key pressed).AllUp := by
  rcases quiet with rfl | beyond
  · rw [setKey_of_up fun slot _ => allUp slot]
    exact allUp
  · have absent : ¬ key.toNat < keyCount := Nat.not_lt.mpr beyond
    simp only [State.setKey, dif_neg absent]
    exact allUp

end State

namespace Stimulus

/-- Whether a stimulus starts the machine over. -/
def resets : Stimulus → Bool
  | .reset _ => true
  | _ => false

/-- Whether a stimulus neither presses a key nor starts the machine over. -/
def Quiet : Stimulus → Prop
  | .reset _ => False
  | .step => True
  | .tick => True
  | .key number pressed => pressed = false ∨ keyCount ≤ number.toNat

/-- Whether a stimulus is neither a step nor a reset, and has nothing to do with a key. -/
def Beside (number : UInt8) : Stimulus → Prop
  | .reset _ => False
  | .step => False
  | .tick => True
  | .key other _ => number ≠ other

end Stimulus

namespace Machine

/-- Whether a machine has come no further than another: everything is the same but the
timers, the keypad and the redraw mark. -/
structure Standstill (before after : Machine) : Prop where
  registers : after.state.registers = before.state.registers
  index : after.state.index = before.state.index
  counter : after.state.counter = before.state.counter
  depth : after.state.depth = before.state.depth
  stack : after.state.stack = before.state.stack
  memory : after.state.memory = before.state.memory
  screen : after.state.screen = before.state.screen
  source : after.source = before.source

/-- Whether a run starts the machine over nowhere, and takes no step while a key is
down. -/
def Unattended (machine : Machine) : List Stimulus → Prop
  | [] => True
  | stimulus :: rest =>
      stimulus.resets = false ∧
        (stimulus = .step → machine.state.AllUp) ∧
        (machine.respond stimulus).1.Unattended rest

instance decidableUnattended (machine : Machine) :
    (stimuli : List Stimulus) → Decidable (machine.Unattended stimuli)
  | [] => isTrue trivial
  | stimulus :: rest =>
      have : Decidable ((machine.respond stimulus).1.Unattended rest) :=
        decidableUnattended _ rest
      inferInstanceAs
        (Decidable
          (stimulus.resets = false ∧
            (stimulus = .step → machine.state.AllUp) ∧
            (machine.respond stimulus).1.Unattended rest))

variable {machine after later : Machine} {x key : UInt8}
  {stimuli : List Stimulus}

/-! ## Standing still -/

theorem Standstill.refl (machine : Machine) : machine.Standstill machine := by
  constructor <;> rfl

theorem Standstill.trans
    (first : machine.Standstill after) (second : after.Standstill later) :
    machine.Standstill later where
  registers := second.registers.trans first.registers
  index := second.index.trans first.index
  counter := second.counter.trans first.counter
  depth := second.depth.trans first.depth
  stack := second.stack.trans first.stack
  memory := second.memory.trans first.memory
  screen := second.screen.trans first.screen
  source := second.source.trans first.source

theorem SameProgress.standstill (same : machine.SameProgress after) :
    machine.Standstill after := by
  obtain ⟨_, _, _, rfl⟩ := same
  constructor <;> rfl

theorem Standstill.instruction_eq (same : machine.Standstill after) :
    after.state.instruction = machine.state.instruction := by
  simp only [State.instruction, State.fetch, same.memory, same.counter]

/-! ## One stimulus -/

theorem step_waitKey_of_allUp
    (waits : machine.state.instruction = .waitKey x)
    (allUp : machine.state.AllUp) :
    machine.step =
      ({ machine with state := { machine.state with redraw := false } },
        .ok (.waitKey x)) := by
  have stepped :=
    State.step_waitKey_of_up waits (State.firstKey?_of_allUp allUp)
  simp only [step, waits, stepped]
  rfl

theorem step_waitKey_of_down
    (waits : machine.state.instruction = .waitKey x)
    (down : ∃ key, machine.state.keypad.get key = true) :
    ∃ lowest : Fin keyCount,
      machine.state.keypad.get lowest = true ∧
        (∀ key, machine.state.keypad.get key = true → lowest ≤ key) ∧
        machine.step =
          ({ machine with
              state :=
                { machine.state.setRegister x (UInt8.ofNat lowest.val) with
                  counter := machine.state.counter + 2
                  redraw := false } },
            .ok (.waitKey x)) := by
  obtain ⟨lowest, first, isDown, isLowest⟩ := State.exists_firstKey? down
  have stepped := State.step_waitKey_of_down waits first
  refine ⟨lowest, isDown, isLowest, ?_⟩
  simp only [step, waits, stepped]
  rfl

/-- Unless a step finds a key down or the machine starts over, it comes no further. -/
theorem standstill_respond
    (waits : machine.state.instruction = .waitKey x)
    {stimulus : Stimulus}
    (noReset : stimulus.resets = false)
    (unheard : stimulus = .step → machine.state.AllUp) :
    machine.Standstill (machine.respond stimulus).1 := by
  cases stimulus with
  | reset program => cases noReset
  | step =>
      simp only [respond, step_waitKey_of_allUp waits (unheard rfl)]
      constructor <;> rfl
  | tick => exact (sameProgress_tick machine).standstill
  | key key pressed =>
      exact (sameProgress_setKey machine key pressed).standstill

theorem allUp_respond
    (waits : machine.state.instruction = .waitKey x)
    (allUp : machine.state.AllUp)
    {stimulus : Stimulus} (quiet : stimulus.Quiet) :
    (machine.respond stimulus).1.state.AllUp := by
  cases stimulus with
  | reset program => exact quiet.elim
  | step =>
      simp only [respond, step_waitKey_of_allUp waits allUp]
      exact allUp
  | tick =>
      obtain ⟨delay, sound, ticked⟩ := machine.state.tick_frame
      simp only [respond, tick, ticked]
      exact allUp
  | key key pressed => exact allUp.setKey quiet

/-! ## Runs -/

/-- A run of quiet stimuli goes unattended, and no key is down after it. -/
theorem unattended_of_quiet
    (waits : machine.state.instruction = .waitKey x)
    (allUp : machine.state.AllUp)
    (quiet : ∀ stimulus ∈ stimuli, stimulus.Quiet) :
    machine.Unattended stimuli ∧ (machine.run stimuli).1.state.AllUp := by
  induction stimuli generalizing machine with
  | nil => exact ⟨trivial, allUp⟩
  | cons stimulus rest inductionHypothesis =>
      obtain ⟨quietFirst, quietRest⟩ := List.forall_mem_cons.mp quiet
      have noReset : stimulus.resets = false := by
        cases stimulus with
        | reset program => exact quietFirst.elim
        | _ => rfl
      have still := standstill_respond waits noReset fun _ => allUp
      obtain ⟨unattended, stillUp⟩ :=
        inductionHypothesis (still.instruction_eq.trans waits)
          (allUp_respond waits allUp quietFirst) quietRest
      exact ⟨⟨noReset, fun _ => allUp, unattended⟩, stillUp⟩

theorem Unattended.standstill
    (waits : machine.state.instruction = .waitKey x)
    (unattended : machine.Unattended stimuli) :
    machine.Standstill (machine.run stimuli).1 := by
  induction stimuli generalizing machine with
  | nil => exact Standstill.refl machine
  | cons stimulus rest inductionHypothesis =>
      obtain ⟨noReset, unheard, unattendedRest⟩ := unattended
      have still := standstill_respond waits noReset unheard
      exact still.trans
        (inductionHypothesis (still.instruction_eq.trans waits)
          unattendedRest)

theorem outcomes_cons
    (machine : Machine) (stimulus : Stimulus) (rest : List Stimulus) :
    machine.outcomes (stimulus :: rest) =
      (machine.respond stimulus).2.outcome?.toList ++
        (machine.respond stimulus).1.outcomes rest := by
  simp only [outcomes, run, List.filterMap_cons]
  cases (machine.respond stimulus).2.outcome? <;> rfl

/-- Every step of an unattended run executes the instruction that waits. -/
theorem Unattended.outcomes_eq
    (waits : machine.state.instruction = .waitKey x)
    (unattended : machine.Unattended stimuli) :
    machine.outcomes stimuli =
      List.replicate (stimuli.count .step) (.ok (.waitKey x)) := by
  induction stimuli generalizing machine with
  | nil => rfl
  | cons stimulus rest inductionHypothesis =>
      obtain ⟨noReset, unheard, unattendedRest⟩ := unattended
      have still := standstill_respond waits noReset unheard
      have later :=
        inductionHypothesis (still.instruction_eq.trans waits)
          unattendedRest
      rw [outcomes_cons, later]
      cases stimulus with
      | reset program => cases noReset
      | step =>
          rw [List.count_cons_self, List.replicate_succ]
          simp only [respond, step_waitKey_of_allUp waits (unheard rfl)]
          rfl
      | tick =>
          rw [List.count_cons_of_ne (by simp)]
          rfl
      | key key pressed =>
          rw [List.count_cons_of_ne (by simp)]
          rfl

/-! ## Keys between two steps -/

/-- A change of one key can be made before or after stimuli that have nothing to do with
it. -/
theorem run_setKey
    (machine : Machine) (pressed : Bool)
    (beside : ∀ stimulus ∈ stimuli, stimulus.Beside key) :
    ((machine.setKey key pressed).run stimuli).1 =
        (machine.run stimuli).1.setKey key pressed ∧
      (machine.setKey key pressed).outcomes stimuli =
        machine.outcomes stimuli := by
  induction stimuli generalizing machine with
  | nil => exact ⟨rfl, rfl⟩
  | cons stimulus rest inductionHypothesis =>
      obtain ⟨besideFirst, besideRest⟩ := List.forall_mem_cons.mp beside
      have exchangeable :
          machine.Exchangeable (.key key pressed) stimulus := by
        cases stimulus with
        | reset program => exact besideFirst.elim
        | step => exact besideFirst.elim
        | tick => exact (machine.exchangeable_tick_key key pressed).symm
        | key other down =>
            exact machine.exchangeable_keys besideFirst pressed down
      have first :
          ((machine.setKey key pressed).respond stimulus).1 =
            (machine.respond stimulus).1.setKey key pressed :=
        exchangeable.machine_eq.symm
      have sameAnswer :
          ((machine.setKey key pressed).respond stimulus).2 =
            (machine.respond stimulus).2 := exchangeable.second_eq
      obtain ⟨sameRun, sameOutcomes⟩ :=
        inductionHypothesis (machine.respond stimulus).1 besideRest
      rw [outcomes_cons, outcomes_cons, first, sameAnswer, sameOutcomes]
      refine ⟨?_, rfl⟩
      rw [run, first]
      exact sameRun

theorem outcomes_append
    (machine : Machine) (earlier later : List Stimulus) :
    machine.outcomes (earlier ++ later) =
      machine.outcomes earlier ++ (machine.run earlier).1.outcomes later := by
  simp only [outcomes, run_append, List.filterMap_append]

/-- A key that is up may be pressed and released again, and nobody can tell afterwards. -/
theorem run_press_release
    {between : List Stimulus}
    (up : ∀ slot : Fin keyCount, slot.val = key.toNat →
      machine.state.keypad.get slot = false)
    (beside : ∀ stimulus ∈ between, stimulus.Beside key) :
    (machine.run (.key key true :: (between ++ [.key key false]))).1 =
        (machine.run between).1 ∧
      machine.outcomes (.key key true :: (between ++ [.key key false])) =
        machine.outcomes between := by
  have alreadyUp : machine.setKey key false = machine := by
    rw [setKey, State.setKey_of_up up]
  have released :
      (machine.run between).1.setKey key false = (machine.run between).1 := by
    have ran := (machine.run_setKey false beside).1
    rw [alreadyUp] at ran
    exact ran.symm
  obtain ⟨pressed, sameOutcomes⟩ := machine.run_setKey true beside
  constructor
  · calc
      (machine.run (.key key true :: (between ++ [.key key false]))).1
          = ((machine.setKey key true).run between).1.setKey key false := by
            rw [run, run_append]
            rfl
      _ = ((machine.run between).1.setKey key true).setKey key false := by
            rw [pressed]
      _ = (machine.run between).1.setKey key false := by
            simp only [setKey, State.setKey_setKey]
      _ = (machine.run between).1 := released
  · rw [outcomes_cons, outcomes_append]
    exact (List.append_nil _).trans sameOutcomes

/-- Let the instruction at the counter of a machine wait for a key.

Run the machine in any way that neither starts it over nor presses a key, while no key is
down: it goes unattended.  While it goes unattended, every step executes the instruction
that waits, and nothing but the timers, the keypad and the redraw mark changes.  A key may
even be pressed, if it is released before the next step: what comes later, whatever it is,
is the same as if it had not been.

The first step behind such a run that finds keys down stores the lowest of them, goes on to
the following instruction and changes nothing else but the redraw mark. -/
theorem waitKey_polls
    (machine : Machine) (x : UInt8)
    (waits : machine.state.instruction = .waitKey x) :
    (∀ stimuli, machine.state.AllUp →
        (∀ stimulus ∈ stimuli, stimulus.Quiet) →
          machine.Unattended stimuli ∧
            (machine.run stimuli).1.state.AllUp) ∧
      ∀ stimuli, machine.Unattended stimuli →
        let waiting := (machine.run stimuli).1
        machine.outcomes stimuli =
            List.replicate (stimuli.count .step) (.ok (.waitKey x)) ∧
          machine.Standstill waiting ∧
          (∀ (key : UInt8) (between later : List Stimulus),
            (∀ slot : Fin keyCount, slot.val = key.toNat →
              waiting.state.keypad.get slot = false) →
            (∀ stimulus ∈ between, stimulus.Beside key) →
              let seen :=
                .key key true :: (between ++ [.key key false]) ++ later
              (waiting.run seen).1 = (waiting.run (between ++ later)).1 ∧
                waiting.outcomes seen =
                  waiting.outcomes (between ++ later)) ∧
          ((∃ key, waiting.state.keypad.get key = true) →
            ∃ lowest : Fin keyCount,
              waiting.state.keypad.get lowest = true ∧
                (∀ key, waiting.state.keypad.get key = true →
                  lowest ≤ key) ∧
                waiting.step =
                  ({ waiting with
                      state :=
                        { waiting.state.setRegister x
                            (UInt8.ofNat lowest.val) with
                          counter := waiting.state.counter + 2
                          redraw := false } },
                    .ok (.waitKey x))) := by
  refine ⟨fun stimuli allUp quiet => unattended_of_quiet waits allUp quiet,
    fun stimuli unattended => ?_⟩
  intro waiting
  have still := unattended.standstill waits
  refine ⟨unattended.outcomes_eq waits, still, ?unseen, ?ended⟩
  case unseen =>
    intro key between later up beside seen
    obtain ⟨sameMachine, sameOutcomes⟩ := run_press_release up beside
    simp only [seen, run_append, outcomes_append, sameMachine, sameOutcomes,
      and_self]
  case ended =>
    exact step_waitKey_of_down (still.instruction_eq.trans waits)

/-- While a program waits, a key is released that was not down and one is pressed that does
not exist; another one is pressed and released.  Then two keys are down. -/
theorem waitKey_polls_twoKeys :
    let machine := (fresh (KeyStream.ofSeed 0)).reset [0xF5, 0x0A]
    let quietly : List Stimulus :=
      [.step, .tick, .key 0xA false, .key 0x10 true, .step]
    let pressing : List Stimulus := [.key 0xC true, .key 0xB true]
    let waiting := (machine.run quietly).1
    let pressed := (machine.run (quietly ++ pressing)).1
    machine.state.instruction = .waitKey 5 ∧
      machine.state.AllUp ∧ (∀ stimulus ∈ quietly, stimulus.Quiet) ∧
      machine.outcomes quietly = [.ok (.waitKey 5), .ok (.waitKey 5)] ∧
      machine.Standstill waiting ∧
      (waiting.run [.key 3 true, .tick, .key 3 false, .step]).1 =
        (waiting.run [.tick, .step]).1 ∧
      machine.Unattended (quietly ++ pressing) ∧
      pressed.step.1.state.register 5 = 0xB ∧
      pressed.step.1.state.counter = 0x202 := by
  intro machine quietly pressing waiting pressed
  have waits : machine.state.instruction = .waitKey 5 := by decide +kernel
  have allUp : machine.state.AllUp := by decide +kernel
  have quiet : ∀ stimulus ∈ quietly, stimulus.Quiet := by
    simp [quietly, Stimulus.Quiet]
  have unattended : machine.Unattended (quietly ++ pressing) := by
    decide +kernel
  have downKeys :
      pressed.state.keypad.get 0xB = true ∧
        ∀ key, pressed.state.keypad.get key = true → 0xB ≤ key := by
    decide +kernel
  obtain ⟨quietRuns, polls⟩ := waitKey_polls machine 5 waits
  obtain ⟨unattendedQuietly, stillUp⟩ := quietRuns quietly allUp quiet
  obtain ⟨outcomes, still, unseen, _⟩ := polls quietly unattendedQuietly
  obtain ⟨_, stillLater, _, ends⟩ := polls (quietly ++ pressing) unattended
  have overlooked :=
    (unseen 3 [.tick] [.step] (fun slot _ => stillUp slot)
      (by simp [Stimulus.Beside])).1
  obtain ⟨lowest, isDown, isLowest, stepped⟩ := ends ⟨0xB, downKeys.1⟩
  have isEleven : lowest = 0xB :=
    Fin.le_antisymm (isLowest 0xB downKeys.1) (downKeys.2 lowest isDown)
  refine ⟨waits, allUp, quiet, outcomes, still, overlooked, unattended,
    ?_, ?_⟩
  · have stored :
        pressed.step.1.state.register 5 =
          (pressed.state.setRegister 5 (UInt8.ofNat lowest.val)).register 5 :=
      congrArg (fun outcome => outcome.1.state.register 5) stepped
    rw [stored, isEleven, State.register_setRegister, if_pos rfl]
    rfl
  · have behind : pressed.step.1.state.counter = pressed.state.counter + 2 :=
      congrArg (fun outcome => outcome.1.state.counter) stepped
    have atStart : pressed.state.counter = 0x200 := stillLater.counter
    rw [behind, atStart]
    rfl

end Machine

end ChipEight
