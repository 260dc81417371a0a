import ChipEight.Proofs.Machine.Stimuli

/-!
# Timers

A timer that is set to a number counts down by one with every tick, whatever is
executed or pressed in between, until it is set again.  The delay timer stops at zero.
The sound timer reaches zero, is found run out by the tick behind that, and is absent
from then on.

A timer is set by one instruction only, and only if that instruction is executed
successfully.  `soundTimer_run` and `delayTimer_run` say what the timers are after a run
that does not set them, and how its ticks come out; `CountsDown` says it of any run,
counted from where the timer was last set.
-/

namespace ChipEight

namespace Instruction

def setsSound : Instruction → Bool
  | .setSound _ => true
  | _ => false

def setsDelay : Instruction → Bool
  | .setDelay _ => true
  | _ => false

variable {instruction : Instruction} {chance : UInt8} {flow : Flow}
  {state after : State}

theorem timers_execute
    (executed : instruction.execute chance state = .ok (flow, after))
    (unused : instruction.usesTimers = false) :
    after.delayTimer = state.delayTimer ∧
      after.soundTimer = state.soundTimer := by
  -- What is overlooked is not written either: set the timers to what they are.
  have own :=
    overlooks_withTimers unused state.delayTimer state.soundTimer chance state
  have sameState :
      state.withTimers state.delayTimer state.soundTimer = state := rfl
  rw [sameState, executed] at own
  have sameAfter :
      after = after.withTimers state.delayTimer state.soundTimer :=
    congrArg Prod.snd (Except.ok.inj own)
  rw [sameAfter]
  exact ⟨rfl, rfl⟩

theorem soundTimer_execute
    (executed : instruction.execute chance state = .ok (flow, after))
    (unset : instruction.setsSound = false) :
    after.soundTimer = state.soundTimer := by
  by_cases unused : instruction.usesTimers = false
  · exact (timers_execute executed unused).2
  · cases instruction with
    | getDelay x =>
        cases executed
        rfl
    | setDelay x =>
        cases executed
        rfl
    | setSound x => cases unset
    | _ => exact absurd rfl unused

theorem delayTimer_execute
    (executed : instruction.execute chance state = .ok (flow, after))
    (unset : instruction.setsDelay = false) :
    after.delayTimer = state.delayTimer := by
  by_cases unused : instruction.usesTimers = false
  · exact (timers_execute executed unused).1
  · cases instruction with
    | getDelay x =>
        cases executed
        rfl
    | setSound x =>
        cases executed
        rfl
    | setDelay x => cases unset
    | _ => exact absurd rfl unused

end Instruction

namespace State

/-- A sound timer after a number of ticks. -/
def soundAfter (sound : Option UInt8) (ticks : Nat) : Option UInt8 :=
  sound.bind fun length =>
    if ticks ≤ length.toNat then
      some (UInt8.ofNat (length.toNat - ticks))
    else
      none

variable {state : State} {chance : UInt8}

/-! ## Single ticks -/

theorem toNat_pred {count : UInt8} (positive : count ≠ 0) :
    (count - 1).toNat + 1 = count.toNat := by
  have nonzero : count.toNat ≠ 0 := by
    intro zero
    exact positive (UInt8.toNat_inj.mp zero)
  have reached : (1 : UInt8) ≤ count := by
    rw [UInt8.le_iff_toNat_le, UInt8.toNat_one]
    omega
  rw [UInt8.toNat_sub_of_le _ _ reached, UInt8.toNat_one]
  omega

theorem delayTimer_tick (state : State) :
    state.tick.1.delayTimer.toNat = state.delayTimer.toNat - 1 := by
  have counted :
      state.tick.1.delayTimer =
        if state.delayTimer = 0 then 0 else state.delayTimer - 1 := by
    cases sounding : state.soundTimer with
    | none => simp only [tick, sounding]
    | some sound =>
        by_cases runOut : sound = 0
        · simp only [tick, sounding, if_pos runOut]
        · simp only [tick, sounding, if_neg runOut]
  rw [counted]
  by_cases stopped : state.delayTimer = 0
  · rw [if_pos stopped, stopped]
    rfl
  · have shorter := toNat_pred stopped
    rw [if_neg stopped]
    omega

/-- A tick that finds the sound timer run out is the one that ends it. -/
theorem tick_expires_iff (state : State) :
    state.tick.2 = true ↔ state.soundTimer = some 0 := by
  cases sounding : state.soundTimer with
  | none => simp [tick, sounding]
  | some sound =>
      by_cases runOut : sound = 0
      · simp [tick, sounding, runOut]
      · simp [tick, sounding, runOut]

theorem soundTimer_tick (state : State) :
    state.tick.1.soundTimer = soundAfter state.soundTimer 1 := by
  cases sounding : state.soundTimer with
  | none => simp [tick, sounding, soundAfter]
  | some sound =>
      by_cases runOut : sound = 0
      · simp [tick, sounding, runOut, soundAfter]
      · have shorter := toNat_pred runOut
        have active : 1 ≤ sound.toNat := by omega
        have sameRest : sound.toNat - 1 = (sound - 1).toNat := by omega
        simp only [tick, sounding, if_neg runOut, soundAfter,
          Option.bind_some, if_pos active, sameRest, UInt8.ofNat_toNat]

theorem soundAfter_zero (sound : Option UInt8) :
    soundAfter sound 0 = sound := by
  cases sound with
  | none => rfl
  | some length =>
      simp only [soundAfter, Option.bind_some, if_pos (Nat.zero_le _),
        Nat.sub_zero, UInt8.ofNat_toNat]

theorem soundAfter_add (sound : Option UInt8) (first second : Nat) :
    soundAfter (soundAfter sound first) second =
      soundAfter sound (first + second) := by
  cases sound with
  | none => rfl
  | some length =>
      have small := length.toNat_lt
      by_cases active : first ≤ length.toNat
      · have left : (UInt8.ofNat (length.toNat - first)).toNat =
            length.toNat - first := by
          rw [UInt8.toNat_ofNat']
          omega
        simp only [soundAfter, Option.bind_some, if_pos active, left]
        by_cases stillActive : first + second ≤ length.toNat
        · have within : second ≤ length.toNat - first := by omega
          rw [if_pos stillActive, if_pos within, Nat.sub_sub]
        · have beyond : ¬ second ≤ length.toNat - first := by omega
          rw [if_neg stillActive, if_neg beyond]
      · have inactive : ¬ first + second ≤ length.toNat := by omega
        simp only [soundAfter, Option.bind_some, if_neg active,
          if_neg inactive, Option.bind_none]

theorem soundAfter_eq_zero_iff (length : UInt8) (ticks : Nat) :
    soundAfter (some length) ticks = some 0 ↔ ticks = length.toNat := by
  have small := length.toNat_lt
  simp only [soundAfter, Option.bind_some]
  by_cases active : ticks ≤ length.toNat
  · rw [if_pos active, Option.some.injEq, ← UInt8.toNat_inj,
      UInt8.toNat_ofNat', UInt8.toNat_zero]
    omega
  · rw [if_neg active]
    constructor
    · exact nofun
    · omega

/-! ## Single steps -/

/-- What a step that comes out like this sets the sound timer to, if it sets it. -/
def soundSet? (state : State) : Except Fault Instruction → Option UInt8
  | .ok (.setSound x) => some (state.register x)
  | _ => none

/-- What a step that comes out like this sets the delay timer to, if it sets it. -/
def delaySet? (state : State) : Except Fault Instruction → Option UInt8
  | .ok (.setDelay x) => some (state.register x)
  | _ => none

theorem soundSet?_of_unset
    {instruction : Instruction} (unset : instruction.setsSound = false)
    (state : State) :
    state.soundSet? (.ok instruction) = none := by
  cases instruction with
  | setSound x => cases unset
  | _ => rfl

theorem delaySet?_of_unset
    {instruction : Instruction} (unset : instruction.setsDelay = false)
    (state : State) :
    state.delaySet? (.ok instruction) = none := by
  cases instruction with
  | setDelay x => cases unset
  | _ => rfl

theorem soundTimer_step (state : State) (chance : UInt8) :
    (state.step chance).1.soundTimer =
      (state.soundSet? (state.step chance).2).or state.soundTimer := by
  rcases state.step_cases chance with
    ⟨flow, after, executed, outcome⟩ | ⟨fault, _, outcome⟩
  · rw [outcome]
    by_cases unset : state.instruction.setsSound = false
    · rw [soundSet?_of_unset unset]
      have kept := Instruction.soundTimer_execute executed unset
      exact kept
    · cases isInstruction : state.instruction with
      | setSound x =>
          rw [isInstruction] at executed
          cases executed
          rfl
      | _ =>
          rw [isInstruction] at unset
          exact absurd rfl unset
  · rw [outcome]
    rfl

theorem delayTimer_step (state : State) (chance : UInt8) :
    (state.step chance).1.delayTimer =
      (state.delaySet? (state.step chance).2).getD state.delayTimer := by
  rcases state.step_cases chance with
    ⟨flow, after, executed, outcome⟩ | ⟨fault, _, outcome⟩
  · rw [outcome]
    by_cases unset : state.instruction.setsDelay = false
    · rw [delaySet?_of_unset unset]
      have kept := Instruction.delayTimer_execute executed unset
      exact kept
    · cases isInstruction : state.instruction with
      | setDelay x =>
          rw [isInstruction] at executed
          cases executed
          rfl
      | _ =>
          rw [isInstruction] at unset
          exact absurd rfl unset
  · rw [outcome]
    rfl

end State

namespace Response

/-- Whether a tick found the sound timer run out, if the answer is to a tick. -/
def expired? : Response → Option Bool
  | .ticked expired => some expired
  | _ => none

end Response

namespace Machine

/-- The instructions that a run executes successfully, in their order. -/
def executed (machine : Machine) (stimuli : List Stimulus) :
    List Instruction :=
  (machine.outcomes stimuli).filterMap Except.toOption

/-- Whether each tick of a run found the sound timer run out, in their order. -/
def expirations (machine : Machine) (stimuli : List Stimulus) : List Bool :=
  (machine.run stimuli).2.filterMap Response.expired?

variable {machine : Machine} {stimuli : List Stimulus}

theorem run_append
    (machine : Machine) (earlier later : List Stimulus) :
    machine.run (earlier ++ later) =
      (((machine.run earlier).1.run later).1,
        (machine.run earlier).2 ++
          ((machine.run earlier).1.run later).2) := by
  induction earlier generalizing machine with
  | nil => rfl
  | cons stimulus rest inductionHypothesis =>
      simp only [List.cons_append, run, inductionHypothesis]

theorem executed_cons_step
    (machine : Machine) (rest : List Stimulus) :
    machine.executed (.step :: rest) =
      machine.step.2.toOption.toList ++ machine.step.1.executed rest := by
  simp only [executed, outcomes, run, respond, List.filterMap_cons,
    Response.outcome?]
  cases machine.step.2 <;> rfl

theorem expirations_cons_tick
    (machine : Machine) (rest : List Stimulus) :
    machine.expirations (.tick :: rest) =
      machine.tick.2 :: machine.tick.1.expirations rest := rfl

theorem soundTriggers_eq_count
    (machine : Machine) (stimuli : List Stimulus) :
    machine.soundTriggers stimuli =
      (machine.expirations stimuli).count true := by
  unfold soundTriggers expirations
  rw [List.count_filterMap]
  refine List.countP_congr ?_
  intro response _
  cases response with
  | ticked expired => simp [Response.sounds, Response.expired?]
  | stepped outcome => simp [Response.sounds, Response.expired?]
  | silent => simp [Response.sounds, Response.expired?]

/-! ## Runs that do not set a timer -/

theorem mem_executed_cons
    {stimulus : Stimulus} {rest : List Stimulus} {instruction : Instruction}
    (member :
      instruction ∈ (machine.respond stimulus).1.executed rest) :
    instruction ∈ machine.executed (stimulus :: rest) := by
  cases stimulus with
  | step =>
      rw [executed_cons_step]
      exact List.mem_append_right _ member
  | _ => exact member

theorem soundTimer_step (machine : Machine) :
    machine.step.1.state.soundTimer =
      (machine.state.soundSet? machine.step.2).or
        machine.state.soundTimer := by
  obtain ⟨sameState, sameOutcome⟩ := machine.step_eq
  rw [sameState, sameOutcome]
  exact machine.state.soundTimer_step _

theorem delayTimer_step (machine : Machine) :
    machine.step.1.state.delayTimer =
      (machine.state.delaySet? machine.step.2).getD
        machine.state.delayTimer := by
  obtain ⟨sameState, sameOutcome⟩ := machine.step_eq
  rw [sameState, sameOutcome]
  exact machine.state.delayTimer_step _

theorem soundTimer_setKey
    (machine : Machine) (key : UInt8) (pressed : Bool) :
    (machine.setKey key pressed).state.soundTimer =
      machine.state.soundTimer := by
  rw [setKey, State.setKey_withKeypad, State.withKeypad]

theorem delayTimer_setKey
    (machine : Machine) (key : UInt8) (pressed : Bool) :
    (machine.setKey key pressed).state.delayTimer =
      machine.state.delayTimer := by
  rw [setKey, State.setKey_withKeypad, State.withKeypad]

theorem kind_of_executed
    {kind : Instruction → Bool} {rest : List Stimulus}
    {instruction : Instruction}
    (unset : ∀ instruction ∈ machine.executed (.step :: rest),
      kind instruction = false)
    (outcome : machine.step.2 = .ok instruction) :
    kind instruction = false := by
  apply unset
  rw [executed_cons_step, outcome]
  exact List.mem_append_left _ (List.mem_singleton_self _)

theorem soundSet?_of_executed
    {rest : List Stimulus}
    (unset : ∀ instruction ∈ machine.executed (.step :: rest),
      instruction.setsSound = false) :
    machine.state.soundSet? machine.step.2 = none := by
  cases outcome : machine.step.2 with
  | ok instruction =>
      exact State.soundSet?_of_unset (kind_of_executed unset outcome) _
  | error fault => rfl

theorem delaySet?_of_executed
    {rest : List Stimulus}
    (unset : ∀ instruction ∈ machine.executed (.step :: rest),
      instruction.setsDelay = false) :
    machine.state.delaySet? machine.step.2 = none := by
  cases outcome : machine.step.2 with
  | ok instruction =>
      exact State.delaySet?_of_unset (kind_of_executed unset outcome) _
  | error fault => rfl

/-- As long as it is not set, the sound timer counts down by one with every tick, and a
tick finds it run out exactly if it has counted down to zero by then. -/
theorem soundTimer_run
    (noReset : ∀ program, .reset program ∉ stimuli)
    (unset : ∀ instruction ∈ machine.executed stimuli,
      instruction.setsSound = false) :
    (machine.run stimuli).1.state.soundTimer =
        State.soundAfter machine.state.soundTimer
          (stimuli.count .tick) ∧
      machine.expirations stimuli =
        (List.range (stimuli.count .tick)).map fun earlier =>
          decide
            (State.soundAfter machine.state.soundTimer earlier =
              some 0) := by
  induction stimuli generalizing machine with
  | nil => exact ⟨(State.soundAfter_zero _).symm, rfl⟩
  | cons stimulus rest inductionHypothesis =>
      have noResetLater : ∀ program, .reset program ∉ rest :=
        fun program member =>
          noReset program (List.mem_cons_of_mem stimulus member)
      obtain ⟨timer, flags⟩ :=
        @inductionHypothesis (machine.respond stimulus).1
          noResetLater
          fun instruction member =>
            unset instruction (mem_executed_cons member)
      cases stimulus with
      | reset program => exact absurd List.mem_cons_self (noReset program)
      | step =>
          have same :
              machine.step.1.state.soundTimer =
                machine.state.soundTimer := by
            rw [soundTimer_step, soundSet?_of_executed unset,
              Option.none_or]
          rw [List.count_cons_of_ne (by simp), ← same]
          exact ⟨timer, flags⟩
      | key key pressed =>
          rw [List.count_cons_of_ne (by simp),
            ← machine.soundTimer_setKey key pressed]
          exact ⟨timer, flags⟩
      | tick =>
          have counted (ticks : Nat) :
              State.soundAfter machine.tick.1.state.soundTimer ticks =
                State.soundAfter machine.state.soundTimer (ticks + 1) := by
            rw [Nat.add_comm, ← State.soundAfter_add]
            exact congrArg (State.soundAfter · ticks)
              machine.state.soundTimer_tick
          have first :
              machine.tick.2 =
                decide
                  (State.soundAfter machine.state.soundTimer 0 =
                    some 0) := by
            rw [State.soundAfter_zero, Bool.eq_iff_iff, decide_eq_true_iff]
            exact machine.state.tick_expires_iff
          rw [List.count_cons_self]
          constructor
          · rw [← counted]
            exact timer
          · rw [expirations_cons_tick, List.range_succ_eq_map,
              List.map_cons, List.map_map, first]
            refine congrArg _ (flags.trans ?_)
            exact List.map_congr_left fun earlier _ =>
              congrArg (fun sound => decide (sound = some 0))
                (counted earlier)

/-- As long as it is not set, the delay timer counts down by one with every tick until
it stops at zero. -/
theorem delayTimer_run
    (noReset : ∀ program, .reset program ∉ stimuli)
    (unset : ∀ instruction ∈ machine.executed stimuli,
      instruction.setsDelay = false) :
    (machine.run stimuli).1.state.delayTimer.toNat =
      machine.state.delayTimer.toNat - stimuli.count .tick := by
  induction stimuli generalizing machine with
  | nil => rfl
  | cons stimulus rest inductionHypothesis =>
      have noResetLater : ∀ program, .reset program ∉ rest :=
        fun program member =>
          noReset program (List.mem_cons_of_mem stimulus member)
      have later :=
        @inductionHypothesis (machine.respond stimulus).1
          noResetLater
          fun instruction member =>
            unset instruction (mem_executed_cons member)
      cases stimulus with
      | reset program => exact absurd List.mem_cons_self (noReset program)
      | step =>
          have same :
              machine.step.1.state.delayTimer =
                machine.state.delayTimer := by
            rw [delayTimer_step, delaySet?_of_executed unset,
              Option.getD_none]
          rw [List.count_cons_of_ne (by simp), ← same]
          exact later
      | key key pressed =>
          rw [List.count_cons_of_ne (by simp),
            ← machine.delayTimer_setKey key pressed]
          exact later
      | tick =>
          have counted :
              machine.tick.1.state.delayTimer.toNat =
                machine.state.delayTimer.toNat - 1 :=
            machine.state.delayTimer_tick
          rw [List.count_cons_self, Nat.add_comm, Nat.sub_add_eq,
            ← counted]
          exact later

theorem isSome_soundTimer_step_le (machine : Machine) :
    machine.step.1.state.soundTimer.isSome.toNat ≤
      machine.step.2.toOption.toList.countP Instruction.setsSound +
        machine.state.soundTimer.isSome.toNat := by
  rw [soundTimer_step]
  rcases machine.step.2 with fault | instruction
  · simp [State.soundSet?]
  · by_cases unset : instruction.setsSound = false
    · simp [State.soundSet?_of_unset unset]
    · have set : instruction.setsSound = true := by simpa using unset
      have atMostOne (sound : Option UInt8) :
          sound.isSome.toNat ≤ 1 := Bool.toNat_le _
      simp only [Except.toOption, Option.toList_some,
        List.countP_singleton, if_pos set]
      exact Nat.le_add_right_of_le (atMostOne _)

theorem isSome_soundTimer_tick_le (machine : Machine) :
    machine.tick.2.toNat +
        machine.tick.1.state.soundTimer.isSome.toNat ≤
      machine.state.soundTimer.isSome.toNat := by
  cases sounding : machine.state.soundTimer with
  | none => simp [tick, State.tick, sounding]
  | some sound =>
      by_cases runOut : sound = 0
      · simp [tick, State.tick, sounding, runOut]
      · simp [tick, State.tick, sounding, runOut]

theorem soundTriggers_cons_tick
    (machine : Machine) (rest : List Stimulus) :
    machine.soundTriggers (.tick :: rest) =
      machine.tick.2.toNat + machine.tick.1.soundTriggers rest := by
  rw [soundTriggers_eq_count, soundTriggers_eq_count,
    expirations_cons_tick]
  cases machine.tick.2 <;> simp [Nat.add_comm]

/-- Every trigger of the sound uses up a setting of the sound timer, and so does a
sound that is still to come. -/
theorem soundTriggers_run_le
    (noReset : ∀ program, .reset program ∉ stimuli) :
    machine.soundTriggers stimuli +
        (machine.run stimuli).1.state.soundTimer.isSome.toNat ≤
      (machine.executed stimuli).countP Instruction.setsSound +
        machine.state.soundTimer.isSome.toNat := by
  induction stimuli generalizing machine with
  | nil => exact Nat.le_refl _
  | cons stimulus rest inductionHypothesis =>
      have noResetLater : ∀ program, .reset program ∉ rest :=
        fun program member =>
          noReset program (List.mem_cons_of_mem stimulus member)
      have later :=
        @inductionHypothesis (machine.respond stimulus).1
          noResetLater
      cases stimulus with
      | reset program => exact absurd List.mem_cons_self (noReset program)
      | key key pressed =>
          rw [← machine.soundTimer_setKey key pressed]
          exact later
      | step =>
          have first := machine.isSome_soundTimer_step_le
          have restBound :
              machine.soundTriggers (.step :: rest) +
                  (machine.run
                    (.step :: rest)).1.state.soundTimer.isSome.toNat ≤
                (machine.step.1.executed rest).countP
                    Instruction.setsSound +
                  machine.step.1.state.soundTimer.isSome.toNat := later
          rw [executed_cons_step, List.countP_append]
          omega
      | tick =>
          have first := machine.isSome_soundTimer_tick_le
          have restBound :
              machine.tick.1.soundTriggers rest +
                  (machine.run
                    (.tick :: rest)).1.state.soundTimer.isSome.toNat ≤
                (machine.executed (.tick :: rest)).countP
                    Instruction.setsSound +
                  machine.tick.1.state.soundTimer.isSome.toNat := later
          rw [soundTriggers_cons_tick]
          omega

/-! ## Counting from the last setting -/

/-- The last instruction of a kind that a run executes is this one, at this machine,
and this is the rest of the run behind it. -/
structure LastExecuted
    (machine : Machine) (stimuli : List Stimulus)
    (kind : Instruction → Bool) (instruction : Instruction)
    (before : Machine) (later : List Stimulus) : Prop where
  reached : ∃ earlier,
    stimuli = earlier ++ .step :: later ∧ (machine.run earlier).1 = before
  executed : before.step.2 = .ok instruction
  last : ∀ other ∈ before.step.1.executed later, kind other = false

/-- The timers of a run, and the ticks that find the sound timer run out, are what its
last settings of the timers and the number of ticks behind them say. -/
structure CountsDown (machine : Machine) (stimuli : List Stimulus) :
    Prop where
  sound : ∀ x before later,
    machine.LastExecuted stimuli Instruction.setsSound (.setSound x)
        before later →
      let length := (before.state.register x).toNat
      let ticks := later.count .tick
      ((machine.run stimuli).1.state.soundTimer =
          if ticks ≤ length then
            some (UInt8.ofNat (length - ticks))
          else
            none) ∧
        before.step.1.expirations later =
          (List.range ticks).map fun earlier => decide (earlier = length)
  silence : machine.state.soundTimer = none →
    (∀ instruction ∈ machine.executed stimuli,
      instruction.setsSound = false) →
      (machine.run stimuli).1.state.soundTimer = none ∧
        ∀ expired ∈ machine.expirations stimuli, expired = false
  triggers : machine.state.soundTimer = none →
    machine.soundTriggers stimuli ≤
      (machine.executed stimuli).countP Instruction.setsSound
  delay : ∀ x before later,
    machine.LastExecuted stimuli Instruction.setsDelay (.setDelay x)
        before later →
      (machine.run stimuli).1.state.delayTimer.toNat =
        (before.state.register x).toNat - later.count .tick
  untouchedDelay :
    (∀ instruction ∈ machine.executed stimuli,
      instruction.setsDelay = false) →
      (machine.run stimuli).1.state.delayTimer.toNat =
        machine.state.delayTimer.toNat - stimuli.count .tick

theorem LastExecuted.run_eq
    {kind : Instruction → Bool} {instruction : Instruction}
    {before : Machine} {later : List Stimulus}
    (last : machine.LastExecuted stimuli kind instruction before later) :
    (machine.run stimuli).1 = (before.step.1.run later).1 := by
  obtain ⟨earlier, shape, reached⟩ := last.reached
  rw [shape, run_append, reached]
  rfl

theorem LastExecuted.noReset
    {kind : Instruction → Bool} {instruction : Instruction}
    {before : Machine} {later : List Stimulus}
    (last : machine.LastExecuted stimuli kind instruction before later)
    (noReset : ∀ program, .reset program ∉ stimuli) :
    ∀ program, .reset program ∉ later := by
  obtain ⟨earlier, shape, _⟩ := last.reached
  intro program member
  refine noReset program ?_
  rw [shape]
  exact List.mem_append_right _ (List.mem_cons_of_mem _ member)

theorem countsDown
    (machine : Machine)
    (noReset : ∀ program, .reset program ∉ stimuli) :
    machine.CountsDown stimuli where
  sound x before later last := by
    obtain ⟨timer, flags⟩ := soundTimer_run (last.noReset noReset) last.last
    have set :
        before.step.1.state.soundTimer = some (before.state.register x) := by
      rw [soundTimer_step, last.executed]
      rfl
    rw [set] at timer flags
    refine ⟨?_, ?_⟩
    · rw [last.run_eq, timer]
      rfl
    · rw [flags]
      refine List.map_congr_left fun earlier _ => ?_
      rw [decide_eq_decide]
      exact State.soundAfter_eq_zero_iff _ _
  silence silent unset := by
    obtain ⟨timer, flags⟩ := soundTimer_run noReset unset
    rw [silent] at timer flags
    refine ⟨timer, ?_⟩
    rw [flags]
    intro expired member
    obtain ⟨earlier, _, rfl⟩ := List.mem_map.mp member
    rfl
  triggers silent := by
    have bound : machine.soundTriggers stimuli + _ ≤ _ :=
      soundTriggers_run_le noReset
    rw [silent] at bound
    exact Nat.le_of_add_right_le bound
  delay x before later last := by
    have set :
        before.step.1.state.delayTimer = before.state.register x := by
      rw [delayTimer_step, last.executed]
      rfl
    rw [last.run_eq, delayTimer_run (last.noReset noReset) last.last, set]
  untouchedDelay unset := delayTimer_run noReset unset

end Machine

end ChipEight
