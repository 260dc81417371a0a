import ChipEight.Proofs.Instruction.Frame
import ChipEight.Proofs.Instruction.Operands
import ChipEight.Proofs.State.History

/-!
# Moving the index on

Adding a register to the index tells in the flag register whether the index left the
addressable memory.  The sum is taken modulo 65536 before it is looked at, so the flag
is right exactly for sums that fit in sixteen bits.

Loading the index leaves it within memory, and an addition moves it by 255 at most.  So
the flag is right for the first 240 additions after the index was loaded, and the one
after these can be the first to be wrong.
-/

namespace ChipEight

namespace Instruction

variable {instruction : Instruction} {chance : UInt8} {flow : Flow}
  {state after : State}

/-- The index that an instruction leaves. -/
def indexAfter (instruction : Instruction) (state : State) : UInt16 :=
  match instruction with
  | .loadIndex address => address
  | .loadFont x => (state.register x).toUInt16 * Font.glyphSize
  | .addIndex x => state.index + (state.register x).toUInt16
  | _ => state.index

theorem index_execute
    (executed : instruction.execute chance state = .ok (flow, after)) :
    after.index = instruction.indexAfter state := by
  cases instruction with
  | unknown => cases executed
  | returnFromCall =>
      obtain ⟨_, _, rfl⟩ := execute_returnFromCall executed
      rfl
  | call address =>
      obtain ⟨_, _, rfl⟩ := execute_call executed
      rfl
  | waitKey x =>
      rcases execute_waitKey executed with
        ⟨_, _, rfl⟩ | ⟨key, _, _, rfl⟩ <;> rfl
  | loadRegisters x =>
      cases executed
      simp only [loadRegistersOn, indexAfter]
  | _ =>
      cases executed
      rfl

/-- The number of additions since the index was last loaded, an instruction
later. -/
def additionsAfter (additions : Nat) : Instruction → Nat
  | .addIndex _ => additions + 1
  | .loadIndex _ | .loadFont _ => 0
  | _ => additions

theorem toNat_indexAfter_le
    {additions : Nat} (fits : instruction.OperandsFit)
    (bounded : state.index.toNat ≤ 4095 + 255 * additions) :
    (instruction.indexAfter state).toNat ≤
      4095 + 255 * instruction.additionsAfter additions := by
  cases instruction with
  | loadIndex address =>
      have narrow : address.toNat < 4096 := fits
      simp only [indexAfter, additionsAfter]
      omega
  | loadFont x =>
      have small := (state.register x).toNat_lt
      have size : Font.glyphSize.toNat = 5 := rfl
      have noWrap : (state.register x).toNat * 5 < 2 ^ 16 := by omega
      simp only [indexAfter, additionsAfter, UInt16.toNat_mul,
        UInt8.toNat_toUInt16, size, Nat.mod_eq_of_lt noWrap]
      omega
  | addIndex x =>
      have small := (state.register x).toNat_lt
      simp only [indexAfter, additionsAfter, UInt16.toNat_add,
        UInt8.toNat_toUInt16]
      omega
  | _ => exact bounded

end Instruction

namespace State

/-! ## The flag of an addition -/

/-- The sum of the index and a register, whether it fits in sixteen bits or not. -/
def indexSum (state : State) (x : UInt8) : Nat :=
  state.index.toNat + (state.register x).toNat

theorem index_addIndexOn (state : State) (x : UInt8) :
    (Instruction.addIndexOn x state).index.toNat =
      state.indexSum x % 65536 := by
  simp only [Instruction.addIndexOn, indexSum, UInt16.toNat_add,
    UInt8.toNat_toUInt16]

theorem flag_addIndexOn (state : State) (x : UInt8) :
    (Instruction.addIndexOn x state).register flagRegister =
      if 0x0FFF < state.indexSum x ∧ state.indexSum x < 65536 then
        1
      else
        0 := by
  have isFlag :
      (Instruction.addIndexOn x state).register flagRegister =
        (decide (0x0FFF < (Instruction.addIndexOn x state).index)).toUInt8 := by
    exact (register_setRegister _ _ _ _).trans (if_pos rfl)
  have small := (state.register x).toNat_lt
  have left :
      0x0FFF < (Instruction.addIndexOn x state).index ↔
        0x0FFF < state.indexSum x ∧ state.indexSum x < 65536 := by
    have indexSmall := state.index.toNat_lt
    rw [UInt16.lt_iff_toNat_lt, index_addIndexOn]
    change 0x0FFF < _ ↔ _
    simp only [indexSum]
    omega
  rw [isFlag, decide_eq_decide.mpr left]
  split
  case isTrue holds => rw [decide_eq_true holds]; rfl
  case isFalse fails => rw [decide_eq_false fails]; rfl

/-- Whether an addition moves the index to the sum, modulo 65536, and its flag tells
whether the sum itself lies beyond the addressable memory. -/
def ReportsOverflow (state : State) (x : UInt8) : Prop :=
  ∀ chance, ∃ after,
    (Instruction.addIndex x).execute chance state = .ok (.next, after) ∧
      after.index.toNat = state.indexSum x % 65536 ∧
        after.register flagRegister =
          if 0x0FFF < state.indexSum x then 1 else 0

theorem reportsOverflow_of_lt
    {state : State} {x : UInt8} (fits : state.indexSum x < 65536) :
    state.ReportsOverflow x := by
  intro chance
  refine ⟨Instruction.addIndexOn x state, rfl,
    state.index_addIndexOn x, ?_⟩
  rw [flag_addIndexOn]
  simp only [fits, and_true]

theorem not_reportsOverflow_of_le
    {state : State} {x : UInt8} (tooLarge : 65536 ≤ state.indexSum x) :
    ¬ state.ReportsOverflow x := by
  intro reports
  obtain ⟨after, executed, _, flag⟩ := reports 0
  cases executed
  have beyond : 0x0FFF < state.indexSum x := by omega
  have wrapped :
      ¬ (0x0FFF < state.indexSum x ∧ state.indexSum x < 65536) := by
    omega
  rw [flag_addIndexOn, if_neg wrapped, if_pos beyond] at flag
  cases flag

/-! ## Additions in a row -/

/-- The number of additions since the index was last loaded, an input later. -/
def additionsAfter (state : State) (additions : Nat) : Input → Nat
  | .reset _ => 0
  | .step chance =>
      match (state.step chance).2 with
      | .ok executed => executed.additionsAfter additions
      | .error _ => additions
  | .tick | .key _ _ => additions

/-- The number of additions since the index was last loaded, or the state reset, at the
end of a history. -/
def additions (state : State) (before : Nat) : List Input → Nat
  | [] => before
  | input :: rest =>
      (state.apply input).additions (state.additionsAfter before input) rest

theorem toNat_index_apply_le
    {state : State} {before : Nat}
    (bounded : state.index.toNat ≤ 4095 + 255 * before) (input : Input) :
    (state.apply input).index.toNat ≤
      4095 + 255 * state.additionsAfter before input := by
  cases input with
  | reset program => exact Nat.zero_le _
  | step chance =>
      rcases state.step_cases chance with
        ⟨flow, after, executed, stepped⟩ | ⟨fault, _, stepped⟩
      · have fits : state.instruction.OperandsFit :=
          Instruction.operandsFit_decode _
        have moved := Instruction.index_execute executed
        have bound :
            (state.instruction.indexAfter
              { state with redraw := false }).toNat ≤ _ :=
          Instruction.toNat_indexAfter_le fits bounded
        rw [← moved] at bound
        simpa only [apply, additionsAfter, stepped] using bound
      · simpa only [apply, additionsAfter, stepped] using bounded
  | tick =>
      obtain ⟨delay, sound, ticked⟩ := state.tick_frame
      simpa only [apply, additionsAfter, ticked] using bounded
  | key key pressed =>
      obtain ⟨keypad, changed⟩ := state.setKey_frame key pressed
      simpa only [apply, additionsAfter, changed] using bounded

theorem toNat_index_run_le
    {state : State} {before : Nat}
    (bounded : state.index.toNat ≤ 4095 + 255 * before)
    (history : List Input) :
    (state.run history).index.toNat ≤
      4095 + 255 * state.additions before history := by
  induction history generalizing state before with
  | nil => exact bounded
  | cons input rest inductionHypothesis =>
      exact inductionHypothesis (toNat_index_apply_le bounded input)

/-! ## A program that only adds -/

/-- Loads the end of memory into the index and 255 into a register, and adds this
register again and again. -/
def climbing : List UInt8 :=
  [0x61, 0xFF, 0xAF, 0xFF, 0xF1, 0x1E, 0x12, 0x04]

/-- A state of this program before an addition. -/
structure Climbed (state : State) (additions : Nat) : Prop where
  memory : state.memory = (ofProgram climbing).memory
  counter : state.counter = 0x204
  summand : state.register 1 = 0xFF
  index : state.index = 0x0FFF + 255 * UInt16.ofNat additions

/-- A step of this program, which never writes to memory, by the instruction found where
the counter is. -/
theorem step_climbing
    (state : State) (executed : Instruction) {counter : UInt16}
    {flow : Flow} {after : State}
    (unwritten : state.memory = (ofProgram climbing).memory)
    (place : state.counter = counter)
    (found :
      instruction { ofProgram climbing with counter := counter } = executed)
    (ran :
      executed.execute 0 { state with redraw := false } =
        .ok (flow, after)) :
    state.step 0 =
      ({ after with counter := flow.after counter }, .ok executed) := by
  have isInstruction : state.instruction = executed := by
    rw [← found]
    simp only [instruction, fetch, unwritten, place]
  have stepped : state.step 0 = _ :=
    step_of_ok (by rw [isInstruction]; exact ran)
  rw [stepped, isInstruction, place]

variable {state : State} {additions : Nat}

theorem climbed_loadIndex
    (unwritten : state.memory = (ofProgram climbing).memory)
    (place : state.counter = 0x202) (summand : state.register 1 = 0xFF) :
    (state.step 0).2 = .ok (.loadIndex 0x0FFF) ∧
      Climbed (state.step 0).1 0 := by
  have loadIndex :=
    step_climbing state (.loadIndex 0x0FFF) unwritten place
      (by decide +kernel) rfl
  rw [loadIndex]
  exact ⟨rfl, unwritten, rfl, summand, rfl⟩

theorem climbed_zero :
    let loaded := ((ofProgram climbing).step 0).1
    ((ofProgram climbing).step 0).2 = .ok (.load 1 0xFF) ∧
      (loaded.step 0).2 = .ok (.loadIndex 0x0FFF) ∧
        Climbed (loaded.step 0).1 0 := by
  intro loaded
  have load :=
    step_climbing (ofProgram climbing) (.load 1 0xFF) rfl rfl
      (by decide +kernel) rfl
  refine ⟨by rw [load], ?_⟩
  simp only [loaded]
  apply climbed_loadIndex
  · rw [load]
    rfl
  · rw [load]
    rfl
  · rw [load]
    exact (register_setRegister _ _ _ _).trans (if_pos rfl)

theorem Climbed.step (climbed : Climbed state additions) :
    state.step 0 =
      ({ Instruction.addIndexOn 1 { state with redraw := false } with
          counter := 0x206 },
        .ok (.addIndex 1)) :=
  step_climbing state (.addIndex 1) climbed.memory climbed.counter
    (by decide +kernel) rfl

/-- One round of the loop. -/
theorem Climbed.next (climbed : Climbed state additions) :
    let added := (state.step 0).1
    (state.step 0).2 = .ok (.addIndex 1) ∧
      (added.step 0).2 = .ok (.jump 0x204) ∧
        Climbed (added.step 0).1 (additions + 1) := by
  intro added
  have isAdded :
      added =
        { Instruction.addIndexOn 1 { state with redraw := false } with
          counter := 0x206 } := congrArg Prod.fst climbed.step
  have sameMemory : added.memory = state.memory := by
    rw [isAdded]
    rfl
  have place : added.counter = 0x206 := by rw [isAdded]
  have jump :=
    step_climbing added (.jump 0x204)
      (sameMemory.trans climbed.memory) place (by decide +kernel) rfl
  have sameSummand : added.register 1 = state.register 1 := by
    rw [isAdded]
    exact (register_setRegister _ _ _ _).trans (if_neg (by decide))
  have moved : added.index = state.index + (state.register 1).toUInt16 := by
    rw [isAdded]
    rfl
  rw [climbed.step, jump]
  refine ⟨rfl, rfl, sameMemory.trans climbed.memory, rfl,
    sameSummand.trans climbed.summand, ?_⟩
  have summand : (0xFF : UInt8).toUInt16 = 255 := rfl
  change added.index = _
  rw [moved, climbed.summand, climbed.index, summand, UInt16.ofNat_add,
    UInt16.mul_add, UInt16.add_assoc]
  rfl

theorem Climbed.run
    (climbed : Climbed state additions) (rounds : Nat) :
    Climbed (state.run (List.replicate (2 * rounds) (.step 0)))
        (additions + rounds) ∧
      ∀ before,
        state.additions before (List.replicate (2 * rounds) (.step 0)) =
          before + rounds := by
  induction rounds generalizing state additions with
  | zero => exact ⟨climbed, fun _ => rfl⟩
  | succ rounds inductionHypothesis =>
      obtain ⟨addition, jump, climbedNext⟩ := climbed.next
      obtain ⟨climbedLast, counted⟩ := inductionHypothesis climbedNext
      have longer :
          List.replicate (2 * (rounds + 1)) (Input.step 0) =
            .step 0 :: .step 0 ::
              List.replicate (2 * rounds) (.step 0) := rfl
      rw [longer]
      refine ⟨?_, fun before => ?_⟩
      · have total : additions + 1 + rounds = additions + (rounds + 1) := by
          omega
        rw [total] at climbedLast
        simp only [State.run, apply]
        exact climbedLast
      · have first :
            state.additionsAfter before (.step 0) = before + 1 := by
          simp only [additionsAfter, addition,
            Instruction.additionsAfter]
        have second :
            additionsAfter (state.step 0).1 (before + 1) (.step 0) =
              before + 1 := by
          simp only [additionsAfter, jump, Instruction.additionsAfter]
        simp only [State.additions, apply, first, second, counted]
        omega

/-- The loop after the two loads, and the additions until then. -/
theorem climbed_run (rounds : Nat) :
    let history :=
      .reset climbing :: List.replicate (2 * rounds + 2) (.step 0)
    Climbed (fresh.run history) rounds ∧
      fresh.additions 0 history = rounds := by
  intro history
  obtain ⟨load, loadIndex, atLoop⟩ := climbed_zero
  obtain ⟨climbed, counted⟩ := atLoop.run rounds
  have none : additionsAfter (ofProgram climbing) 0 (.step 0) = 0 := by
    simp only [additionsAfter, load, Instruction.additionsAfter]
  have noneYet :
      additionsAfter ((ofProgram climbing).step 0).1 0 (.step 0) = 0 := by
    simp only [additionsAfter, loadIndex, Instruction.additionsAfter]
  rw [Nat.zero_add] at climbed
  simp only [history, List.replicate_succ, State.run, State.additions, apply]
  refine ⟨climbed, ?_⟩
  rw [show fresh.additionsAfter 0 (.reset climbing) = 0 from rfl, none,
    noneYet, counted, Nat.zero_add]

theorem Climbed.unreported (climbed : Climbed state 240) :
    (state.step 0).2 = .ok (.addIndex 1) ∧
      state.indexSum 1 = 65550 ∧
      (state.step 0).1.index = 14 ∧
      (state.step 0).1.register flagRegister = 0 ∧
      ¬ state.ReportsOverflow 1 := by
  have sum : state.indexSum 1 = 65550 := by
    rw [indexSum, climbed.index, climbed.summand]
    decide
  have tooLarge : 65536 ≤ state.indexSum 1 := by omega
  have index := index_addIndexOn { state with redraw := false } 1
  have flag := flag_addIndexOn { state with redraw := false } 1
  have sameSum :
      indexSum { state with redraw := false } 1 = state.indexSum 1 := rfl
  rw [sameSum, sum] at index flag
  rw [climbed.step]
  exact ⟨rfl, sum, UInt16.toNat_inj.mp index, flag,
    not_reportsOverflow_of_le tooLarge⟩

/-! ## When the flag is right -/

/-- The flag of an addition is right exactly for the sums that fit in sixteen bits, and
for all others it is zero.  So it is right as long as there were fewer than 240
additions since the index was loaded. -/
theorem addIndex_flag (x : UInt8) :
    (∀ (state : State) (chance : UInt8), ∃ after,
      (Instruction.addIndex x).execute chance state =
          .ok (.next, after) ∧
        after.index.toNat = state.indexSum x % 65536 ∧
          after.register flagRegister =
            if 0x0FFF < state.indexSum x ∧ state.indexSum x < 65536 then
              1
            else
              0) ∧
      (∀ state : State,
        state.ReportsOverflow x ↔ state.indexSum x < 65536) ∧
      ∀ history, fresh.additions 0 history < 240 →
        (fresh.run history).ReportsOverflow x := by
  refine ⟨fun state chance => ?flag, fun state => ?exactly,
    fun history few => ?early⟩
  case flag =>
    exact ⟨Instruction.addIndexOn x state, rfl, state.index_addIndexOn x,
      state.flag_addIndexOn x⟩
  case exactly =>
    refine ⟨fun reports => Nat.lt_of_not_le fun tooLarge => ?_,
      reportsOverflow_of_lt⟩
    exact not_reportsOverflow_of_le tooLarge reports
  case early =>
    have atFirst : fresh.index.toNat ≤ 4095 + 255 * 0 := Nat.zero_le _
    have bound := toNat_index_run_le atFirst history
    have small := ((fresh.run history).register x).toNat_lt
    apply reportsOverflow_of_lt
    rw [indexSum]
    omega

theorem addIndex_flag_lastRight :
    let history := .reset climbing :: List.replicate 480 (.step 0)
    fresh.additions 0 history < 240 ∧
      (fresh.run history).ReportsOverflow 1 := by
  intro history
  have counted : fresh.additions 0 history = 239 := (climbed_run 239).2
  have few : fresh.additions 0 history < 240 := by omega
  exact ⟨few, (addIndex_flag 1).2.2 history few⟩

/-- After 240 additions, the next one has its flag say that the index did not leave the
addressable memory, though the sum did. -/
theorem addIndex_flag_firstWrong :
    let history := .reset climbing :: List.replicate 482 (.step 0)
    let state := fresh.run history
    fresh.additions 0 history = 240 ∧
      (state.step 0).2 = .ok (.addIndex 1) ∧
      state.indexSum 1 = 65550 ∧
      (state.step 0).1.index = 14 ∧
      (state.step 0).1.register flagRegister = 0 ∧
      ¬ state.ReportsOverflow 1 := by
  intro history state
  obtain ⟨climbed, counted⟩ :
      Climbed state 240 ∧ fresh.additions 0 history = 240 :=
    climbed_run 240
  exact ⟨counted, climbed.unreported⟩

end State

end ChipEight
