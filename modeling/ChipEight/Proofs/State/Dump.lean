import ChipEight.Instruction.Execution
import ChipEight.Proofs.Memory.Stored

/-!
# Registers in memory

Registers are stored to memory and loaded from it in a run that starts at the index, one
cell for each of them; a single register is also spelled out in decimal digits.  The cells
are those of a ring, so a run may cross the end of memory, or the end of the addresses, and
still takes a cell of its own for each of its bytes.

`Dumped`, `Loaded` and `Spelled` say exactly what becomes of memory and registers.  That a
load undoes a store, and a store changes nothing behind a load, follows from these alone.
-/

namespace ChipEight

namespace State

/-- Whether a state is another one with the registers up to and including one stored from
the index on. -/
structure Dumped (before after : State) (x : UInt8) : Prop where
  stored : ∀ slot : Fin registerCount, slot.val ≤ x.toNat →
    after.memory.cells.get (Memory.cellBehind before.index slot.val) =
      before.registers.get slot
  others : ∀ place,
    (∀ slot : Fin registerCount, slot.val ≤ x.toNat →
      Memory.cellBehind before.index slot.val ≠ place) →
    after.memory.cells.get place = before.memory.cells.get place
  rest : after = { before with memory := after.memory }

/-- Whether a state is another one with the registers up to and including one loaded from
the index on. -/
structure Loaded (before after : State) (x : UInt8) : Prop where
  loaded : ∀ slot : Fin registerCount, slot.val ≤ x.toNat →
    after.registers.get slot =
      before.memory.cells.get (Memory.cellBehind before.index slot.val)
  others : ∀ slot : Fin registerCount, x.toNat < slot.val →
    after.registers.get slot = before.registers.get slot
  rest : after = { before with registers := after.registers }

/-- Whether a state is another one with the three decimal digits of a register stored from
the index on. -/
structure Spelled (before after : State) (x : UInt8) : Prop where
  digits : ∃ hundreds tens ones : UInt8,
    hundreds ≤ 9 ∧ tens ≤ 9 ∧ ones ≤ 9 ∧
      100 * hundreds.toNat + 10 * tens.toNat + ones.toNat =
        (before.register x).toNat ∧
      before.memory.Overwritten after.memory before.index
        [hundreds, tens, ones]
  rest : after = { before with memory := after.memory }

theorem dumped_storeRegistersOn (x : UInt8) (state : State) :
    state.Dumped (Instruction.storeRegistersOn x state) x := by
  have size : state.registers.toList.length = registerCount := by simp
  have count :
      (state.registers.toList.take (x.toNat + 1)).length =
        min (x.toNat + 1) registerCount := by
    rw [List.length_take, size]
  have overwritten :
      state.memory.Overwritten
        (Instruction.storeRegistersOn x state).memory state.index
        (state.registers.toList.take (x.toNat + 1)) := by
    apply Memory.overwritten_store
    rw [count]
    exact Nat.le_trans (Nat.min_le_right _ _) (by decide)
  refine ⟨?stored, ?others, rfl⟩
  case stored =>
    intro slot within
    have inRange :
        slot.val < (state.registers.toList.take (x.toNat + 1)).length := by
      have := slot.isLt
      omega
    rw [overwritten.inside slot.val inRange, List.getElem_take]
    rfl
  case others =>
    intro place apart
    apply overwritten.outside
    intro offset inRange
    have isSlot : offset < registerCount := by omega
    have within : offset ≤ x.toNat := by omega
    exact apart ⟨offset, isSlot⟩ within

theorem loaded_loadRegistersOn (x : UInt8) (state : State) :
    state.Loaded (Instruction.loadRegistersOn x state) x := by
  refine ⟨?loaded, ?others, ?rest⟩
  case loaded =>
    intro slot within
    rw [← Memory.cell_add]
    exact (Vector.getElem_ofFn _).trans (if_pos within)
  case others =>
    intro slot beyond
    exact (Vector.getElem_ofFn _).trans (if_neg (Nat.not_le.mpr beyond))
  case rest => simp only [Instruction.loadRegistersOn]

theorem spelled_storeDecimal (x : UInt8) (state : State) :
    state.Spelled
      { state with
        memory :=
          state.memory.store state.index
            (Instruction.decimalDigits (state.register x)) }
      x where
  digits := by
    have small := (state.register x).toNat_lt
    have fits :
        (Instruction.decimalDigits (state.register x)).length ≤
          memorySize := Nat.le_of_ble_eq_true rfl
    refine ⟨state.register x / 100, state.register x / 10 % 10,
      state.register x % 10, ?_, ?_, ?_, ?_,
      state.memory.overwritten_store state.index fits⟩
    all_goals
      simp only [UInt8.le_iff_toNat_le, UInt8.toNat_div, UInt8.toNat_mod,
        UInt8.reduceToNat]
      omega
  rest := rfl

variable {state stored between loaded after : State} {x : UInt8}

/-- Registers that were stored are loaded again from the same memory and index. -/
theorem Dumped.restored
    (dumped : state.Dumped stored x)
    (sameMemory : between.memory = stored.memory)
    (sameIndex : between.index = state.index)
    (isLoaded : between.Loaded loaded x)
    {slot : Fin registerCount} (within : slot.val ≤ x.toNat) :
    loaded.registers.get slot = state.registers.get slot := by
  rw [isLoaded.loaded slot within, sameMemory, sameIndex]
  exact dumped.stored slot within

/-- Registers that were loaded are already stored where they come from. -/
theorem Loaded.undisturbed
    (isLoaded : state.Loaded loaded x) (dumped : loaded.Dumped after x) :
    after.memory = state.memory := by
  have sameMemory : loaded.memory = state.memory := by
    rw [isLoaded.rest]
  have sameIndex : loaded.index = state.index := by
    rw [isLoaded.rest]
  apply Memory.ext_cells
  intro place
  by_cases covered : ∃ slot : Fin registerCount,
      slot.val ≤ x.toNat ∧
        Memory.cellBehind state.index slot.val = place
  · obtain ⟨slot, within, rfl⟩ := covered
    have stored := dumped.stored slot within
    rw [sameIndex, isLoaded.loaded slot within] at stored
    exact stored
  · have apart : ∀ slot : Fin registerCount, slot.val ≤ x.toNat →
        Memory.cellBehind loaded.index slot.val ≠ place := by
      intro slot within isPlace
      rw [sameIndex] at isPlace
      exact covered ⟨slot, within, isPlace⟩
    have kept := dumped.others place apart
    rw [sameMemory] at kept
    exact kept

/-- Storing registers changes exactly one cell for each of them, and loading them changes
exactly these registers.  Whatever becomes of the state in between, as long as it keeps the
memory and the index, a load behind a store brings the registers back; and a store behind
a load leaves memory as it was.  A register is spelled out on three cells, a decimal digit
on each.  All three leave the index alone and go on to the following instruction. -/
theorem registers_through_memory (state : State) (x : UInt8) :
    (∀ chance, ∃ stored,
      (Instruction.storeRegisters x).execute chance state =
          .ok (.next, stored) ∧
        state.Dumped stored x ∧
        ∀ between : State, between.memory = stored.memory →
          between.index = state.index →
          ∃ loaded,
            (Instruction.loadRegisters x).execute chance between =
                .ok (.next, loaded) ∧
              ∀ slot : Fin registerCount, slot.val ≤ x.toNat →
                loaded.registers.get slot = state.registers.get slot) ∧
      (∀ chance, ∃ loaded,
        (Instruction.loadRegisters x).execute chance state =
            .ok (.next, loaded) ∧
          state.Loaded loaded x ∧
          ∃ stored,
            (Instruction.storeRegisters x).execute chance loaded =
                .ok (.next, stored) ∧
              stored.memory = state.memory) ∧
      ∀ chance, ∃ spelled,
        (Instruction.storeDecimal x).execute chance state =
            .ok (.next, spelled) ∧
          state.Spelled spelled x := by
  refine ⟨fun chance => ?store, fun chance => ?load, fun chance => ?spell⟩
  case store =>
    have dumped := state.dumped_storeRegistersOn x
    refine ⟨_, rfl, dumped, fun between sameMemory sameIndex => ?_⟩
    have isLoaded := between.loaded_loadRegistersOn x
    exact ⟨_, rfl, fun slot within =>
      dumped.restored sameMemory sameIndex isLoaded within⟩
  case load =>
    have isLoaded := state.loaded_loadRegistersOn x
    have dumped := State.dumped_storeRegistersOn x
      (Instruction.loadRegistersOn x state)
    exact ⟨_, rfl, isLoaded, _, rfl, isLoaded.undisturbed dumped⟩
  case spell => exact ⟨_, rfl, state.spelled_storeDecimal x⟩

/-- From six addresses before the last one on, sixteen registers cross the end of the
addresses into the font.  They are brought back after all of them were cleared. -/
theorem registers_through_memory_acrossEnd :
    let state : State :=
      { fresh with
        index := 0xFFFA
        registers := Vector.ofFn fun slot => UInt8.ofNat (slot.val * 17) }
    ∃ stored,
      (Instruction.storeRegisters 0xF).execute 0 state =
          .ok (.next, stored) ∧
        stored.memory.cells.get 4091 = 0x11 ∧
        stored.memory.cells.get 9 = 0xFF ∧
        stored.memory.cells.get 10 = state.memory.cells.get 10 ∧
        ∃ loaded,
          (Instruction.loadRegisters 0xF).execute 0
              { stored with registers := fresh.registers } =
              .ok (.next, loaded) ∧
            loaded.registers.get 15 = 0xFF := by
  intro state
  obtain ⟨stores, _, _⟩ := registers_through_memory state 0xF
  obtain ⟨stored, executed, dumped, restores⟩ := stores 0
  have sameIndex : stored.index = state.index := by rw [dumped.rest]
  obtain ⟨loaded, reloaded, same⟩ :=
    restores { stored with registers := fresh.registers } rfl sameIndex
  have atSecond : Memory.cellBehind state.index (1 : Nat) = 4091 := by
    decide
  have atLast : Memory.cellBehind state.index (15 : Nat) = 9 := by decide
  have apart : ∀ slot : Fin registerCount, slot.val ≤ (0xF : UInt8).toNat →
      Memory.cellBehind state.index slot.val ≠ 10 := by decide
  have second := dumped.stored 1 (by decide)
  have last := dumped.stored 15 (by decide)
  refine ⟨stored, executed, ?_, ?_, dumped.others 10 apart, loaded,
    reloaded, ?_⟩
  · rw [← atSecond]
    exact second.trans (by decide)
  · rw [← atLast]
    exact last.trans (by decide)
  · exact (same 15 (by decide)).trans (by decide)

end State

end ChipEight
