import ChipEight.Proofs.Instruction.Operands
import ChipEight.Proofs.Screen.Binary
import ChipEight.Proofs.State.CallStack
import ChipEight.Proofs.State.Guarded

/-!
# No access goes astray

The checks of `Guarded` never fail.  Memory, screen and keypad are reached
through wrapped numbers, so nothing is needed there.  Registers, addresses and
sprite heights are as narrow as decoding makes them, and the depth of the return
stack stays within its sixteen slots.
-/

namespace ChipEight.Guarded

/-! ## Elements -/

theorem replace_eq
    {α : Type} {size : Nat} (elements : Vector α size)
    {index : Nat} (inRange : index < size) (element : α) :
    replace elements index element =
      some (elements.set index element) :=
  dif_pos inRange

theorem read_eq (memory : Memory) (address : UInt16) :
    read memory address = some (memory.read address) := by
  have inRange : address.toNat % memorySize < memorySize :=
    Nat.mod_lt _ (by decide)
  unfold read
  rw [Vector.getElem?_eq_getElem inRange]
  rfl

theorem write_eq (memory : Memory) (address : UInt16) (byte : UInt8) :
    write memory address byte = some (memory.write address byte) := by
  have inRange : address.toNat % memorySize < memorySize :=
    Nat.mod_lt _ (by decide)
  unfold write
  rw [replace_eq memory.cells inRange]
  rfl

theorem store_eq
    (memory : Memory) (address : UInt16) (bytes : List UInt8) :
    store memory address bytes = some (memory.store address bytes) := by
  induction bytes generalizing memory address with
  | nil => rfl
  | cons byte rest inductionHypothesis =>
      simp only [store, write_eq, Option.bind_eq_bind, Option.bind_some,
        inductionHypothesis, Memory.store]

theorem run_eq (memory : Memory) (address : UInt16) (count : Nat) :
    run memory address count = some (memory.run address count) := by
  induction count generalizing address with
  | zero => rfl
  | succ count inductionHypothesis =>
      simp only [run, read_eq, Option.bind_eq_bind, Option.bind_some,
        inductionHypothesis, Option.pure_def, Memory.run]

theorem fetch_eq (state : State) : fetch state = some state.fetch := by
  simp only [fetch, read_eq, Option.bind_eq_bind, Option.bind_some,
    Option.pure_def, State.fetch]

/-! ## Registers, keys and the screen -/

variable {state : State}

theorem register_eq
    {x : UInt8} (xFits : x.toNat < 16) :
    register state x = some (state.register x) := by
  unfold register State.register
  rw [Vector.getElem?_eq_getElem xFits]
  simp only [Fin.getElem_fin, State.registerSlot,
    Nat.mod_eq_of_lt xFits]

theorem setRegister_eq
    {x : UInt8} (xFits : x.toNat < 16) (value : UInt8) :
    setRegister state x value = some (state.setRegister x value) := by
  unfold setRegister State.setRegister
  rw [replace_eq state.registers xFits]
  simp only [Option.bind_eq_bind, Option.bind_some, Option.pure_def,
    State.registerSlot, Nat.mod_eq_of_lt xFits]

theorem setFlag_eq (condition : Bool) :
    setFlag state condition = some (state.setFlag condition) :=
  setRegister_eq (by decide) _

theorem keyDown_eq (key : UInt8) :
    keyDown state key = some (state.keyDown key) := by
  have wrapped : (key &&& 0xF).toNat = key.toNat % 16 := by
    rw [UInt8.toNat_and]
    exact Nat.and_two_pow_sub_one_eq_mod key.toNat 4
  have inRange : (key &&& 0xF).toNat < keyCount := by
    rw [wrapped]
    exact Nat.mod_lt _ (by decide)
  unfold keyDown State.keyDown
  rw [Vector.getElem?_eq_getElem inRange]
  simp only [wrapped, Fin.getElem_fin, State.keySlot]

theorem plot_eq (canvas : Canvas) (x y : Nat) (bit : UInt8) :
    plot canvas x y bit = some (canvas.plot x y bit) := by
  have rowInRange : y % displayHeight < displayHeight :=
    Nat.mod_lt _ (by decide)
  have cellInRange : x % displayWidth < displayWidth :=
    Nat.mod_lt _ (by decide)
  unfold plot
  rw [Vector.getElem?_eq_getElem rowInRange]
  simp only [Option.bind_eq_bind, Option.bind_some]
  rw [Vector.getElem?_eq_getElem cellInRange]
  simp only [Option.bind_some, replace_eq _ cellInRange,
    replace_eq _ rowInRange, Option.pure_def]
  rfl

theorem plotBits_eq
    (canvas : Canvas) (x y : Nat) (bits : List UInt8) :
    plotBits canvas x y bits = some (canvas.plotBits x y bits) := by
  induction bits generalizing canvas x with
  | nil => rfl
  | cons bit rest inductionHypothesis =>
      simp only [plotBits, plot_eq, Option.bind_eq_bind, Option.bind_some,
        inductionHypothesis, Canvas.plotBits]

theorem plotSprite_eq
    (canvas : Canvas) (x y : Nat) (sprite : List UInt8) :
    plotSprite canvas x y sprite = some (canvas.plotSprite x y sprite) := by
  induction sprite generalizing canvas y with
  | nil => rfl
  | cons byte rest inductionHypothesis =>
      simp only [plotSprite, plotBits_eq, Option.bind_eq_bind,
        Option.bind_some, inductionHypothesis, Canvas.plotSprite]

/-! ## Instructions -/

theorem assign_eq
    {x : UInt8} (xFits : x.toNat < 16) (value : UInt8) :
    assign state x (some value) =
      some (.ok (.next, state.setRegister x value)) := by
  simp only [assign, Option.bind_eq_bind, Option.bind_some,
    setRegister_eq xFits, proceed]

theorem combine_eq
    {x y : UInt8} (xFits : x.toNat < 16) (yFits : y.toNat < 16)
    (value : UInt8 → UInt8 → UInt8) :
    combine state x y value =
      some (.ok (.next,
        state.setRegister x
          (value (state.register x) (state.register y)))) := by
  simp only [combine, register_eq xFits, register_eq yFits,
    Option.bind_eq_bind, Option.bind_some, assign_eq xFits]

theorem combineFlagged_eq
    {x y : UInt8} (xFits : x.toNat < 16) (yFits : y.toNat < 16)
    (value flag : UInt8 → UInt8 → UInt8) :
    combineFlagged state x y value flag =
      some (.ok (.next,
        (state.setRegister x
          (value (state.register x) (state.register y))).setRegister
            State.flagRegister
            (flag (state.register x) (state.register y)))) := by
  have flagFits : State.flagRegister.toNat < 16 := by decide
  simp only [combineFlagged, register_eq xFits, register_eq yFits,
    setRegister_eq xFits, Option.bind_eq_bind, Option.bind_some,
    assign_eq flagFits]

theorem returnOn_eq (bounded : state.depth.toNat ≤ stackDepth) :
    returnOn state = some (Instruction.returnOn state) := by
  by_cases empty : state.depth = 0
  · simp only [returnOn, Instruction.returnOn, if_pos empty]
  · have shorter := State.toNat_depth_pop empty
    have positive : 1 ≤ state.depth.toNat := by omega
    have room : (state.depth - 1).toNat < stackDepth := by
      change state.pop.depth.toNat < stackDepth
      omega
    have latest :
        state.stack[(state.depth - 1).toNat]? =
          some state.latestAddress := by
      rw [Vector.getElem?_eq_getElem room]
      simp only [State.latestAddress, State.pop, Fin.getElem_fin,
        State.val_stackSlot room]
    simp only [returnOn, Instruction.returnOn, if_neg empty, decrement,
      if_pos positive, latest, Option.bind_eq_bind, Option.bind_some,
      Option.pure_def, State.pop]

theorem callOn_eq (address : UInt16) :
    callOn address state = some (Instruction.callOn address state) := by
  by_cases full : stackDepth ≤ state.depth.toNat
  · simp only [callOn, Instruction.callOn, if_pos full]
  · have room : state.depth.toNat < stackDepth := by omega
    have small : state.depth.toNat + 1 < UInt8.size := by
      have : stackDepth < UInt8.size := by decide
      omega
    simp only [callOn, Instruction.callOn, if_neg full, increment,
      if_pos small, replace_eq _ room, Option.bind_eq_bind,
      Option.bind_some, Option.pure_def, State.push,
      State.val_stackSlot room]

theorem drawOn_eq
    {x y : UInt8} (rows : UInt8)
    (xFits : x.toNat < 16) (yFits : y.toNat < 16) :
    drawOn x y rows state =
      some (.ok (.next, Instruction.drawOn x y rows state)) := by
  simp only [drawOn, register_eq xFits, register_eq yFits, run_eq,
    plotSprite_eq, setFlag_eq, Option.bind_eq_bind, Option.bind_some,
    proceed, Instruction.drawOn]

theorem addIndexOn_eq
    {x : UInt8} (xFits : x.toNat < 16) :
    addIndexOn x state =
      some (.ok (.next, Instruction.addIndexOn x state)) := by
  simp only [addIndexOn, register_eq xFits, setFlag_eq,
    Option.bind_eq_bind, Option.bind_some, proceed,
    Instruction.addIndexOn]

/-- Storing registers one by one stores the run of their values. -/
theorem storeRegisters_eq
    (state : State) {count : Nat} (inRange : count ≤ registerCount) :
    (List.range count).foldlM storeRegister state =
      some { state with
        memory :=
          state.memory.store state.index
            (state.registers.toList.take count) } := by
  induction count with
  | zero => rfl
  | succ count inductionHypothesis =>
      have present : count < registerCount := by omega
      have inList : count < state.registers.toList.length := by
        simpa using present
      have taken :
          state.registers.toList.take (count + 1) =
            state.registers.toList.take count ++
              [state.registers[count]] := by
        rw [List.take_add_one, List.getElem?_eq_getElem inList,
          Option.toList_some, Vector.getElem_toList]
      have stored :
          (state.registers.toList.take count).length = count := by
        rw [List.length_take]
        exact Nat.min_eq_left (Nat.le_of_lt inList)
      rw [List.range_succ, List.foldlM_append,
        inductionHypothesis (by omega), taken, Memory.store_append, stored]
      simp only [Option.bind_eq_bind, Option.bind_some, List.foldlM_cons,
        List.foldlM_nil, storeRegister,
        Vector.getElem?_eq_getElem present, write_eq, Option.pure_def,
        Memory.store]

/-- The registers up to a number, taken from memory from an index on. -/
def loaded (state : State) (count : Nat) : Vector UInt8 registerCount :=
  state.registers.mapIdx fun slot byte =>
    if slot < count then
      state.memory.read (state.index + UInt16.ofNat slot)
    else
      byte

theorem loaded_zero (state : State) : loaded state 0 = state.registers := by
  ext slot inRange
  simp [loaded]

theorem loaded_succ
    (state : State) {count : Nat} (present : count < registerCount) :
    loaded state (count + 1) =
      (loaded state count).set count
        (state.memory.read (state.index + UInt16.ofNat count)) := by
  ext slot inRange
  by_cases latest : slot = count
  · subst latest
    simp [loaded]
  · have sameTurn : slot < count + 1 ↔ slot < count := by omega
    simp only [loaded, Vector.getElem_mapIdx, sameTurn,
      Vector.getElem_set_ne _ _ (Ne.symm latest)]

theorem loaded_eq (x : UInt8) (state : State) :
    { state with registers := loaded state (x.toNat + 1) } =
      Instruction.loadRegistersOn x state := by
  have sameRegisters :
      loaded state (x.toNat + 1) =
        (Instruction.loadRegistersOn x state).registers := by
    ext slot inRange
    simp only [loaded, Instruction.loadRegistersOn, Vector.getElem_mapIdx,
      Vector.getElem_ofFn, Fin.getElem_fin, Nat.lt_add_one_iff]
  rw [sameRegisters]
  simp only [Instruction.loadRegistersOn]

/-- Loading registers one by one loads each that has its turn. -/
theorem loadRegisters_eq
    (state : State) {count : Nat} (inRange : count ≤ registerCount) :
    (List.range count).foldlM loadRegister state =
      some { state with registers := loaded state count } := by
  induction count with
  | zero =>
      simp only [List.range_zero, List.foldlM_nil, Option.pure_def,
        loaded_zero]
  | succ count inductionHypothesis =>
      have present : count < registerCount := by omega
      rw [List.range_succ, List.foldlM_append,
        inductionHypothesis (by omega)]
      simp only [Option.bind_eq_bind, Option.bind_some, List.foldlM_cons,
        List.foldlM_nil, loadRegister, read_eq, replace_eq _ present,
        Option.pure_def, loaded_succ state present]

theorem sum_eq
    {offset : UInt8} {address : UInt16} (narrow : address.toNat < 4096) :
    sum offset.toUInt16 address = some (offset.toUInt16 + address) := by
  have offsetSmall : offset.toNat < 256 := offset.toNat_lt
  refine if_pos ?_
  rw [UInt8.toNat_toUInt16]
  change offset.toNat + address.toNat < 65536
  omega

theorem product_eq (glyph : UInt8) :
    product glyph.toUInt16 Font.glyphSize =
      some (glyph.toUInt16 * Font.glyphSize) := by
  have glyphSmall : glyph.toNat < 256 := glyph.toNat_lt
  refine if_pos ?_
  rw [UInt8.toNat_toUInt16]
  change glyph.toNat * 5 < 65536
  omega

/-- No check of an instruction fails when its operands are as narrow as
decoding makes them and the stack is within its slots. -/
theorem execute_eq
    {instruction : Instruction} (chance : UInt8)
    (fit : instruction.OperandsFit)
    (bounded : state.depth.toNat ≤ stackDepth) :
    execute instruction chance state =
      some (instruction.execute chance state) := by
  have zeroFits : (0 : UInt8).toNat < 16 := by decide
  cases instruction with
  | returnFromCall => exact returnOn_eq bounded
  | call address => exact callOn_eq address
  | draw x y rows => exact drawOn_eq rows fit.1 fit.2.1
  | addIndex x => exact addIndexOn_eq fit
  | or x y | and x y | xor x y => exact combine_eq fit.1 fit.2 _
  | addRegisters x y | subtract x y | subtractReversed x y =>
      exact combineFlagged_eq fit.1 fit.2 _ _
  | shiftRight x | shiftLeft x => exact combineFlagged_eq fit fit _ _
  | skipIfRegistersEqual x y | skipIfRegistersNotEqual x y | move x y =>
      simp only [execute, register_eq fit.1, register_eq fit.2, skipWhen,
        assign_eq fit.1, Option.map_some, Option.bind_eq_bind,
        Option.bind_some, Option.pure_def, Instruction.execute]
  | jumpOffset address =>
      simp only [execute, register_eq zeroFits, sum_eq fit,
        Option.bind_eq_bind, Option.bind_some, Option.pure_def,
        Instruction.execute]
  | storeRegisters x =>
      simp only [execute, storeRegisters_eq state (Nat.succ_le_of_lt fit),
        Option.bind_eq_bind, Option.bind_some, proceed,
        Instruction.execute, Instruction.storeRegistersOn]
  | loadRegisters x =>
      simp only [execute, loadRegisters_eq state (Nat.succ_le_of_lt fit),
        Option.bind_eq_bind, Option.bind_some, proceed,
        Instruction.execute, loaded_eq]
  | waitKey x =>
      cases held : state.firstKey? with
      | some key =>
          simp only [execute, Instruction.execute, Instruction.waitKeyOn,
            held, assign_eq fit]
      | none =>
          simp only [execute, Instruction.execute, Instruction.waitKeyOn,
            held]
  | clearScreen | jump address | loadIndex address => rfl
  | unknown =>
      simp only [execute, fetch_eq, Option.bind_eq_bind, Option.bind_some,
        Option.pure_def, Instruction.execute]
  | _ =>
      simp only [execute, register_eq fit, assign_eq fit, keyDown_eq,
        store_eq, product_eq, skipWhen, proceed, Option.map_some,
        Option.bind_eq_bind, Option.bind_some, Option.pure_def,
        Instruction.execute]

/-! ## What happens to a state from outside -/

theorem step_eq
    (chance : UInt8) (bounded : state.depth.toNat ≤ stackDepth) :
    step state chance = some (state.step chance) := by
  have fit := Instruction.operandsFit_decode state.fetch
  have readyBounded :
      (State.depth { state with redraw := false }).toNat ≤ stackDepth :=
    bounded
  have sameFetch :
      State.fetch { state with redraw := false } = state.fetch := rfl
  rcases State.step_cases state chance with
    ⟨flow, after, executed, outcome⟩ | ⟨fault, failed, outcome⟩
  · simp only [State.instruction] at executed
    simp only [step, fetch_eq, Option.bind_eq_bind, Option.bind_some,
      sameFetch, execute_eq chance fit readyBounded, executed, outcome,
      Option.pure_def, State.instruction]
  · simp only [State.instruction] at failed
    simp only [step, fetch_eq, Option.bind_eq_bind, Option.bind_some,
      sameFetch, execute_eq chance fit readyBounded, failed, outcome,
      Option.pure_def]

theorem decrement_eq {byte : UInt8} (positive : byte ≠ 0) :
    decrement byte = some (byte - 1) := by
  refine if_pos ?_
  have nonzero : byte.toNat ≠ 0 := fun zero =>
    positive (UInt8.toNat_inj.mp zero)
  omega

theorem countDown_eq (timer : UInt8) :
    countDown timer = some (if timer = 0 then 0 else timer - 1) := by
  by_cases still : timer = 0
  · simp [countDown, still]
  · rw [countDown, if_pos (UInt8.pos_iff_ne_zero.mpr still), if_neg still,
      decrement_eq still]

theorem tick_eq (state : State) : tick state = some state.tick := by
  simp only [tick, countDown_eq, Option.bind_eq_bind, Option.bind_some,
    State.tick]
  cases state.soundTimer with
  | none => rfl
  | some sound =>
      by_cases silent : sound = 0
      · simp only [if_pos silent, Option.pure_def]
      · simp only [if_neg silent, decrement_eq silent, Option.bind_some,
          Option.pure_def]

theorem setKey_eq (state : State) (key : UInt8) (pressed : Bool) :
    setKey state key pressed = state.setKey key pressed := by
  by_cases present : key.toNat < keyCount
  · simp only [setKey, replace_eq _ present, State.setKey, dif_pos present]
  · simp only [setKey, replace, State.setKey, dif_neg present]

theorem copy_eq
    (memory : Memory) (start : UInt16) {bytes : List UInt8}
    (room : start.toNat + bytes.length ≤ memorySize) :
    copy memory start bytes = some (memory.store start bytes) :=
  if_pos room

theorem fresh_eq : fresh = some State.fresh := by
  have room :
      (0 : UInt16).toNat + Font.glyphs.length ≤ memorySize := by
    rw [Font.length_glyphs]
    decide
  simp only [fresh, copy_eq _ _ room, Option.bind_eq_bind,
    Option.bind_some, Option.pure_def]
  rfl

theorem ofProgram_eq (program : List UInt8) :
    ofProgram program = some (State.ofProgram program) := by
  have sliced :
      slice program (min program.length State.programCapacity) =
        some (program.take State.programCapacity) := by
    unfold slice
    rw [if_pos (Nat.min_le_left _ _), Nat.min_comm, ← List.take_take,
      List.take_length]
  have room :
      programStart.toNat +
        (program.take State.programCapacity).length ≤ memorySize := by
    have taken : (program.take State.programCapacity).length ≤
        State.programCapacity := List.length_take_le _ _
    have capacity :
        programStart.toNat + State.programCapacity = memorySize := rfl
    omega
  simp only [ofProgram, fresh_eq, sliced, copy_eq _ _ room,
    Option.bind_eq_bind, Option.bind_some, Option.pure_def,
    State.ofProgram]

theorem apply_eq
    (input : Input) (bounded : state.depth.toNat ≤ stackDepth) :
    apply state input = some (state.apply input) := by
  cases input with
  | reset program => exact ofProgram_eq program
  | step chance =>
      simp only [apply, step_eq chance bounded, Option.map_some,
        State.apply]
  | tick => simp only [apply, tick_eq, Option.map_some, State.apply]
  | key key pressed => simp only [apply, setKey_eq, State.apply]

end ChipEight.Guarded

namespace ChipEight.State

/-! ## Bounds -/

/-- What keeps the checks from failing, and the screen black and white: the
depth of the stack names at most the slot behind its last, and every cell is one
bit. -/
structure InBounds (state : State) : Prop where
  depth : state.depth.toNat ≤ stackDepth
  screen : state.screen.IsBinary

theorem inBounds_fresh : fresh.InBounds where
  depth := Nat.zero_le _
  screen := Screen.isBinary_blank

/-- An executed instruction leaves only bits on a screen that held only bits. -/
theorem isBinary_execute
    {instruction : Instruction} {chance : UInt8} {flow : Flow}
    {state after : State} (binary : state.screen.IsBinary)
    (executed : instruction.execute chance state = .ok (flow, after)) :
    after.screen.IsBinary := by
  by_cases unused : instruction.usesScreen = false
  · rw [Instruction.screen_execute executed unused]
    exact binary
  · cases instruction with
    | clearScreen =>
        cases executed
        exact Screen.isBinary_blank
    | draw x y rows =>
        cases executed
        have onCanvas : (Canvas.ofScreen state.screen).screen.IsBinary :=
          binary
        exact Canvas.isBinary_plotSprite onCanvas _ _ _
    | _ => exact absurd rfl unused

theorem InBounds.apply
    {state : State} (within : state.InBounds) (input : Input) :
    (state.apply input).InBounds := by
  have held : state.Holds state.returnAddresses := ⟨within.depth, rfl⟩
  refine ⟨(held.apply input).bounded, ?_⟩
  cases input with
  | reset program => exact Screen.isBinary_blank
  | step chance =>
      rcases step_cases state chance with
        ⟨flow, after, executed, outcome⟩ | ⟨fault, _, outcome⟩
      · simp only [State.apply, outcome]
        have before :
            ({ state with redraw := false } : State).screen.IsBinary :=
          within.screen
        exact isBinary_execute before executed
      · simp only [State.apply, outcome]
        exact within.screen
  | tick =>
      obtain ⟨delay, sound, ticked⟩ := tick_frame state
      simp only [State.apply, ticked]
      exact within.screen
  | key key pressed =>
      obtain ⟨keypad, pressed⟩ := setKey_frame state key pressed
      simp only [State.apply, pressed]
      exact within.screen

/-- Within bounds, a whole history passes every check. -/
theorem InBounds.runFrom_eq
    {state : State} (within : state.InBounds) (history : List Input) :
    Guarded.runFrom state history = some (state.run history) := by
  induction history generalizing state with
  | nil => rfl
  | cons input rest inductionHypothesis =>
      have checked := Guarded.apply_eq input within.depth
      have continued := inductionHypothesis (within.apply input)
      simp only [Guarded.runFrom, List.foldlM_cons, checked,
        Option.bind_eq_bind, Option.bind_some] at continued ⊢
      exact continued

/-- Whatever is done to a state that started out fresh, with any programs, random
bytes and key numbers, no index leaves its range and no computation its type:
execution with every access checked goes through and gives the same state.  The
return stack stays within its slots and the screen black and white. -/
theorem guarded_run_fresh (history : List Input) :
    (Guarded.fresh.bind fun state => Guarded.runFrom state history) =
        some (fresh.run history) ∧
      (fresh.run history).depth.toNat ≤ stackDepth ∧
      (fresh.run history).screen.IsBinary := by
  have within : (fresh.run history).InBounds :=
    run_keeps (fun _ input before => before.apply input) inBounds_fresh
      history
  refine ⟨?_, within.depth, within.screen⟩
  rw [Guarded.fresh_eq, Option.bind_some]
  exact inBounds_fresh.runFrom_eq history

/-- The checks are no formality: a register number that no word carries is
caught. -/
example : Guarded.execute (.load 16 0) 0 fresh = none := rfl

end ChipEight.State
