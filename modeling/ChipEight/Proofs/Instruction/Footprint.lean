import ChipEight.Proofs.Instruction.Frame

/-!
# What instructions may change, and where they lead

Every instruction names the register that receives its result, if there is one, and seven
instructions write the flag register besides.  Two instructions write to memory, three
move the index, one writes to the return stack, and none touches the keypad.

An instruction that does not go elsewhere leads to the following one, past it when its
condition holds, or back to itself while it waits for a key.
-/

namespace ChipEight

namespace Instruction

def writesMemory : Instruction → Bool
  | .storeDecimal _ | .storeRegisters _ => true
  | _ => false

def movesIndex : Instruction → Bool
  | .loadIndex _ | .addIndex _ | .loadFont _ => true
  | _ => false

def calls : Instruction → Bool
  | .call _ => true
  | _ => false

def writesFlag : Instruction → Bool
  | .addRegisters _ _ | .subtract _ _ | .subtractReversed _ _
  | .shiftRight _ | .shiftLeft _ | .addIndex _ | .draw _ _ _ => true
  | _ => false

/-- Whether a register is named to receive the result of an instruction. -/
def Targets
    (instruction : Instruction) (slot : Fin registerCount) : Prop :=
  match instruction with
  | .load x _ | .add x _ | .move x _ | .or x _ | .and x _ | .xor x _
  | .addRegisters x _ | .subtract x _ | .subtractReversed x _
  | .shiftRight x | .shiftLeft x | .random x _ | .getDelay x
  | .waitKey x => slot = State.registerSlot x
  | .loadRegisters x => slot.val ≤ x.toNat
  | _ => False

/-- Whether an instruction may change a register. -/
def MayWrite
    (instruction : Instruction) (slot : Fin registerCount) : Prop :=
  instruction.Targets slot ∨
    instruction.writesFlag = true ∧
      slot = State.registerSlot State.flagRegister

/-- Whether an instruction goes to an address of its own. -/
def leaps : Instruction → Bool
  | .jump _ | .call _ | .returnFromCall | .jumpOffset _ => true
  | _ => false

/-- Whether an instruction finds its condition for skipping the following one. -/
def Skips (instruction : Instruction) (state : State) : Prop :=
  match instruction with
  | .skipIfEqual x byte => state.register x = byte
  | .skipIfNotEqual x byte => state.register x ≠ byte
  | .skipIfRegistersEqual x y => state.register x = state.register y
  | .skipIfRegistersNotEqual x y => state.register x ≠ state.register y
  | .skipIfPressed x => state.keyDown (state.register x) = true
  | .skipIfNotPressed x => state.keyDown (state.register x) = false
  | _ => False

/-- Whether an instruction waits for a key and none is down. -/
def Waits (instruction : Instruction) (state : State) : Prop :=
  match instruction with
  | .waitKey _ => ∀ key, state.keypad.get key = false
  | _ => False

/-! ## Kept parts -/

/-- Whether all that an instruction leaves alone is the same in two states. -/
structure Keeps
    (instruction : Instruction) (before after : State) : Prop where
  memory :
    instruction.writesMemory = false → after.memory = before.memory
  stack : instruction.calls = false → after.stack = before.stack
  keypad : after.keypad = before.keypad
  registers : ∀ slot, ¬ instruction.MayWrite slot →
    after.registers.get slot = before.registers.get slot

variable {instruction : Instruction} {chance : UInt8} {flow : Flow}
  {state after later : State}

theorem Keeps.refl (instruction : Instruction) (state : State) :
    instruction.Keeps state state where
  memory _ := rfl
  stack _ := rfl
  keypad := rfl
  registers _ _ := rfl

theorem Keeps.trans
    (first : instruction.Keeps state after)
    (second : instruction.Keeps after later) :
    instruction.Keeps state later where
  memory unwritten := (second.memory unwritten).trans (first.memory unwritten)
  stack other := (second.stack other).trans (first.stack other)
  keypad := second.keypad.trans first.keypad
  registers slot unwritten :=
    (second.registers slot unwritten).trans (first.registers slot unwritten)

/-- A change of other parts keeps these. -/
theorem Keeps.of_eq
    (sameMemory : after.memory = state.memory)
    (sameStack : after.stack = state.stack)
    (sameKeypad : after.keypad = state.keypad)
    (sameRegisters : after.registers = state.registers) :
    instruction.Keeps state after where
  memory _ := sameMemory
  stack _ := sameStack
  keypad := sameKeypad
  registers slot _ := by rw [sameRegisters]

theorem keeps_setRegister
    {x : UInt8} (allowed : instruction.MayWrite (State.registerSlot x))
    (state : State) (value : UInt8) :
    instruction.Keeps state (state.setRegister x value) where
  memory _ := rfl
  stack _ := rfl
  keypad := rfl
  registers slot unwritten := by
    have apart : (State.registerSlot x).val ≠ slot.val := by
      intro same
      exact unwritten (Fin.ext same ▸ allowed)
    exact Vector.getElem_set_ne (State.registerSlot x).isLt slot.isLt apart

theorem keeps_setResult
    {x : UInt8} (named : instruction.Targets (State.registerSlot x))
    (state : State) (result : UInt8) :
    instruction.Keeps state (state.setRegister x result) :=
  keeps_setRegister (Or.inl named) state result

theorem keeps_setFlag
    (flagged : instruction.writesFlag = true) (state : State) (flag : UInt8) :
    instruction.Keeps state (state.setRegister State.flagRegister flag) :=
  keeps_setRegister (Or.inr ⟨flagged, rfl⟩) state flag

theorem keeps_setResult_setFlag
    {x : UInt8} (named : instruction.Targets (State.registerSlot x))
    (flagged : instruction.writesFlag = true)
    (state : State) (result flag : UInt8) :
    instruction.Keeps state
      ((state.setRegister x result).setRegister State.flagRegister flag) :=
  (keeps_setResult named state result).trans (keeps_setFlag flagged _ flag)

theorem keeps_loadRegistersOn (x : UInt8) (state : State) :
    (loadRegisters x).Keeps state (loadRegistersOn x state) := by
  refine ⟨fun _ => ?memory, fun _ => ?stack, ?keypad, ?registers⟩
  case registers =>
    intro slot unwritten
    have beyond : ¬ slot.val ≤ x.toNat := fun within =>
      unwritten (Or.inl within)
    exact (Vector.getElem_ofFn _).trans (if_neg beyond)
  all_goals simp only [loadRegistersOn]

theorem keeps_execute
    (executed : instruction.execute chance state = .ok (flow, after)) :
    instruction.Keeps state after := by
  cases instruction with
  | unknown => cases executed
  | load x byte | add x byte | move x y | or x y | and x y | xor x y
  | random x byte | getDelay x =>
      cases executed
      apply keeps_setResult
      exact rfl
  | addRegisters x y | subtract x y | subtractReversed x y
  | shiftRight x | shiftLeft x =>
      cases executed
      apply keeps_setResult_setFlag
      · exact rfl
      · exact rfl
  | draw x y rows =>
      cases executed
      apply Keeps.trans
      case second => exact keeps_setFlag rfl _ _
      case first => exact Keeps.of_eq rfl rfl rfl rfl
  | addIndex x =>
      cases executed
      have flagged :=
        keeps_setFlag (rfl : (addIndex x).writesFlag = true) state
      exact (flagged _).trans (Keeps.of_eq rfl rfl rfl rfl)
  | waitKey x =>
      rcases execute_waitKey executed with
        ⟨_, _, rfl⟩ | ⟨key, _, _, rfl⟩
      · exact Keeps.refl _ _
      · apply keeps_setResult
        exact rfl
  | loadRegisters x =>
      cases executed
      exact keeps_loadRegistersOn x state
  | storeDecimal x | storeRegisters x =>
      cases executed
      exact ⟨nofun, fun _ => rfl, rfl, fun _ _ => rfl⟩
  | call address =>
      obtain ⟨_, _, rfl⟩ := execute_call executed
      exact ⟨fun _ => rfl, nofun, rfl, fun _ _ => rfl⟩
  | returnFromCall =>
      obtain ⟨_, _, rfl⟩ := execute_returnFromCall executed
      exact Keeps.of_eq rfl rfl rfl rfl
  | _ =>
      cases executed
      exact Keeps.of_eq rfl rfl rfl rfl

/-! ## Ways to go on -/

/-- Whether a flow is the one an instruction has to take by its condition. -/
structure Follows
    (instruction : Instruction) (state : State) (flow : Flow) : Prop where
  skip : instruction.Skips state → flow = .skip
  stay : instruction.Waits state → flow = .stay
  next :
    instruction.leaps = false → ¬ instruction.Skips state →
      ¬ instruction.Waits state → flow = .next

theorem follows_skipWhen
    {condition : Bool}
    (skips : instruction.Skips state ↔ condition = true)
    (waitless : ¬ instruction.Waits state) :
    instruction.Follows state (.skipWhen condition) where
  skip holds := by rw [skips.mp holds]; rfl
  stay waits := absurd waits waitless
  next _ fails _ := by
    rw [Bool.eq_false_iff.mpr (mt skips.mpr fails)]
    rfl

theorem follows_of_next
    (skipless : ¬ instruction.Skips state)
    (waitless : ¬ instruction.Waits state) :
    instruction.Follows state .next where
  skip skips := absurd skips skipless
  stay waits := absurd waits waitless
  next _ _ _ := rfl

theorem follows_of_leaps
    (leaping : instruction.leaps = true)
    (skipless : ¬ instruction.Skips state)
    (waitless : ¬ instruction.Waits state) (flow : Flow) :
    instruction.Follows state flow where
  skip skips := absurd skips skipless
  stay waits := absurd waits waitless
  next unleaping := by
    rw [leaping] at unleaping
    cases unleaping

theorem firstKey?_eq_none_iff (state : State) :
    state.firstKey? = none ↔
      ∀ key, state.keypad.get key = false := by
  rw [State.firstKey?, Option.map_eq_none_iff, List.findIdx?_eq_none_iff]
  constructor
  · intro allUp key
    apply allUp
    simp
  · intro allUp pressed member
    obtain ⟨key, inRange, rfl⟩ := List.getElem_of_mem member
    have inKeypad : key < keyCount := by simpa using inRange
    have up : state.keypad[key] = false := allUp ⟨key, inKeypad⟩
    simpa using up

theorem waits_iff (x : UInt8) (state : State) :
    (waitKey x).Waits state ↔ state.firstKey? = none :=
  (firstKey?_eq_none_iff state).symm

theorem follows_execute
    (executed : instruction.execute chance state = .ok (flow, after)) :
    instruction.Follows state flow := by
  cases instruction with
  | unknown => cases executed
  | skipIfEqual x byte =>
      cases executed
      exact follows_skipWhen beq_iff_eq.symm id
  | skipIfNotEqual x byte =>
      cases executed
      exact follows_skipWhen bne_iff_ne.symm id
  | skipIfRegistersEqual x y =>
      cases executed
      exact follows_skipWhen beq_iff_eq.symm id
  | skipIfRegistersNotEqual x y =>
      cases executed
      exact follows_skipWhen bne_iff_ne.symm id
  | skipIfPressed x =>
      cases executed
      exact follows_skipWhen Iff.rfl id
  | skipIfNotPressed x =>
      cases executed
      exact follows_skipWhen (Iff.of_eq (Bool.not_eq_true' _).symm) id
  | waitKey x =>
      rcases execute_waitKey executed with
        ⟨allUp, rfl, _⟩ | ⟨key, down, rfl, _⟩
      · have waits := (waits_iff x state).mpr allUp
        exact ⟨False.elim, fun _ => rfl, fun _ _ awake => absurd waits awake⟩
      · apply follows_of_next
        · exact False.elim
        · intro waits
          rw [(waits_iff x state).mp waits] at down
          cases down
  | jump address | call address | jumpOffset address | returnFromCall =>
      exact follows_of_leaps rfl id id flow
  | _ =>
      cases executed
      exact follows_of_next id id

end Instruction

end ChipEight
