import ChipEight.Instruction.Execution

/-!
# Arithmetic on registers

The arithmetic instructions are stated as writes of integers to registers, in the order in
which they are made.  An instruction with a flag writes its result first and the flag
second, both computed from the registers as they were.  So nothing has to be said about
operands that coincide with each other or with the flag register: what a register holds
afterwards is what was written to it last.
-/

namespace ChipEight

/-- The number that a register holds behind some writes of numbers to registers, the
earliest first, if it held a given number before. -/
def heldAfter (slot : Fin registerCount) (held : Int) :
    List (UInt8 × Int) → Int
  | [] => held
  | (x, number) :: rest =>
      heldAfter slot
        (if State.registerSlot x = slot then number else held) rest

theorem heldAfter_concat
    (slot : Fin registerCount) (held : Int) (writes : List (UInt8 × Int))
    (x : UInt8) (number : Int) :
    heldAfter slot held (writes ++ [(x, number)]) =
      if State.registerSlot x = slot then
        number
      else
        heldAfter slot held writes := by
  induction writes generalizing held with
  | nil => rfl
  | cons write rest inductionHypothesis => exact inductionHypothesis _

namespace State

/-- Whether a state is another one with some writes made to its registers, the earliest
first. -/
structure Wrote
    (before after : State) (writes : List (UInt8 × Int)) : Prop where
  held : ∀ slot : Fin registerCount,
    ((after.registers.get slot).toNat : Int) =
      heldAfter slot (before.registers.get slot).toNat writes
  rest : after = { before with registers := after.registers }

variable {before after : State} {writes : List (UInt8 × Int)}

theorem Wrote.refl (state : State) : state.Wrote state [] where
  held _ := rfl
  rest := rfl

theorem get_setRegister
    (state : State) (x value : UInt8) (slot : Fin registerCount) :
    (state.setRegister x value).registers.get slot =
      if registerSlot x = slot then value else state.registers.get slot := by
  by_cases same : registerSlot x = slot
  · subst same
    rw [if_pos rfl]
    exact Vector.getElem_set_self _
  · rw [if_neg same]
    exact Vector.getElem_set_ne (registerSlot x).isLt slot.isLt
      fun sameValue => same (Fin.ext sameValue)

theorem Wrote.setRegister
    (wrote : before.Wrote after writes) {x value : UInt8} {number : Int}
    (isNumber : (value.toNat : Int) = number) :
    before.Wrote (after.setRegister x value) (writes ++ [(x, number)]) where
  held slot := by
    rw [get_setRegister, heldAfter_concat]
    split
    case isTrue => exact isNumber
    case isFalse => exact wrote.held slot
  rest := by
    have kept := wrote.rest
    rw [kept]
    rfl

theorem wrote_result
    (state : State) {x value : UInt8} {result : Int}
    (isResult : (value.toNat : Int) = result) :
    state.Wrote (state.setRegister x value) [(x, result)] :=
  (Wrote.refl state).setRegister isResult

theorem wrote_flagged
    (state : State) {x value flag : UInt8} {result mark : Int}
    (isResult : (value.toNat : Int) = result)
    (isMark : (flag.toNat : Int) = mark) :
    state.Wrote
      ((state.setRegister x value).setRegister flagRegister flag)
      [(x, result), (flagRegister, mark)] :=
  (state.wrote_result isResult).setRegister isMark

/-- A flag written last remains, also when it was written over the result. -/
theorem Wrote.flag
    {x : UInt8} {result mark : Int}
    (wrote : before.Wrote after [(x, result), (flagRegister, mark)]) :
    ((after.register flagRegister).toNat : Int) = mark := by
  have held := wrote.held (registerSlot flagRegister)
  rw [← List.singleton_append, heldAfter_concat, if_pos rfl] at held
  exact held

/-- Without a flag, the flag register is kept unless it receives the result. -/
theorem Wrote.unflagged
    {x : UInt8} {result : Int} (wrote : before.Wrote after [(x, result)])
    (other : registerSlot x ≠ registerSlot flagRegister) :
    after.register flagRegister = before.register flagRegister := by
  have held := wrote.held (registerSlot flagRegister)
  rw [heldAfter, if_neg other, heldAfter] at held
  exact UInt8.toNat_inj.mp (Int.ofNat.inj held)

end State

/-! ## Bytes and flags as integers -/

section Bytes

variable (a b : UInt8)

theorem toNat_byteSum :
    ((a + b).toNat : Int) = (a.toNat + b.toNat) % 256 := by
  rw [UInt8.toNat_add]
  omega

theorem toNat_byteDifference :
    ((a - b).toNat : Int) = (a.toNat - b.toNat) % 256 := by
  have aSmall := a.toNat_lt
  have bSmall := b.toNat_lt
  rw [UInt8.toNat_sub]
  omega

theorem toNat_flag (condition : Prop) [Decidable condition] :
    ((decide condition).toUInt8.toNat : Int) =
      if condition then 1 else 0 := by
  by_cases holds : condition
  · rw [decide_eq_true holds, if_pos holds]
    rfl
  · rw [decide_eq_false holds, if_neg holds]
    rfl

/-- A sum that wraps is smaller than either of its parts. -/
theorem byteSum_lt_iff : a + b < a ↔ 255 < a.toNat + b.toNat := by
  have aSmall := a.toNat_lt
  have bSmall := b.toNat_lt
  rw [UInt8.lt_iff_toNat_lt, UInt8.toNat_add]
  omega

theorem toNat_carry :
    ((decide (a + b < a)).toUInt8.toNat : Int) =
      if 255 < a.toNat + b.toNat then 1 else 0 := by
  rw [toNat_flag]
  simp only [byteSum_lt_iff]

theorem toNat_unborrowed :
    ((decide (b ≤ a)).toUInt8.toNat : Int) =
      if b.toNat ≤ a.toNat then 1 else 0 := by
  rw [toNat_flag]
  simp only [UInt8.le_iff_toNat_le]

theorem toNat_halved : ((a >>> 1).toNat : Int) = a.toNat / 2 := by
  have halved : (a >>> 1).toNat = a.toNat / 2 := by
    rw [UInt8.toNat_shiftRight]
    exact Nat.shiftRight_eq_div_pow _ 1
  rw [halved]
  omega

theorem toNat_lowestBit : ((a &&& 1).toNat : Int) = a.toNat % 2 := by
  have lowest : (a &&& 1).toNat = a.toNat % 2 := by
    rw [UInt8.toNat_and]
    exact Nat.and_one_is_mod _
  rw [lowest]
  omega

theorem toNat_doubled : ((a <<< 1).toNat : Int) = 2 * a.toNat % 256 := by
  have doubled : (a <<< 1).toNat = a.toNat * 2 % 256 := by
    rw [UInt8.toNat_shiftLeft]
    exact congrArg (· % 256) (Nat.shiftLeft_eq _ 1)
  rw [doubled]
  omega

theorem toNat_highestBit :
    ((a >>> 7).toNat : Int) = if 128 ≤ a.toNat then 1 else 0 := by
  have small := a.toNat_lt
  have highest : (a >>> 7).toNat = a.toNat / 128 := by
    rw [UInt8.toNat_shiftRight]
    exact Nat.shiftRight_eq_div_pow _ 7
  rw [highest]
  split <;> omega

end Bytes

namespace Instruction

/-- Whether an instruction makes some writes to registers, the earliest first, and goes on to
the following instruction, whatever the random byte.  Nothing else is changed. -/
def Writes
    (instruction : Instruction) (state : State)
    (writes : List (UInt8 × Int)) : Prop :=
  ∀ chance, ∃ after,
    instruction.execute chance state = .ok (.next, after) ∧
      state.Wrote after writes

/-- The law of arithmetic.  Sums and differences are taken modulo 256, and the flag of a
difference is set when nothing is borrowed; shifts halve and double, and their flag is the
bit shifted out.  The flag is written behind the result, so it is what remains in the flag
register.  Copying, the bitwise operations and the addition of an immediate write nothing
but their result, and keep the flag register unless it receives this. -/
theorem arithmetic_writes (state : State) (x y byte : UInt8) :
    let a := (state.register x).toNat
    let b := (state.register y).toNat
    let flag := State.flagRegister
    (addRegisters x y).Writes state
        [(x, (a + b) % 256), (flag, if 255 < a + b then 1 else 0)] ∧
      (subtract x y).Writes state
        [(x, ((a : Int) - b) % 256), (flag, if b ≤ a then 1 else 0)] ∧
      (subtractReversed x y).Writes state
        [(x, ((b : Int) - a) % 256), (flag, if a ≤ b then 1 else 0)] ∧
      (shiftRight x).Writes state [(x, a / 2), (flag, a % 2)] ∧
      (shiftLeft x).Writes state
        [(x, 2 * a % 256), (flag, if 128 ≤ a then 1 else 0)] ∧
      (move x y).Writes state [(x, b)] ∧
      (or x y).Writes state [(x, (a ||| b : Nat))] ∧
      (and x y).Writes state [(x, (a &&& b : Nat))] ∧
      (xor x y).Writes state [(x, (a ^^^ b : Nat))] ∧
      (add x byte).Writes state [(x, (a + byte.toNat) % 256)] ∧
      (∀ after result mark,
        state.Wrote after [(x, result), (flag, mark)] →
          ((after.register flag).toNat : Int) = mark) ∧
      ∀ after result, state.Wrote after [(x, result)] →
        State.registerSlot x ≠ State.registerSlot flag →
          after.register flag = state.register flag := by
  intro a b flag
  refine ⟨fun _ => ⟨_, rfl, ?sum⟩, fun _ => ⟨_, rfl, ?difference⟩,
    fun _ => ⟨_, rfl, ?reversed⟩, fun _ => ⟨_, rfl, ?half⟩,
    fun _ => ⟨_, rfl, ?double⟩, fun _ => ⟨_, rfl, ?copy⟩,
    fun _ => ⟨_, rfl, ?disjunction⟩, fun _ => ⟨_, rfl, ?conjunction⟩,
    fun _ => ⟨_, rfl, ?exclusive⟩, fun _ => ⟨_, rfl, ?immediate⟩,
    fun _ _ _ => State.Wrote.flag, fun _ _ => State.Wrote.unflagged⟩
  case sum =>
    exact state.wrote_flagged (toNat_byteSum _ _) (toNat_carry _ _)
  case difference =>
    exact state.wrote_flagged (toNat_byteDifference _ _)
      (toNat_unborrowed _ _)
  case reversed =>
    exact state.wrote_flagged (toNat_byteDifference _ _)
      (toNat_unborrowed _ _)
  case half =>
    exact state.wrote_flagged (toNat_halved _) (toNat_lowestBit _)
  case double =>
    exact state.wrote_flagged (toNat_doubled _) (toNat_highestBit _)
  case copy => exact state.wrote_result rfl
  case disjunction =>
    exact state.wrote_result (congrArg _ (UInt8.toNat_or _ _))
  case conjunction =>
    exact state.wrote_result (congrArg _ (UInt8.toNat_and _ _))
  case exclusive =>
    exact state.wrote_result (congrArg _ (UInt8.toNat_xor _ _))
  case immediate => exact state.wrote_result (toNat_byteSum _ _)

/-- A carry out of the flag register replaces the sum that was stored there. -/
example :
    let state :=
      (State.fresh.setRegister State.flagRegister 0xFF).setRegister 1 2
    ∃ after,
      (addRegisters State.flagRegister 1).execute 0 state =
          .ok (.next, after) ∧
        after.register State.flagRegister = 1 :=
  ⟨_, rfl, by decide⟩

end Instruction

end ChipEight
