import ChipEight.Instruction

/-!
# Operands of decoded instructions

An instruction as such may carry any operand that its fields can hold.  The ones
that words stand for carry less: register numbers and sprite heights come from
four bits and addresses from twelve.  Decoding is the only place where these
bounds arise, and everything that relies on them takes them from
`operandsFit_decode`.
-/

namespace ChipEight.Instruction

/-- Whether the operands of an instruction are no wider than the bits of a word
they are taken from. -/
def OperandsFit : Instruction → Prop
  | .clearScreen | .returnFromCall | .unknown => True
  | .jump address | .call address | .loadIndex address
  | .jumpOffset address => address.toNat < 4096
  | .skipIfEqual x _ | .skipIfNotEqual x _ | .load x _ | .add x _
  | .random x _ | .shiftRight x | .shiftLeft x | .skipIfPressed x
  | .skipIfNotPressed x | .getDelay x | .waitKey x | .setDelay x
  | .setSound x | .addIndex x | .loadFont x | .storeDecimal x
  | .storeRegisters x | .loadRegisters x => x.toNat < 16
  | .skipIfRegistersEqual x y | .move x y | .or x y | .and x y
  | .xor x y | .addRegisters x y | .subtract x y
  | .subtractReversed x y | .skipIfRegistersNotEqual x y =>
      x.toNat < 16 ∧ y.toNat < 16
  | .draw x y rows =>
      x.toNat < 16 ∧ y.toNat < 16 ∧ rows.toNat < 16

/-- Four bits of a word name a number below sixteen. -/
theorem toNat_lowBits_lt (word : UInt16) :
    (word &&& 0x000F).toUInt8.toNat < 16 := by
  have narrow : (word &&& 0x000F).toNat ≤ 15 := by
    rw [UInt16.toNat_and]
    exact Nat.and_le_right
  rw [UInt16.toNat_toUInt8]
  omega

/-- Twelve bits of a word name a number below 4096. -/
theorem toNat_address_lt (word : UInt16) :
    (word &&& 0x0FFF).toNat < 4096 := by
  have narrow : (word &&& 0x0FFF).toNat ≤ 4095 := by
    rw [UInt16.toNat_and]
    exact Nat.and_le_right
  omega

theorem operandsFit_decodeArithmetic
    {x y : UInt8} (selector : UInt8)
    (xFits : x.toNat < 16) (yFits : y.toNat < 16) :
    (decodeArithmetic x y selector).OperandsFit := by
  unfold decodeArithmetic
  split <;> simp only [OperandsFit, xFits, yFits, and_self]

theorem operandsFit_decodeKeypad
    {x : UInt8} (selector : UInt8) (xFits : x.toNat < 16) :
    (decodeKeypad x selector).OperandsFit := by
  unfold decodeKeypad
  split <;> simp only [OperandsFit, xFits]

theorem operandsFit_decodeTransfer
    {x : UInt8} (selector : UInt8) (xFits : x.toNat < 16) :
    (decodeTransfer x selector).OperandsFit := by
  unfold decodeTransfer
  split <;> simp only [OperandsFit, xFits]

/-- Every word decodes to an instruction whose operands fit. -/
theorem operandsFit_decode (word : UInt16) :
    (decode word).OperandsFit := by
  have xFits := toNat_lowBits_lt (word >>> 8)
  have yFits := toNat_lowBits_lt (word >>> 4)
  have lowFits := toNat_lowBits_lt word
  have addressFits := toNat_address_lt word
  unfold decode
  simp only
  split
  case h_1 =>
    split
    · trivial
    · split <;> trivial
  case h_9 => exact operandsFit_decodeArithmetic _ xFits yFits
  case h_15 => exact operandsFit_decodeKeypad _ xFits
  case h_16 => exact operandsFit_decodeTransfer _ xFits
  all_goals simp only [OperandsFit, xFits, yFits, lowFits, addressFits, and_self]

end ChipEight.Instruction
