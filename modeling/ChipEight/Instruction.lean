/-!
# Instructions

Every sixteen-bit word decodes to exactly one instruction.  The highest four
bits choose a category; the categories `0`, `8`, `E` and `F` are split further
by the low bits.  A word that names no operation decodes to `unknown`, so
decoding never fails.

Operands follow the usual notation: `x` and `y` are register numbers, `byte` is
the immediate in the low eight bits, `rows` the height of a sprite in the lowest
four bits and `address` the low twelve bits.
-/

namespace ChipEight

/-- One operation of the console together with its operands. -/
inductive Instruction where
  | clearScreen  -- 00E0
  | returnFromCall  -- 00EE
  | jump (address : UInt16)  -- 1nnn
  | call (address : UInt16)  -- 2nnn
  | skipIfEqual (x byte : UInt8)  -- 3xkk
  | skipIfNotEqual (x byte : UInt8)  -- 4xkk
  | skipIfRegistersEqual (x y : UInt8)  -- 5xy0
  | load (x byte : UInt8)  -- 6xkk
  | add (x byte : UInt8)  -- 7xkk
  | move (x y : UInt8)  -- 8xy0
  | or (x y : UInt8)  -- 8xy1
  | and (x y : UInt8)  -- 8xy2
  | xor (x y : UInt8)  -- 8xy3
  | addRegisters (x y : UInt8)  -- 8xy4
  | subtract (x y : UInt8)  -- 8xy5
  | shiftRight (x : UInt8)  -- 8xy6
  | subtractReversed (x y : UInt8)  -- 8xy7
  | shiftLeft (x : UInt8)  -- 8xyE
  | skipIfRegistersNotEqual (x y : UInt8)  -- 9xy0
  | loadIndex (address : UInt16)  -- Annn
  | jumpOffset (address : UInt16)  -- Bnnn
  | random (x byte : UInt8)  -- Cxkk
  | draw (x y rows : UInt8)  -- Dxyn
  | skipIfPressed (x : UInt8)  -- Ex9E
  | skipIfNotPressed (x : UInt8)  -- ExA1
  | getDelay (x : UInt8)  -- Fx07
  | waitKey (x : UInt8)  -- Fx0A
  | setDelay (x : UInt8)  -- Fx15
  | setSound (x : UInt8)  -- Fx18
  | addIndex (x : UInt8)  -- Fx1E
  | loadFont (x : UInt8)  -- Fx29
  | storeDecimal (x : UInt8)  -- Fx33
  | storeRegisters (x : UInt8)  -- Fx55
  | loadRegisters (x : UInt8)  -- Fx65
  /-- Any word that encodes none of the above. -/
  | unknown
  deriving DecidableEq, Repr

namespace Instruction

/-- The operations on two registers, chosen by the lowest four bits. -/
def decodeArithmetic
    (x y selector : UInt8) : Instruction :=
  match selector.toNat with
  | 0x0 => .move x y
  | 0x1 => .or x y
  | 0x2 => .and x y
  | 0x3 => .xor x y
  | 0x4 => .addRegisters x y
  | 0x5 => .subtract x y
  | 0x6 => .shiftRight x
  | 0x7 => .subtractReversed x y
  | 0xE => .shiftLeft x
  | _ => .unknown

/-- The operations on the keypad, chosen by the low byte. -/
def decodeKeypad
    (x selector : UInt8) : Instruction :=
  match selector.toNat with
  | 0x9E => .skipIfPressed x
  | 0xA1 => .skipIfNotPressed x
  | _ => .unknown

/-- The operations on timers, index and memory, chosen by the low byte. -/
def decodeTransfer
    (x selector : UInt8) : Instruction :=
  match selector.toNat with
  | 0x07 => .getDelay x
  | 0x0A => .waitKey x
  | 0x15 => .setDelay x
  | 0x18 => .setSound x
  | 0x1E => .addIndex x
  | 0x29 => .loadFont x
  | 0x33 => .storeDecimal x
  | 0x55 => .storeRegisters x
  | 0x65 => .loadRegisters x
  | _ => .unknown

/-- The instruction a word stands for. -/
def decode (word : UInt16) : Instruction :=
  let address := word &&& 0x0FFF
  let byte := (word &&& 0x00FF).toUInt8
  let x := ((word >>> 8) &&& 0x000F).toUInt8
  let y := ((word >>> 4) &&& 0x000F).toUInt8
  let low := (word &&& 0x000F).toUInt8
  match (word >>> 12).toNat with
  | 0x0 =>
      if word = 0x00E0 then
        .clearScreen
      else if word = 0x00EE then
        .returnFromCall
      else
        .unknown
  | 0x1 => .jump address
  | 0x2 => .call address
  | 0x3 => .skipIfEqual x byte
  | 0x4 => .skipIfNotEqual x byte
  | 0x5 => .skipIfRegistersEqual x y
  | 0x6 => .load x byte
  | 0x7 => .add x byte
  | 0x8 => decodeArithmetic x y low
  | 0x9 => .skipIfRegistersNotEqual x y
  | 0xA => .loadIndex address
  | 0xB => .jumpOffset address
  | 0xC => .random x byte
  | 0xD => .draw x y low
  | 0xE => decodeKeypad x byte
  | 0xF => decodeTransfer x byte
  | _ => .unknown

end Instruction

end ChipEight
