import ChipEight.Instruction
import ChipEight.Text.Numeral

/-!
# Assembly notation

The line of assembly an instruction is shown as.  Registers are `V` and one
hexadecimal digit, addresses have at least three hexadecimal digits behind `0x`,
immediates at least two, and the height of a sprite is decimal.
-/

namespace ChipEight.Instruction

open ChipEight.Text

def registerName (x : UInt8) : String :=
  "V" ++ hexadecimal 1 x.toNat

/-- The notation of an address operand. -/
def addressText (address : UInt16) : String :=
  markedHexadecimal 3 address.toNat

/-- The notation of an immediate operand. -/
def byteText (byte : UInt8) : String :=
  markedHexadecimal 2 byte.toNat

def onRegisters (name : String) (x y : UInt8) : String :=
  name ++ " " ++ registerName x ++ ", " ++ registerName y

def onByte (name : String) (x byte : UInt8) : String :=
  name ++ " " ++ registerName x ++ ", " ++ byteText byte

/-- The assembly notation of an instruction; an unknown word is shown as three
question marks. -/
def mnemonic : Instruction → String
  | .clearScreen => "CLS"
  | .returnFromCall => "RET"
  | .jump address => "JP " ++ addressText address
  | .call address => "CALL " ++ addressText address
  | .skipIfEqual x byte => onByte "SE" x byte
  | .skipIfNotEqual x byte => onByte "SNE" x byte
  | .skipIfRegistersEqual x y => onRegisters "SE" x y
  | .load x byte => onByte "LD" x byte
  | .add x byte => onByte "ADD" x byte
  | .move x y => onRegisters "LD" x y
  | .or x y => onRegisters "OR" x y
  | .and x y => onRegisters "AND" x y
  | .xor x y => onRegisters "XOR" x y
  | .addRegisters x y => onRegisters "ADD" x y
  | .subtract x y => onRegisters "SUB" x y
  | .shiftRight x => "SHR " ++ registerName x
  | .subtractReversed x y => onRegisters "SUBN" x y
  | .shiftLeft x => "SHL " ++ registerName x
  | .skipIfRegistersNotEqual x y => onRegisters "SNE" x y
  | .loadIndex address => "LD I, " ++ addressText address
  | .jumpOffset address => "JP V0, " ++ addressText address
  | .random x byte => onByte "RND" x byte
  | .draw x y rows => onRegisters "DRW" x y ++ ", " ++ decimal rows.toNat
  | .skipIfPressed x => "SKP " ++ registerName x
  | .skipIfNotPressed x => "SKNP " ++ registerName x
  | .getDelay x => "LD " ++ registerName x ++ ", DT"
  | .waitKey x => "LD " ++ registerName x ++ ", K"
  | .setDelay x => "LD DT, " ++ registerName x
  | .setSound x => "LD ST, " ++ registerName x
  | .addIndex x => "ADD I, " ++ registerName x
  | .loadFont x => "LD F, " ++ registerName x
  | .storeDecimal x => "LD B, " ++ registerName x
  | .storeRegisters x => "LD [I], " ++ registerName x
  | .loadRegisters x => "LD " ++ registerName x ++ ", [I]"
  | .unknown => "???"

end ChipEight.Instruction
