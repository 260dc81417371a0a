import ChipEight.Instruction
import ChipEight.Text.Numeral

/-!
# Record notation

A second, more verbose notation of instructions: the name of the operation and,
between braces, every operand with its name and its decimal value.
-/

namespace ChipEight.Instruction

open ChipEight.Text

/-- A name followed by its operands in braces, or the bare name when there are
none. -/
def braced (name : String) (operands : List (String × Nat)) : String :=
  match operands with
  | [] => name
  | _ =>
      name ++ " \x7b " ++
        ", ".intercalate
          (operands.map fun operand =>
            operand.1 ++ ": " ++ decimal operand.2) ++
        " \x7d"

def bracedAddress (name : String) (address : UInt16) : String :=
  braced name [("addr", address.toNat)]

def bracedByte (name : String) (x byte : UInt8) : String :=
  braced name [("x", x.toNat), ("kk", byte.toNat)]

def bracedPair (name : String) (x y : UInt8) : String :=
  braced name [("x", x.toNat), ("y", y.toNat)]

def bracedRegister (name : String) (x : UInt8) : String :=
  braced name [("x", x.toNat)]

def record : Instruction → String
  | .clearScreen => "ClearScreen"
  | .returnFromCall => "Return"
  | .jump address => bracedAddress "Jump" address
  | .call address => bracedAddress "Call" address
  | .skipIfEqual x byte => bracedByte "SkipIfEqual" x byte
  | .skipIfNotEqual x byte => bracedByte "SkipIfNotEqual" x byte
  | .skipIfRegistersEqual x y => bracedPair "SkipIfRegistersEqual" x y
  | .load x byte => bracedByte "Load" x byte
  | .add x byte => bracedByte "Add" x byte
  | .move x y => bracedPair "Move" x y
  | .or x y => bracedPair "Or" x y
  | .and x y => bracedPair "And" x y
  | .xor x y => bracedPair "Xor" x y
  | .addRegisters x y => bracedPair "AddRegisters" x y
  | .subtract x y => bracedPair "Sub" x y
  | .shiftRight x => bracedRegister "ShiftRight" x
  | .subtractReversed x y => bracedPair "SubReversed" x y
  | .shiftLeft x => bracedRegister "ShiftLeft" x
  | .skipIfRegistersNotEqual x y => bracedPair "SkipIfRegistersNotEqual" x y
  | .loadIndex address => bracedAddress "LoadIndex" address
  | .jumpOffset address => bracedAddress "JumpOffset" address
  | .random x byte => bracedByte "Random" x byte
  | .draw x y rows =>
      braced "Draw" [("x", x.toNat), ("y", y.toNat), ("n", rows.toNat)]
  | .skipIfPressed x => bracedRegister "SkipIfPressed" x
  | .skipIfNotPressed x => bracedRegister "SkipIfNotPressed" x
  | .getDelay x => bracedRegister "GetDelay" x
  | .waitKey x => bracedRegister "WaitKey" x
  | .setDelay x => bracedRegister "SetDelay" x
  | .setSound x => bracedRegister "SetSound" x
  | .addIndex x => bracedRegister "AddIndex" x
  | .loadFont x => bracedRegister "LoadFont" x
  | .storeDecimal x => bracedRegister "StoreBcd" x
  | .storeRegisters x => bracedRegister "StoreRegisters" x
  | .loadRegisters x => bracedRegister "LoadRegisters" x
  | .unknown => "Unknown"

end ChipEight.Instruction
