import ChipEight.Fault
import ChipEight.Instruction.Mnemonic
import ChipEight.Phase
import ChipEight.State

/-!
# Notices

What a console tells whoever keeps its log.  Every notice has a level of
importance and one line of text.
-/

namespace ChipEight

open ChipEight.Text

/-- How important a notice is. -/
inductive Notice.Level where
  | error
  | warning
  | information
  | detail
  | trace
  deriving DecidableEq, Repr

/-- Something worth a line in the log. -/
inductive Notice where
  /-- A program was too long for the memory. -/
  | programTruncated (length : Nat)
  /-- A key number beyond the keypad was ignored. -/
  | keyIgnored (key : UInt8)
  /-- An instruction is about to be executed. -/
  | executing (counter word : UInt16)
  /-- There was no program to restart. -/
  | nothingToRestart
  | programLoaded (length : Nat)
  | phaseChanged (before after : Phase)
  /-- An instruction failed, and the console stopped. -/
  | halted (fault : Fault)
  | soundExpired
  | serviceStopped
  /-- A request came after the service had ended. -/
  | requestDropped
  /-- A game was found in the catalog. -/
  | gameLoading (name : String)
  deriving DecidableEq, Repr

namespace Notice

def Level.name : Level → String
  | .error => "ERROR"
  | .warning => "WARN"
  | .information => "INFO"
  | .detail => "DEBUG"
  | .trace => "TRACE"

def level : Notice → Level
  | .programTruncated _ => .warning
  | .keyIgnored _ => .warning
  | .executing _ _ => .trace
  | .nothingToRestart => .warning
  | .programLoaded _ => .information
  | .phaseChanged _ _ => .information
  | .halted _ => .error
  | .soundExpired => .detail
  | .serviceStopped => .information
  | .requestDropped => .warning
  | .gameLoading _ => .information

def message : Notice → String
  | .programTruncated length =>
      "ROM is " ++ decimal length ++ " bytes but only " ++
        decimal State.programCapacity ++ " fit in memory; truncating"
  | .keyIgnored key =>
      "ignoring key " ++ markedHexadecimal 2 key.toNat ++
        "; the keypad only has " ++ decimal keyCount ++ " keys"
  | .executing counter word =>
      hexadecimal 4 counter.toNat ++ " " ++ hexadecimal 4 word.toNat ++
        " " ++ (Instruction.decode word).mnemonic
  | .nothingToRestart => "restart requested before any ROM was loaded"
  | .programLoaded length => "loaded " ++ decimal length ++ " byte ROM"
  | .phaseChanged before after => before.name ++ " -> " ++ after.name
  | .halted fault => "halting emulation: " ++ fault.message
  | .soundExpired => "sound trigger"
  | .serviceStopped => "emulation worker stopped"
  | .requestDropped => "emulation worker is gone; dropping command"
  | .gameLoading name => "loading " ++ name

/-- The line a notice takes in the log. -/
def line (notice : Notice) : String :=
  notice.level.name ++ " " ++ notice.message

/-- The notices that loading a program gives rise to. -/
def ofProgram (program : List UInt8) : List Notice :=
  if State.programCapacity < program.length then
    [.programTruncated program.length]
  else
    []

/-- The notices that pressing or releasing a key gives rise to. -/
def ofKey (key : UInt8) : List Notice :=
  if key.toNat < keyCount then [] else [.keyIgnored key]

end Notice

end ChipEight
