/-!
# Dimensions of the console

The sizes every other module agrees on: the display, the memory, the register
file, the return stack, the keypad, and the two nominal clock rates.  Sizes are
abbreviations, so that they may stand in the types of fixed-length vectors.
-/

namespace ChipEight

abbrev displayWidth : Nat := 64

abbrev displayHeight : Nat := 32

abbrev memorySize : Nat := 4096

/-- Where programs are loaded and where execution begins. -/
def programStart : UInt16 := 0x200

abbrev registerCount : Nat := 16

/-- Number of return addresses the stack can hold. -/
abbrev stackDepth : Nat := 16

abbrev keyCount : Nat := 16

theorem registerCount_pos : 0 < registerCount := by decide

theorem stackDepth_pos : 0 < stackDepth := by decide

theorem keyCount_pos : 0 < keyCount := by decide

/-- Nominal number of instructions executed per second. -/
def nominalCycleRate : UInt32 := 500

/-- Number of times per second the two timers count down. -/
def timerRate : UInt32 := 60

end ChipEight
