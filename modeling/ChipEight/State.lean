import ChipEight.Font
import ChipEight.Memory
import ChipEight.Screen
import ChipEight.Listing

/-!
# The state of the console

Registers, memory, screen, keypad and timers.  The stack pointer counts the
return addresses held, so it always names the next free slot.  The sound timer
is absent while no sound is due.  The redraw mark is set by instructions that
touch the screen.
-/

namespace ChipEight

/-- Everything an instruction can look at or change, the random source apart. -/
structure State where
  registers : Vector UInt8 registerCount
  index : UInt16
  counter : UInt16
  depth : UInt8
  stack : Vector UInt16 stackDepth
  memory : Memory
  screen : Screen
  keypad : Vector Bool keyCount
  delayTimer : UInt8
  soundTimer : Option UInt8
  redraw : Bool
  deriving DecidableEq, Repr

namespace State

/-- The number of program bytes that fit behind the program start. -/
def programCapacity : Nat :=
  memorySize - programStart.toNat

/-- The state before any program was loaded: the font lies at the start of
memory and all else is zero. -/
def fresh : State where
  registers := Vector.replicate registerCount 0
  index := 0
  counter := programStart
  depth := 0
  stack := Vector.replicate stackDepth 0
  memory := Memory.blank.store 0 Font.glyphs
  screen := Screen.blank
  keypad := Vector.replicate keyCount false
  delayTimer := 0
  soundTimer := none
  redraw := false

/-- A fresh state with a program in memory.  Bytes that do not fit are left
out. -/
def ofProgram (program : List UInt8) : State :=
  { fresh with
    memory :=
      fresh.memory.store programStart (program.take programCapacity) }

/-- The slot of a register number. -/
def registerSlot (x : UInt8) : Fin registerCount :=
  ⟨x.toNat % registerCount, Nat.mod_lt _ registerCount_pos⟩

def register (state : State) (x : UInt8) : UInt8 :=
  state.registers[registerSlot x]

def setRegister (state : State) (x value : UInt8) : State :=
  { state with
    registers := state.registers.set (registerSlot x) value }

theorem register_setRegister (state : State) (x y value : UInt8) :
    (state.setRegister x value).register y =
      if registerSlot x = registerSlot y then
        value
      else
        state.register y := by
  simp only [register, setRegister, Fin.getElem_fin, Vector.getElem_set,
    Fin.ext_iff]

/-- The register that doubles as carry, borrow and collision flag. -/
def flagRegister : UInt8 := 0xF

/-- The state with the flag register telling whether a condition holds. -/
def setFlag (state : State) (condition : Bool) : State :=
  state.setRegister flagRegister condition.toUInt8

/-- The slot of the return stack a depth names. -/
def stackSlot (depth : UInt8) : Fin stackDepth :=
  ⟨depth.toNat % stackDepth, Nat.mod_lt _ stackDepth_pos⟩

/-- The state with one more address on its return stack. -/
def push (state : State) (address : UInt16) : State :=
  { state with
    stack := state.stack.set (stackSlot state.depth) address
    depth := state.depth + 1 }

/-- The state with one address less on its return stack; the slot keeps its
content. -/
def pop (state : State) : State :=
  { state with depth := state.depth - 1 }

/-- The address on top of the return stack. -/
def latestAddress (state : State) : UInt16 :=
  state.stack[stackSlot state.pop.depth]

/-- The slot of the keypad the low four bits of a number name. -/
def keySlot (key : UInt8) : Fin keyCount :=
  ⟨key.toNat % keyCount, Nat.mod_lt _ keyCount_pos⟩

/-- Whether the key named by the low four bits of a number is down. -/
def keyDown (state : State) (key : UInt8) : Bool :=
  state.keypad[keySlot key]

/-- The state with a key pressed or released; a number beyond the keypad
changes nothing. -/
def setKey (state : State) (key : UInt8) (pressed : Bool) : State :=
  if present : key.toNat < keyCount then
    { state with
      keypad := state.keypad.set key.toNat pressed present }
  else
    state

/-- The lowest numbered key that is down. -/
def firstKey? (state : State) : Option UInt8 :=
  (state.keypad.toList.findIdx? id).map UInt8.ofNat

/-- The word the program counter points at. -/
def fetch (state : State) : UInt16 :=
  wordOfBytes
    (state.memory.read state.counter)
    (state.memory.read (state.counter + 1))

end State

end ChipEight
