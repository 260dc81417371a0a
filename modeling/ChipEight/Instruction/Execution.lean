import ChipEight.Fault
import ChipEight.Flow
import ChipEight.State

/-!
# Execution

What each instruction does to the state.  An instruction either fails, and then
nothing has happened, or leaves a new state and says where the program counter
goes.  The counter itself is not moved here.

Arithmetic stores its result first and its flag afterwards, so the flag is what
remains when the destination is the flag register.  Only `random` looks at the
random byte it is given.
-/

namespace ChipEight.Instruction

/-- Whether an instruction uses up a random byte. -/
def usesRandom : Instruction → Bool
  | .random _ _ => true
  | _ => false

/-- Pops the latest return address. -/
def returnOn (state : State) : Except Fault (Flow × State) :=
  if state.depth = 0 then
    .error (.stackUnderflow state.counter)
  else
    .ok (.goto state.latestAddress, state.pop)

/-- Pushes the address behind the call and goes to the called one. -/
def callOn
    (address : UInt16) (state : State) : Except Fault (Flow × State) :=
  if stackDepth ≤ state.depth.toNat then
    .error (.stackOverflow state.counter)
  else
    .ok (.goto address, state.push (state.counter + 2))

/-- Combines a sprite from memory with the screen.  The position is read before
the flag register is written. -/
def drawOn (x y rows : UInt8) (state : State) : State :=
  let canvas :=
    (Canvas.ofScreen state.screen).plotSprite
      (state.register x).toNat (state.register y).toNat
      (state.memory.run state.index rows.toNat)
  { state with screen := canvas.screen, redraw := true }.setFlag
    canvas.erased

/-- Moves the index on; the flag tells whether it left the addressable
memory. -/
def addIndexOn (x : UInt8) (state : State) : State :=
  let index := state.index + (state.register x).toUInt16
  { state.setFlag (0x0FFF < index) with index := index }

/-- The decimal digits of a byte, hundreds first. -/
def decimalDigits (value : UInt8) : List UInt8 :=
  [value / 100, value / 10 % 10, value % 10]

/-- Stores the registers up to and including one from the index on. -/
def storeRegistersOn (x : UInt8) (state : State) : State :=
  { state with
    memory :=
      state.memory.store state.index
        (state.registers.toList.take (x.toNat + 1)) }

/-- Loads the registers up to and including one from the index on. -/
def loadRegistersOn (x : UInt8) (state : State) : State :=
  { state with
    registers :=
      Vector.ofFn fun slot : Fin registerCount =>
        if slot.val ≤ x.toNat then
          state.memory.read (state.index + UInt16.ofNat slot.val)
        else
          state.registers[slot] }

/-- Waits until a key is down and stores the lowest one. -/
def waitKeyOn (x : UInt8) (state : State) : Flow × State :=
  match state.firstKey? with
  | some key => (.next, state.setRegister x key)
  | none => (.stay, state)

/-- The effect of an instruction, given the byte the random source would
supply. -/
def execute
    (instruction : Instruction) (chance : UInt8) (state : State) :
    Except Fault (Flow × State) :=
  match instruction with
  | .clearScreen =>
      .ok (.next, { state with screen := Screen.blank, redraw := true })
  | .returnFromCall => returnOn state
  | .jump address => .ok (.goto address, state)
  | .call address => callOn address state
  | .skipIfEqual x byte =>
      .ok (.skipWhen (state.register x == byte), state)
  | .skipIfNotEqual x byte =>
      .ok (.skipWhen (state.register x != byte), state)
  | .skipIfRegistersEqual x y =>
      .ok (.skipWhen (state.register x == state.register y), state)
  | .load x byte => .ok (.next, state.setRegister x byte)
  | .add x byte =>
      .ok (.next, state.setRegister x (state.register x + byte))
  | .move x y => .ok (.next, state.setRegister x (state.register y))
  | .or x y =>
      .ok (.next, state.setRegister x (state.register x ||| state.register y))
  | .and x y =>
      .ok (.next, state.setRegister x (state.register x &&& state.register y))
  | .xor x y =>
      .ok (.next, state.setRegister x (state.register x ^^^ state.register y))
  | .addRegisters x y =>
      let sum := state.register x + state.register y
      .ok
        (.next,
          (state.setRegister x sum).setFlag (sum < state.register x))
  | .subtract x y =>
      .ok
        (.next,
          (state.setRegister x (state.register x - state.register y)).setFlag
            (state.register y ≤ state.register x))
  | .shiftRight x =>
      .ok
        (.next,
          (state.setRegister x (state.register x >>> 1)).setRegister
            State.flagRegister (state.register x &&& 1))
  | .subtractReversed x y =>
      .ok
        (.next,
          (state.setRegister x (state.register y - state.register x)).setFlag
            (state.register x ≤ state.register y))
  | .shiftLeft x =>
      .ok
        (.next,
          (state.setRegister x (state.register x <<< 1)).setRegister
            State.flagRegister (state.register x >>> 7))
  | .skipIfRegistersNotEqual x y =>
      .ok (.skipWhen (state.register x != state.register y), state)
  | .loadIndex address => .ok (.next, { state with index := address })
  | .jumpOffset address =>
      .ok (.goto ((state.register 0).toUInt16 + address), state)
  | .random x byte => .ok (.next, state.setRegister x (chance &&& byte))
  | .draw x y rows => .ok (.next, drawOn x y rows state)
  | .skipIfPressed x =>
      .ok (.skipWhen (state.keyDown (state.register x)), state)
  | .skipIfNotPressed x =>
      .ok (.skipWhen (!state.keyDown (state.register x)), state)
  | .getDelay x => .ok (.next, state.setRegister x state.delayTimer)
  | .waitKey x => .ok (waitKeyOn x state)
  | .setDelay x =>
      .ok (.next, { state with delayTimer := state.register x })
  | .setSound x =>
      .ok (.next, { state with soundTimer := some (state.register x) })
  | .addIndex x => .ok (.next, addIndexOn x state)
  | .loadFont x =>
      .ok
        (.next,
          { state with
            index := (state.register x).toUInt16 * Font.glyphSize })
  | .storeDecimal x =>
      .ok
        (.next,
          { state with
            memory :=
              state.memory.store state.index
                (decimalDigits (state.register x)) })
  | .storeRegisters x => .ok (.next, storeRegistersOn x state)
  | .loadRegisters x => .ok (.next, loadRegistersOn x state)
  | .unknown => .error (.unknownOpcode state.fetch state.counter)

end ChipEight.Instruction
