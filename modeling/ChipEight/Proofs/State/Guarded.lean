import ChipEight.Proofs.State.History

/-!
# Execution with every access checked

The operations of a state once more, this time with nothing taken for granted.
An index is looked up as it stands, not wrapped into its range; sums, products
and differences that have no meaning outside their type are computed only if
they stay inside it; a run of bytes is copied only where there is room for it.
Whatever breaks one of these conditions yields `none`.  Every definition is named
for the one it checks.

Arithmetic that is meant to wrap, as that of the registers, of the index and of
the program counter, wraps here too.
-/

namespace ChipEight.Guarded

variable {α : Type} {size : Nat}

/-- The vector with one element replaced, if there is one of that index. -/
def replace
    (elements : Vector α size) (index : Nat) (element : α) :
    Option (Vector α size) :=
  if inRange : index < size then
    some (elements.set index element)
  else
    none

/-- The byte after another, if it is a byte. -/
def increment (byte : UInt8) : Option UInt8 :=
  if byte.toNat + 1 < UInt8.size then some (byte + 1) else none

/-- The byte before another, if it is a byte. -/
def decrement (byte : UInt8) : Option UInt8 :=
  if 1 ≤ byte.toNat then some (byte - 1) else none

/-- The sum of two words, if it is a word. -/
def sum (left right : UInt16) : Option UInt16 :=
  if left.toNat + right.toNat < UInt16.size then
    some (left + right)
  else
    none

/-- The product of two words, if it is a word. -/
def product (left right : UInt16) : Option UInt16 :=
  if left.toNat * right.toNat < UInt16.size then
    some (left * right)
  else
    none

/-! ## Memory -/

def read (memory : Memory) (address : UInt16) : Option UInt8 :=
  memory.cells[address.toNat % memorySize]?

def write
    (memory : Memory) (address : UInt16) (byte : UInt8) :
    Option Memory := do
  let cells ← replace memory.cells (address.toNat % memorySize) byte
  return { cells := cells }

def store (memory : Memory) (address : UInt16) :
    List UInt8 → Option Memory
  | [] => some memory
  | byte :: rest => do
      let written ← write memory address byte
      store written (address + 1) rest

def run (memory : Memory) (address : UInt16) :
    Nat → Option (List UInt8)
  | 0 => some []
  | count + 1 => do
      let byte ← read memory address
      let rest ← run memory (address + 1) count
      return byte :: rest

/-- The first bytes of a run, if it has that many. -/
def slice (bytes : List UInt8) (count : Nat) : Option (List UInt8) :=
  if count ≤ bytes.length then some (bytes.take count) else none

/-- Memory with a run of bytes copied to a place, if there is room for it. -/
def copy
    (memory : Memory) (start : UInt16) (bytes : List UInt8) :
    Option Memory :=
  if start.toNat + bytes.length ≤ memorySize then
    some (memory.store start bytes)
  else
    none

/-! ## Registers, keys and the screen -/

def register (state : State) (x : UInt8) : Option UInt8 :=
  state.registers[x.toNat]?

def setRegister (state : State) (x value : UInt8) : Option State := do
  let registers ← replace state.registers x.toNat value
  return { state with registers := registers }

def setFlag (state : State) (condition : Bool) : Option State :=
  setRegister state State.flagRegister condition.toUInt8

def keyDown (state : State) (key : UInt8) : Option Bool :=
  state.keypad[(key &&& 0xF).toNat]?

def fetch (state : State) : Option UInt16 := do
  let high ← read state.memory state.counter
  let low ← read state.memory (state.counter + 1)
  return wordOfBytes high low

def plot
    (canvas : Canvas) (x y : Nat) (bit : UInt8) : Option Canvas := do
  let row ← canvas.screen.rows[y % displayHeight]?
  let cell ← row[x % displayWidth]?
  let drawn ← replace row (x % displayWidth) (cell ^^^ bit)
  let rows ← replace canvas.screen.rows (y % displayHeight) drawn
  return {
    screen := { rows := rows }
    erased := canvas.erased || (bit &&& cell) != 0 }

def plotBits (canvas : Canvas) (x y : Nat) : List UInt8 → Option Canvas
  | [] => some canvas
  | bit :: rest => do
      let plotted ← plot canvas x y bit
      plotBits plotted (x + 1) y rest

def plotSprite (canvas : Canvas) (x y : Nat) : List UInt8 → Option Canvas
  | [] => some canvas
  | byte :: rest => do
      let plotted ← plotBits canvas x y (Canvas.bits byte)
      plotSprite plotted x (y + 1) rest

/-! ## Instructions -/

/-- What an instruction comes to: a fault, or a flow and a state; `none` when a
check failed on the way. -/
abbrev Outcome := Option (Except Fault (Flow × State))

def proceed (state : State) : Outcome :=
  some (.ok (.next, state))

def skipWhen (state : State) (condition : Option Bool) : Outcome := do
  let holds ← condition
  return .ok (.skipWhen holds, state)

def assign (state : State) (x : UInt8) (value : Option UInt8) :
    Outcome := do
  let assigned ← setRegister state x (← value)
  proceed assigned

def combine
    (state : State) (x y : UInt8) (value : UInt8 → UInt8 → UInt8) :
    Outcome := do
  let left ← register state x
  let right ← register state y
  assign state x (some (value left right))

def combineFlagged
    (state : State) (x y : UInt8)
    (value flag : UInt8 → UInt8 → UInt8) : Outcome := do
  let left ← register state x
  let right ← register state y
  let assigned ← setRegister state x (value left right)
  assign assigned State.flagRegister (some (flag left right))

def returnOn (state : State) : Outcome :=
  if state.depth = 0 then
    some (.error (.stackUnderflow state.counter))
  else do
    let depth ← decrement state.depth
    let address ← state.stack[depth.toNat]?
    return .ok (.goto address, { state with depth := depth })

def callOn (address : UInt16) (state : State) : Outcome :=
  if stackDepth ≤ state.depth.toNat then
    some (.error (.stackOverflow state.counter))
  else do
    let stack ← replace state.stack state.depth.toNat (state.counter + 2)
    let depth ← increment state.depth
    return .ok (.goto address, { state with stack := stack, depth := depth })

def drawOn (x y rows : UInt8) (state : State) : Outcome := do
  let column ← register state x
  let row ← register state y
  let sprite ← run state.memory state.index rows.toNat
  let canvas ←
    plotSprite (Canvas.ofScreen state.screen) column.toNat row.toNat sprite
  let flagged ←
    setFlag { state with screen := canvas.screen, redraw := true }
      canvas.erased
  proceed flagged

def addIndexOn (x : UInt8) (state : State) : Outcome := do
  let offset ← register state x
  let index := state.index + offset.toUInt16
  let flagged ← setFlag state (0x0FFF < index)
  proceed { flagged with index := index }

/-- Writes one register to memory, as far behind the index as its number
says. -/
def storeRegister (state : State) (slot : Nat) : Option State := do
  let value ← state.registers[slot]?
  let memory ←
    write state.memory (state.index + UInt16.ofNat slot) value
  return { state with memory := memory }

/-- Reads one register from memory, as far behind the index as its number
says. -/
def loadRegister (state : State) (slot : Nat) : Option State := do
  let byte ← read state.memory (state.index + UInt16.ofNat slot)
  let registers ← replace state.registers slot byte
  return { state with registers := registers }

def execute
    (instruction : Instruction) (chance : UInt8) (state : State) :
    Outcome :=
  match instruction with
  | .clearScreen =>
      proceed { state with screen := Screen.blank, redraw := true }
  | .returnFromCall => returnOn state
  | .jump address => some (.ok (.goto address, state))
  | .call address => callOn address state
  | .skipIfEqual x byte =>
      skipWhen state ((register state x).map (· == byte))
  | .skipIfNotEqual x byte =>
      skipWhen state ((register state x).map (· != byte))
  | .skipIfRegistersEqual x y => do
      let left ← register state x
      skipWhen state ((register state y).map (left == ·))
  | .load x byte => assign state x (some byte)
  | .add x byte => assign state x ((register state x).map (· + byte))
  | .move x y => assign state x (register state y)
  | .or x y => combine state x y (· ||| ·)
  | .and x y => combine state x y (· &&& ·)
  | .xor x y => combine state x y (· ^^^ ·)
  | .addRegisters x y =>
      combineFlagged state x y (· + ·) fun left right =>
        (decide (left + right < left)).toUInt8
  | .subtract x y =>
      combineFlagged state x y (· - ·) fun left right =>
        (decide (right ≤ left)).toUInt8
  | .shiftRight x =>
      combineFlagged state x x (fun value _ => value >>> 1)
        fun value _ => value &&& 1
  | .subtractReversed x y =>
      combineFlagged state x y (fun left right => right - left)
        fun left right => (decide (left ≤ right)).toUInt8
  | .shiftLeft x =>
      combineFlagged state x x (fun value _ => value <<< 1)
        fun value _ => value >>> 7
  | .skipIfRegistersNotEqual x y => do
      let left ← register state x
      skipWhen state ((register state y).map (left != ·))
  | .loadIndex address => proceed { state with index := address }
  | .jumpOffset address => do
      let offset ← register state 0
      let target ← sum offset.toUInt16 address
      return .ok (.goto target, state)
  | .random x byte => assign state x (some (chance &&& byte))
  | .draw x y rows => drawOn x y rows state
  | .skipIfPressed x => do
      let key ← register state x
      skipWhen state (keyDown state key)
  | .skipIfNotPressed x => do
      let key ← register state x
      skipWhen state ((keyDown state key).map (!·))
  | .getDelay x => assign state x (some state.delayTimer)
  | .waitKey x =>
      match state.firstKey? with
      | some key => assign state x (some key)
      | none => some (.ok (.stay, state))
  | .setDelay x => do
      let value ← register state x
      proceed { state with delayTimer := value }
  | .setSound x => do
      let value ← register state x
      proceed { state with soundTimer := some value }
  | .addIndex x => addIndexOn x state
  | .loadFont x => do
      let glyph ← register state x
      let index ← product glyph.toUInt16 Font.glyphSize
      proceed { state with index := index }
  | .storeDecimal x => do
      let value ← register state x
      let memory ←
        store state.memory state.index (Instruction.decimalDigits value)
      proceed { state with memory := memory }
  | .storeRegisters x => do
      let stored ←
        (List.range (x.toNat + 1)).foldlM storeRegister state
      proceed stored
  | .loadRegisters x => do
      let loaded ←
        (List.range (x.toNat + 1)).foldlM loadRegister state
      proceed loaded
  | .unknown => do
      let word ← fetch state
      return .error (.unknownOpcode word state.counter)

/-! ## What happens to a state from outside -/

def fresh : Option State := do
  let memory ← copy Memory.blank 0 Font.glyphs
  return { State.fresh with memory := memory }

def ofProgram (program : List UInt8) : Option State := do
  let state ← fresh
  let fitting ←
    slice program (min program.length State.programCapacity)
  let memory ← copy state.memory programStart fitting
  return { state with memory := memory }

def step
    (state : State) (chance : UInt8) :
    Option (State × Except Fault Instruction) := do
  let ready := { state with redraw := false }
  let word ← fetch ready
  let instruction := Instruction.decode word
  match ← execute instruction chance ready with
  | .ok (flow, after) =>
      return ({ after with counter := flow.after ready.counter },
        .ok instruction)
  | .error fault => return (ready, .error fault)

def countDown (timer : UInt8) : Option UInt8 :=
  if 0 < timer then decrement timer else some timer

def tick (state : State) : Option (State × Bool) := do
  let delay ← countDown state.delayTimer
  match state.soundTimer with
  | none => return ({ state with delayTimer := delay }, false)
  | some sound =>
      if sound = 0 then
        return ({ state with delayTimer := delay, soundTimer := none }, true)
      else
        let remaining ← decrement sound
        return (
          { state with delayTimer := delay, soundTimer := some remaining },
          false)

def setKey (state : State) (key : UInt8) (pressed : Bool) : State :=
  match replace state.keypad key.toNat pressed with
  | some keypad => { state with keypad := keypad }
  | none => state

def apply (state : State) : Input → Option State
  | .reset program => ofProgram program
  | .step chance => (step state chance).map Prod.fst
  | .tick => (tick state).map Prod.fst
  | .key key pressed => some (setKey state key pressed)

def runFrom (state : State) (history : List Input) : Option State :=
  history.foldlM apply state

end ChipEight.Guarded
