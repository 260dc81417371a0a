/-!
# The random source

Random bytes come from the key stream of the ChaCha cipher with twelve rounds.
The stream is a sequence of words, sixteen to a block; each random byte is the
low byte of the next word.  A seed is stretched to a key, so equal seeds give
equal bytes.
-/

namespace ChipEight

/-- A key of the cipher. -/
abbrev StreamKey := Vector UInt32 8

/-- A block of the cipher, before or after its rounds. -/
abbrev StreamBlock := Vector UInt32 16

namespace StreamBlock

def rotateLeft (word amount : UInt32) : UInt32 :=
  (word <<< amount) ||| (word >>> (32 - amount))

/-- Adds one word to another and mixes the sum into a third, which is then
turned. -/
def mix
    (target source mixed : Fin 16) (amount : UInt32)
    (block : StreamBlock) : StreamBlock :=
  let sum := block[target] + block[source]
  let turned := rotateLeft (block[mixed] ^^^ sum) amount
  (block.set target sum).set mixed turned

/-- One quarter of a round, on four words. -/
def quarterRound
    (block : StreamBlock) (a b c d : Fin 16) : StreamBlock :=
  mix c d b 7
    (mix a b d 8
      (mix c d b 12
        (mix a b d 16 block)))

/-- A round on the columns and a round on the diagonals. -/
def doubleRound (block : StreamBlock) : StreamBlock :=
  let columns :=
    (((block.quarterRound 0 4 8 12).quarterRound 1 5 9 13).quarterRound
      2 6 10 14).quarterRound 3 7 11 15
  (((columns.quarterRound 0 5 10 15).quarterRound 1 6 11 12).quarterRound
    2 7 8 13).quarterRound 3 4 9 14

def rounds : Nat → StreamBlock → StreamBlock
  | 0, block => block
  | count + 1, block => rounds count block.doubleRound

/-- A block before its rounds: four constants, the key, the number of the block
with its low word first, and two zeros. -/
def initial (key : StreamKey) (number : UInt64) : StreamBlock :=
  let constants : Vector UInt32 4 :=
    #v[0x61707865, 0x3320646e, 0x79622d32, 0x6b206574]
  let counter : Vector UInt32 4 :=
    #v[number.toUInt32, (number >>> 32).toUInt32, 0, 0]
  (constants ++ key) ++ counter

def ofNumber (key : StreamKey) (number : UInt64) : StreamBlock :=
  let start := initial key number
  Vector.zipWith (· + ·) (rounds 6 start) start

end StreamBlock

/-- A place in the key stream of a key. -/
structure KeyStream where
  key : StreamKey
  position : Nat
  deriving DecidableEq, Repr

namespace KeyStream

/-- The number a seed has become after some steps of the generator that
stretches it. -/
def stretched (seed : UInt64) : Nat → UInt64
  | 0 => seed
  | count + 1 =>
      stretched seed count * 6364136223846793005 + 11634580027462260723

/-- The key word drawn from a number: some of its middle bits, turned to the
right by its five highest bits. -/
def keyWord (number : UInt64) : UInt32 :=
  let middle := (((number >>> 18) ^^^ number) >>> 27).toUInt32
  let turn := (number >>> 59).toUInt32
  (middle >>> turn) ||| (middle <<< (32 - turn))

/-- The start of the key stream that belongs to a seed. -/
def ofSeed (seed : UInt64) : KeyStream where
  key := Vector.ofFn fun slot => keyWord (stretched seed (slot.val + 1))
  position := 0

/-- The word at a position of the key stream. -/
def word (key : StreamKey) (position : Nat) : UInt32 :=
  (StreamBlock.ofNumber key
    (UInt64.ofNat (position / 16)))[Fin.ofNat 16 position]

def byte (stream : KeyStream) : UInt8 :=
  (word stream.key stream.position).toUInt8

def advance (stream : KeyStream) : KeyStream :=
  { stream with position := stream.position + 1 }

/-- A draw never leaves the stream where it was. -/
theorem advance_ne (stream : KeyStream) : stream.advance ≠ stream := by
  intro same
  have samePosition : stream.position + 1 = stream.position :=
    congrArg position same
  omega

end KeyStream

end ChipEight
