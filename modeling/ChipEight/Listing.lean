import ChipEight.Dimensions
import ChipEight.Instruction.Mnemonic

/-!
# Listings

A program image read two bytes at a time, high byte first, as it would lie in
memory from the program start on.  A listing is a position in such an image: it
can be advanced, kept for later, and asked how many lines are still to come.  A
last single byte makes no line, and addresses wrap at sixteen bits.
-/

namespace ChipEight

/-- The word made of a high and a low byte. -/
def wordOfBytes (high low : UInt8) : UInt16 :=
  (high.toUInt16 <<< 8) ||| low.toUInt16

/-- What is left to list: the bytes not yet read and the address of the first
of them. -/
structure Listing where
  bytes : List UInt8
  address : UInt16
  deriving DecidableEq, Repr

namespace Listing

/-- One word of a program image, where it lies, and what it stands for. -/
structure Line where
  address : UInt16
  word : UInt16
  instruction : Instruction
  deriving DecidableEq, Repr

/-- The line as it is printed: address, word and mnemonic, two blanks between
them. -/
def Line.text (line : Line) : String :=
  Text.hexadecimal 4 line.address.toNat ++ "  " ++
    Text.hexadecimal 4 line.word.toNat ++ "  " ++
      line.instruction.mnemonic

def ofProgram (program : List UInt8) : Listing where
  bytes := program
  address := programStart

def remaining (listing : Listing) : Nat :=
  listing.bytes.length / 2

/-- The next line and the listing behind it, unless fewer than two bytes are
left. -/
def next? (listing : Listing) : Option (Line × Listing) :=
  match listing.bytes with
  | high :: low :: rest =>
      let word := wordOfBytes high low
      some
        ({ address := listing.address
           word := word
           instruction := Instruction.decode word },
         { bytes := rest
           address := listing.address + 2 })
  | _ => none

/-- The listing behind the next line; a listing at its end stays there. -/
def advance (listing : Listing) : Listing :=
  match listing.next? with
  | some (_, rest) => rest
  | none => listing

/-- The lines of some bytes from an address on. -/
def linesFrom (address : UInt16) : List UInt8 → List Line
  | high :: low :: rest =>
      let word := wordOfBytes high low
      { address := address
        word := word
        instruction := Instruction.decode word } ::
        linesFrom (address + 2) rest
  | _ => []

/-- All lines still to come. -/
def lines (listing : Listing) : List Line :=
  linesFrom listing.address listing.bytes

theorem length_linesFrom (address : UInt16) (bytes : List UInt8) :
    (linesFrom address bytes).length = bytes.length / 2 := by
  match bytes with
  | [] => rfl
  | [_] => simp [linesFrom]
  | _ :: _ :: rest =>
      have inner := length_linesFrom (address + 2) rest
      simp only [linesFrom, List.length_cons, inner]
      omega

/-- As many lines are still to come as the listing says. -/
theorem length_lines (listing : Listing) :
    listing.lines.length = listing.remaining :=
  length_linesFrom listing.address listing.bytes

/-- The next line is the first of those still to come. -/
theorem lines_of_next?
    {listing rest : Listing} {line : Line}
    (found : listing.next? = some (line, rest)) :
    listing.lines = line :: rest.lines := by
  unfold next? at found
  split at found
  · rename_i bytes
    cases found
    simp only [lines, bytes, linesFrom]
  · cases found

/-- The lines of a whole program image as they are printed. -/
def print (program : List UInt8) : List String :=
  (ofProgram program).lines.map Line.text

end Listing

end ChipEight
