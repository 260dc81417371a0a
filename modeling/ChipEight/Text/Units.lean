/-!
# Code units

Text as a sequence of numbers, in which a character beyond the first 65536 may
stand as itself or as a pair of surrogates, a leading and a trailing one.  A
surrogate without its partner stands for no character.
-/

namespace ChipEight.Text.Units

/-- Whether a unit is the first of a pair. -/
def isLeading (unit : Nat) : Bool :=
  0xD800 ≤ unit && unit < 0xDC00

/-- Whether a unit is the second of a pair. -/
def isTrailing (unit : Nat) : Bool :=
  0xDC00 ≤ unit && unit < 0xE000

/-- The character of a pair. -/
def combine (leading trailing : Nat) : Char :=
  Char.ofNat (0x10000 + (leading - 0xD800) * 0x400 + (trailing - 0xDC00))

/-- The characters that units stand for, unless a surrogate is alone. -/
def decode : List Nat → Option (List Char)
  | [] => some []
  | unit :: rest =>
      if isLeading unit then
        match rest with
        | partner :: rest =>
            if isTrailing partner then
              (decode rest).map (combine unit partner :: ·)
            else
              none
        | [] => none
      else if isTrailing unit then
        none
      else
        (decode rest).map (Char.ofNat unit :: ·)

end ChipEight.Text.Units
