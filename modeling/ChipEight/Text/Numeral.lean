/-!
# Numerals

Numbers written in a positional base, most significant digit first, with upper
case letters for the digits above nine.  Hexadecimal operands are padded with
zeros to a least number of digits; a longer number is written in full.  Decimal
numbers are also read back, with any number of leading zeros and a sign.
-/

namespace ChipEight.Text

/-- The character of a digit below sixteen. -/
def digitChar (value : Nat) : Char :=
  if value < 10 then
    Char.ofNat (48 + value)
  else
    Char.ofNat (55 + value)

/-- The digits of a number, most significant first.  A base below two has no
positional notation, and the number is then treated as a single digit. -/
def digits (base value : Nat) : List Char :=
  if base < 2 ∨ value < base then
    [digitChar value]
  else
    digits base (value / base) ++ [digitChar (value % base)]
termination_by value
decreasing_by
  exact Nat.div_lt_self (by omega) (by omega)

def decimal (value : Nat) : String :=
  String.ofList (digits 10 value)

/-- A number in base sixteen with at least `width` digits. -/
def hexadecimal (width value : Nat) : String :=
  String.ofList ((digits 16 value).leftpad width '0')

/-- A number in base sixteen behind the mark `0x`, with at least `width`
digits. -/
def markedHexadecimal (width value : Nat) : String :=
  "0x" ++ hexadecimal width value

/-- The number behind some decimal digits, read on from a number. -/
def readFrom (value : Nat) : List Char → Option Nat
  | [] => some value
  | char :: rest =>
      if char.isDigit then
        readFrom (value * 10 + (char.toNat - 48)) rest
      else
        none

/-- The number that decimal digits spell; there has to be one digit at
least. -/
def readDigits? (text : List Char) : Option Nat :=
  if text = [] then none else readFrom 0 text

/-- The number that decimal digits spell, which may have a plus in front. -/
def readNatural? (text : List Char) : Option Nat :=
  match text with
  | '+' :: rest => readDigits? rest
  | _ => readDigits? text

/-- The number that decimal digits with any sign in front spell, if it is not
below zero. -/
def readSigned? (text : List Char) : Option Nat :=
  match text with
  | '-' :: rest => (readDigits? rest).filter (· == 0)
  | _ => readNatural? text

end ChipEight.Text
