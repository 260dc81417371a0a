import ChipEight.Text.Numeral
import ChipEight.Text.Unprintable

/-!
# Quoted text

Text between double quotes.  A quote and a backslash are marked by a backslash,
some controls have a letter of their own, and every other character that cannot
be shown by itself is given by its number in braces.
-/

namespace ChipEight.Text

/-- The hexadecimal digits of a number in lower case. -/
def smallHexadecimal (value : Nat) : List Char :=
  (digits 16 value).map Char.toLower

/-- A character as it is written between quotes. -/
def escaped (char : Char) : List Char :=
  match char with
  | '\x00' => ['\\', '0']
  | '\t' => ['\\', 't']
  | '\n' => ['\\', 'n']
  | '\r' => ['\\', 'r']
  | '"' => ['\\', '"']
  | '\\' => ['\\', '\\']
  | _ =>
      if Unprintable.holds char then
        ['\\', 'u', '\x7b'] ++ smallHexadecimal char.toNat ++ ['\x7d']
      else
        [char]

def quoted (text : String) : String :=
  String.ofList ('"' :: text.toList.flatMap escaped ++ ['"'])

end ChipEight.Text
