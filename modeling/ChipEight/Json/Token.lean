/-!
# Tokens of JSON

The text is read one character at a time by a machine that remembers in which
kind of token it is.  Blanks separate tokens and mean nothing else.  A number or
a word ends at the first character that cannot belong to it.

The contents of a string are code units: a character that stands for itself is
one unit, an escape with four hexadecimal digits is the unit it names.  Whether
surrogates are paired is not looked at here.
-/

namespace ChipEight.Json

/-- A token of JSON. -/
inductive Token where
  | openArray
  | closeArray
  | openObject
  | closeObject
  | comma
  | colon
  | null
  | truth (value : Bool)
  | number (digits : List Char)
  | text (units : List Nat)
  deriving DecidableEq, Repr

/-- How much of a number has been read. -/
inductive NumberPart where
  /-- The sign; a digit has to follow. -/
  | sign
  /-- A zero in front; no digit may follow. -/
  | zero
  /-- Some digits of the whole part. -/
  | whole
  /-- The point; a digit has to follow. -/
  | point
  /-- Some digits of the fraction. -/
  | fraction
  /-- The mark of the exponent; its sign or a digit has to follow. -/
  | mark
  /-- The sign of the exponent; a digit has to follow. -/
  | exponentSign
  /-- Some digits of the exponent. -/
  | exponent
  deriving DecidableEq, Repr

namespace NumberPart

/-- Whether a number may end here. -/
def complete : NumberPart → Bool
  | .zero => true
  | .whole => true
  | .fraction => true
  | .exponent => true
  | _ => false

/-- The part a number that starts with a character is in. -/
def first? (char : Char) : Option NumberPart :=
  if char = '-' then
    some .sign
  else if char = '0' then
    some .zero
  else if char.isDigit then
    some .whole
  else
    none

/-- Where a fraction or an exponent begins behind digits. -/
def behindDigits? (char : Char) : Option NumberPart :=
  if char = '.' then
    some .point
  else if char = 'e' ∨ char = 'E' then
    some .mark
  else
    none

/-- The part of a number after one more character, if the character can belong
to it. -/
def next? (part : NumberPart) (char : Char) : Option NumberPart :=
  match part with
  | .sign =>
      if char = '0' then
        some .zero
      else if char.isDigit then
        some .whole
      else
        none
  | .zero => behindDigits? char
  | .whole =>
      if char.isDigit then some .whole else behindDigits? char
  | .point => if char.isDigit then some .fraction else none
  | .fraction =>
      if char.isDigit then
        some .fraction
      else if char = 'e' ∨ char = 'E' then
        some .mark
      else
        none
  | .mark =>
      if char = '+' ∨ char = '-' then
        some .exponentSign
      else if char.isDigit then
        some .exponent
      else
        none
  | .exponentSign => if char.isDigit then some .exponent else none
  | .exponent => if char.isDigit then some .exponent else none

end NumberPart

/-- What the machine is inside of; whatever it collects has the latest item
first. -/
inductive Mode where
  /-- Between two tokens. -/
  | gap
  /-- Inside a word of lower case letters. -/
  | word (letters : List Char)
  /-- Inside a number. -/
  | number (part : NumberPart) (digits : List Char)
  /-- Inside a string. -/
  | text (units : List Nat)
  /-- Behind the backslash of an escape. -/
  | escape (units : List Nat)
  /-- Inside an escape by number, some digits of which are missing. -/
  | code (units : List Nat) (missing value : Nat)
  deriving DecidableEq, Repr

/-- The state of the machine: what it is inside of, and the tokens behind it
with the latest first. -/
structure Scan where
  mode : Mode
  tokens : List Token
  deriving DecidableEq, Repr

namespace Scan

/-- Whether a character separates tokens. -/
def isBlank (char : Char) : Bool :=
  char == ' ' || char == '\t' || char == '\n' || char == '\r'

/-- The token of a character that is one by itself. -/
def mark? (char : Char) : Option Token :=
  match char with
  | '[' => some .openArray
  | ']' => some .closeArray
  | '\x7b' => some .openObject
  | '\x7d' => some .closeObject
  | ',' => some .comma
  | ':' => some .colon
  | _ => none

/-- The token of a word. -/
def word? (letters : List Char) : Option Token :=
  if letters = ['n', 'u', 'l', 'l'] then
    some .null
  else if letters = ['t', 'r', 'u', 'e'] then
    some (.truth true)
  else if letters = ['f', 'a', 'l', 's', 'e'] then
    some (.truth false)
  else
    none

/-- The unit of an escape that is a single character. -/
def escape? (char : Char) : Option Nat :=
  match char with
  | '"' => some 0x22
  | '\\' => some 0x5C
  | '/' => some 0x2F
  | 'b' => some 0x08
  | 'f' => some 0x0C
  | 'n' => some 0x0A
  | 'r' => some 0x0D
  | 't' => some 0x09
  | _ => none

/-- The value of a hexadecimal digit of either case. -/
def hexValue? (char : Char) : Option Nat :=
  if char.isDigit then
    some (char.toNat - 48)
  else if 'a' ≤ char ∧ char ≤ 'f' then
    some (char.toNat - 87)
  else if 'A' ≤ char ∧ char ≤ 'F' then
    some (char.toNat - 55)
  else
    none

def start : Scan where
  mode := .gap
  tokens := []

def stepGap (tokens : List Token) (char : Char) : Option Scan :=
  if isBlank char then
    some ⟨.gap, tokens⟩
  else if char = '"' then
    some ⟨.text [], tokens⟩
  else if char.isLower then
    some ⟨.word [char], tokens⟩
  else
    match NumberPart.first? char with
    | some part => some ⟨.number part [char], tokens⟩
    | none => (mark? char).map fun token => ⟨.gap, token :: tokens⟩

def stepText
    (units : List Nat) (tokens : List Token) (char : Char) :
    Option Scan :=
  if char = '"' then
    some ⟨.gap, .text units.reverse :: tokens⟩
  else if char = '\\' then
    some ⟨.escape units, tokens⟩
  else if char.toNat < 0x20 then
    none
  else
    some ⟨.text (char.toNat :: units), tokens⟩

def stepEscape
    (units : List Nat) (tokens : List Token) (char : Char) :
    Option Scan :=
  if char = 'u' then
    some ⟨.code units 4 0, tokens⟩
  else
    (escape? char).map fun unit => ⟨.text (unit :: units), tokens⟩

def stepCode
    (units : List Nat) (missing value : Nat) (tokens : List Token)
    (char : Char) : Option Scan :=
  (hexValue? char).map fun digit =>
    let value := value * 16 + digit
    if missing ≤ 1 then
      ⟨.text (value :: units), tokens⟩
    else
      ⟨.code units (missing - 1) value, tokens⟩

/-- The machine after one more character, unless the character can stand in no
text of JSON. -/
def step (scan : Scan) (char : Char) : Option Scan :=
  match scan.mode with
  | .gap => stepGap scan.tokens char
  | .word letters =>
      if char.isLower then
        some ⟨.word (char :: letters), scan.tokens⟩
      else
        (word? letters.reverse).bind fun token =>
          stepGap (token :: scan.tokens) char
  | .number part digits =>
      match part.next? char with
      | some part => some ⟨.number part (char :: digits), scan.tokens⟩
      | none =>
          if part.complete then
            stepGap (.number digits.reverse :: scan.tokens) char
          else
            none
  | .text units => stepText units scan.tokens char
  | .escape units => stepEscape units scan.tokens char
  | .code units missing value =>
      stepCode units missing value scan.tokens char

/-- The tokens read, if the text may end here. -/
def finish (scan : Scan) : Option (List Token) :=
  match scan.mode with
  | .gap => some scan.tokens.reverse
  | .word letters =>
      (word? letters.reverse).map fun token =>
        (token :: scan.tokens).reverse
  | .number part digits =>
      if part.complete then
        some (.number digits.reverse :: scan.tokens).reverse
      else
        none
  | _ => none

end Scan

/-- The tokens of a text, unless it has a place that belongs to none. -/
def Token.ofText? (text : List Char) : Option (List Token) :=
  (text.foldlM Scan.step Scan.start).bind Scan.finish

end ChipEight.Json
