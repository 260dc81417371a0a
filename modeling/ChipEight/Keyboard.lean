import ChipEight.Text.Numeral

/-!
# The keyboard

The sixteen keys of the keypad lie on the four left columns of a keyboard:

    1 2 3 C        1 2 3 4
    4 5 6 D        Q W E R
    7 8 9 E   on   A S D F
    A 0 B F        Z X C V

Three further keys control the console.  A key with a printable character is
known by the code of that character in lower case.
-/

namespace ChipEight.Keyboard

/-- What a key of the keyboard means. -/
inductive Action where
  /-- A key of the keypad. -/
  | keypad (key : UInt8)
  /-- Pause, or go on after a pause. -/
  | togglePause
  | restart
  | quit
  deriving DecidableEq, Repr

/-- The keys that stand for the keypad, row by row. -/
def layout : List (Char × UInt8) :=
  [ ('1', 0x1), ('2', 0x2), ('3', 0x3), ('4', 0xC),
    ('q', 0x4), ('w', 0x5), ('e', 0x6), ('r', 0xD),
    ('a', 0x7), ('s', 0x8), ('d', 0x9), ('f', 0xE),
    ('z', 0xA), ('x', 0x0), ('c', 0xB), ('v', 0xF) ]

def backspace : Nat := 8

def escape : Nat := 27

/-- What the key with a code means, if anything. -/
def action? (code : Nat) : Option Action :=
  if code = 'p'.toNat then
    some .togglePause
  else if code = backspace then
    some .restart
  else if code = escape then
    some .quit
  else
    (layout.find? fun entry => entry.1.toNat == code).map fun entry =>
      .keypad entry.2

/-- The name of an action, with its key if it has one. -/
def Action.record : Action → String
  | .keypad key => "Keypad(" ++ Text.decimal key.toNat ++ ")"
  | .togglePause => "TogglePause"
  | .restart => "Restart"
  | .quit => "Quit"

/-- The meaning of a key as text, also when it has none. -/
def record : Option Action → String
  | some action => "Some(" ++ action.record ++ ")"
  | none => "None"

end ChipEight.Keyboard
