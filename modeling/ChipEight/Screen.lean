import ChipEight.Dimensions
import ChipEight.Text.Numeral

/-!
# The screen

A grid of cells, each `1` when its pixel is lit and `0` when it is dark.
Columns and rows wrap at the edges, so every pair of numbers names a pixel.
Drawing combines bits with the cells by exclusive or; a canvas carries along
whether a lit pixel was turned off on the way.
-/

namespace ChipEight

/-- The cells of the display, row by row. -/
structure Screen where
  rows : Vector (Vector UInt8 displayWidth) displayHeight
  deriving DecidableEq, Repr

namespace Screen

def blank : Screen where
  rows :=
    Vector.replicate displayHeight (Vector.replicate displayWidth 0)

def row (screen : Screen) (y : Nat) : Vector UInt8 displayWidth :=
  screen.rows[Fin.ofNat displayHeight y]

def cell (screen : Screen) (x y : Nat) : UInt8 :=
  (screen.row y)[Fin.ofNat displayWidth x]

/-- Whether the pixel at a column and a row is lit. -/
def lit (screen : Screen) (x y : Nat) : Bool :=
  screen.cell x y == 1

/-- Combines one bit with the cell at a column and a row. -/
def toggle (screen : Screen) (x y : Nat) (bit : UInt8) : Screen where
  rows :=
    screen.rows.set (Fin.ofNat displayHeight y)
      ((screen.row y).set (Fin.ofNat displayWidth x)
        (screen.cell x y ^^^ bit))

theorem cell_toggle
    (screen : Screen) (x y column line : Nat) (bit : UInt8) :
    (screen.toggle x y bit).cell column line =
      if Fin.ofNat displayHeight y = Fin.ofNat displayHeight line ∧
          Fin.ofNat displayWidth x = Fin.ofNat displayWidth column then
        screen.cell x y ^^^ bit
      else
        screen.cell column line := by
  simp only [cell, row, toggle, Fin.getElem_fin, Vector.getElem_set,
    Fin.ext_iff]
  by_cases sameRow :
      (Fin.ofNat displayHeight y).val = (Fin.ofNat displayHeight line).val
  · simp only [sameRow, if_true, true_and, Vector.getElem_set]
  · simp only [sameRow, if_false, false_and]

/-- All cells, each row from left to right and the rows from top to bottom. -/
def cells (screen : Screen) : List UInt8 :=
  screen.rows.toList.flatMap Vector.toList

/-- How many pixels are lit. -/
def litCount (screen : Screen) : Nat :=
  screen.cells.count 1

/-- A short description of a screen as a frame of a moving picture. -/
def summary (screen : Screen) : String :=
  "Frame(" ++ Text.decimal screen.litCount ++ " pixels lit)"

end Screen

/-- A screen while a sprite is drawn on it, and whether a lit pixel was turned
off so far. -/
structure Canvas where
  screen : Screen
  erased : Bool
  deriving DecidableEq, Repr

namespace Canvas

def ofScreen (screen : Screen) : Canvas where
  screen := screen
  erased := false

def plot (canvas : Canvas) (x y : Nat) (bit : UInt8) : Canvas where
  screen := canvas.screen.toggle x y bit
  erased := canvas.erased || (bit &&& canvas.screen.cell x y) != 0

/-- The eight bits of a byte, the highest first. -/
def bits (byte : UInt8) : List UInt8 :=
  [ byte >>> 7 &&& 1, byte >>> 6 &&& 1, byte >>> 5 &&& 1, byte >>> 4 &&& 1,
    byte >>> 3 &&& 1, byte >>> 2 &&& 1, byte >>> 1 &&& 1, byte &&& 1 ]

/-- Draws bits side by side from a column on. -/
def plotBits (canvas : Canvas) (x y : Nat) : List UInt8 → Canvas
  | [] => canvas
  | bit :: rest => (canvas.plot x y bit).plotBits (x + 1) y rest

/-- Draws the rows of a sprite one below the other, each given by a byte. -/
def plotSprite (canvas : Canvas) (x y : Nat) : List UInt8 → Canvas
  | [] => canvas
  | byte :: rest =>
      (canvas.plotBits x y (bits byte)).plotSprite x (y + 1) rest

end Canvas

end ChipEight
