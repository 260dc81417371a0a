import ChipEight.Screen

/-!
# Textures

A screen as a sequence of pixels with eight bits each for red, green and blue:
white where a pixel is lit, black elsewhere, row after row.
-/

namespace ChipEight.Screen

/-- The three colour bytes of a cell. -/
def colour (cell : UInt8) : List UInt8 :=
  [cell * 255, cell * 255, cell * 255]

/-- The bytes of the texture that shows a screen. -/
def texture (screen : Screen) : List UInt8 :=
  screen.cells.flatMap colour

end ChipEight.Screen
