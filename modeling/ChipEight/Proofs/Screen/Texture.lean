import ChipEight.Proofs.Screen.Binary
import ChipEight.Screen.Texture

/-!
# Textures of black and white screens

A texture is made of parts of one length: a screen of its rows, and each row of the colours
of its cells.  So the place of a byte in a texture tells the row, the column and the colour
it belongs to.

The byte of a colour is a product, and it is the right one only if the product is a byte.
On a screen whose cells are dark or lit, and nothing else, it is: `IsBinary.textured` says
what the texture of such a screen consists of, and that computing it with every product
checked comes to the same.
-/

namespace ChipEight

/-! ## Lists of parts of one length -/

section Parts

variable {α β : Type} {part : α → List β} {size : Nat}

theorem length_flatMap_of_parts
    (sized : ∀ entry, (part entry).length = size) (entries : List α) :
    (entries.flatMap part).length = entries.length * size := by
  induction entries with
  | nil => exact (Nat.zero_mul size).symm
  | cons entry rest inductionHypothesis =>
      rw [List.flatMap_cons, List.length_append, sized, inductionHypothesis,
        List.length_cons, Nat.succ_mul, Nat.add_comm]

theorem getElem?_flatMap_of_parts
    (sized : ∀ entry, (part entry).length = size)
    (entries : List α) (place : Nat) {offset : Nat} (inside : offset < size) :
    (entries.flatMap part)[size * place + offset]? =
      entries[place]?.bind fun entry => (part entry)[offset]? := by
  induction entries generalizing place with
  | nil => rfl
  | cons entry rest inductionHypothesis =>
      rw [List.flatMap_cons]
      cases place with
      | zero =>
          have inFirst : size * 0 + offset < (part entry).length := by
            rw [sized, Nat.mul_zero, Nat.zero_add]
            exact inside
          rw [List.getElem?_append_left inFirst, Nat.mul_zero, Nat.zero_add]
          rfl
      | succ place =>
          have behindFirst :
              size * (place + 1) + offset =
                (part entry).length + (size * place + offset) := by
            rw [sized, Nat.mul_succ]
            omega
          rw [behindFirst, List.getElem?_append_right (Nat.le_add_right _ _),
            Nat.add_sub_cancel_left, inductionHypothesis,
            List.getElem?_cons_succ]

end Parts

namespace Screen

variable {screen : Screen} {x y : Nat}

/-! ## Cells in a row -/

theorem length_cells (screen : Screen) :
    screen.cells.length = displayHeight * displayWidth := by
  rw [cells, length_flatMap_of_parts fun row => Vector.length_toList,
    Vector.length_toList]

theorem getElem?_cells
    (screen : Screen) (inWidth : x < displayWidth)
    (inHeight : y < displayHeight) :
    screen.cells[displayWidth * y + x]? = some (screen.cell x y) := by
  have sameRow : screen.rows.toList[y]? = some (screen.row y) := by
    simp only [row, Fin.getElem_fin, Fin.val_ofNat,
      Nat.mod_eq_of_lt inHeight]
    simp
  have sameCell :
      (screen.row y).toList[x]? = some (screen.cell x y) := by
    simp only [cell, Fin.getElem_fin, Fin.val_ofNat,
      Nat.mod_eq_of_lt inWidth]
    simp
  rw [cells, getElem?_flatMap_of_parts (fun row => Vector.length_toList)
    _ _ inWidth, sameRow]
  exact sameCell

theorem exists_cell_of_mem_cells
    {value : UInt8} (member : value ∈ screen.cells) :
    ∃ x y, screen.cell x y = value := by
  obtain ⟨place, inRange, isValue⟩ := List.getElem_of_mem member
  rw [length_cells] at inRange
  have inWidth : place % displayWidth < displayWidth :=
    Nat.mod_lt place (by decide)
  have inHeight : place / displayWidth < displayHeight :=
    Nat.div_lt_of_lt_mul (by rwa [Nat.mul_comm] at inRange)
  have found := screen.getElem?_cells inWidth inHeight
  rw [Nat.div_add_mod, List.getElem?_eq_some_iff] at found
  obtain ⟨_, isCell⟩ := found
  exact ⟨_, _, isCell.symm.trans isValue⟩

theorem IsBinary.isBit_of_mem_cells
    (binary : screen.IsBinary) :
    ∀ value ∈ screen.cells, IsBit value := by
  intro value member
  obtain ⟨x, y, rfl⟩ := exists_cell_of_mem_cells member
  exact binary x y

/-! ## Colours in a row -/

theorem length_colour (cell : UInt8) : (colour cell).length = 3 := rfl

theorem length_texture (screen : Screen) :
    screen.texture.length = displayWidth * displayHeight * 3 := by
  rw [texture, length_flatMap_of_parts length_colour, length_cells,
    Nat.mul_comm displayHeight]

theorem getElem?_texture
    (screen : Screen) (inWidth : x < displayWidth)
    (inHeight : y < displayHeight) {part : Nat} (isPart : part < 3) :
    screen.texture[3 * (displayWidth * y + x) + part]? =
      some (screen.cell x y * 255) := by
  have allParts :
      (colour (screen.cell x y))[part]? = some (screen.cell x y * 255) := by
    match part, isPart with
    | 0, _ => rfl
    | 1, _ => rfl
    | 2, _ => rfl
  rw [texture, getElem?_flatMap_of_parts length_colour _ _ isPart,
    screen.getElem?_cells inWidth inHeight]
  exact allParts

end Screen

/-! ## Black and white -/

theorem IsBit.colour_fits {cell : UInt8} (isBit : IsBit cell) :
    cell.toNat * 255 < UInt8.size := by
  rcases isBit with rfl | rfl <;> decide

theorem IsBit.mul_white {cell : UInt8} (isBit : IsBit cell) :
    cell * 255 = if cell == 1 then 255 else 0 := by
  rcases isBit with rfl | rfl <;> rfl

theorem IsBit.count_colour {cell : UInt8} (isBit : IsBit cell) :
    (Screen.colour cell).count 255 = 3 * [cell].count 1 := by
  rcases isBit with rfl | rfl <;> rfl

namespace Guarded

/-- The colours of cells, if every product that makes them is a byte. -/
def colours : List UInt8 → Option (List UInt8)
  | [] => some []
  | cell :: rest => do
      let later ← colours rest
      if cell.toNat * 255 < UInt8.size then
        some (Screen.colour cell ++ later)
      else
        none

/-- The texture of a screen, if every product that makes it is a byte. -/
def texture (screen : Screen) : Option (List UInt8) :=
  colours screen.cells

theorem colours_eq
    {cells : List UInt8} (areBits : ∀ cell ∈ cells, IsBit cell) :
    colours cells = some (cells.flatMap Screen.colour) := by
  induction cells with
  | nil => rfl
  | cons cell rest inductionHypothesis =>
      obtain ⟨isBit, restBits⟩ := List.forall_mem_cons.mp areBits
      rw [colours, inductionHypothesis restBits, List.flatMap_cons]
      exact if_pos isBit.colour_fits

end Guarded

namespace Screen

theorem count_colours
    {cells : List UInt8} (areBits : ∀ cell ∈ cells, IsBit cell) :
    (cells.flatMap colour).count 255 = 3 * cells.count 1 := by
  induction cells with
  | nil => rfl
  | cons cell rest inductionHypothesis =>
      obtain ⟨isBit, restBits⟩ := List.forall_mem_cons.mp areBits
      rw [List.flatMap_cons, List.count_append, isBit.count_colour,
        inductionHypothesis restBits, ← Nat.mul_add, ← List.count_append,
        List.singleton_append]

/-- Whether a screen can be converted to a texture, with every product checked, and the
texture shows it: three bytes for each cell, the rows one after the other, all bright where
a pixel is lit and dark elsewhere.  The pixels that the summary counts are a third of the
bright bytes. -/
structure Textured (screen : Screen) : Prop where
  converts : Guarded.texture screen = some screen.texture
  length : screen.texture.length = displayWidth * displayHeight * 3
  bytes : ∀ x y part,
    x < displayWidth → y < displayHeight → part < 3 →
      screen.texture[3 * (displayWidth * y + x) + part]? =
        some (if screen.lit x y then 255 else 0)
  summary : ∃ count,
    screen.texture.count 255 = 3 * count ∧
      screen.summary =
        "Frame(" ++ Text.decimal count ++ " pixels lit)"

theorem IsBinary.textured
    {screen : Screen} (binary : screen.IsBinary) : screen.Textured where
  converts := Guarded.colours_eq binary.isBit_of_mem_cells
  length := screen.length_texture
  bytes x y part inWidth inHeight isPart := by
    rw [screen.getElem?_texture inWidth inHeight isPart,
      (binary x y).mul_white]
    rfl
  summary :=
    ⟨screen.litCount, count_colours binary.isBit_of_mem_cells, rfl⟩

end Screen

end ChipEight
