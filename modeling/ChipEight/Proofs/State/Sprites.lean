import ChipEight.Instruction.Execution
import ChipEight.Proofs.Memory.Stored
import ChipEight.Proofs.Screen.Overlay

/-!
# Drawing sprites

Drawing changes the screen by exclusive or with the bits of a sprite, on a torus of columns
and lines, and reads these bits from a ring of bytes.  The flag register tells whether a
lit pixel went dark, and nothing but the screen, this register and the redraw mark is
changed.

As exclusive or commutes and cancels, the order of drawings makes no difference to the
screen, and drawing everything once more, in any order, brings the first screen back.
-/

namespace ChipEight

/-- A sprite in memory and the place on the screen where it is drawn. -/
structure Sprite where
  x : UInt8
  y : UInt8
  index : UInt16
  rows : UInt8
  deriving DecidableEq, Repr

/-- Whether a sprite has a set bit for the pixel at a column and a line.  Columns, lines and
addresses all wrap. -/
def Sprite.sets
    (sprite : Sprite) (memory : Memory) (column line : Nat) : Bool :=
  let across := distance displayWidth sprite.x.toNat column
  let down := distance displayHeight sprite.y.toNat line
  let byte := memory.read (sprite.index + UInt16.ofNat down)
  decide (across < 8) && decide (down < sprite.rows.toNat) &&
    byte.toNat.testBit (7 - across)

theorem Sprite.spriteLayer_eq_sets
    (sprite : Sprite) (memory : Memory) (column line : Nat) :
    Canvas.spriteLayer sprite.x.toNat sprite.y.toNat
        (memory.run sprite.index sprite.rows.toNat) column line =
      sprite.sets memory column line := by
  rw [Canvas.spriteLayer, Canvas.laidOut_flags, sets, laidOut,
    List.getD_eq_getElem?_getD]
  by_cases covered :
      distance displayHeight sprite.y.toNat line < sprite.rows.toNat
  · rw [Memory.getElem?_run memory sprite.index covered, Option.getD_some,
      decide_eq_true covered, Bool.and_true]
  · have beyond :
        (memory.run sprite.index sprite.rows.toNat)[
          distance displayHeight sprite.y.toNat line]? = none := by
      apply List.getElem?_eq_none
      rw [Memory.length_run]
      exact Nat.le_of_not_lt covered
    rw [beyond, Option.getD_none, UInt8.toNat_zero, Nat.zero_testBit,
      decide_eq_false covered, Bool.and_false, Bool.false_and]

namespace State

/-- The sprite that drawing with these operands puts on the screen. -/
def sprite (state : State) (x y rows : UInt8) : Sprite where
  x := state.register x
  y := state.register y
  index := state.index
  rows := rows

/-- Whether a state is another one with a sprite drawn on its screen and the flag register
telling whether a lit pixel went dark. -/
structure Blits (before : State) (sprite : Sprite) (after : State) : Prop where
  cell : ∀ column line,
    after.screen.cell column line =
      before.screen.cell column line ^^^
        (sprite.sets before.memory column line).toUInt8
  isBit_flag : IsBit (after.register flagRegister)
  flag_eq_one_iff :
    after.register flagRegister = 1 ↔
      ∃ column < displayWidth, ∃ line < displayHeight,
        before.screen.cell column line = 1 ∧
          after.screen.cell column line = 0
  rest :
    after =
      { before with
        screen := after.screen
        registers :=
          before.registers.set 0xF (after.register flagRegister)
        redraw := true }

variable {state : State} {rows : UInt8}

/-! ## A single drawing -/

theorem overlaid_drawOn
    (state : State) (x y : UInt8) (fits : rows.toNat ≤ displayHeight) :
    ∃ canvas,
      Instruction.drawOn x y rows state =
          { state with
            screen := canvas.screen
            registers := state.registers.set 0xF canvas.erased.toUInt8
            redraw := true } ∧
        (Canvas.ofScreen state.screen).Overlaid canvas
          ((state.sprite x y rows).sets state.memory) := by
  have short :
      (state.memory.run state.index rows.toNat).length ≤ displayHeight := by
    rw [Memory.length_run]
    exact fits
  have overlaid := Canvas.overlaid_plotSprite
    (Canvas.ofScreen state.screen) (state.register x).toNat
    (state.register y).toNat short
  have sameLayer :
      Canvas.spriteLayer (state.register x).toNat (state.register y).toNat
          (state.memory.run state.index rows.toNat) =
        (state.sprite x y rows).sets state.memory := by
    funext column line
    exact (state.sprite x y rows).spriteLayer_eq_sets _ _ _
  rw [sameLayer] at overlaid
  exact ⟨_, rfl, overlaid⟩

theorem blits_drawOn
    (binary : state.screen.IsBinary) (x y : UInt8)
    (fits : rows.toNat ≤ displayHeight) :
    state.Blits (state.sprite x y rows)
      (Instruction.drawOn x y rows state) := by
  obtain ⟨canvas, drawn, overlaid⟩ := state.overlaid_drawOn x y fits
  have flag :
      (Instruction.drawOn x y rows state).register flagRegister =
        canvas.erased.toUInt8 := by
    rw [drawn]
    exact Vector.getElem_set_self _
  have erased := overlaid.erased_iff rfl binary
  refine ⟨?cell, ?isBit, ?collision, ?rest⟩
  case cell =>
    rw [drawn]
    exact overlaid.cell
  case isBit =>
    rw [flag]
    cases canvas.erased with
    | false => exact Or.inl rfl
    | true => exact Or.inr rfl
  case collision =>
    have isOne : canvas.erased.toUInt8 = 1 ↔ canvas.erased = true := by
      cases canvas.erased <;> decide
    rw [flag, isOne, erased, drawn]
    rfl
  case rest => rw [flag, drawn]

/-- Drawing is an exact exclusive or on a torus: every pixel is combined with its bit of the
sprite, the coordinates being read before the flag is written; the flag is set exactly if
a lit pixel went dark; and all else is as before. -/
theorem draw_blits
    (binary : state.screen.IsBinary) (x y : UInt8)
    (fits : rows.toNat ≤ displayHeight) (chance : UInt8) :
    ∃ after,
      (Instruction.draw x y rows).execute chance state =
          .ok (.next, after) ∧
        state.Blits (state.sprite x y rows) after :=
  ⟨_, rfl, blits_drawOn binary x y fits⟩

/-- At the lower right corner, the glyph of the digit `0` wraps around both edges. -/
theorem draw_blits_corner :
    let state := (fresh.setRegister 0 60).setRegister 1 31
    state.screen.IsBinary ∧ (5 : UInt8).toNat ≤ displayHeight ∧
      ∃ after,
        (Instruction.draw 0 1 5).execute 0 state = .ok (.next, after) ∧
          state.Blits (state.sprite 0 1 5) after ∧
          after.screen.cell 60 31 = 1 ∧
          after.screen.cell 0 31 = 0 ∧
          after.screen.cell 63 0 = 1 ∧
          after.screen.cell 61 0 = 0 := by
  intro state
  have binary : state.screen.IsBinary := Screen.isBinary_blank
  have fits : (5 : UInt8).toNat ≤ displayHeight := by decide
  obtain ⟨after, executed, blits⟩ := draw_blits binary 0 1 fits 0
  refine ⟨binary, fits, after, executed, blits, ?_, ?_, ?_, ?_⟩
  all_goals
    rw [blits.cell]
    decide +kernel

/-! ## Drawings in a row -/

end State

/-- What a program has set up for a drawing: all registers, the index and the operands, no
higher than the screen. -/
structure Drawing where
  registers : Vector UInt8 registerCount
  index : UInt16
  x : UInt8
  y : UInt8
  rows : UInt8
  fits : rows.toNat ≤ displayHeight

def Drawing.sprite (drawing : Drawing) : Sprite where
  x := drawing.registers[State.registerSlot drawing.x]
  y := drawing.registers[State.registerSlot drawing.y]
  index := drawing.index
  rows := drawing.rows

namespace State

/-- The state that a program has set up for a drawing. -/
def preparedFor (state : State) (drawing : Drawing) : State :=
  { state with registers := drawing.registers, index := drawing.index }

def draw (state : State) (drawing : Drawing) : State :=
  Instruction.drawOn drawing.x drawing.y drawing.rows
    (state.preparedFor drawing)

def drawAll (state : State) : List Drawing → State
  | [] => state
  | drawing :: rest => (state.draw drawing).drawAll rest

/-- What some drawings together combine with the cell at a column and a line. -/
def overlay
    (memory : Memory) (column line : Nat) : List Drawing → UInt8
  | [] => 0
  | drawing :: rest =>
      (drawing.sprite.sets memory column line).toUInt8 ^^^
        overlay memory column line rest

variable {state : State}

theorem memory_draw (state : State) (drawing : Drawing) :
    (state.draw drawing).memory = state.memory := rfl

theorem blits_draw
    (binary : state.screen.IsBinary) (drawing : Drawing) :
    (state.preparedFor drawing).Blits drawing.sprite
      (state.draw drawing) := by
  have prepared : (state.preparedFor drawing).screen.IsBinary := binary
  exact blits_drawOn prepared drawing.x drawing.y drawing.fits

theorem isBinary_draw
    (binary : state.screen.IsBinary) (drawing : Drawing) :
    (state.draw drawing).screen.IsBinary := by
  have onCanvas : (Canvas.ofScreen state.screen).screen.IsBinary := binary
  exact Canvas.isBinary_plotSprite onCanvas _ _ _

theorem cell_draw
    (state : State) (drawing : Drawing) (column line : Nat) :
    (state.draw drawing).screen.cell column line =
      state.screen.cell column line ^^^
        (drawing.sprite.sets state.memory column line).toUInt8 := by
  obtain ⟨canvas, drawn, overlaid⟩ :=
    (state.preparedFor drawing).overlaid_drawOn drawing.x drawing.y
      drawing.fits
  rw [draw, drawn]
  exact overlaid.cell column line

theorem memory_drawAll (state : State) (drawings : List Drawing) :
    (state.drawAll drawings).memory = state.memory := by
  induction drawings generalizing state with
  | nil => rfl
  | cons drawing rest inductionHypothesis =>
      exact (inductionHypothesis _).trans (state.memory_draw drawing)

theorem cell_drawAll
    (state : State) (drawings : List Drawing) (column line : Nat) :
    (state.drawAll drawings).screen.cell column line =
      state.screen.cell column line ^^^
        overlay state.memory column line drawings := by
  induction drawings generalizing state with
  | nil => exact UInt8.xor_zero.symm
  | cons drawing rest inductionHypothesis =>
      rw [drawAll, inductionHypothesis, cell_draw, memory_draw,
        UInt8.xor_assoc, overlay]

theorem overlay_perm
    (memory : Memory) (column line : Nat) {drawings permuted : List Drawing}
    (reordered : drawings.Perm permuted) :
    overlay memory column line permuted =
      overlay memory column line drawings := by
  induction reordered with
  | nil => rfl
  | cons drawing _ sameRest => rw [overlay, sameRest, overlay]
  | swap first second rest =>
      simp only [overlay]
      rw [← UInt8.xor_assoc, ← UInt8.xor_assoc,
        UInt8.xor_comm (first.sprite.sets memory column line).toUInt8]
  | trans _ _ sameFirst sameSecond => rw [sameSecond, sameFirst]

theorem screen_drawAll_perm
    (state : State) {drawings permuted : List Drawing}
    (reordered : drawings.Perm permuted) :
    (state.drawAll permuted).screen = (state.drawAll drawings).screen := by
  apply Screen.ext_cell
  intro column line
  rw [cell_drawAll, cell_drawAll, overlay_perm _ _ _ reordered]

theorem screen_drawAll_again
    (state : State) {drawings permuted : List Drawing}
    (reordered : drawings.Perm permuted) :
    ((state.drawAll drawings).drawAll permuted).screen = state.screen := by
  apply Screen.ext_cell
  intro column line
  rw [cell_drawAll, cell_drawAll, memory_drawAll,
    overlay_perm _ _ _ reordered, UInt8.xor_assoc, UInt8.xor_self,
    UInt8.xor_zero]

theorem cell_draw_again
    (state : State) {drawing again : Drawing}
    (sameSprite : again.sprite = drawing.sprite) (column line : Nat) :
    ((state.draw drawing).draw again).screen.cell column line =
      state.screen.cell column line := by
  rw [cell_draw, cell_draw, memory_draw, sameSprite, UInt8.xor_assoc,
    UInt8.xor_self, UInt8.xor_zero]

/-- Drawing the same sprite again collides where it had lit a dark pixel. -/
theorem flag_draw_again
    (binary : state.screen.IsBinary) {drawing again : Drawing}
    (sameSprite : again.sprite = drawing.sprite) :
    ((state.draw drawing).draw again).register flagRegister = 1 ↔
      ∃ column < displayWidth, ∃ line < displayHeight,
        drawing.sprite.sets state.memory column line = true ∧
          state.screen.cell column line = 0 := by
  have lightsUp (column line : Nat) :
      (state.draw drawing).screen.cell column line = 1 ∧
          ((state.draw drawing).draw again).screen.cell column line = 0 ↔
        drawing.sprite.sets state.memory column line = true ∧
          state.screen.cell column line = 0 := by
    rw [cell_draw_again _ sameSprite, cell_draw]
    apply and_congr_left
    intro dark
    rw [dark]
    cases drawing.sprite.sets state.memory column line <;> decide
  have collided :=
    (blits_draw (isBinary_draw binary drawing) again).flag_eq_one_iff
  simp only [← lightsUp]
  exact collided

/-- Drawings commute and cancel: the screen does not depend on their order, and drawing them
all once more in any order restores it.  If one is repeated at once, the second one has
the flag set exactly if the first had lit a dark pixel. -/
theorem drawings_commute_and_cancel (binary : state.screen.IsBinary) :
    (∀ drawings permuted : List Drawing, drawings.Perm permuted →
      (state.drawAll permuted).screen = (state.drawAll drawings).screen ∧
        ((state.drawAll drawings).drawAll permuted).screen =
          state.screen) ∧
      ∀ drawing again : Drawing, again.sprite = drawing.sprite →
        let twice := (state.draw drawing).draw again
        twice.screen = state.screen ∧
          IsBit (twice.register flagRegister) ∧
          (twice.register flagRegister = 1 ↔
            ∃ column < displayWidth, ∃ line < displayHeight,
              drawing.sprite.sets state.memory column line = true ∧
                state.screen.cell column line = 0) := by
  constructor
  · intro drawings permuted reordered
    exact ⟨state.screen_drawAll_perm reordered,
      state.screen_drawAll_again reordered⟩
  · intro drawing again sameSprite twice
    refine ⟨?_, ?_, flag_draw_again binary sameSprite⟩
    · exact Screen.ext_cell (state.cell_draw_again sameSprite)
    · exact (blits_draw (isBinary_draw binary drawing) again).isBit_flag

theorem drawings_commute_and_cancel_overlapping :
    let dark : Vector UInt8 registerCount := Vector.replicate _ 0
    let glyph : Drawing := ⟨dark.set 0 60, 0, 0, 1, 5, by decide⟩
    let lower : Drawing := ⟨dark.set 15 62, 5, 15, 15, 5, by decide⟩
    let again : Drawing := ⟨dark.set 15 60, 0, 15, 3, 5, by decide⟩
    fresh.screen.IsBinary ∧
      [glyph, lower].Perm [lower, glyph] ∧
      again.sprite = glyph.sprite ∧
      (fresh.drawAll [lower, glyph]).screen =
        (fresh.drawAll [glyph, lower]).screen ∧
      ((fresh.drawAll [glyph, lower]).drawAll [lower, glyph]).screen =
        fresh.screen ∧
      ((fresh.draw glyph).draw again).screen = fresh.screen ∧
      ((fresh.draw glyph).draw again).register flagRegister = 1 := by
  intro dark glyph lower again
  have binary : fresh.screen.IsBinary := Screen.isBinary_blank
  have reordered : [glyph, lower].Perm [lower, glyph] :=
    List.Perm.swap lower glyph []
  have sameSprite : again.sprite = glyph.sprite := by decide
  obtain ⟨inAnyOrder, repeated⟩ := drawings_commute_and_cancel binary
  obtain ⟨sameScreen, restored⟩ := inAnyOrder _ _ reordered
  obtain ⟨undone, _, collides⟩ := repeated glyph again sameSprite
  have collided := collides.mpr
    ⟨60, by decide, 0, by decide, by decide +kernel, by decide +kernel⟩
  exact ⟨binary, reordered, sameSprite, sameScreen, restored, undone,
    collided⟩

end State

end ChipEight
