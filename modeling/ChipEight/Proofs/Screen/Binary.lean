import ChipEight.Screen

/-!
# Screens of dark and lit pixels

A cell can hold any byte, but the ones that come about hold `0` or `1`: the blank
screen does, and drawing combines such cells with single bits.
-/

namespace ChipEight

/-- Whether a byte is one bit. -/
def IsBit (byte : UInt8) : Prop :=
  byte = 0 ∨ byte = 1

theorem isBit_xor
    {left right : UInt8} (leftBit : IsBit left) (rightBit : IsBit right) :
    IsBit (left ^^^ right) := by
  rcases leftBit with rfl | rfl <;> rcases rightBit with rfl | rfl
  · exact Or.inl rfl
  · exact Or.inr rfl
  · exact Or.inr rfl
  · exact Or.inl rfl

theorem isBit_and_one (byte : UInt8) : IsBit (byte &&& 1) := by
  have value : (byte &&& 1).toNat = byte.toNat % 2 := by
    rw [UInt8.toNat_and]
    exact Nat.and_one_is_mod byte.toNat
  rcases Nat.mod_two_eq_zero_or_one byte.toNat with even | odd
  · exact Or.inl (UInt8.toNat_inj.mp (value.trans even))
  · exact Or.inr (UInt8.toNat_inj.mp (value.trans odd))

theorem isBit_of_mem_bits
    {byte bit : UInt8} (member : bit ∈ Canvas.bits byte) : IsBit bit := by
  simp only [Canvas.bits, List.mem_cons, List.not_mem_nil, or_false] at member
  rcases member with rfl | rfl | rfl | rfl | rfl | rfl | rfl | rfl <;>
    exact isBit_and_one _

namespace Screen

/-- Whether every cell is dark or lit, and nothing else. -/
def IsBinary (screen : Screen) : Prop :=
  ∀ x y, IsBit (screen.cell x y)

theorem isBinary_blank : blank.IsBinary := by
  intro x y
  refine Or.inl ?_
  simp only [cell, row, blank, Fin.getElem_fin, Vector.getElem_replicate]

theorem IsBinary.toggle
    {screen : Screen} (binary : screen.IsBinary)
    (x y : Nat) {bit : UInt8} (isBit : IsBit bit) :
    (screen.toggle x y bit).IsBinary := by
  intro column line
  rw [cell_toggle]
  split
  · exact isBit_xor (binary x y) isBit
  · exact binary column line

end Screen

namespace Canvas

theorem isBinary_plotBits
    {canvas : Canvas} (binary : canvas.screen.IsBinary)
    (x y : Nat) {bits : List UInt8} (areBits : ∀ bit ∈ bits, IsBit bit) :
    (canvas.plotBits x y bits).screen.IsBinary := by
  induction bits generalizing canvas x with
  | nil => exact binary
  | cons bit rest inductionHypothesis =>
      have plotted : (canvas.plot x y bit).screen.IsBinary :=
        binary.toggle x y (areBits bit List.mem_cons_self)
      exact inductionHypothesis plotted (x + 1)
        fun other member => areBits other (List.mem_cons_of_mem bit member)

theorem isBinary_plotSprite
    {canvas : Canvas} (binary : canvas.screen.IsBinary)
    (x y : Nat) (sprite : List UInt8) :
    (canvas.plotSprite x y sprite).screen.IsBinary := by
  induction sprite generalizing canvas y with
  | nil => exact binary
  | cons byte rest inductionHypothesis =>
      exact inductionHypothesis
        (isBinary_plotBits binary x y fun _ => isBit_of_mem_bits) (y + 1)

end Canvas

end ChipEight
