import ChipEight.Proofs.Screen.Binary

/-!
# Sprites as overlays

A sprite that is no higher than the screen meets every pixel at most once, though its
columns and rows wrap.  So drawing it is one exclusive or of the screen with a layer of
bits, and a lit pixel was turned off on the way exactly if the layer has a bit where the
screen was lit at first.

Layers are put one over the other (`Canvas.Overlaid.trans`) as long as no two of them have
a bit for the same pixel.  That is all that has to be known of the order in which the bits
of a row and the rows of a sprite are drawn.
-/

namespace ChipEight

/-! ## Positions on a ring -/

/-- How far behind an origin a position lies on a ring of some size. -/
def distance (size origin position : Nat) : Nat :=
  (((position : Int) - origin) % size).toNat

section Ring

variable {size origin position : Nat}

theorem distance_lt (positive : 0 < size) :
    distance size origin position < size := by
  have small :=
    Int.emod_lt_of_pos ((position : Int) - origin)
      (Int.natCast_pos.mpr positive)
  have nonnegative :=
    Int.emod_nonneg ((position : Int) - origin)
      (Int.natCast_ne_zero_iff_pos.mpr positive)
  rw [distance]
  omega

theorem distance_eq_iff {offset : Nat} (inRange : offset < size) :
    distance size origin position = offset ↔
      (origin + offset) % size = position % size := by
  have nonnegative :=
    Int.emod_nonneg ((position : Int) - origin)
      (Int.natCast_ne_zero_iff_pos.mpr (Nat.zero_lt_of_lt inRange))
  have own : (offset : Int) % size = offset :=
    Int.emod_eq_of_lt (Int.natCast_nonneg _) (Int.ofNat_lt.mpr inRange)
  calc distance size origin position = offset
      ↔ ((position : Int) - origin) % size = (offset : Int) % size := by
        rw [distance, own]
        omega
    _ ↔ ((position : Int) - origin - offset) % size = 0 :=
        Int.emod_eq_emod_iff_emod_sub_eq_zero
    _ ↔ ((position : Int) - ((origin + offset : Nat) : Int)) % size = 0 := by
        rw [Int.natCast_add, Int.sub_sub]
    _ ↔ position % size = (origin + offset) % size := by
        rw [← Int.emod_eq_emod_iff_emod_sub_eq_zero]
        exact_mod_cast Iff.rfl
    _ ↔ (origin + offset) % size = position % size := eq_comm

theorem distance_eq_zero_iff (positive : 0 < size) :
    distance size origin position = 0 ↔
      origin % size = position % size :=
  distance_eq_iff positive

/-- What a run of elements has at a position if its first element lies at the origin of a
ring; the filler where the run does not reach. -/
def laidOut {α : Type} (size origin : Nat) (run : List α) (filler : α)
    (position : Nat) : α :=
  run.getD (distance size origin position) filler

variable {α : Type} {first filler : α} {rest : List α}

theorem laidOut_succ_of_distance_eq_zero
    (fits : rest.length < size)
    (atOrigin : distance size origin position = 0) :
    laidOut size (origin + 1) rest filler position = filler := by
  have positive : 0 < size := Nat.zero_lt_of_lt fits
  -- Seen from the next place, the origin is the last place of the ring.
  have around : distance size (origin + 1) position = size - 1 := by
    rw [distance_eq_iff (by omega)] at atOrigin ⊢
    have turn : origin + 1 + (size - 1) = origin + 0 + size := by omega
    rw [turn, Nat.add_mod_right, atOrigin]
  have beyond : rest[size - 1]? = none :=
    List.getElem?_eq_none (Nat.le_sub_one_of_lt fits)
  rw [laidOut, around, List.getD_eq_getElem?_getD, beyond, Option.getD_none]

theorem laidOut_cons (fits : rest.length < size) :
    laidOut size origin (first :: rest) filler position =
      if distance size origin position = 0 then
        first
      else
        laidOut size (origin + 1) rest filler position := by
  cases away : distance size origin position with
  | zero => rw [laidOut, away, List.getD_cons_zero, if_pos rfl]
  | succ before =>
      have inRange : before + 1 < size := by
        rw [← away]
        exact distance_lt (Nat.zero_lt_of_lt fits)
      have nearer : distance size (origin + 1) position = before := by
        rw [distance_eq_iff inRange] at away
        rw [distance_eq_iff (by omega), Nat.add_assoc, Nat.add_comm 1]
        exact away
      rw [laidOut, away, List.getD_cons_succ, if_neg (Nat.succ_ne_zero _),
        laidOut, nearer]

end Ring

/-! ## The bits of a byte -/

/-- Which of the bits of a byte are set, the highest first. -/
def flags (byte : UInt8) : List Bool :=
  (List.range 8).map fun offset => byte.toNat.testBit (7 - offset)

theorem length_flags (byte : UInt8) : (flags byte).length = 8 := by
  rw [flags, List.length_map, List.length_range]

theorem shiftRight_and_one (byte : UInt8) {offset : Nat} (inByte : offset < 8) :
    byte >>> UInt8.ofNat offset &&& 1 = (byte.toNat.testBit offset).toUInt8 := by
  have shift : (UInt8.ofNat offset).toNat % 8 = offset := by
    rw [UInt8.toNat_ofNat']
    omega
  have value : (byte >>> UInt8.ofNat offset &&& 1).toNat =
      byte.toNat >>> offset % 2 := by
    rw [UInt8.toNat_and, UInt8.toNat_shiftRight, shift]
    exact Nat.and_one_is_mod _
  apply UInt8.toNat_inj.mp
  rw [value, Nat.testBit_eq_decide_div_mod_eq, Nat.shiftRight_eq_div_pow]
  rcases Nat.mod_two_eq_zero_or_one (byte.toNat / 2 ^ offset) with dark | set
  · rw [dark]
    rfl
  · rw [set]
    rfl

theorem bits_eq_map_flags (byte : UInt8) :
    Canvas.bits byte = (flags byte).map Bool.toUInt8 := by
  calc Canvas.bits byte
      = (List.range 8).map fun offset =>
          byte >>> UInt8.ofNat (7 - offset) &&& 1 := rfl
    _ = (flags byte).map Bool.toUInt8 := by
        rw [flags, List.map_map]
        exact List.map_congr_left fun offset _ =>
          shiftRight_and_one byte (by omega)

/-! ## Pixels -/

namespace Screen

/-- Whether two pairs of a column and a line name the same pixel. -/
def SamePixel (x y column line : Nat) : Prop :=
  distance displayWidth x column = 0 ∧ distance displayHeight y line = 0

instance (x y column line : Nat) : Decidable (SamePixel x y column line) :=
  inferInstanceAs (Decidable (_ ∧ _))

variable {x y column line : Nat}

theorem samePixel_iff :
    SamePixel x y column line ↔
      Fin.ofNat displayWidth x = Fin.ofNat displayWidth column ∧
        Fin.ofNat displayHeight y = Fin.ofNat displayHeight line := by
  rw [SamePixel, distance_eq_zero_iff (by decide),
    distance_eq_zero_iff (by decide), Fin.ext_iff, Fin.ext_iff]
  rfl

theorem SamePixel.refl (x y : Nat) : SamePixel x y x y :=
  samePixel_iff.mpr ⟨rfl, rfl⟩

theorem SamePixel.cell_eq
    (same : SamePixel x y column line) (screen : Screen) :
    screen.cell x y = screen.cell column line := by
  obtain ⟨sameColumn, sameLine⟩ := samePixel_iff.mp same
  simp only [cell, row, sameColumn, sameLine]

theorem cell_toggle_of_samePixel
    (screen : Screen) (bit : UInt8) (same : SamePixel x y column line) :
    (screen.toggle x y bit).cell column line =
      screen.cell column line ^^^ bit := by
  rw [cell_toggle, same.cell_eq screen]
  exact if_pos (samePixel_iff.mp same).symm

theorem cell_toggle_of_not_samePixel
    (screen : Screen) (bit : UInt8) (apart : ¬ SamePixel x y column line) :
    (screen.toggle x y bit).cell column line =
      screen.cell column line := by
  rw [cell_toggle]
  exact if_neg fun same => apart (samePixel_iff.mpr same.symm)

theorem ext_cell
    {first second : Screen}
    (sameCells : ∀ column line,
      first.cell column line = second.cell column line) :
    first = second := by
  have sameRows : first.rows = second.rows := by
    ext line inHeight column inWidth
    have sameCell := sameCells column line
    simp only [cell, row, Fin.getElem_fin, Fin.val_ofNat,
      Nat.mod_eq_of_lt inHeight, Nat.mod_eq_of_lt inWidth] at sameCell
    rw [sameCell]
  cases first
  cases second
  exact congrArg mk sameRows

theorem cell_mod (screen : Screen) (column line : Nat) :
    screen.cell (column % displayWidth) (line % displayHeight) =
      screen.cell column line := by
  have same :
      SamePixel (column % displayWidth) (line % displayHeight)
        column line := by
    constructor
    · exact (distance_eq_iff (by decide)).mpr (Nat.mod_mod _ _)
    · exact (distance_eq_iff (by decide)).mpr (Nat.mod_mod _ _)
  exact same.cell_eq screen

end Screen

/-! ## Layers -/

namespace Canvas

/-- Whether a canvas is another one with a layer of bits drawn over it, no pixel more than
once. -/
structure Overlaid
    (before after : Canvas) (layer : Nat → Nat → Bool) : Prop where
  cell : ∀ column line,
    after.screen.cell column line =
      before.screen.cell column line ^^^ (layer column line).toUInt8
  erased :
    after.erased = true ↔
      before.erased = true ∨
        ∃ column line,
          layer column line = true ∧
            1 &&& before.screen.cell column line ≠ 0

section Layers

variable {first second third : Canvas} {below above : Nat → Nat → Bool}

theorem Overlaid.cell_of_unset
    (lower : first.Overlaid second below)
    {column line : Nat} (unset : below column line = false) :
    second.screen.cell column line = first.screen.cell column line := by
  rw [lower.cell, unset]
  exact UInt8.xor_zero

theorem Overlaid.refl (canvas : Canvas) :
    canvas.Overlaid canvas fun _ _ => false where
  cell _ _ := UInt8.xor_zero.symm
  erased := by simp

theorem Overlaid.trans
    (lower : first.Overlaid second below)
    (upper : second.Overlaid third above)
    (apart : ∀ column line,
      below column line = true → above column line = false) :
    first.Overlaid third fun column line =>
      below column line || above column line where
  cell column line := by
    cases set : below column line with
    | false => rw [Bool.false_or, upper.cell, lower.cell_of_unset set]
    | true =>
        rw [Bool.true_or, upper.cell_of_unset (apart column line set),
          lower.cell, set]
  erased := by
    rw [upper.erased, lower.erased, or_assoc]
    apply or_congr_right
    constructor
    · rintro (⟨column, line, set, lit⟩ | ⟨column, line, set, lit⟩)
      · exact ⟨column, line, by rw [set, Bool.true_or], lit⟩
      · cases setBelow : below column line with
        | true =>
            -- Here the upper bit would undo the lower one.
            rw [apart column line setBelow] at set
            cases set
        | false =>
            rw [lower.cell_of_unset setBelow] at lit
            exact ⟨column, line, by rw [set, Bool.or_true], lit⟩
    · rintro ⟨column, line, set, lit⟩
      cases setBelow : below column line with
      | true => exact Or.inl ⟨column, line, setBelow, lit⟩
      | false =>
          rw [setBelow, Bool.false_or] at set
          rw [← lower.cell_of_unset setBelow] at lit
          exact Or.inr ⟨column, line, set, lit⟩

/-- A canvas over a screen of dark and lit pixels has something erased exactly if a pixel
was lit and is dark. -/
theorem Overlaid.erased_iff
    {before after : Canvas} {layer : Nat → Nat → Bool}
    (overlaid : before.Overlaid after layer)
    (unerased : before.erased = false)
    (binary : before.screen.IsBinary) :
    after.erased = true ↔
      ∃ column < displayWidth, ∃ line < displayHeight,
        before.screen.cell column line = 1 ∧
          after.screen.cell column line = 0 := by
  rw [overlaid.erased, unerased]
  constructor
  · rintro (erased | ⟨column, line, set, lit⟩)
    · cases erased
    · have wasLit : before.screen.cell column line = 1 := by
        rcases binary column line with dark | isLit
        · rw [dark] at lit
          exact absurd rfl lit
        · exact isLit
      refine ⟨column % displayWidth, Nat.mod_lt _ (by decide),
        line % displayHeight, Nat.mod_lt _ (by decide), ?_, ?_⟩
      · rw [Screen.cell_mod, wasLit]
      · rw [Screen.cell_mod, overlaid.cell, wasLit, set]
        rfl
  · rintro ⟨column, _, line, _, wasLit, isDark⟩
    cases set : layer column line with
    | false =>
        rw [overlaid.cell_of_unset set, wasLit] at isDark
        cases isDark
    | true =>
        refine Or.inr ⟨column, line, set, ?_⟩
        rw [wasLit]
        decide

end Layers

/-! ## The layer of a sprite -/

open Screen

/-- The layer of a single bit. -/
def dotLayer (x y : Nat) (bit : Bool) (column line : Nat) : Bool :=
  decide (SamePixel x y column line) && bit

/-- The layer of some bits that are drawn side by side. -/
def rowLayer (x y : Nat) (bits : List Bool) (column line : Nat) : Bool :=
  decide (distance displayHeight y line = 0) &&
    laidOut displayWidth x bits false column

/-- The layer of some bytes that are drawn one below the other. -/
def spriteLayer
    (x y : Nat) (sprite : List UInt8) (column line : Nat) : Bool :=
  laidOut displayWidth x (flags (laidOut displayHeight y sprite 0 line))
    false column

theorem dotLayer_eq_true_iff {x y column line : Nat} {bit : Bool} :
    dotLayer x y bit column line = true ↔
      SamePixel x y column line ∧ bit = true := by
  rw [dotLayer, Bool.and_eq_true, decide_eq_true_iff]

theorem overlaid_plot (canvas : Canvas) (x y : Nat) (bit : Bool) :
    canvas.Overlaid (canvas.plot x y bit.toUInt8) (dotLayer x y bit) where
  cell column line := by
    by_cases same : SamePixel x y column line
    · rw [dotLayer, decide_eq_true same, Bool.true_and]
      exact cell_toggle_of_samePixel canvas.screen _ same
    · rw [dotLayer, decide_eq_false same, Bool.false_and]
      exact (cell_toggle_of_not_samePixel canvas.screen _ same).trans
        UInt8.xor_zero.symm
  erased := by
    rw [plot, Bool.or_eq_true, bne_iff_ne]
    apply or_congr_right
    constructor
    · intro met
      cases bit with
      | false => exact absurd UInt8.zero_and met
      | true =>
          exact ⟨x, y, dotLayer_eq_true_iff.mpr ⟨.refl x y, rfl⟩, met⟩
    · rintro ⟨column, line, set, lit⟩
      obtain ⟨same, rfl⟩ := dotLayer_eq_true_iff.mp set
      rw [same.cell_eq canvas.screen]
      exact lit

section Rows

variable {bit : Bool} {bits : List Bool} {x y column line : Nat}

theorem rowLayer_succ_of_dotLayer
    (fits : bits.length < displayWidth)
    (set : dotLayer x y bit column line = true) :
    rowLayer (x + 1) y bits column line = false := by
  have atOrigin := (dotLayer_eq_true_iff.mp set).1.1
  rw [rowLayer, laidOut_succ_of_distance_eq_zero fits atOrigin,
    Bool.and_false]

theorem rowLayer_cons (fits : bits.length < displayWidth) :
    rowLayer x y (bit :: bits) column line =
      (dotLayer x y bit column line ||
        rowLayer (x + 1) y bits column line) := by
  by_cases sameColumn : distance displayWidth x column = 0
  · have same :
        SamePixel x y column line ↔ distance displayHeight y line = 0 :=
      and_iff_right sameColumn
    rw [rowLayer, laidOut_cons fits, if_pos sameColumn, rowLayer,
      laidOut_succ_of_distance_eq_zero fits sameColumn, Bool.and_false,
      Bool.or_false, dotLayer, decide_eq_decide.mpr same]
  · have apart : ¬ SamePixel x y column line := fun same =>
      sameColumn same.1
    rw [rowLayer, laidOut_cons fits, if_neg sameColumn, dotLayer,
      decide_eq_false apart, Bool.false_and, Bool.false_or, rowLayer]

theorem overlaid_plotBits
    (canvas : Canvas) (x y : Nat) {bits : List Bool}
    (fits : bits.length ≤ displayWidth) :
    canvas.Overlaid (canvas.plotBits x y (bits.map Bool.toUInt8))
      (rowLayer x y bits) := by
  induction bits generalizing canvas x with
  | nil =>
      have empty : rowLayer x y [] = fun _ _ => false := by
        funext column line
        exact Bool.and_false _
      rw [empty]
      exact Overlaid.refl canvas
  | cons bit rest inductionHypothesis =>
      rw [List.length_cons] at fits
      have remaining :=
        inductionHypothesis (canvas.plot x y bit.toUInt8) (x + 1) (by omega)
      have together := (overlaid_plot canvas x y bit).trans remaining
        fun _ _ => rowLayer_succ_of_dotLayer fits
      simp only [← rowLayer_cons fits] at together
      exact together

end Rows

theorem laidOut_flags (x column : Nat) (byte : UInt8) :
    laidOut displayWidth x (flags byte) false column =
      (decide (distance displayWidth x column < 8) &&
        byte.toNat.testBit (7 - distance displayWidth x column)) := by
  rw [laidOut, List.getD_eq_getElem?_getD, flags, List.getElem?_map]
  by_cases inByte : distance displayWidth x column < 8
  · rw [List.getElem?_range inByte, decide_eq_true inByte, Bool.true_and]
    rfl
  · have beyond : (List.range 8)[distance displayWidth x column]? = none :=
      List.getElem?_eq_none (by simpa using inByte)
    rw [beyond, decide_eq_false inByte, Bool.false_and]
    rfl

section Sprites

variable {byte : UInt8} {bytes : List UInt8} {x y column line : Nat}

theorem spriteLayer_succ_of_distance_eq_zero
    (fits : bytes.length < displayHeight)
    (atOrigin : distance displayHeight y line = 0) :
    spriteLayer x (y + 1) bytes column line = false := by
  rw [spriteLayer, laidOut_succ_of_distance_eq_zero fits atOrigin,
    laidOut_flags, UInt8.toNat_zero, Nat.zero_testBit, Bool.and_false]

theorem spriteLayer_cons (fits : bytes.length < displayHeight) :
    spriteLayer x y (byte :: bytes) column line =
      (rowLayer x y (flags byte) column line ||
        spriteLayer x (y + 1) bytes column line) := by
  by_cases sameLine : distance displayHeight y line = 0
  · rw [spriteLayer_succ_of_distance_eq_zero fits sameLine, spriteLayer,
      laidOut_cons fits, if_pos sameLine, rowLayer, decide_eq_true sameLine,
      Bool.true_and, Bool.or_false]
  · rw [spriteLayer, laidOut_cons fits, if_neg sameLine, rowLayer,
      decide_eq_false sameLine, Bool.false_and, Bool.false_or, spriteLayer]

theorem overlaid_plotSprite
    (canvas : Canvas) (x y : Nat) {bytes : List UInt8}
    (fits : bytes.length ≤ displayHeight) :
    canvas.Overlaid (canvas.plotSprite x y bytes)
      (spriteLayer x y bytes) := by
  induction bytes generalizing canvas y with
  | nil =>
      have empty : spriteLayer x y [] = fun _ _ => false := by
        funext column line
        rw [spriteLayer, laidOut_flags]
        exact (congrArg _ (Nat.zero_testBit _)).trans (Bool.and_false _)
      rw [empty]
      exact Overlaid.refl canvas
  | cons byte rest inductionHypothesis =>
      rw [List.length_cons] at fits
      have narrow : (flags byte).length ≤ displayWidth := by
        rw [length_flags]
        decide
      have row := overlaid_plotBits canvas x y narrow
      rw [← bits_eq_map_flags] at row
      have remaining := inductionHypothesis
        (canvas.plotBits x y (bits byte)) (y + 1) (by omega)
      have together := row.trans remaining fun column line set =>
        spriteLayer_succ_of_distance_eq_zero fits
          (of_decide_eq_true (Bool.and_eq_true_iff.mp set).1)
      simp only [← spriteLayer_cons fits] at together
      exact together

end Sprites

end Canvas

end ChipEight
