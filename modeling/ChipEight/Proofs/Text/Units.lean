import ChipEight.Text.Units

/-!
# What code units stand for

Units stand for a text if they are its characters one by one, where two surrogates may
take the place of a character that is their pair.  Decoding finds this text, and finds
none for units that stand for no text.
-/

namespace ChipEight.Text.Units

/-- Whether units stand for some characters. -/
inductive StandFor : List Nat → List Char → Prop
  | nil : StandFor [] []
  | single {char : Char} {units : List Nat} {chars : List Char} :
      StandFor units chars → StandFor (char.toNat :: units) (char :: chars)
  | pair {leading trailing : Nat} {char : Char} {units : List Nat}
      {chars : List Char} :
      0xD800 ≤ leading → leading < 0xDC00 →
      0xDC00 ≤ trailing → trailing < 0xE000 →
      char.toNat = 0x10000 + (leading - 0xD800) * 0x400 + (trailing - 0xDC00) →
      StandFor units chars →
      StandFor (leading :: trailing :: units) (char :: chars)

theorem standFor_map_toNat (chars : List Char) :
    StandFor (chars.map Char.toNat) chars := by
  induction chars with
  | nil => exact .nil
  | cons char chars inductionHypothesis => exact .single inductionHypothesis

/-- Whether units are below the number of code points. -/
def InRange (units : List Nat) : Prop :=
  ∀ unit ∈ units, unit < 0x110000

variable {units : List Nat} {chars : List Char}

theorem isLeading_iff (unit : Nat) :
    isLeading unit = true ↔ 0xD800 ≤ unit ∧ unit < 0xDC00 := by
  simp [isLeading]

theorem isTrailing_iff (unit : Nat) :
    isTrailing unit = true ↔ 0xDC00 ≤ unit ∧ unit < 0xE000 := by
  simp [isTrailing]

theorem toNat_ofNat {value : Nat} (valid : value.isValidChar) :
    (Char.ofNat value).toNat = value := by
  rw [Char.ofNat, dif_pos valid]
  rfl

theorem toNat_combine
    {leading trailing : Nat}
    (isLeading : 0xD800 ≤ leading ∧ leading < 0xDC00)
    (isTrailing : 0xDC00 ≤ trailing ∧ trailing < 0xE000) :
    (combine leading trailing).toNat =
      0x10000 + (leading - 0xD800) * 0x400 + (trailing - 0xDC00) := by
  rw [combine, toNat_ofNat]
  right
  omega

/-- No character is a surrogate. -/
theorem not_surrogate_toNat (char : Char) :
    ¬ isLeading char.toNat = true ∧ ¬ isTrailing char.toNat = true := by
  rw [isLeading_iff, isTrailing_iff]
  have valid : char.toNat < 0xD800 ∨ 0xDFFF < char.toNat ∧ _ := char.valid
  omega

theorem decode_pair
    {leading trailing : Nat} (first : isLeading leading = true)
    (second : isTrailing trailing = true) :
    decode (leading :: trailing :: units) =
      (decode units).map (combine leading trailing :: ·) := by
  rw [decode, if_pos first, if_pos second]

theorem decode_single
    {unit : Nat} (notFirst : ¬ isLeading unit = true)
    (notSecond : ¬ isTrailing unit = true) :
    decode (unit :: units) = (decode units).map (Char.ofNat unit :: ·) := by
  cases units <;> simp [decode, notFirst, notSecond]

theorem decode_of_standFor (standFor : StandFor units chars) :
    decode units = some chars := by
  induction standFor with
  | nil => rfl
  | @single char units chars _ inductionHypothesis =>
      obtain ⟨notLeading, notTrailing⟩ := not_surrogate_toNat char
      rw [decode_single notLeading notTrailing, inductionHypothesis,
        Option.map_some, Char.ofNat_toNat]
  | @pair leading trailing char units chars low high low' high' isChar _
      inductionHypothesis =>
      have first := (isLeading_iff leading).mpr ⟨low, high⟩
      have second := (isTrailing_iff trailing).mpr ⟨low', high'⟩
      have combined : combine leading trailing = char := by
        rw [← Char.toNat_inj, toNat_combine ⟨low, high⟩ ⟨low', high'⟩, isChar]
      rw [decode_pair first second, inductionHypothesis, Option.map_some,
        combined]

theorem standFor_of_decode
    (inRange : InRange units) (decoded : decode units = some chars) :
    StandFor units chars := by
  induction units using decode.induct generalizing chars with
  | case1 =>
      cases decoded
      exact .nil
  | case2 leading first trailing units second inductionHypothesis =>
      rw [decode_pair first second] at decoded
      obtain ⟨rest, decodedRest, rfl⟩ := Option.map_eq_some_iff.mp decoded
      obtain ⟨_, inRange⟩ := List.forall_mem_cons.mp inRange
      obtain ⟨_, inRange⟩ := List.forall_mem_cons.mp inRange
      have high := (isLeading_iff leading).mp first
      have low := (isTrailing_iff trailing).mp second
      exact
        .pair high.1 high.2 low.1 low.2 (toNat_combine high low)
          (inductionHypothesis inRange decodedRest)
  | case3 leading first trailing units notSecond =>
      rw [decode, if_pos first, if_neg notSecond] at decoded
      cases decoded
  | case4 leading first =>
      rw [decode, if_pos first] at decoded
      cases decoded
  | case5 unit units notFirst second =>
      cases units <;> rw [decode, if_neg notFirst, if_pos second] at decoded <;>
        cases decoded
  | case6 unit units notFirst notSecond inductionHypothesis =>
      rw [decode_single notFirst notSecond] at decoded
      obtain ⟨rest, decodedRest, rfl⟩ := Option.map_eq_some_iff.mp decoded
      obtain ⟨small, inRange⟩ := List.forall_mem_cons.mp inRange
      have valid : unit.isValidChar := by
        rw [isLeading_iff] at notFirst
        rw [isTrailing_iff] at notSecond
        unfold Nat.isValidChar
        omega
      have standFor := inductionHypothesis inRange decodedRest
      have single :
          StandFor ((Char.ofNat unit).toNat :: units) (Char.ofNat unit :: rest) :=
        .single standFor
      rwa [toNat_ofNat valid] at single

theorem decode_eq_some_iff (inRange : InRange units) :
    decode units = some chars ↔ StandFor units chars :=
  ⟨standFor_of_decode inRange, decode_of_standFor⟩

/-- Units stand for one text at most. -/
theorem StandFor.eq
    {others : List Char} (standFor : StandFor units chars)
    (standForOthers : StandFor units others) : chars = others :=
  Option.some.inj
    ((decode_of_standFor standFor).symm.trans
      (decode_of_standFor standForOthers))

end ChipEight.Text.Units
