import ChipEight.Text.Numeral
import Mathlib.Algebra.Group.Nat.Defs

/-!
# Numerals read back

A numeral stands for one number only: it can be read back, whatever its base and
however many zeros it is padded with.  A number below a power of the base has no more
digits than the exponent says.
-/

namespace ChipEight.Text

/-! ## Digits -/

def digitValue (char : Char) : Nat :=
  if char.toNat < 58 then char.toNat - 48 else char.toNat - 55

/-- The number that digits spell, most significant first. -/
def valueOf (base : Nat) (digits : List Char) : Nat :=
  digits.foldl (fun value char => value * base + digitValue char) 0

theorem digitValue_digitChar :
    ∀ value < 16, digitValue (digitChar value) = value := by
  decide

variable {base : Nat}

theorem valueOf_concat (front : List Char) (char : Char) :
    valueOf base (front ++ [char]) =
      valueOf base front * base + digitValue char := by
  rw [valueOf, List.foldl_append, List.foldl_cons, List.foldl_nil, valueOf]

theorem valueOf_leftpad (width : Nat) (digits : List Char) :
    valueOf base (digits.leftpad width '0') = valueOf base digits := by
  have zeros : ∀ count, valueOf base (List.replicate count '0') = 0 := by
    intro count
    induction count with
    | zero => rfl
    | succ count inductionHypothesis =>
        rw [List.replicate_succ', valueOf_concat, inductionHypothesis,
          Nat.zero_mul]
        rfl
  rw [List.leftpad, valueOf, List.foldl_append]
  exact congrArg (digits.foldl _ ·) (zeros _)

theorem valueOf_digits
    (atLeastTwo : 2 ≤ base) (atMostSixteen : base ≤ 16) (value : Nat) :
    valueOf base (digits base value) = value := by
  induction value using digits.induct base with
  | case1 value single =>
      have small : value < base := by omega
      rw [digits, if_pos single, ← List.nil_append [_], valueOf_concat,
        digitValue_digitChar value (by omega), valueOf, List.foldl_nil,
        Nat.zero_mul, Nat.zero_add]
  | case2 value several inductionHypothesis =>
      have small : value % base < base := Nat.mod_lt value (by omega)
      rw [digits, if_neg several, valueOf_concat, inductionHypothesis,
        digitValue_digitChar (value % base) (by omega), Nat.mul_comm,
        Nat.div_add_mod]

/-- Each character of a numeral is a digit. -/
theorem digitChar_of_mem_digits
    (atLeastTwo : 2 ≤ base) {value : Nat} {char : Char}
    (inside : char ∈ digits base value) :
    ∃ digit < base, char = digitChar digit := by
  induction value using digits.induct base with
  | case1 value single =>
      rw [digits, if_pos single, List.mem_singleton] at inside
      exact ⟨value, by omega, inside⟩
  | case2 value several inductionHypothesis =>
      rw [digits, if_neg several, List.mem_append, List.mem_singleton]
        at inside
      obtain inFront | isLast := inside
      · exact inductionHypothesis inFront
      · exact ⟨value % base, Nat.mod_lt value (by omega), isLast⟩

theorem length_digits_le
    {exponent value : Nat} (small : value < base ^ (exponent + 1)) :
    (digits base value).length ≤ exponent + 1 := by
  induction exponent generalizing value with
  | zero =>
      rw [digits, if_pos (.inr (by simpa using small))]
      simp
  | succ exponent inductionHypothesis =>
      rw [digits]
      split
      · simp
      · have quotient : value / base < base ^ (exponent + 1) :=
          Nat.div_lt_of_lt_mul (by rwa [Nat.mul_comm, ← Nat.pow_succ])
        rw [List.length_append, List.length_singleton]
        exact Nat.succ_le_succ (inductionHypothesis quotient)

/-! ## Hexadecimal numerals -/

theorem valueOf_hexadecimal (width value : Nat) :
    valueOf 16 (hexadecimal width value).toList = value := by
  rw [hexadecimal, String.toList_ofList, valueOf_leftpad,
    valueOf_digits (by omega) (by omega)]

theorem length_hexadecimal (width value : Nat) :
    (hexadecimal width value).toList.length =
      max width (digits 16 value).length := by
  rw [hexadecimal, String.toList_ofList, List.length_leftpad]

/-- A number that fits in the width is written with just as many digits. -/
theorem length_hexadecimal_of_lt
    {width value : Nat} (small : value < 16 ^ (width + 1)) :
    (hexadecimal (width + 1) value).toList.length = width + 1 := by
  rw [length_hexadecimal]
  exact Nat.max_eq_left (length_digits_le small)

theorem digitChar_of_mem_hexadecimal
    {width value : Nat} {char : Char}
    (inside : char ∈ (hexadecimal width value).toList) :
    ∃ digit < 16, char = digitChar digit := by
  rw [hexadecimal, String.toList_ofList, List.leftpad, List.mem_append]
    at inside
  obtain isZero | inDigits := inside
  · exact ⟨0, by omega, List.eq_of_mem_replicate isZero⟩
  · exact digitChar_of_mem_digits (by omega) inDigits

/-! ## Decimal numerals -/

theorem valueOf_decimal (value : Nat) :
    valueOf 10 (decimal value).toList = value := by
  rw [decimal, String.toList_ofList, valueOf_digits (by omega) (by omega)]

theorem digitChar_of_mem_decimal
    {value : Nat} {char : Char}
    (inside : char ∈ (decimal value).toList) :
    ∃ digit < 10, char = digitChar digit := by
  rw [decimal, String.toList_ofList] at inside
  exact digitChar_of_mem_digits (by omega) inside

end ChipEight.Text
