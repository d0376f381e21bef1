import SportsBetting.Numeral.Notation
import Mathlib.Algebra.Order.Field.Rat
import Mathlib.Algebra.Order.Floor.Ring
import Mathlib.Tactic.FieldSimp
import Mathlib.Tactic.Linarith

/-!
# Decimal numbers and their texts

A number is a significand without trailing zeros and an exponent of ten, so
equal numbers are equal values. `text` lays the digits out as a language that
switches to an exponent for very large and very small numbers does.
-/

namespace Numeral

structure Decimal where
  significand : ℤ
  exponent : ℤ
  reduced : significand % 10 ≠ 0 ∨ significand = 0 ∧ exponent = 0
  deriving DecidableEq

namespace Decimal

def value (number : Decimal) : ℚ := number.significand * 10 ^ number.exponent

instance : Zero Decimal := ⟨⟨0, 0, .inr ⟨rfl, rfl⟩⟩⟩

/-- `significand * 10 ^ exponent` if that is reduced, zero if not. -/
def ofDigits (significand exponent : ℤ) : Decimal :=
  if reduced : significand % 10 ≠ 0 ∨ significand = 0 ∧ exponent = 0 then
    ⟨significand, exponent, reduced⟩
  else 0

instance : Neg Decimal := ⟨fun number => ⟨-number.significand, number.exponent, by
  have reduced := number.reduced
  omega⟩⟩

@[simp] theorem significand_neg (number : Decimal) : (-number).significand = -number.significand :=
  rfl

@[simp] theorem value_neg (number : Decimal) : (-number).value = -number.value := by
  have unfolded : (-number).value = ((-number.significand : ℤ) : ℚ) * 10 ^ number.exponent := rfl
  rw [unfolded, value]
  push_cast
  ring

/-- The digits `0.d₁d₂… × 10 ^ point` as a literal without its sign: plain up to 21
digits before the point and 6 zeros after it, with an exponent beyond. -/
def layout (negative : Bool) (digits : List Char) (point : ℤ) : Literal :=
  if digits.length ≤ point ∧ point ≤ 21 then
    ⟨negative, digits ++ List.replicate (point - digits.length).toNat '0', [], 0⟩
  else if 0 < point ∧ point ≤ 21 then
    ⟨negative, digits.take point.toNat, digits.drop point.toNat, 0⟩
  else if -6 < point ∧ point ≤ 0 then
    ⟨negative, ['0'], List.replicate (-point).toNat '0' ++ digits, 0⟩
  else
    ⟨negative, digits.take 1, digits.drop 1, point - 1⟩

def literal (number : Decimal) : Literal :=
  let digits := Nat.toDigits 10 number.significand.natAbs
  if number.significand = 0 then ⟨false, ['0'], [], 0⟩
  else layout (number.significand < 0) digits (digits.length + number.exponent)

/-- The text of a number: `2.5`, `-0.25`, `1500`, `1e+21`. -/
def text (number : Decimal) : String := String.ofList number.literal.write

theorem layout_proper (negative : Bool) {digits : List Char} (all : AllDigits digits)
    (some_digit : digits ≠ []) (point : ℤ) : (layout negative digits point).Proper := by
  have count : 0 < digits.length := List.length_pos_iff.mpr some_digit
  unfold layout
  split_ifs with plain inside small
  · exact ⟨by simp [some_digit], all.append (allDigits_zeros _), by simp [AllDigits]⟩
  · refine ⟨?_, all.take _, all.drop _⟩
    simp only [ne_eq, List.take_eq_nil_iff, not_or]
    exact ⟨by omega, some_digit⟩
  · exact ⟨by simp, by simp [AllDigits], (allDigits_zeros _).append all⟩
  · refine ⟨?_, all.take _, all.drop _⟩
    simp [List.take_eq_nil_iff, some_digit]

theorem layout_value (negative : Bool) {digits : List Char} (some_digit : digits ≠ [])
    (point : ℤ) : (layout negative digits point).value =
      (if negative then -1 else 1) * digitsValue digits * 10 ^ (point - digits.length) := by
  have count : 0 < digits.length := List.length_pos_iff.mpr some_digit
  unfold layout Literal.value
  split
  · next plain =>
      obtain ⟨zeros, shift⟩ := Int.eq_ofNat_of_zero_le (sub_nonneg.mpr plain.1)
      simp [digitsValue_append, shift]
  · split
    · next inside =>
        have size : ((digits.drop point.toNat).length : ℤ) = digits.length - point := by
          rw [List.length_drop]
          omega
        simp only [List.take_append_drop, size, zero_sub, neg_sub]
    · split
      · next small =>
          have size : ((List.replicate (-point).toNat '0' ++ digits).length : ℤ) =
              digits.length - point := by
            simp
            omega
          simp only [digitsValue_append, size, digitsValue_zero, digitsValue_zeros, zero_mul,
            zero_add, zero_sub, neg_sub]
      · have size : ((digits.drop 1).length : ℤ) = digits.length - 1 := by
          rw [List.length_drop]
          omega
        simp only [List.take_append_drop, size]
        congr 2
        ring

theorem literal_proper (number : Decimal) : number.literal.Proper := by
  unfold literal
  split
  · exact ⟨by simp, by decide, by simp [AllDigits]⟩
  · exact layout_proper _ (allDigits_toDigits _) Nat.toDigits_ne_nil _

theorem literal_value (number : Decimal) : number.literal.value = number.value := by
  unfold literal
  split
  · next zero => simp [Literal.value, value, zero]
  · rw [layout_value _ Nat.toDigits_ne_nil, digitsValue_toDigits, add_sub_cancel_left, value]
    congr 1
    by_cases negative : number.significand < 0
    · simp [negative, Nat.cast_natAbs, abs_of_neg negative]
    · simp [negative, Nat.cast_natAbs, abs_of_nonneg (not_lt.mp negative)]

@[simp] theorem parse_text (number : Decimal) : parse number.text = some number.value := by
  rw [text, parse_write number.literal_proper, literal_value]

theorem value_eq_of_text {first second : Decimal} (same : first.text = second.text) :
    first.value = second.value := by
  have read := congrArg parse same
  simpa using read

/-- A significand without trailing zeros belongs to the larger exponent only if it is zero. -/
theorem eq_zero_of_scaled {first second : Decimal} {shift : ℕ}
    (scaled : first.significand = second.significand * 10 ^ (shift + 1)) : first.significand = 0 := by
  rcases first.reduced with nonzero | zero
  · rw [scaled, pow_succ, ← mul_assoc] at nonzero
    exact absurd (Int.mul_emod_left _ 10) nonzero
  · exact zero.1

private theorem eq_of_value_of_le {first second : Decimal} (same : first.value = second.value)
    (below : first.exponent ≤ second.exponent) : first = second := by
  obtain ⟨shift, apart⟩ := Int.eq_ofNat_of_zero_le (sub_nonneg.mpr below)
  have scaled : first.significand = second.significand * 10 ^ shift := by
    have exponent : second.exponent = first.exponent + shift := by omega
    have scale : (10 : ℚ) ^ first.exponent ≠ 0 := zpow_ne_zero _ (by norm_num)
    have equal : (first.significand : ℚ) * 10 ^ first.exponent =
        second.significand * 10 ^ shift * 10 ^ first.exponent := by
      rw [value, value, exponent, zpow_add₀ (by norm_num), zpow_natCast] at same
      rw [same]
      ring
    exact_mod_cast mul_right_cancel₀ scale equal
  have exponents : first.exponent = second.exponent := by
    cases shift with
    | zero => omega
    | succ shift =>
        have zero := eq_zero_of_scaled scaled
        have other : second.significand = 0 := by
          rw [zero] at scaled
          rcases mul_eq_zero.mp scaled.symm with none_ | power
          · exact none_
          · exact absurd power (by positivity)
        have lowest := first.reduced
        have highest := second.reduced
        omega
  have significands : first.significand = second.significand := by
    have none_ : shift = 0 := by omega
    rw [scaled, none_, pow_zero, mul_one]
  cases first
  cases second
  congr

/-- Equal numbers are equal values. -/
theorem eq_of_value {first second : Decimal} (same : first.value = second.value) :
    first = second := by
  rcases le_total first.exponent second.exponent with below | above
  · exact eq_of_value_of_le same below
  · exact (eq_of_value_of_le same.symm above).symm

theorem text_inj {first second : Decimal} : first.text = second.text ↔ first = second :=
  ⟨fun same => eq_of_value (value_eq_of_text same), congrArg text⟩

end Decimal

end Numeral
