import SportsBetting.Numeral.Decimal
import Mathlib.Data.Rat.Floor
import Mathlib.Data.List.DropRight

/-!
# Fixed-point columns

A `Numeric precision scale` is what a column with so many digits, `scale` of
them after the point, can hold. Storing rounds half away from zero and fails
on overflow; `toFixed` prints a number with a given count of decimals.
-/

namespace Numeral

/-- The number in units of `10 ^ -scale`, rounded half away from zero. -/
def roundHalfUp (scale : ℕ) (number : ℚ) : ℤ :=
  if number < 0 then -⌊-number * 10 ^ scale + 1 / 2⌋ else ⌊number * 10 ^ scale + 1 / 2⌋

theorem roundHalfUp_neg (scale : ℕ) (number : ℚ) :
    roundHalfUp scale (-number) = -roundHalfUp scale number := by
  unfold roundHalfUp
  rcases lt_trichotomy number 0 with negative | rfl | positive
  · simp [negative, not_lt.mpr negative.le]
  · norm_num
  · simp [positive, not_lt.mpr positive.le]

/-- A number that has so many decimals already is not rounded. -/
theorem roundHalfUp_exact (scale : ℕ) (units : ℤ) :
    roundHalfUp scale (units / 10 ^ scale) = units := by
  have power : (0 : ℚ) < 10 ^ scale := by positivity
  have half : ∀ whole : ℤ, ⌊(whole : ℚ) + 1 / 2⌋ = whole := by
    intro whole
    rw [Int.floor_eq_iff]
    constructor <;> linarith
  unfold roundHalfUp
  split
  · rw [neg_mul, div_mul_cancel₀ _ power.ne', ← Int.cast_neg, half, neg_neg]
  · rw [div_mul_cancel₀ _ power.ne', half]

theorem roundHalfUp_nonneg (scale : ℕ) {number : ℚ} (nonneg : 0 ≤ number) :
    0 ≤ roundHalfUp scale number := by
  rw [roundHalfUp, if_neg (not_lt.mpr nonneg)]
  exact Int.floor_nonneg.mpr (by positivity)

/-- The number has at most so many decimals. -/
def HasDecimals (scale : ℕ) (number : ℚ) : Prop := (number * 10 ^ scale).den = 1

instance (scale : ℕ) (number : ℚ) : Decidable (HasDecimals scale number) :=
  inferInstanceAs (Decidable (_ = _))

structure Numeric (precision scale : ℕ) where
  units : ℤ
  bound : units.natAbs < 10 ^ precision
  deriving DecidableEq

namespace Numeric

variable {precision scale : ℕ}

def value (number : Numeric precision scale) : ℚ := number.units / 10 ^ scale

instance : Zero (Numeric precision scale) := ⟨⟨0, by positivity⟩⟩

/-- So many units of the last decimal if the column can hold them, zero if not. -/
def ofUnits (units : ℤ) : Numeric precision scale :=
  if bound : units.natAbs < 10 ^ precision then ⟨units, bound⟩ else 0

instance : Neg (Numeric precision scale) :=
  ⟨fun number => ⟨-number.units, by simpa using number.bound⟩⟩

@[simp] theorem units_zero : (0 : Numeric precision scale).units = 0 := rfl

@[simp] theorem value_zero : (0 : Numeric precision scale).value = 0 := by
  simp [value]

@[simp] theorem units_neg (number : Numeric precision scale) : (-number).units = -number.units :=
  rfl

@[simp] theorem value_neg (number : Numeric precision scale) : (-number).value = -number.value := by
  simp only [value, units_neg]
  push_cast
  ring

theorem value_injective {first second : Numeric precision scale}
    (same : first.value = second.value) : first = second := by
  have power : (10 : ℚ) ^ scale ≠ 0 := by positivity
  have units : first.units = second.units := by
    have cross : (first.units : ℚ) = second.units := by
      rwa [value, value, div_left_inj' power] at same
    exact_mod_cast cross
  cases first
  cases second
  simpa using units

/-- What the column keeps of a number, if it fits. -/
def store (precision scale : ℕ) (number : ℚ) : Option (Numeric precision scale) :=
  if fits : (roundHalfUp scale number).natAbs < 10 ^ precision then some ⟨_, fits⟩ else none

theorem store_units {number : ℚ} {stored : Numeric precision scale}
    (kept : store precision scale number = some stored) :
    stored.units = roundHalfUp scale number := by
  unfold store at kept
  split at kept
  · rw [← Option.some.inj kept]
  · cases kept

/-- A number is stored as it is if, and only if, it has no more decimals than the column. -/
theorem store_exact_iff {number : ℚ} {stored : Numeric precision scale}
    (kept : store precision scale number = some stored) :
    stored.value = number ↔ HasDecimals scale number := by
  have power : (10 : ℚ) ^ scale ≠ 0 := by positivity
  constructor
  · rintro rfl
    unfold HasDecimals value
    rw [div_mul_cancel₀ _ power]
    rfl
  · intro whole
    have units : number = ((number * 10 ^ scale).num : ℚ) / 10 ^ scale := by
      rw [Rat.coe_int_num_of_den_eq_one whole, mul_div_cancel_right₀ _ power]
    have rounded : roundHalfUp scale number = (number * 10 ^ scale).num := by
      conv_lhs => rw [units]
      exact roundHalfUp_exact scale _
    rw [value, store_units kept, rounded]
    exact units.symm

theorem store_neg {number : ℚ} {stored : Numeric precision scale}
    (kept : store precision scale number = some stored) :
    store precision scale (-number) = some (-stored) := by
  have units := store_units kept
  have fits := stored.bound
  rw [units] at fits
  unfold store
  rw [dif_pos (by simpa [roundHalfUp_neg] using fits)]
  congr 1
  apply value_injective
  simp [value, roundHalfUp_neg, units]

theorem store_nonneg {number : ℚ} {stored : Numeric precision scale}
    (kept : store precision scale number = some stored) (nonneg : 0 ≤ number) :
    0 ≤ stored.value := by
  have units : (0 : ℤ) ≤ stored.units := by
    rw [store_units kept]
    exact roundHalfUp_nonneg scale nonneg
  have cast : (0 : ℚ) ≤ stored.units := by exact_mod_cast units
  exact div_nonneg cast (by positivity)

theorem store_nonpos {number : ℚ} {stored : Numeric precision scale}
    (kept : store precision scale number = some stored) (nonpos : number ≤ 0) :
    stored.value ≤ 0 := by
  have opposite := store_nonneg (store_neg kept) (neg_nonneg.mpr nonpos)
  simpa using opposite

/-- Storing a number of a column that is at least as wide keeps it exactly. -/
theorem store_value {wider finer : ℕ} (number : Numeric precision scale)
    (decimals : scale ≤ finer) (digits : precision + finer ≤ wider + scale) :
    ∃ stored : Numeric wider finer,
      store wider finer number.value = some stored ∧ stored.value = number.value := by
  obtain ⟨more, rfl⟩ := Nat.exists_eq_add_of_le decimals
  have same : number.value = ((number.units * 10 ^ more : ℤ) : ℚ) / 10 ^ (scale + more) := by
    have power : (10 : ℚ) ^ more ≠ 0 := by positivity
    push_cast
    rw [value, pow_add, mul_div_mul_right _ _ power]
  have fits : (number.units * 10 ^ more).natAbs < 10 ^ wider := by
    have more_digits : 10 ^ (precision + more) ≤ 10 ^ wider :=
      Nat.pow_le_pow_right (by decide) (by omega)
    have scaled : number.units.natAbs * 10 ^ more < 10 ^ precision * 10 ^ more :=
      Nat.mul_lt_mul_of_pos_right number.bound (by positivity)
    rw [← pow_add] at scaled
    rw [Int.natAbs_mul, Int.natAbs_pow]
    exact scaled.trans_le more_digits
  refine ⟨⟨number.units * 10 ^ more, fits⟩, ?_, by rw [same]; rfl⟩
  unfold store
  rw [same]
  simp only [roundHalfUp_exact]
  rw [dif_pos fits]

end Numeric

section Printing

/-- The last `count` decimal digits. -/
def lastDigits : ℕ → ℕ → List Char
  | 0, _ => []
  | count + 1, n => lastDigits count (n / 10) ++ [Nat.digitChar (n % 10)]

@[simp] theorem length_lastDigits (count n : ℕ) : (lastDigits count n).length = count := by
  induction count generalizing n with
  | zero => rfl
  | succ count ih => simp [lastDigits, ih]

theorem allDigits_lastDigits (count n : ℕ) : AllDigits (lastDigits count n) := by
  induction count generalizing n with
  | zero => simp [lastDigits, AllDigits]
  | succ count ih =>
      refine (ih _).append ?_
      intro symbol member
      obtain rfl := List.mem_singleton.mp member
      simp [Nat.mod_lt]

theorem digitsValue_lastDigits (count n : ℕ) : digitsValue (lastDigits count n) = n % 10 ^ count := by
  induction count generalizing n with
  | zero => simp [lastDigits, digitsValue, Nat.mod_one]
  | succ count ih =>
      have last : digitsValue [Nat.digitChar (n % 10)] = n % 10 := by
        simp [digitsValue, Nat.ofDigitChars_cons_digitChar_of_lt_ten, Nat.mod_lt]
      rw [lastDigits, digitsValue_append, ih, last, pow_succ', Nat.mod_mul]
      simp
      ring

def fixedLiteral (places : ℕ) (number : ℚ) : Literal :=
  let units := (roundHalfUp places number).natAbs
  ⟨number < 0, Nat.toDigits 10 (units / 10 ^ places), lastDigits places units, 0⟩

/-- The text with exactly `places` decimals. -/
def toFixed (places : ℕ) (number : ℚ) : String := String.ofList (fixedLiteral places number).write

theorem roundHalfUp_sign (scale : ℕ) (number : ℚ) :
    roundHalfUp scale number =
      (if number < 0 then -1 else 1) * ((roundHalfUp scale number).natAbs : ℤ) := by
  split
  · next negative =>
      have nonneg := roundHalfUp_nonneg scale (neg_nonneg.mpr negative.le)
      rw [roundHalfUp_neg] at nonneg
      omega
  · next negative =>
      have nonneg := roundHalfUp_nonneg scale (not_lt.mp negative)
      omega

/-- The value of a size in units of the last of `places` decimals. -/
theorem fixed_value (negative : Bool) (places size : ℕ) :
    Literal.value ⟨negative, Nat.toDigits 10 (size / 10 ^ places), lastDigits places size, 0⟩ =
      (if negative then -1 else 1) * size / 10 ^ places := by
  simp [Literal.value, digitsValue_append, digitsValue_lastDigits, Nat.div_add_mod',
    div_eq_mul_inv]

theorem parse_toFixed (places : ℕ) (number : ℚ) :
    parse (toFixed places number) = some ((roundHalfUp places number : ℤ) / 10 ^ places : ℚ) := by
  have proper : (fixedLiteral places number).Proper :=
    ⟨Nat.toDigits_ne_nil, allDigits_toDigits _, allDigits_lastDigits _ _⟩
  have cast : ∀ (units : ℤ) (size : ℕ), units = (if number < 0 then -1 else 1) * (size : ℤ) →
      (units : ℚ) = (if number < 0 then -1 else 1) * (size : ℚ) := by
    rintro _ size rfl
    split <;> simp
  rw [toFixed, parse_write proper, fixedLiteral, fixed_value,
    cast _ _ (roundHalfUp_sign places number)]
  simp

/-- A column value printed with the column's own decimals reads back exactly. -/
theorem Numeric.parse_toFixed {precision scale : ℕ} (number : Numeric precision scale) :
    parse (toFixed scale number.value) = some number.value := by
  rw [Numeral.parse_toFixed, Numeric.value, roundHalfUp_exact]

/-- The digits without trailing zeros. -/
def trimZeros (digits : List Char) : List Char := digits.rdropWhile (· = '0')

theorem trimZeros_append (digits : List Char) :
    ∃ count, digits = trimZeros digits ++ List.replicate count '0' := by
  refine ⟨(digits.rtakeWhile (· = '0')).length, ?_⟩
  have zeros : digits.rtakeWhile (· = '0') =
      List.replicate (digits.rtakeWhile (· = '0')).length '0' := by
    rw [List.eq_replicate_iff]
    exact ⟨rfl, fun symbol member => by simpa using List.mem_rtakeWhile_imp member⟩
  rw [← zeros]
  exact List.rdropWhile_append_rtakeWhile.symm

theorem value_append_zeros (negative : Bool) (whole fraction : List Char) (exponent : ℤ)
    (count : ℕ) :
    Literal.value ⟨negative, whole, fraction ++ List.replicate count '0', exponent⟩ =
      Literal.value ⟨negative, whole, fraction, exponent⟩ := by
  have ten : (10 : ℚ) ≠ 0 := by norm_num
  have shift : (10 : ℚ) ^ (exponent - fraction.length) =
      10 ^ count * 10 ^ (exponent - (fraction.length + count)) := by
    rw [← zpow_natCast, ← zpow_add₀ ten]
    congr 1
    ring
  simp only [Literal.value, ← List.append_assoc, digitsValue_append _ (List.replicate count '0'),
    digitsValue_zeros, List.length_append, List.length_replicate]
  push_cast
  rw [shift]
  ring

/-- The shortest text of a column value, without trailing zeros. -/
def Numeric.literal {precision scale : ℕ} (number : Numeric precision scale) : Literal :=
  let size := number.units.natAbs
  ⟨number.units < 0, Nat.toDigits 10 (size / 10 ^ scale), trimZeros (lastDigits scale size), 0⟩

def Numeric.text {precision scale : ℕ} (number : Numeric precision scale) : String :=
  String.ofList number.literal.write

theorem Numeric.literal_proper {precision scale : ℕ} (number : Numeric precision scale) :
    number.literal.Proper := by
  obtain ⟨count, padded⟩ := trimZeros_append (lastDigits scale number.units.natAbs)
  refine ⟨Nat.toDigits_ne_nil, allDigits_toDigits _, ?_⟩
  intro symbol member
  refine allDigits_lastDigits scale number.units.natAbs symbol ?_
  rw [padded]
  exact List.mem_append_left _ member

theorem Numeric.literal_value {precision scale : ℕ} (number : Numeric precision scale) :
    number.literal.value = number.value := by
  obtain ⟨count, padded⟩ := trimZeros_append (lastDigits scale number.units.natAbs)
  have same := fixed_value (number.units < 0) scale number.units.natAbs
  rw [padded, value_append_zeros] at same
  rw [Numeric.literal, same, Numeric.value]
  by_cases negative : number.units < 0
  · simp [negative, Nat.cast_natAbs, abs_of_neg negative]
  · simp [negative, Nat.cast_natAbs, abs_of_nonneg (not_lt.mp negative)]

theorem Numeric.parse_text {precision scale : ℕ} (number : Numeric precision scale) :
    parse number.text = some number.value := by
  rw [Numeric.text, parse_write number.literal_proper, number.literal_value]

/-- A minus sign before the text of a column value negates it. -/
theorem Numeric.parse_minus_text {precision scale : ℕ} {number : Numeric precision scale}
    (nonneg : 0 ≤ number.units) : parse ("-" ++ number.text) = some (-number.value) := by
  have positive : number.literal.negative = false := by
    simpa [Numeric.literal] using nonneg
  let signed : Literal :=
    ⟨true, number.literal.whole, number.literal.fraction, number.literal.exponent⟩
  have proper : signed.Proper :=
    ⟨number.literal_proper.some_whole, number.literal_proper.whole, number.literal_proper.fraction⟩
  have text : "-" ++ number.text = String.ofList signed.write := by
    apply String.toList_injective
    simp [signed, Numeric.text, Literal.write, writeSign, positive]
  rw [text, parse_write proper, ← number.literal_value]
  simp [signed, Literal.value, positive]

end Printing

section Precision

/-- The number of digits before the point; negative for zeros after it. -/
def magnitude (number : ℚ) : ℤ :=
  if 1 ≤ |number| then (Nat.toDigits 10 ⌊|number|⌋.toNat).length
  else
    let zeros : ℤ := (Nat.toDigits 10 ⌊|number|⁻¹⌋.toNat).length - 1
    if |number| * 10 ^ zeros = 1 then 1 - zeros else -zeros

/-- A product is rounded half away from zero to so many significant digits. -/
def roundSignificant (digits : ℕ) (number : ℚ) : ℚ :=
  let scale := digits - magnitude number
  let units := ⌊|number| * 10 ^ scale + 1 / 2⌋
  (if number < 0 then -1 else 1) * units / 10 ^ scale

end Precision

end Numeral
