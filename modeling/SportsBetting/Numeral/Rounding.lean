import SportsBetting.Numeral.Column

/-!
# Rounding to significant digits

`magnitude` is the exponent of the next power of ten above a number. From it follow
that numbers with few digits are kept, and how far rounding can move the others.
-/

namespace Numeral

section Magnitude

/-- A number from one on lies between two powers of ten, by the digits before its point. -/
theorem digits_bounds {number : ℚ} (large : 1 ≤ number) :
    (10 : ℚ) ^ (((Nat.toDigits 10 ⌊number⌋.toNat).length : ℤ) - 1) ≤ number ∧
      number < 10 ^ ((Nat.toDigits 10 ⌊number⌋.toNat).length : ℤ) := by
  have whole : (1 : ℤ) ≤ ⌊number⌋ := Int.le_floor.mpr (by exact_mod_cast large)
  obtain ⟨count, floor⟩ := Int.eq_ofNat_of_zero_le (by omega : (0 : ℤ) ≤ ⌊number⌋)
  have below : (count : ℚ) ≤ number := by
    have lower := Int.floor_le number
    rwa [floor] at lower
  have above : number < (count : ℚ) + 1 := by
    have upper := Int.lt_floor_add_one number
    rwa [floor] at upper
  rw [floor, Int.toNat_natCast]
  have some_digit : 0 < (Nat.toDigits 10 count).length := Nat.length_toDigits_pos
  obtain ⟨length, same⟩ := Nat.exists_eq_succ_of_ne_zero some_digit.ne'
  have upper : count < 10 ^ (length + 1) :=
    (Nat.length_toDigits_le_iff (by decide) (by omega)).mp same.le
  have lower : 10 ^ length ≤ count := by
    by_contra less
    rcases Nat.eq_zero_or_pos length with rfl | positive
    · omega
    · have short := (Nat.length_toDigits_le_iff (by decide) positive).mpr (not_le.mp less)
      omega
  rw [same]
  push_cast
  rw [add_sub_cancel_right, zpow_natCast]
  constructor
  · exact le_trans (by exact_mod_cast lower) below
  · rw [← Nat.cast_succ, zpow_natCast]
    have next : (count : ℚ) + 1 ≤ 10 ^ (length + 1) := by exact_mod_cast upper
    exact above.trans_le next

/-- A number other than zero lies between the powers of ten around its magnitude. -/
theorem magnitude_spec {number : ℚ} (nonzero : number ≠ 0) :
    (10 : ℚ) ^ (magnitude number - 1) ≤ |number| ∧ |number| < 10 ^ magnitude number := by
  have positive : 0 < |number| := abs_pos.mpr nonzero
  unfold magnitude
  split
  · next large => exact digits_bounds large
  · next small =>
      have large : 1 ≤ |number|⁻¹ := (one_le_inv₀ positive).mpr (not_le.mp small).le
      obtain ⟨lower, upper⟩ := digits_bounds large
      dsimp only
      generalize ((Nat.toDigits 10 ⌊|number|⁻¹⌋.toNat).length : ℤ) = length at lower upper ⊢
      -- Inverting exchanges the bounds.
      have atMost : |number| ≤ 10 ^ (-(length - 1)) := by
        rw [zpow_neg]
        exact (le_inv_comm₀ (zpow_pos (by norm_num) _) positive).mp lower
      have above : (10 : ℚ) ^ (-length) < |number| := by
        rw [zpow_neg]
        exact (inv_lt_comm₀ positive (zpow_pos (by norm_num) _)).mp upper
      split
      · next power =>
          have exact_ : |number| = 10 ^ (-(length - 1)) := by
            rw [zpow_neg]
            exact eq_inv_of_mul_eq_one_left power
          rw [exact_]
          constructor
          · exact le_of_eq (by congr 1; ring)
          · exact zpow_lt_zpow_right₀ (by norm_num) (by omega)
      · next other =>
          constructor
          · exact le_trans (le_of_eq (by congr 1; ring)) above.le
          · refine lt_of_le_of_ne atMost fun same => other ?_
            rw [same, ← zpow_add₀ (by norm_num)]
            simp

end Magnitude

section Significant

/-- A power from `scale` on is that many tens and some more. -/
theorem zpow_split {scale : ℕ} {power : ℤ} (enough : (scale : ℤ) ≤ power) :
    ∃ more : ℕ, (10 : ℚ) ^ power = 10 ^ scale * 10 ^ more := by
  obtain ⟨more, shift⟩ := Int.eq_ofNat_of_zero_le (sub_nonneg.mpr enough)
  have exponent : power = (scale + more : ℕ) := by
    push_cast
    omega
  exact ⟨more, by rw [exponent, zpow_natCast, pow_add]⟩

@[simp] theorem roundSignificant_zero (digits : ℕ) : roundSignificant digits 0 = 0 := by
  have half : ⌊(1 / 2 : ℚ)⌋ = 0 := by norm_num
  simp only [roundSignificant, abs_zero, zero_mul, zero_add, half]
  simp

/-- Rounding moves a number by at most half a unit of the last digit that is kept. -/
theorem abs_roundSignificant_sub_le (digits : ℕ) (number : ℚ) :
    |roundSignificant digits number - number| ≤
      1 / 2 * (10 ^ ((digits : ℤ) - magnitude number))⁻¹ := by
  unfold roundSignificant
  dsimp only
  generalize (10 : ℚ) ^ ((digits : ℤ) - magnitude number) = scale,
    zpow_pos (show (0 : ℚ) < 10 by norm_num) ((digits : ℤ) - magnitude number) = positive
  have lower := Int.floor_le (|number| * scale + 1 / 2)
  have upper := Int.lt_floor_add_one (|number| * scale + 1 / 2)
  generalize (⌊|number| * scale + 1 / 2⌋ : ℚ) = units at lower upper ⊢
  have size : |units / scale - (|number|)| ≤ 1 / 2 * scale⁻¹ := by
    have scaled : units / scale - |number| = (units - |number| * scale) * scale⁻¹ := by
      field_simp
    rw [scaled, abs_mul, abs_of_pos (inv_pos.mpr positive)]
    refine mul_le_mul_of_nonneg_right ?_ (inv_pos.mpr positive).le
    rw [abs_le]
    constructor <;> linarith
  split
  · next negative =>
      have opposite : -1 * units / scale - number = -(units / scale - |number|) := by
        rw [abs_of_neg negative]
        ring
      rw [opposite, abs_neg]
      exact size
  · next nonnegative =>
      rw [abs_of_nonneg (not_lt.mp nonnegative)] at size
      rwa [one_mul]

/-- The relative error of rounding to so many significant digits. -/
theorem abs_roundSignificant_sub_le_mul (digits : ℕ) (number : ℚ) :
    |roundSignificant digits number - number| ≤ 5 / 10 ^ digits * |number| := by
  by_cases zero : number = 0
  · simp [zero]
  · refine (abs_roundSignificant_sub_le digits number).trans ?_
    have lower := (magnitude_spec zero).1
    have split : ((10 : ℚ) ^ ((digits : ℤ) - magnitude number))⁻¹ =
        10 ^ (magnitude number - 1) * (10 / 10 ^ digits) := by
      rw [← zpow_neg, neg_sub, zpow_sub₀ (by norm_num), zpow_sub₀ (by norm_num), zpow_natCast,
        zpow_one]
      field_simp
    rw [split]
    have scale : (0 : ℚ) < 10 / 10 ^ digits := by positivity
    calc (1 : ℚ) / 2 * (10 ^ (magnitude number - 1) * (10 / 10 ^ digits))
        ≤ 1 / 2 * (|number| * (10 / 10 ^ digits)) := by gcongr
      _ = 5 / 10 ^ digits * |number| := by ring

/-- A whole number that is reached is kept. -/
theorem intCast_le_floor {whole : ℤ} {number : ℚ} (below : (whole : ℚ) ≤ number) :
    (whole : ℚ) ≤ ⌊number + 1 / 2⌋ := by
  exact_mod_cast Int.le_floor.mpr (below.trans (le_add_of_nonneg_right (by norm_num)))

/-- Few digits with many of them after the point make a small number. -/
theorem units_le_zpow {digits scale : ℕ} {units exponent : ℤ} (nonneg : 0 ≤ units)
    (short : units.natAbs < 10 ^ (digits + 1)) (small : (digits : ℤ) + 1 - exponent < scale) :
    (units / 10 ^ scale : ℚ) ≤ 10 ^ (exponent - 1) := by
  have wide : (units : ℚ) ≤ 10 ^ (digits + 1) := by
    have below : units < 10 ^ (digits + 1) := by
      have cast : ((10 ^ (digits + 1) : ℕ) : ℤ) = 10 ^ (digits + 1) := by push_cast; rfl
      omega
    exact_mod_cast below.le
  rw [div_le_iff₀ (by positivity), ← zpow_natCast, ← zpow_add₀ (by norm_num)]
  refine wide.trans ?_
  rw [← zpow_natCast]
  exact zpow_le_zpow_right₀ (by norm_num) (by omega)

/-- Rounding does not go below a number of few digits that the number reaches. -/
theorem le_roundSignificant {digits scale : ℕ} {units : ℤ} {number : ℚ} (nonneg : 0 ≤ units)
    (short : units.natAbs < 10 ^ digits) (reached : (units / 10 ^ scale : ℚ) ≤ number) :
    (units / 10 ^ scale : ℚ) ≤ roundSignificant digits number := by
  have start : (0 : ℚ) ≤ units / 10 ^ scale := by positivity
  have positive := start.trans reached
  by_cases zero : number = 0
  · rw [zero] at reached ⊢
    rwa [roundSignificant_zero]
  · have lower := (magnitude_spec zero).1
    rw [abs_of_nonneg positive] at lower
    unfold roundSignificant
    dsimp only
    rw [if_neg (not_lt.mpr positive), one_mul, abs_of_nonneg positive]
    have power : (0 : ℚ) < 10 ^ ((digits : ℤ) - magnitude number) := zpow_pos (by norm_num) _
    rw [le_div_iff₀ power]
    by_cases enough : (scale : ℤ) ≤ digits - magnitude number
    · obtain ⟨more, scaled⟩ := zpow_split enough
      have whole : (units / 10 ^ scale : ℚ) * 10 ^ ((digits : ℤ) - magnitude number) =
          (units * 10 ^ more : ℤ) := by
        rw [scaled]
        push_cast
        field_simp
      rw [whole]
      refine intCast_le_floor ?_
      rw [← whole]
      exact mul_le_mul_of_nonneg_right reached power.le
    · cases digits with
      | zero =>
          have none : units = 0 := by omega
          rw [none, Int.cast_zero, zero_div, zero_mul, ← Int.cast_zero]
          apply intCast_le_floor
          rw [Int.cast_zero]
          positivity
      | succ digits =>
          have top : ((10 ^ digits : ℤ) : ℚ) =
              10 ^ (magnitude number - 1) * 10 ^ (((digits + 1 : ℕ) : ℤ) - magnitude number) := by
            rw [← zpow_add₀ (by norm_num)]
            push_cast
            rw [← zpow_natCast]
            congr 1
            ring
          refine le_trans ?_ (@intCast_le_floor (10 ^ digits) _ ?_)
          · rw [top]
            exact mul_le_mul_of_nonneg_right (units_le_zpow nonneg short (by omega)) power.le
          · rw [top]
            exact mul_le_mul_of_nonneg_right lower power.le

theorem sign_mul_abs (number : ℚ) : (if number < 0 then -1 else 1) * |number| = number := by
  split
  · next negative => rw [abs_of_neg negative, neg_one_mul, neg_neg]
  · next nonnegative => rw [abs_of_nonneg (not_lt.mp nonnegative), one_mul]

/-- A number with few enough digits is kept as it is. -/
theorem roundSignificant_exact {digits scale : ℕ} {units : ℤ}
    (short : units.natAbs < 10 ^ digits) :
    roundSignificant digits (units / 10 ^ scale) = units / 10 ^ scale := by
  by_cases zero : units = 0
  · simp [zero]
  · have nonzero : (units / 10 ^ scale : ℚ) ≠ 0 :=
      div_ne_zero (Int.cast_ne_zero.mpr zero) (by positivity)
    have size : |(units / 10 ^ scale : ℚ)| = (units.natAbs : ℤ) / 10 ^ scale := by
      rw [abs_div, abs_of_pos (by positivity : (0 : ℚ) < 10 ^ scale), Int.natCast_natAbs,
        Int.cast_abs]
    -- The last digit that is kept does not come before the last decimal.
    have enough : (scale : ℤ) ≤ digits - magnitude (units / 10 ^ scale) := by
      by_contra coarse
      have lower := (magnitude_spec nonzero).1
      rw [size, le_div_iff₀ (by positivity), ← zpow_natCast, ← zpow_add₀ (by norm_num)] at lower
      have power : (10 : ℚ) ^ (digits : ℤ) ≤
          10 ^ (magnitude (units / 10 ^ scale) - 1 + scale) :=
        zpow_le_zpow_right₀ (by norm_num) (by omega)
      rw [zpow_natCast] at power
      have wide : 10 ^ digits ≤ units.natAbs := by exact_mod_cast power.trans lower
      exact absurd short (not_lt.mpr wide)
    obtain ⟨more, scaled⟩ := zpow_split enough
    have kept : ⌊|(units / 10 ^ scale : ℚ)| * (10 ^ scale * 10 ^ more) + 1 / 2⌋ =
        (units.natAbs : ℤ) * 10 ^ more := by
      rw [size, div_mul_eq_mul_div, mul_left_comm, mul_div_cancel_left₀ _ (by positivity),
        Int.floor_eq_iff]
      push_cast
      constructor <;> linarith
    unfold roundSignificant
    dsimp only
    rw [scaled, kept]
    calc _ = (if (units / 10 ^ scale : ℚ) < 0 then -1 else 1) * |(units / 10 ^ scale : ℚ)| := by
          rw [size]
          push_cast
          field_simp
      _ = units / 10 ^ scale := sign_mul_abs _

end Significant

section Decimals

/-- Rounding to decimals moves a number by at most half a unit of the last of them. -/
theorem abs_roundHalfUp_sub_le (scale : ℕ) (number : ℚ) :
    |(roundHalfUp scale number : ℚ) / 10 ^ scale - number| ≤ 1 / 2 / 10 ^ scale := by
  have power : (0 : ℚ) < 10 ^ scale := by positivity
  have scaled : (roundHalfUp scale number : ℚ) / 10 ^ scale - number =
      (roundHalfUp scale number - number * 10 ^ scale) / 10 ^ scale := by
    field_simp
  rw [scaled, abs_div, abs_of_pos power]
  refine div_le_div_of_nonneg_right ?_ power.le
  unfold roundHalfUp
  split
  · have lower := Int.floor_le (-number * 10 ^ scale + 1 / 2)
    have upper := Int.lt_floor_add_one (-number * 10 ^ scale + 1 / 2)
    rw [abs_le]
    push_cast
    constructor <;> linarith
  · have lower := Int.floor_le (number * 10 ^ scale + 1 / 2)
    have upper := Int.lt_floor_add_one (number * 10 ^ scale + 1 / 2)
    rw [abs_le]
    constructor <;> linarith

/-- Rounding does not go below whole units that the number reaches. -/
theorem le_roundHalfUp {scale : ℕ} {units : ℤ} {number : ℚ} (nonneg : 0 ≤ number)
    (reached : (units / 10 ^ scale : ℚ) ≤ number) : units ≤ roundHalfUp scale number := by
  rw [roundHalfUp, if_neg (not_lt.mpr nonneg), Int.le_floor]
  rw [div_le_iff₀ (by positivity)] at reached
  exact reached.trans (le_add_of_nonneg_right (by norm_num))

theorem hasDecimals_units_div (scale : ℕ) (units : ℤ) :
    HasDecimals scale (units / 10 ^ scale) := by
  unfold HasDecimals
  rw [div_mul_cancel₀ _ (by positivity)]
  rfl

theorem exists_units_of_hasDecimals {scale : ℕ} {number : ℚ} (decimals : HasDecimals scale number) :
    ∃ units : ℤ, number = units / 10 ^ scale := by
  refine ⟨(number * 10 ^ scale).num, ?_⟩
  rw [Rat.coe_int_num_of_den_eq_one decimals, mul_div_cancel_right₀ _ (by positivity)]

end Decimals

end Numeral
