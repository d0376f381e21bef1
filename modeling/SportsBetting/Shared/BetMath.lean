import SportsBetting.Data.Text
import SportsBetting.Schema

/-!
# Exact decimals of prices, stakes and lines
-/

namespace SportsBetting

open Numeral

/-- `new Prisma.Decimal(text)`. -/
def newDecimal (text : String) : Except Failure ℚ :=
  match parse text with
  | some number => .ok number
  | none => .error (.error ("[DecimalError] Invalid argument: " ++ text))

/-- Writing a number to a column fails on overflow. -/
def toColumn {precision scale : ℕ} (number : ℚ) : Except Failure (Numeric precision scale) :=
  match Numeric.store precision scale number with
  | some stored => .ok stored
  | none => .error .database

theorem store_of_toColumn {precision scale : ℕ} {number : ℚ} {column : Numeric precision scale}
    (stored : toColumn number = .ok column) : Numeric.store precision scale number = some column := by
  unfold toColumn at stored
  split at stored
  · next kept => rw [kept, Except.ok.inj stored]
  · cases stored

section BetMath

/-- Products keep twenty significant digits. -/
def mul (first second : ℚ) : ℚ := roundSignificant 20 (first * second)

def combinedOddsFromPrices (prices : List (Numeric 10 3)) : ℚ :=
  let product := prices.foldl (fun acc price => mul acc price.value) 1
  roundHalfUp 3 product / 10 ^ 3

/-- Rounded down to cents, towards zero. -/
def potentialPayout (stake combinedOdds : ℚ) : ℚ :=
  let payout := mul stake combinedOdds
  (if payout < 0 then -1 else 1) * ⌊|payout| * 10 ^ 2⌋ / 10 ^ 2

def stakeLessOrEqualBalance (stake : ℚ) (balance : String) : Except Failure Bool :=
  if balance = "Infinity" then .ok true
  else if balance = "-Infinity" ∨ balance = "NaN" then .ok false
  else (newDecimal balance).map fun available => stake ≤ available

end BetMath

section Lines

/-- The line column written from a text; no text and the empty text are no line. -/
def lineColumn : Option String → Except Failure (Option (Numeric 6 2))
  | none => .ok none
  | some text =>
      if text = "" then .ok none
      else do
        let number ← newDecimal text
        let line ← toColumn number
        return some line

/-- A line read back from its column. -/
def lineText (line : Option (Numeric 6 2)) : Option String :=
  line.map fun line => toFixed 2 line.value

theorem lineColumn_of_parse {text : String} {number : ℚ} (read : parse text = some number)
    {line : Numeric 6 2} (fits : Numeric.store 6 2 number = some line) :
    lineColumn (some text) = .ok (some line) := by
  have nonempty : text ≠ "" := by
    rintro rfl
    have nothing : parse "" = none := by decide
    rw [nothing] at read
    cases read
  simp only [lineColumn, nonempty, if_false, newDecimal, read, toColumn]
  simp [fits, bind, Except.bind, pure, Except.pure]

theorem Numeric.store_own {precision scale : ℕ} (number : Numeric precision scale) :
    Numeric.store precision scale number.value = some number := by
  obtain ⟨stored, kept, same⟩ : ∃ stored : Numeric precision scale, _ :=
    number.store_value le_rfl le_rfl
  rw [kept, Numeric.value_injective same]

/-- A line keeps its value on its way from the market through the leg to settlement. -/
theorem lineColumn_lineText (line : Option (Numeric 6 2)) :
    lineColumn (lineText line) = .ok line := by
  cases line with
  | none => rfl
  | some line => exact lineColumn_of_parse line.parse_toFixed (Numeric.store_own line)

/-- `Number` of a line's text is the line; without a line it is zero. -/
theorem nullableToNumber_lineText (line : Numeric 6 2) :
    Text.nullableToNumber (lineText (some line)) = some line.value := by
  have proper : (fixedLiteral 2 line.value).Proper :=
    ⟨Nat.toDigits_ne_nil, allDigits_toDigits _, allDigits_lastDigits _ _⟩
  have exact : (fixedLiteral 2 line.value).value = line.value := by
    have read := line.parse_toFixed
    rw [toFixed, parse_write proper] at read
    exact Option.some.inj read
  have finite : |line.value| < 2 ^ 1024 - 2 ^ 970 := by
    have bound : |(line.units : ℚ)| < 10 ^ 6 := by
      exact_mod_cast (Int.abs_eq_natAbs line.units ▸ Int.ofNat_lt.mpr line.bound)
    have split : (2 : ℚ) ^ 1024 = 2 ^ 54 * 2 ^ 970 := by rw [← pow_add]
    have room : (2 : ℚ) ^ 20 ≤ 2 ^ 970 := pow_le_pow_right₀ (by norm_num) (by norm_num)
    rw [Numeric.value, abs_div, split]
    generalize (2 : ℚ) ^ 970 = huge at room ⊢
    norm_num at bound room ⊢
    linarith
  have number := Text.toNumber_write proper (by rwa [exact])
  rwa [exact] at number

end Lines

end SportsBetting
