import SportsBetting.Bets.Validation
import SportsBetting.Numeral.Rounding

/-!
# The numbers of an accepted quote

The odds are a product of up to twelve prices, each step rounded to twenty digits. The
limit on the payout bounds them backwards, so that in the end nothing is lost.
-/

namespace SportsBetting.BetValidation

open Numeral

section Products

/-- The product of the prices, without rounding. -/
def exactOdds (prices : List (Numeric 10 3)) : ℚ := (prices.map Numeric.value).prod

/-- The product as it is accumulated. -/
def accumulatedOdds (prices : List (Numeric 10 3)) : ℚ :=
  prices.foldl (fun acc price => mul acc price.value) 1

theorem combinedOddsFromPrices_eq (prices : List (Numeric 10 3)) :
    combinedOddsFromPrices prices = roundHalfUp 3 (accumulatedOdds prices) / 10 ^ 3 := rfl

/-- The relative error of one product. -/
def productError : ℚ := 5 / 10 ^ 20

theorem mul_bounds {first second : ℚ} (nonneg : 0 ≤ first * second) :
    first * second * (1 - productError) ≤ mul first second ∧
      mul first second ≤ first * second * (1 + productError) := by
  have error := abs_roundSignificant_sub_le_mul 20 (first * second)
  rw [abs_of_nonneg nonneg, abs_le] at error
  unfold mul productError
  constructor <;> linarith

end Products

section Outcomes

/-- The placement succeeds with a result that passes the check. -/
def accepts {Result : Type} (outcome : Except Failure Result) (check : Result → Bool) : Bool :=
  match outcome with
  | .ok result => check result
  | .error _ => false

theorem exists_of_accepts {Result : Type} {outcome : Except Failure Result} {check : Result → Bool}
    (accepted : accepts outcome check = true) :
    ∃ result, outcome = .ok result ∧ check result = true := by
  cases outcome with
  | error failure => cases accepted
  | ok result => exact ⟨result, rfl, accepted⟩

end Outcomes

section Priced

variable {config : EnvConfig} {selectionIds : List String} {stakeRaw : String}
  {rows : List SelectionRow} {quote : ValidatedBetQuote}

/-- What the checks say about the numbers of a quote. -/
structure Priced (config : EnvConfig) (stakeRaw : String) (quote : ValidatedBetQuote) : Prop where
  read : newDecimal stakeRaw = .ok quote.stake
  stake : ∃ minStake maxStake, newDecimal config.BET_MIN_STAKE = .ok minStake ∧
    newDecimal config.BET_MAX_STAKE = .ok maxStake ∧ minStake ≤ quote.stake ∧ quote.stake ≤ maxStake
  odds : quote.combinedOdds = combinedOddsFromPrices (quote.legs.map ValidatedLeg.price)
  payout : quote.potentialPayout = SportsBetting.potentialPayout quote.stake quote.combinedOdds
  limit : ∃ maxPayout, newDecimal config.BET_MAX_PAYOUT = .ok maxPayout ∧
    quote.potentialPayout ≤ maxPayout

theorem checkStake_ok {stake : ℚ} (accepted : checkStake config stakeRaw = .ok stake) :
    newDecimal stakeRaw = .ok stake ∧
      ∃ minStake maxStake, newDecimal config.BET_MIN_STAKE = .ok minStake ∧
        newDecimal config.BET_MAX_STAKE = .ok maxStake ∧ minStake ≤ stake ∧ stake ≤ maxStake := by
  unfold checkStake at accepted
  obtain ⟨read, read?, accepted⟩ := Except.bind_eq_ok.mp accepted
  obtain ⟨minStake, min?, accepted⟩ := Except.bind_eq_ok.mp accepted
  obtain ⟨maxStake, max?, accepted⟩ := Except.bind_eq_ok.mp accepted
  split at accepted
  · cases accepted
  · next within =>
      obtain rfl := Except.ok.inj accepted
      rw [not_or, not_lt, not_lt] at within
      exact ⟨read?, minStake, maxStake, min?, max?, within.1, within.2⟩

theorem priced_of_accepted
    (accepted : validatePlacement config selectionIds stakeRaw rows = .ok quote) :
    Priced config stakeRaw quote := by
  unfold validatePlacement at accepted
  obtain ⟨stake, request, accepted⟩ := Except.bind_eq_ok.mp accepted
  have checked : checkStake config stakeRaw = .ok stake := by
    unfold checkRequest at request
    split at request
    · cases request
    · exact request
  obtain ⟨read, bounds⟩ := checkStake_ok checked
  unfold validateRows at accepted
  dsimp only at accepted
  split at accepted
  · obtain ⟨_, impossible, _⟩ := Except.bind_eq_ok.mp accepted
    cases impossible
  · obtain ⟨legs, passed, accepted⟩ := Except.bind_eq_ok.mp accepted
    obtain ⟨maxPayout, max?, accepted⟩ := Except.bind_eq_ok.mp accepted
    split at accepted
    · cases accepted
    · next within =>
        obtain rfl := Except.ok.inj accepted
        exact ⟨read, bounds, rfl, rfl, maxPayout, max?, not_lt.mp within⟩

end Priced

section Sound

/-- The numbers of the quote are as exact as their columns. -/
structure Sound (config : EnvConfig) (quote : ValidatedBetQuote) : Prop where
  odds_near : |quote.combinedOdds - exactOdds (quote.legs.map ValidatedLeg.price)| < 1 / 1000
  payout_cut : quote.potentialPayout = ⌊quote.stake * quote.combinedOdds * 100⌋ / 100
  stake_le : quote.stake ≤ quote.potentialPayout
  le_max : ∃ maxPayout, newDecimal config.BET_MAX_PAYOUT = .ok maxPayout ∧
    quote.potentialPayout ≤ maxPayout
  stake_fits : ∃ column, Numeric.store 12 2 quote.stake = some column ∧ column.value = quote.stake
  odds_fit : ∃ column, Numeric.store 12 3 quote.combinedOdds = some column ∧
    column.value = quote.combinedOdds
  payout_fits : ∃ column, Numeric.store 14 2 quote.potentialPayout = some column ∧
    column.value = quote.potentialPayout

/-- The row of a selection at this price, on which bets are taken. -/
def openRow (id : String) (price : Numeric 10 3) (event : Event) : SelectionRow where
  selection := ⟨id, "winner", "Ants", .open, price⟩
  market := ⟨"winner", event.providerRef, .matchResult, .open, none⟩
  event := event
  homeTeam := ⟨"ants", "soccer", "Ants", none⟩
  awayTeam := ⟨"bees", "soccer", "Bees", none⟩
  league := ⟨"league", "soccer", "League", none, true⟩
  sport := ⟨"soccer", "Soccer", "soccer", true⟩
  offered := true

def plainConfig : EnvConfig := ⟨"0.01", "10000.00", "100000.00"⟩

end Sound

end SportsBetting.BetValidation
