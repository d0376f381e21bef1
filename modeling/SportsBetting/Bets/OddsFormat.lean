import SportsBetting.Bets.Quotes
import SportsBetting.Bets.Service
import SportsBetting.Feed.Mapper
import SportsBetting.Ingestion.Queries
import SportsBetting.Settlement.Service

/-!
# The odds format of the feed

The environment may ask the feed for american odds. They are stored and multiplied as they
come, as if they were decimal: only decimal odds pay what they promise.
-/

namespace SportsBetting

open Numeral OddsApi Ingestion BetValidation BetsService SettlementService

/-- The values of `ODDS_API_ODDS_FORMAT`. -/
inductive OddsFormat where
  | decimal
  | american
  deriving DecidableEq

namespace OddsFormat

section Prices

/-- Decimal odds include the stake. American odds are what a hundred win, or if negative what
must be staked to win a hundred. -/
def Quotes : OddsFormat → ℚ → Prop
  | .decimal, price => 1 ≤ price
  | .american, price => price ≤ -100 ∨ 100 ≤ price

/-- What a winning stake of one is worth at the price. -/
def multiplier : OddsFormat → ℚ → ℚ
  | .decimal, price => price
  | .american, price => if 0 < price then 1 + price / 100 else 1 - 100 / price

/-- The product of the multipliers, with the rounding of `combinedOddsFromPrices`. -/
def fairProduct (format : OddsFormat) (prices : List (Numeric 10 3)) : ℚ :=
  prices.foldl (fun acc price => mul acc (format.multiplier price.value)) 1

def fairOdds (format : OddsFormat) (prices : List (Numeric 10 3)) : ℚ :=
  roundHalfUp 3 (format.fairProduct prices) / 10 ^ 3

/-- The selection shows the price of an outcome of the feed, as it was ingested. -/
def Ingested (runtime : Text.Runtime) (format : OddsFormat) (selection : Selection) : Prop :=
  ∃ event bookmaker isEnded market outcome row, format.Quotes outcome.price.value ∧
    WritesSelection (selectionEntry runtime event bookmaker isEnded market outcome) row ∧
      selection.price = row.price

/-- The rounding of a column does not go below a number that the column holds. -/
theorem le_value_of_units {precision scale : ℕ} {column : Numeric precision scale} {units : ℤ}
    (least : units ≤ column.units) : (units / 10 ^ scale : ℚ) ≤ column.value := by
  refine div_le_div_of_nonneg_right ?_ (by positivity)
  exact_mod_cast least

/-- The column does not take a price out of its format. -/
theorem quotes_of_ingested {runtime : Text.Runtime} {format : OddsFormat} {selection : Selection}
    (ingested : format.Ingested runtime selection) : format.Quotes selection.price.value := by
  obtain ⟨event, bookmaker, isEnded, market, outcome, row, quoted, written, price⟩ := ingested
  obtain ⟨number, column, read, stored, rfl⟩ := written
  rw [price]
  change newDecimal outcome.price.text = .ok number at read
  change format.Quotes column.value
  simp only [newDecimal, Decimal.parse_text, Except.ok.injEq] at read
  subst read
  have units := Numeric.store_units (store_of_toColumn stored)
  generalize outcome.price.value = number at quoted units
  cases format with
  | decimal =>
      have least : (1000 : ℤ) ≤ column.units := by
        rw [units]
        refine le_roundHalfUp (zero_le_one.trans quoted) ?_
        norm_num
        exact quoted
      have kept := le_value_of_units least
      norm_num at kept
      exact kept
  | american =>
      rcases quoted with favourite | underdog
      · left
        have least : (100000 : ℤ) ≤ (-column).units := by
          rw [Numeric.units_neg, units, ← roundHalfUp_neg]
          refine le_roundHalfUp (by linarith) ?_
          norm_num
          linarith
        have kept := le_value_of_units least
        rw [Numeric.value_neg] at kept
        norm_num at kept
        linarith
      · right
        have least : (100000 : ℤ) ≤ column.units := by
          rw [units]
          refine le_roundHalfUp (by linarith) ?_
          norm_num
          exact underdog
        have kept := le_value_of_units least
        norm_num at kept
        exact kept

end Prices

section American

/-- A price in american odds is far above the multiplier that it stands for. -/
theorem multiplier_bounds {price : ℚ} (quoted : american.Quotes price) :
    1 ≤ american.multiplier price ∧ 50 * american.multiplier price ≤ |price| := by
  unfold multiplier
  dsimp only
  rcases quoted with favourite | underdog
  · have negative : price < 0 := by linarith
    have share : -1 ≤ 100 / price ∧ 100 / price ≤ 0 := by
      constructor
      · rw [le_div_iff_of_neg negative]
        linarith
      · exact div_nonpos_of_nonneg_of_nonpos (by norm_num) negative.le
    rw [if_neg (not_lt.mpr negative.le), abs_of_neg negative]
    constructor <;> linarith
  · have positive : 0 < price := by linarith
    rw [if_pos positive, abs_of_pos positive]
    constructor <;> linarith

theorem one_le_mul {first second : ℚ} (least : 1 ≤ first * second) : 1 ≤ mul first second := by
  have kept : (((1 : ℤ) : ℚ) / 10 ^ 0) ≤ mul first second :=
    le_roundSignificant (by decide) (by decide) (by norm_num; exact least)
  norm_num at kept
  exact kept

theorem le_abs_mul (first second : ℚ) :
    |first| * |second| * (1 - productError) ≤ |mul first second| := by
  have error := abs_roundSignificant_sub_le_mul 20 (first * second)
  have split := abs_sub_abs_le_abs_sub (first * second) (mul first second)
  rw [abs_sub_comm] at split
  rw [← abs_mul]
  have bound := split.trans error
  have half : |first * second| * productError = 5 / 10 ^ 20 * |first * second| := by
    unfold productError
    ring
  linarith

/-- One more leg moves the product of the prices away from that of the multipliers. -/
theorem apart_mul {fair acc price factor : ℚ} (quoted : american.Quotes price) (least : 1 ≤ fair)
    (positive : 1 ≤ factor) (apart : factor * fair ≤ |acc|) :
    1 ≤ mul fair (american.multiplier price) ∧
      49 * factor * mul fair (american.multiplier price) ≤ |mul acc price| := by
  obtain ⟨multiplies, far⟩ := multiplier_bounds quoted
  generalize american.multiplier price = multiplier at multiplies far ⊢
  have product : 1 ≤ fair * multiplier := one_le_mul_of_one_le_of_one_le least multiplies
  constructor
  · exact one_le_mul product
  · have upper := (mul_bounds (zero_le_one.trans product)).2
    have lower := le_abs_mul acc price
    have factored := zero_le_one.trans positive
    have some_fair := zero_le_one.trans least
    have some_odds := zero_le_one.trans multiplies
    have far' : factor * fair * (50 * multiplier) ≤ |acc| * |price| := by gcongr
    have error : (0 : ℚ) < 1 - productError := by norm_num [productError]
    calc 49 * factor * mul fair multiplier
        ≤ 49 * factor * (fair * multiplier * (1 + productError)) := by gcongr
      _ = factor * fair * multiplier * (49 * (1 + productError)) := by ring
      _ ≤ factor * fair * multiplier * (50 * (1 - productError)) := by
          refine mul_le_mul_of_nonneg_left (by norm_num [productError]) ?_
          positivity
      _ = factor * fair * (50 * multiplier) * (1 - productError) := by ring
      _ ≤ |acc| * |price| * (1 - productError) := by gcongr
      _ ≤ |mul acc price| := lower

/-- The products of a list of american prices are at least that far apart. -/
theorem apart_of_quotes {prices : List (Numeric 10 3)}
    (quoted : ∀ price ∈ prices, american.Quotes price.value) {fair acc factor : ℚ}
    (least : 1 ≤ fair) (positive : 1 ≤ factor) (apart : factor * fair ≤ |acc|) :
    1 ≤ prices.foldl (fun acc price => mul acc (american.multiplier price.value)) fair ∧
      factor * prices.foldl (fun acc price => mul acc (american.multiplier price.value)) fair ≤
        |prices.foldl (fun acc price => mul acc price.value) acc| := by
  induction prices generalizing fair acc with
  | nil => exact ⟨least, apart⟩
  | cons price rest ih =>
      obtain ⟨least', apart'⟩ := apart_mul (quoted price List.mem_cons_self) least positive apart
      have more : factor * mul fair (american.multiplier price.value) ≤ |mul acc price.value| := by
        refine le_trans ?_ apart'
        gcongr
        linarith
      exact ih (fun other member => quoted other (List.mem_cons_of_mem _ member)) least' more

theorem products_apart {prices : List (Numeric 10 3)} (some_leg : prices ≠ [])
    (quoted : ∀ price ∈ prices, american.Quotes price.value) :
    1 ≤ american.fairProduct prices ∧
      49 * american.fairProduct prices ≤ |accumulatedOdds prices| := by
  cases prices with
  | nil => exact absurd rfl some_leg
  | cons price rest =>
      obtain ⟨least, apart⟩ := apart_mul (quoted price List.mem_cons_self) le_rfl le_rfl
        (show (1 : ℚ) * 1 ≤ |1| by norm_num)
      rw [mul_one] at apart
      exact apart_of_quotes (fun other member => quoted other (List.mem_cons_of_mem _ member))
        least (by norm_num) apart

/-- A payout is within a cent and the error of the product of what is due. -/
theorem abs_potentialPayout_sub_le (stake odds : ℚ) :
    |potentialPayout stake odds - stake * odds| ≤ 1 / 100 + productError * |stake * odds| := by
  have error := abs_roundSignificant_sub_le_mul 20 (stake * odds)
  have cut : |potentialPayout stake odds - mul stake odds| ≤ 1 / 100 := by
    unfold potentialPayout
    dsimp only
    have lower := Int.floor_le (|mul stake odds| * 10 ^ 2)
    have upper := Int.lt_floor_add_one (|mul stake odds| * 10 ^ 2)
    generalize (⌊|mul stake odds| * 10 ^ 2⌋ : ℚ) = cents at lower upper ⊢
    rw [abs_le]
    split
    · next negative =>
        rw [abs_of_neg negative] at lower upper
        constructor <;> linarith
    · next nonnegative =>
        rw [abs_of_nonneg (not_lt.mp nonnegative)] at lower upper
        constructor <;> linarith
  have parts := abs_add_le (potentialPayout stake odds - mul stake odds)
    (mul stake odds - stake * odds)
  rw [sub_add_sub_cancel] at parts
  exact parts.trans (add_le_add cut error)

theorem odds_apart {fair product : ℚ} (least : 1 ≤ fair) (apart : 49 * fair ≤ |product|) :
    48 * ((roundHalfUp 3 fair : ℚ) / 10 ^ 3) ≤ |(roundHalfUp 3 product : ℚ) / 10 ^ 3| ∧
      99 / 100 ≤ (roundHalfUp 3 fair : ℚ) / 10 ^ 3 := by
  have roundedFair := abs_roundHalfUp_sub_le 3 fair
  have roundedProduct := abs_roundHalfUp_sub_le 3 product
  generalize (roundHalfUp 3 fair : ℚ) / 10 ^ 3 = fairOdds at roundedFair ⊢
  generalize (roundHalfUp 3 product : ℚ) / 10 ^ 3 = odds at roundedProduct ⊢
  have size := abs_sub_abs_le_abs_sub product odds
  rw [abs_sub_comm] at size
  rw [abs_le] at roundedFair
  norm_num at roundedFair roundedProduct
  constructor <;> linarith

/-- At american odds a winner is paid wrong, or owes. -/
theorem payout_apart {stake fair product : ℚ} (staked : 1 / 100 ≤ stake) (least : 1 ≤ fair)
    (apart : 49 * fair ≤ |product|)
    (paid : potentialPayout stake (roundHalfUp 3 product / 10 ^ 3) =
      potentialPayout stake (roundHalfUp 3 fair / 10 ^ 3)) :
    potentialPayout stake (roundHalfUp 3 product / 10 ^ 3) < stake := by
  obtain ⟨far, worth⟩ := odds_apart least apart
  generalize (roundHalfUp 3 fair : ℚ) / 10 ^ 3 = fairOdds at far worth paid
  generalize (roundHalfUp 3 product : ℚ) / 10 ^ 3 = odds at far paid ⊢
  have dueFair := abs_potentialPayout_sub_le stake fairOdds
  have due := abs_potentialPayout_sub_le stake odds
  have positive : 0 < stake := by linarith
  have fairStake : stake * (99 / 100) ≤ stake * fairOdds := by gcongr
  have farStake : 48 * (stake * fairOdds) ≤ |stake * odds| := by
    rw [abs_mul, abs_of_pos positive, mul_left_comm]
    gcongr
  have winnings : 0 ≤ stake * fairOdds := by linarith
  rw [abs_of_nonneg winnings, abs_le] at dueFair
  rw [abs_le] at due
  generalize stake * odds = win at farStake due
  norm_num [productError] at dueFair due
  rcases lt_or_ge win 0 with negative | nonnegative
  · -- A loss, where the stake was to be won.
    rw [abs_of_neg negative] at farStake due
    linarith
  · rw [abs_of_nonneg nonnegative] at farStake due
    linarith

end American

section Covered

theorem one_le_foldl {prices : List (Numeric 10 3)} (quoted : ∀ price ∈ prices, 1 ≤ price.value)
    {acc : ℚ} (least : 1 ≤ acc) :
    1 ≤ prices.foldl (fun acc price => mul acc price.value) acc := by
  induction prices generalizing acc with
  | nil => exact least
  | cons price rest ih =>
      refine ih (fun other member => quoted other (List.mem_cons_of_mem _ member)) ?_
      exact one_le_mul (one_le_mul_of_one_le_of_one_le least (quoted price List.mem_cons_self))

theorem one_le_combinedOdds {prices : List (Numeric 10 3)}
    (quoted : ∀ price ∈ prices, 1 ≤ price.value) : 1 ≤ combinedOddsFromPrices prices := by
  have least : 1 ≤ accumulatedOdds prices := one_le_foldl quoted le_rfl
  have units : (1000 : ℤ) ≤ roundHalfUp 3 (accumulatedOdds prices) := by
    refine le_roundHalfUp (zero_le_one.trans least) ?_
    norm_num
    exact least
  rw [combinedOddsFromPrices_eq, le_div_iff₀ (by positivity)]
  norm_num
  exact_mod_cast units

/-- A payout covers the stake where the odds are at least one. -/
theorem stake_le_potentialPayout {stake : Numeric 12 2} {odds : ℚ} (nonneg : 0 ≤ stake.value)
    (least : 1 ≤ odds) : stake.value ≤ potentialPayout stake.value odds := by
  have units : 0 ≤ stake.units := by
    unfold Numeric.value at nonneg
    rw [le_div_iff₀ (by positivity), zero_mul] at nonneg
    exact_mod_cast nonneg
  have kept : stake.value ≤ mul stake.value odds :=
    le_roundSignificant units (stake.bound.trans (by norm_num))
      (le_mul_of_one_le_right nonneg least)
  have positive := nonneg.trans kept
  unfold potentialPayout
  dsimp only
  rw [if_neg (not_lt.mpr positive), one_mul, abs_of_nonneg positive, le_div_iff₀ (by positivity)]
  have scaled : stake.value * 10 ^ 2 = stake.units := by
    unfold Numeric.value
    rw [div_mul_cancel₀ _ (by positivity)]
  rw [scaled]
  have reached : (stake.units : ℚ) ≤ mul stake.value odds * 10 ^ 2 := by
    rw [← scaled]
    gcongr
  exact_mod_cast Int.le_floor.mpr reached

theorem potentialPayout_zero (odds : ℚ) : potentialPayout 0 odds = 0 := by
  simp [potentialPayout, mul]

end Covered

section Placed

/-- What the bet promises: a payout that covers the stake, and to a winner the stake times the
multipliers of its prices. -/
structure Fair (format : OddsFormat) (data : BetData) : Prop where
  covers : data.stake.value ≤ data.potentialPayout.value
  pays : (payoutForResult data.stake data.potentialPayout .won).value =
    potentialPayout data.stake.value (format.fairOdds (data.legs.map BetLeg.priceAtPlacement))

/-- At the prices of a format, only decimal odds promise what they say. -/
theorem fair_payout_iff {format : OddsFormat} {prices : List (Numeric 10 3)}
    (quoted : ∀ price ∈ prices, format.Quotes price.value) {stake : Numeric 12 2}
    (nonneg : 0 ≤ stake.value) :
    (stake.value ≤ potentialPayout stake.value (combinedOddsFromPrices prices) ∧
      potentialPayout stake.value (combinedOddsFromPrices prices) =
        potentialPayout stake.value (format.fairOdds prices)) ↔
      format = .decimal ∨ stake.value = 0 ∨ prices = [] := by
  constructor
  · rintro ⟨covers, pays⟩
    by_contra unfair
    rw [not_or, not_or] at unfair
    obtain ⟨foreign, nonzero, some_leg⟩ := unfair
    cases format with
    | decimal => exact foreign rfl
    | american =>
        obtain ⟨least, apart⟩ := products_apart some_leg quoted
        have units : (1 : ℤ) ≤ stake.units := by
          by_contra none_
          have zero : stake.value ≤ 0 := by
            refine div_nonpos_of_nonpos_of_nonneg ?_ (by positivity)
            have small : stake.units ≤ 0 := by omega
            exact_mod_cast small
          exact nonzero (le_antisymm zero nonneg)
        have staked : 1 / 100 ≤ stake.value := by
          have cent := le_value_of_units units
          norm_num at cent ⊢
          exact cent
        exact absurd covers (not_le.mpr (payout_apart staked least apart pays))
  · rintro (rfl | zero | rfl)
    · exact ⟨stake_le_potentialPayout nonneg (one_le_combinedOdds quoted), rfl⟩
    · rw [zero, potentialPayout_zero, potentialPayout_zero]
      exact ⟨le_rfl, rfl⟩
    · exact ⟨stake_le_potentialPayout nonneg (one_le_combinedOdds (by simp)), rfl⟩

variable {runtime : Text.Runtime} {format : OddsFormat} {config : BetValidation.EnvConfig}
  {user : UserContext} {idempotencyKey : String} {selectionIds : List String} {stakeRaw : String}
  {rows : List SelectionRow} {quote : ValidatedBetQuote} {data : BetData}

theorem hasDecimals_potentialPayout (stake odds : ℚ) :
    HasDecimals 2 (potentialPayout stake odds) := by
  unfold potentialPayout
  dsimp only
  split
  · have units := hasDecimals_units_div 2 (-⌊|mul stake odds| * 10 ^ 2⌋)
    push_cast at units
    rwa [neg_one_mul]
  · rw [one_mul]
    exact hasDecimals_units_div 2 _

/-- The prices of the legs are those of the rows. -/
theorem prices_of_placed
    (accepted : validatePlacement config selectionIds stakeRaw rows = .ok quote)
    (built : betData user idempotencyKey quote = .ok data) :
    data.legs.map BetLeg.priceAtPlacement = quote.legs.map ValidatedLeg.price ∧
      quote.legs.map ValidatedLeg.price = rows.map fun row => row.selection.price := by
  obtain ⟨_, _, passed⟩ := validatePlacement_ok accepted
  obtain ⟨_, _, stored, _⟩ := betData_ok built
  constructor
  · have kept : data.legs.map BetLeg.priceAtPlacement =
        quote.legs.zipIdx.map fun quoted => quoted.1.price :=
      Except.map_eq_of_mapM_eq_ok stored fun _ _ leg made => (legData_placed made).2
    rw [kept, ← Function.comp_def, ← List.map_map, List.zipIdx_map_fst]
  · refine Except.map_eq_of_mapM_eq_ok passed fun row _ leg checked => ?_
    unfold validateLeg at checked
    split_ifs at checked
    obtain rfl := Except.ok.inj checked
    rfl

/-- **A bet promises what its odds say** exactly where the feed quotes decimal odds. -/
theorem fair_iff (ingested : ∀ row ∈ rows, format.Ingested runtime row.selection)
    (accepted : validatePlacement config selectionIds stakeRaw rows = .ok quote)
    (built : betData user idempotencyKey quote = .ok data)
    (valid : ∀ stake, newDecimal stakeRaw = .ok stake → 0 ≤ stake ∧ HasDecimals 2 stake) :
    format.Fair data ↔
      format = .decimal ∨ newDecimal stakeRaw = .ok 0 ∨ selectionIds = [] := by
  obtain ⟨read, _, odds, payout, _⟩ := priced_of_accepted accepted
  obtain ⟨staked, paid, _, _⟩ := betData_ok built
  obtain ⟨nonneg, decimals⟩ := valid _ read
  obtain ⟨prices, listed⟩ := prices_of_placed accepted built
  obtain ⟨_, all, _⟩ := validatePlacement_ok accepted
  have stake : data.stake.value = quote.stake :=
    (Numeric.store_exact_iff (store_of_toColumn staked)).mpr decimals
  have amount : data.potentialPayout.value = potentialPayout data.stake.value
      (combinedOddsFromPrices (data.legs.map BetLeg.priceAtPlacement)) := by
    rw [prices, ← odds, stake, ← payout]
    refine (Numeric.store_exact_iff (store_of_toColumn paid)).mpr ?_
    rw [payout]
    exact hasDecimals_potentialPayout _ _
  have quoted : ∀ price ∈ data.legs.map BetLeg.priceAtPlacement, format.Quotes price.value := by
    rw [prices, listed]
    intro price member
    obtain ⟨row, present, rfl⟩ := List.mem_map.mp member
    exact quotes_of_ingested (ingested row present)
  have iff := fair_payout_iff quoted (stake ▸ nonneg)
  rw [← amount] at iff
  have zero : data.stake.value = 0 ↔ newDecimal stakeRaw = .ok 0 := by
    rw [read, stake, Except.ok.injEq]
  have empty : data.legs.map BetLeg.priceAtPlacement = [] ↔ selectionIds = [] := by
    rw [prices, listed, List.map_eq_nil_iff, ← List.length_eq_zero_iff, all,
      List.length_eq_zero_iff]
  rw [zero, empty] at iff
  exact ⟨fun fair => iff.mp ⟨fair.covers, fair.pays⟩, fun condition =>
    ⟨(iff.mpr condition).1, (iff.mpr condition).2⟩⟩

/-- The match of the feed that quotes a price on the ants. -/
def quotedEvent (price : Decimal) : OddsApiEventOdds :=
  ⟨"match", "2026-01-01T00:00:00Z", "Ants", "Bees",
    [⟨"book", [⟨"h2h", [⟨"Ants", price, none⟩]⟩]⟩]⟩

theorem ingested_of_price {price : Decimal} {column : Numeric 10 3} {event : Event}
    (quoted : format.Quotes price.value) (stored : toColumn price.value = .ok column) :
    format.Ingested runtime (openRow "winner:ants" column event).selection := by
  refine ⟨quotedEvent price, ⟨"book", []⟩, false, ⟨"h2h", []⟩, ⟨"Ants", price, none⟩, _, quoted,
    ⟨price.value, column, ?_, stored, rfl⟩, rfl⟩
  change newDecimal price.text = .ok price.value
  simp only [newDecimal, Decimal.parse_text]

def player : UserContext := ⟨"player", "Player", "group", "EUR"⟩

def antsRow (price : Numeric 10 3) : SelectionRow :=
  openRow "winner:ants" price ⟨"match", "match", .live, none, none, none, none⟩

/-- The quote and the bet of ten on the ants at this price. -/
def tenOnAnts (price : Numeric 10 3) : Except Failure (ValidatedBetQuote × BetData) := do
  let quote ← validatePlacement plainConfig ["winner:ants"] "10.00" [antsRow price]
  let data ← betData player "key" quote
  return (quote, data)

theorem tenOnAnts_ok {price : Numeric 10 3} {quote : ValidatedBetQuote} {data : BetData}
    (placed : tenOnAnts price = .ok (quote, data)) :
    validatePlacement plainConfig ["winner:ants"] "10.00" [antsRow price] = .ok quote ∧
      betData player "key" quote = .ok data := by
  obtain ⟨quoted, accepted, placed⟩ := Except.bind_eq_ok.mp placed
  obtain ⟨made, built, placed⟩ := Except.bind_eq_ok.mp placed
  obtain ⟨rfl, rfl⟩ := Prod.mk.inj (Except.pure_eq_ok.mp placed)
  exact ⟨accepted, built⟩

theorem ingested_antsRow {price : Decimal} {column : Numeric 10 3}
    (quoted : format.Quotes price.value) (stored : toColumn price.value = .ok column) :
    ∀ row ∈ [antsRow column], format.Ingested runtime row.selection := by
  intro row member
  rw [List.mem_singleton.mp member]
  exact ingested_of_price quoted stored

/-- The favourites at -110 are bet on with ten, and a winner is to be paid -1100. -/
theorem favourite_unfair : ∃ quote data,
    (∀ row ∈ [antsRow ⟨-110000, by decide⟩],
      american.Ingested Text.asciiRuntime row.selection) ∧
      validatePlacement plainConfig ["winner:ants"] "10.00" [antsRow ⟨-110000, by decide⟩] =
        .ok quote ∧ betData player "key" quote = .ok data ∧
      (payoutForResult data.stake data.potentialPayout .won).value = -1100 ∧
        ¬ american.Fair data := by
  have checked : accepts (tenOnAnts ⟨-110000, by decide⟩) (fun (_, data) =>
      data.stake.value = 10 && data.potentialPayout.value = -1100) = true := by decide +kernel
  obtain ⟨⟨quote, data⟩, placed, numbers⟩ := exists_of_accepts checked
  simp only [Bool.and_eq_true, decide_eq_true_eq] at numbers
  obtain ⟨accepted, built⟩ := tenOnAnts_ok placed
  have quoted : american.Quotes (⟨-11, 1, by decide⟩ : Decimal).value := by
    left
    decide +kernel
  refine ⟨quote, data, ingested_antsRow quoted (by decide +kernel), accepted, built, numbers.2, ?_⟩
  intro fair
  have covers := fair.covers
  rw [numbers.1, numbers.2] at covers
  norm_num at covers

theorem evens_fair : ∃ quote data,
    validatePlacement plainConfig ["winner:ants"] "10.00" [antsRow ⟨2000, by decide⟩] =
      .ok quote ∧ betData player "key" quote = .ok data ∧ decimal.Fair data := by
  have checked : accepts (tenOnAnts ⟨2000, by decide⟩) (fun _ => true) = true := by
    decide +kernel
  obtain ⟨⟨quote, data⟩, placed, _⟩ := exists_of_accepts checked
  obtain ⟨accepted, built⟩ := tenOnAnts_ok placed
  have quoted : decimal.Quotes (⟨2, 0, by decide⟩ : Decimal).value := by
    unfold Quotes
    decide +kernel
  have ten : newDecimal "10.00" = .ok 10 := by decide +kernel
  have ingested : ∀ row ∈ [antsRow ⟨2000, by decide⟩],
      decimal.Ingested Text.asciiRuntime row.selection :=
    ingested_antsRow quoted (by decide +kernel)
  refine ⟨quote, data, accepted, built, (fair_iff ingested accepted built ?_).mpr (.inl rfl)⟩
  intro stake read
  rw [← Except.ok.inj (ten.symm.trans read)]
  exact ⟨by norm_num, by decide +kernel⟩

end Placed

end OddsFormat

end SportsBetting
