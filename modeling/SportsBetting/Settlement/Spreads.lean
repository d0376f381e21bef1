import SportsBetting.Bets.LegSnapshot
import SportsBetting.Feed.Mapper

/-!
# Spreads from the feed to the grade

The label of a selection keeps its own point, the market keeps the point of the
outcome listed first, and grading takes the stored line for the home side's.
-/

namespace SportsBetting.OddsApi

open Numeral Text LegOutcome

inductive Side | home | away
  deriving DecidableEq

/-- A spreads market of a feed event: the home team with a point, the away team
with its opposite, in either order. -/
structure SpreadsOffer where
  event : OddsApiEventOdds
  bookmaker : OddsApiBookmaker
  point : Decimal
  homePrice : Decimal
  awayPrice : Decimal
  homeFirst : Bool

namespace SpreadsOffer

variable (runtime : Runtime) (offer : SpreadsOffer) (side : Side) (homeScore awayScore : ℤ)

def outcome : Side → OddsApiOutcome
  | .home => ⟨offer.event.home_team, offer.homePrice, some offer.point⟩
  | .away => ⟨offer.event.away_team, offer.awayPrice, some (-offer.point)⟩

def market : OddsApiMarket where
  key := "spreads"
  outcomes :=
    if offer.homeFirst then [offer.outcome .home, offer.outcome .away]
    else [offer.outcome .away, offer.outcome .home]

def selectionName : String :=
  (selectionEntry runtime offer.event offer.bookmaker false offer.market (offer.outcome side)).name

def snapshot (line : Option (Numeric 6 2)) : LegPlacementSnapshot where
  marketType := .handicap
  marketLine := lineText line
  homeTeamName := offer.event.home_team
  awayTeamName := offer.event.away_team
  eventProviderRef := offer.event.id
  sportKey := ""
  sportName := ""
  leagueKey := ""
  leagueName := ""

/-- What the leg is graded on once the game has ended. -/
def settlementInput (leg : BetLeg) : LegSettlementInput :=
  buildLegSettlementInput leg (offer.snapshot leg.marketLine)
    (marketEntry offer.event offer.bookmaker true offer.market .handicap).status
    (some homeScore) (some awayScore)

/-- A leg on the side's selection: the line is stored with the market, frozen at
placement, stored with the leg, and read back for grading. -/
def gradeLeg (leg : BetLeg) : Except Failure (Option LegResult) := do
  let line ← lineColumn (marketEntry offer.event offer.bookmaker false offer.market .handicap).line
  let leg ← legSnapshotCreateData (offer.snapshot line)
    { leg with selectionName := offer.selectionName runtime side }
  return evaluate runtime (offer.settlementInput homeScore awayScore leg)

/-- The line of the market as it is stored. -/
def storedLine (line : Numeric 6 2) : Numeric 6 2 := if offer.homeFirst then line else -line

/-- The result that the side's own point promises. -/
def promised : LegResult :=
  match side with
  | .home => pointResult homeScore awayScore offer.point.value
  | .away => pointResult awayScore homeScore (-offer.point.value)

/-- Every label contains the name of its own team. -/
theorem includes_own_name : includes (runtime.toLowerCase (offer.selectionName runtime side))
    (runtime.toLowerCase (offer.outcome side).name) = true := by
  obtain ⟨point, given⟩ : ∃ point, (offer.outcome side).point = some point := by
    cases side with
    | home => exact ⟨offer.point, rfl⟩
    | away => exact ⟨-offer.point, rfl⟩
  obtain ⟨text, label⟩ := selectionLabel_of_point given
  have name : offer.selectionName runtime side = (offer.outcome side).name ++ " " ++ text := label
  rw [name]
  exact includes_toLowerCase runtime _ text

/-- The line of the market is the point of the outcome listed first. -/
theorem market_line : (marketEntry offer.event offer.bookmaker false offer.market .handicap).line =
    some (if offer.homeFirst then offer.point else -offer.point).text := by
  unfold marketEntry marketLine market
  cases offer.homeFirst <;> rfl

theorem lineColumn_market {line : Numeric 6 2}
    (fits : Numeric.store 6 2 offer.point.value = some line) :
    lineColumn (marketEntry offer.event offer.bookmaker false offer.market .handicap).line =
      .ok (some (offer.storedLine line)) := by
  rw [market_line, storedLine]
  cases offer.homeFirst with
  | true => exact lineColumn_of_parse (Decimal.parse_text _) fits
  | false =>
      refine lineColumn_of_parse (Decimal.parse_text _) ?_
      simpa using Numeric.store_neg fits

theorem evaluate_settlementInput (leg : BetLeg) :
    evaluate runtime (offer.settlementInput homeScore awayScore leg) =
      handicap runtime (offer.settlementInput homeScore awayScore leg) homeScore awayScore := rfl

/-- Either side is graded with the stored line as the home side's point. -/
theorem gradeLeg_eq (leg : BetLeg) {line : Numeric 6 2}
    (fits : Numeric.store 6 2 offer.point.value = some line)
    (separate : includes (runtime.toLowerCase (offer.selectionName runtime .away))
      (runtime.toLowerCase offer.event.home_team) = false) :
    offer.gradeLeg runtime side homeScore awayScore leg = .ok (some (
      match side with
      | .home => pointResult homeScore awayScore (offer.storedLine line).value
      | .away => pointResult awayScore homeScore (-(offer.storedLine line).value))) := by
  have named := offer.includes_own_name runtime side
  have placed : ∃ placed : BetLeg, placed.selectionName = offer.selectionName runtime side ∧
      placed.marketLine = some (offer.storedLine line) ∧
      offer.gradeLeg runtime side homeScore awayScore leg =
        .ok (handicap runtime (offer.settlementInput homeScore awayScore placed)
          homeScore awayScore) := by
    unfold gradeLeg
    rw [offer.lineColumn_market fits]
    simp only [legSnapshotCreateData, snapshot, lineColumn_lineText, bind, Except.bind, pure,
      Except.pure, evaluate_settlementInput]
    exact ⟨_, rfl, rfl, rfl⟩
  obtain ⟨placed, name, column, graded⟩ := placed
  have read : nullableToNumber (offer.settlementInput homeScore awayScore placed).marketLine =
      some (offer.storedLine line).value := by
    simp only [settlementInput, buildLegSettlementInput, snapshot, column, nullableToNumber_lineText]
  rw [graded]
  cases side with
  | home =>
      refine congrArg Except.ok (handicap_home runtime _ homeScore awayScore read ?_)
      simpa only [settlementInput, buildLegSettlementInput, snapshot, name, outcome] using named
  | away =>
      refine congrArg Except.ok (handicap_away runtime _ homeScore awayScore read ?_ ?_)
      · simpa only [settlementInput, buildLegSettlementInput, snapshot, name] using separate
      · simpa only [settlementInput, buildLegSettlementInput, snapshot, name, outcome] using named

/-- The stored line grades like the point if and only if they have the same
integers around them, the opposite line only if the point is zero. -/
theorem line_grades_point_iff {line : Numeric 6 2}
    (fits : Numeric.store 6 2 offer.point.value = some line) :
    (⌊(offer.storedLine line).value⌋ = ⌊offer.point.value⌋ ∧
        ⌈(offer.storedLine line).value⌉ = ⌈offer.point.value⌉) ↔
      (offer.homeFirst = true ∧ ⌊line.value⌋ = ⌊offer.point.value⌋ ∧
        ⌈line.value⌉ = ⌈offer.point.value⌉) ∨ offer.point.value = 0 := by
  have zero : offer.point.value = 0 → line.value = 0 := fun point =>
    le_antisymm (Numeric.store_nonpos fits point.le) (Numeric.store_nonneg fits point.ge)
  cases order : offer.homeFirst with
  | true =>
      simp only [storedLine, order, if_true, true_and]
      constructor
      · exact Or.inl
      · rintro (same | point)
        · exact same
        · simp [point, zero point]
  | false =>
      simp only [storedLine, order, Bool.false_eq_true, if_false, false_and, false_or,
        Numeric.value_neg]
      constructor
      · rintro ⟨floors, ceilings⟩
        rcases lt_trichotomy offer.point.value 0 with negative | point | positive
        · have opposite : 0 ≤ ⌊-line.value⌋ :=
            Int.floor_nonneg.mpr (neg_nonneg.mpr (Numeric.store_nonpos fits negative.le))
          have below : ⌊offer.point.value⌋ < 0 := Int.floor_lt_zero.mpr negative
          omega
        · exact point
        · have opposite : ⌈-line.value⌉ ≤ 0 := by
            rw [Int.ceil_le]
            simpa using Numeric.store_nonneg fits positive.le
          have above : 0 < ⌈offer.point.value⌉ := Int.ceil_pos.mpr positive
          omega
      · intro point
        simp [point, zero point]

/-- **A spreads leg is graded by its own point** exactly where the home team is
listed first and the stored line has the point's floor and ceiling, or the point is zero. -/
theorem graded_as_promised_iff (leg : BetLeg) {line : Numeric 6 2}
    (fits : Numeric.store 6 2 offer.point.value = some line)
    (separate : includes (runtime.toLowerCase (offer.selectionName runtime .away))
      (runtime.toLowerCase offer.event.home_team) = false) :
    (∀ side homeScore awayScore, offer.gradeLeg runtime side homeScore awayScore leg =
        .ok (some (offer.promised side homeScore awayScore))) ↔
      (offer.homeFirst = true ∧ ⌊line.value⌋ = ⌊offer.point.value⌋ ∧
        ⌈line.value⌉ = ⌈offer.point.value⌉) ∨ offer.point.value = 0 := by
  rw [← offer.line_grades_point_iff fits, ← pointResult_eq_iff]
  constructor
  · intro promised own opponent
    have home := promised .home own opponent
    rw [offer.gradeLeg_eq runtime .home own opponent leg fits separate] at home
    simpa [SpreadsOffer.promised] using home
  · intro same side homeScore awayScore
    rw [offer.gradeLeg_eq runtime side homeScore awayScore leg fits separate]
    cases side with
    | home => simp [promised, same]
    | away =>
        have opposite := pointResult_eq_iff.mpr (floor_ceil_neg (pointResult_eq_iff.mp same))
        simp [promised, opposite]

/-- The Lakers give a point and a half to the Celtics. -/
def lakersCeltics (homeFirst : Bool) : SpreadsOffer where
  event := ⟨"game", "0", "Lakers", "Celtics", []⟩
  bookmaker := ⟨"book", []⟩
  point := .ofDigits (-15) (-1)
  homePrice := .ofDigits 19 (-1)
  awayPrice := .ofDigits 19 (-1)
  homeFirst

def blankLeg : BetLeg :=
  ⟨"", "", "", "", 0, 0, .pending, none, none, none, none, none, none, none, none, none⟩

theorem graded_as_promised_home_first :
    (lakersCeltics true).gradeLeg asciiRuntime .home 100 101 blankLeg =
      .ok (some ((lakersCeltics true).promised .home 100 101)) :=
  ((lakersCeltics true).graded_as_promised_iff asciiRuntime blankLeg
    (show Numeric.store 6 2 _ = some ⟨-150, by decide⟩ by decide +kernel) (by decide)).mpr
      (.inl ⟨rfl, by decide +kernel, by decide +kernel⟩) .home 100 101

/-- Listed away first, a bet on the Lakers wins a game that they lose by one. -/
theorem away_first_misgraded :
    includes (asciiRuntime.toLowerCase ((lakersCeltics false).selectionName asciiRuntime .away))
      (asciiRuntime.toLowerCase "Lakers") = false ∧
    includes (asciiRuntime.toLowerCase ((lakersCeltics false).selectionName asciiRuntime .home))
      (asciiRuntime.toLowerCase "Celtics") = false ∧
    (lakersCeltics false).gradeLeg asciiRuntime .home 100 101 blankLeg = .ok (some .won) ∧
      (lakersCeltics false).promised .home 100 101 = .lost := by
  decide +kernel

end SpreadsOffer

end SportsBetting.OddsApi
