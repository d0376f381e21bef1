import SportsBetting.Settlement.Spreads
import SportsBetting.Settlement.Verdicts

/-!
# The side of a handicap selection

A handicap selection is labelled with its team and point. Grading looks for the name of
the home team anywhere in the label first, then for the name of the away team.
-/

namespace SportsBetting.LegOutcome

open Numeral Text OddsApi

/-- A handicap market of a game, to be graded. -/
structure HandicapGame where
  homeTeam : String
  awayTeam : String
  line : Option (Numeric 6 2)
  marketStatus : MarketStatus
  unvoided : marketStatus ≠ .void

namespace HandicapGame

variable (runtime : Runtime) (game : HandicapGame) (homeScore awayScore : ℤ)

def team : Side → String
  | .home => game.homeTeam
  | .away => game.awayTeam

/-- The selection of a team is labelled by the feed's name, point and price. -/
def label (side : Side) (price point : Decimal) : String :=
  selectionLabel ⟨game.team side, price, some point⟩

def input (selectionName : String) : LegSettlementInput where
  marketType := .handicap
  marketStatus := game.marketStatus
  marketLine := lineText game.line
  selectionName := selectionName
  homeTeamName := game.homeTeam
  awayTeamName := game.awayTeam
  homeScore := some homeScore
  awayScore := some awayScore

/-- A market without a line counts as level. -/
def lineValue : ℚ := (game.line.map Numeric.value).getD 0

/-- The result of a side: the line is for the home team, its opposite for the away team. -/
def sideResult : Side → LegResult
  | .home => pointResult homeScore awayScore game.lineValue
  | .away => pointResult awayScore homeScore (-game.lineValue)

variable {runtime game homeScore awayScore} {selectionName : String}

theorem nullableToNumber_line :
    nullableToNumber (game.input homeScore awayScore selectionName).marketLine =
      some game.lineValue := by
  unfold input lineValue
  cases game.line with
  | none => rfl
  | some line => exact nullableToNumber_lineText line

theorem evaluate_input : evaluate runtime (game.input homeScore awayScore selectionName) =
    handicap runtime (game.input homeScore awayScore selectionName) homeScore awayScore := by
  exact evaluate_scored game.unvoided rfl rfl

/-- The home team's name in the label decides for the home side. -/
theorem evaluate_home
    (named : includes (runtime.toLowerCase selectionName) (runtime.toLowerCase game.homeTeam) =
      true) :
    evaluate runtime (game.input homeScore awayScore selectionName) =
      some (game.sideResult homeScore awayScore .home) := by
  rw [evaluate_input]
  exact handicap_home runtime _ homeScore awayScore nullableToNumber_line named

theorem evaluate_away
    (other : includes (runtime.toLowerCase selectionName) (runtime.toLowerCase game.homeTeam) =
      false)
    (named : includes (runtime.toLowerCase selectionName) (runtime.toLowerCase game.awayTeam) =
      true) :
    evaluate runtime (game.input homeScore awayScore selectionName) =
      some (game.sideResult homeScore awayScore .away) := by
  rw [evaluate_input]
  exact handicap_away runtime _ homeScore awayScore nullableToNumber_line other named

/-- Every label has the name of its own team in it. -/
theorem includes_own (side : Side) (price point : Decimal) :
    includes (runtime.toLowerCase (game.label side price point))
      (runtime.toLowerCase (game.team side)) = true := by
  obtain ⟨text, label⟩ : ∃ text, game.label side price point = game.team side ++ " " ++ text :=
    selectionLabel_of_point rfl
  rw [label]
  exact includes_toLowerCase runtime _ text

/-- The two sides of a market do not have the same results: at some score the home side
wins and the away side loses. -/
theorem exists_sides_apart : ∃ homeScore awayScore : ℤ,
    game.sideResult homeScore awayScore .home ≠ game.sideResult homeScore awayScore .away := by
  have above : -game.lineValue < (⌊-game.lineValue⌋ + 1 : ℤ) := by
    push_cast
    exact Int.lt_floor_add_one _
  refine ⟨⌊-game.lineValue⌋ + 1, 0, ?_⟩
  have won : game.sideResult (⌊-game.lineValue⌋ + 1) 0 .home = .won := by
    rw [sideResult, pointResult_eq_won]
    push_cast at above ⊢
    linarith
  rw [won]
  intro same
  rw [sideResult, eq_comm, pointResult_eq_won] at same
  push_cast at above same
  linarith

/-- **A labelled selection is graded as its own team's side** for both teams exactly where
the label of the away team does not have the name of the home team in it. -/
theorem graded_as_own_side_iff (runtime : Runtime) (game : HandicapGame)
    (price point : Side → Decimal) :
    (∀ side homeScore awayScore,
      evaluate runtime
          (game.input homeScore awayScore (game.label side (price side) (point side))) =
        some (game.sideResult homeScore awayScore side)) ↔
      includes (runtime.toLowerCase (game.label .away (price .away) (point .away)))
        (runtime.toLowerCase game.homeTeam) = false := by
  constructor
  · intro own
    by_contra contained
    rw [Bool.not_eq_false] at contained
    obtain ⟨homeScore, awayScore, apart⟩ := game.exists_sides_apart
    have away := own .away homeScore awayScore
    rw [evaluate_home contained] at away
    exact apart (Option.some.inj away)
  · intro apart side homeScore awayScore
    cases side with
    | home => exact evaluate_home (includes_own .home _ _)
    | away => exact evaluate_away apart (includes_own .away _ _)

/-- Inter plays Inter Miami, level. -/
def interMiami : HandicapGame where
  homeTeam := "Inter"
  awayTeam := "Inter Miami"
  line := some (.ofUnits (-50))
  marketStatus := .settled
  unvoided := by decide

/-- Miami has won by two, but a bet on Miami is graded as one on Inter, and lost. -/
theorem away_label_misgraded :
    asciiRuntime.toLowerCase interMiami.homeTeam ≠ asciiRuntime.toLowerCase interMiami.awayTeam ∧
    interMiami.label .away ⟨19, -1, by decide⟩ ⟨5, -1, by decide⟩ = "Inter Miami +0.5" ∧
    evaluate asciiRuntime (interMiami.input 0 2 "Inter Miami +0.5") = some .lost ∧
    interMiami.sideResult 0 2 .home = .lost ∧ interMiami.sideResult 0 2 .away = .won := by
  decide +kernel

end HandicapGame

end SportsBetting.LegOutcome
