import SportsBetting.Data.Text
import SportsBetting.Schema

/-!
# Grading of a leg

`evaluate` grades one leg from the final score. A market without a line counts
as having line zero, because `Number(null)` is zero.
-/

namespace SportsBetting

open Numeral Text

inductive LegResult | won | lost | void
  deriving DecidableEq, Repr

structure LegSettlementInput where
  marketType : MarketType
  marketStatus : MarketStatus
  marketLine : Option String
  selectionName : String
  homeTeamName : String
  awayTeamName : String
  homeScore : Option ℤ
  awayScore : Option ℤ

namespace LegOutcome

variable (runtime : Runtime) (input : LegSettlementInput) (homeScore awayScore : ℤ)

def wonIf (wins : Prop) [Decidable wins] : LegResult := if wins then .won else .lost

def matchResult : LegResult :=
  let name := runtime.toLowerCase (trim input.selectionName)
  if name = "draw" ∨ name = "x" then wonIf (homeScore = awayScore)
  else if name = runtime.toLowerCase (trim input.homeTeamName) then wonIf (homeScore > awayScore)
  else if name = runtime.toLowerCase (trim input.awayTeamName) then wonIf (awayScore > homeScore)
  else .lost

def total : Option LegResult :=
  match nullableToNumber input.marketLine with
  | none => none
  | some line =>
      let totalScore : ℚ := homeScore + awayScore
      let name := runtime.toLowerCase input.selectionName
      if totalScore = line then some .void
      else if includes name "over" then some (wonIf (totalScore > line))
      else if includes name "under" then some (wonIf (totalScore < line))
      else none

def handicap : Option LegResult :=
  match nullableToNumber input.marketLine with
  | none => none
  | some line =>
      let name := runtime.toLowerCase input.selectionName
      let homeName := runtime.toLowerCase input.homeTeamName
      let awayName := runtime.toLowerCase input.awayTeamName
      if includes name homeName then
        let adjustedHome : ℚ := homeScore + line
        if adjustedHome = awayScore then some .void else some (wonIf (adjustedHome > awayScore))
      else if includes name awayName then
        let adjustedAway : ℚ := awayScore - line
        if homeScore = adjustedAway then some .void else some (wonIf (adjustedAway > homeScore))
      else none

def bothTeamsScore : LegResult :=
  let bothScored := homeScore > 0 ∧ awayScore > 0
  let name := runtime.toLowerCase input.selectionName
  if includes name "yes" then wonIf bothScored
  else if includes name "no" then wonIf (¬ bothScored)
  else .lost

def evaluate : Option LegResult :=
  if input.marketStatus = .void then some .void
  else
    match input.homeScore, input.awayScore with
    | some homeScore, some awayScore =>
        match input.marketType with
        | .matchResult => some (matchResult runtime input homeScore awayScore)
        | .total => total runtime input homeScore awayScore
        | .handicap => handicap runtime input homeScore awayScore
        | .bothTeamsScore => some (bothTeamsScore runtime input homeScore awayScore)
        | .doubleChance => none
    | _, _ => none

/-- What a point handicap promises: the own score plus the own point decides. -/
def pointResult (own opponent : ℤ) (point : ℚ) : LegResult :=
  if own + point > opponent then .won else if own + point = opponent then .void else .lost

theorem handicap_home {line : ℚ} (read : nullableToNumber input.marketLine = some line)
    (named : includes (runtime.toLowerCase input.selectionName)
      (runtime.toLowerCase input.homeTeamName) = true) :
    handicap runtime input homeScore awayScore = some (pointResult homeScore awayScore line) := by
  simp only [handicap, read, named, if_true, pointResult, wonIf]
  rcases lt_trichotomy ((homeScore : ℚ) + line) awayScore with less | equal | more
  · simp [less.ne, not_lt.mpr less.le]
  · simp [equal]
  · simp [more.ne', more]

theorem handicap_away {line : ℚ} (read : nullableToNumber input.marketLine = some line)
    (other : includes (runtime.toLowerCase input.selectionName)
      (runtime.toLowerCase input.homeTeamName) = false)
    (named : includes (runtime.toLowerCase input.selectionName)
      (runtime.toLowerCase input.awayTeamName) = true) :
    handicap runtime input homeScore awayScore = some (pointResult awayScore homeScore (-line)) := by
  simp only [handicap, read, other, named, if_true, pointResult, wonIf, Bool.false_eq_true, if_false,
    ← sub_eq_add_neg]
  rcases lt_trichotomy ((awayScore : ℚ) - line) homeScore with less | equal | more
  · simp [less.ne, less.ne', not_lt.mpr less.le]
  · simp [equal]
  · simp [more.ne, more]

theorem pointResult_eq_won {own opponent : ℤ} {point : ℚ} :
    pointResult own opponent point = .won ↔ ((opponent - own : ℤ) : ℚ) < point := by
  unfold pointResult
  push_cast
  rw [sub_lt_iff_lt_add']
  split_ifs with wins draws
  · simpa using wins
  · simpa using draws.le
  · simpa using not_lt.mp wins

theorem pointResult_eq_void {own opponent : ℤ} {point : ℚ} :
    pointResult own opponent point = .void ↔ ((opponent - own : ℤ) : ℚ) = point := by
  unfold pointResult
  push_cast
  rw [sub_eq_iff_eq_add']
  split_ifs with wins draws
  · simpa using wins.ne
  · simpa using draws.symm
  · simpa using fun equal : (opponent : ℚ) = own + point => draws equal.symm

theorem pointResult_congr {own opponent : ℤ} {first second : ℚ}
    (below : ((opponent - own : ℤ) : ℚ) < first ↔ ((opponent - own : ℤ) : ℚ) < second)
    (equal : ((opponent - own : ℤ) : ℚ) = first ↔ ((opponent - own : ℤ) : ℚ) = second) :
    pointResult own opponent first = pointResult own opponent second := by
  rw [← pointResult_eq_won, ← pointResult_eq_won] at below
  rw [← pointResult_eq_void, ← pointResult_eq_void] at equal
  cases hfirst : pointResult own opponent first <;>
    cases hsecond : pointResult own opponent second <;> simp_all

/-- Over all scores, a point is determined by the integers just below and above it. -/
theorem pointResult_eq_iff {first second : ℚ} :
    (∀ own opponent, pointResult own opponent first = pointResult own opponent second) ↔
      ⌊first⌋ = ⌊second⌋ ∧ ⌈first⌉ = ⌈second⌉ := by
  constructor
  · intro same
    have below : ∀ margin : ℤ, (margin : ℚ) < first ↔ (margin : ℚ) < second := by
      intro margin
      have results := congrArg (· = LegResult.won) (same 0 margin)
      simpa [pointResult_eq_won] using results
    have equal : ∀ margin : ℤ, (margin : ℚ) = first ↔ (margin : ℚ) = second := by
      intro margin
      have results := congrArg (· = LegResult.void) (same 0 margin)
      simpa [pointResult_eq_void] using results
    constructor
    · apply eq_of_forall_le_iff
      intro margin
      rw [Int.le_floor, Int.le_floor, le_iff_lt_or_eq, le_iff_lt_or_eq, below, equal]
    · apply eq_of_forall_lt_iff
      intro margin
      rw [Int.lt_ceil, Int.lt_ceil, below]
  · rintro ⟨floors, ceilings⟩ own opponent
    have below : ∀ margin : ℤ, (margin : ℚ) < first ↔ (margin : ℚ) < second := by
      intro margin
      rw [← Int.lt_ceil, ← Int.lt_ceil, ceilings]
    refine pointResult_congr (below _) ?_
    have atMost : ((opponent - own : ℤ) : ℚ) ≤ first ↔ ((opponent - own : ℤ) : ℚ) ≤ second := by
      rw [← Int.le_floor, ← Int.le_floor, floors]
    rw [eq_iff_le_not_lt, eq_iff_le_not_lt, atMost, below]

theorem floor_ceil_neg {first second : ℚ} (same : ⌊first⌋ = ⌊second⌋ ∧ ⌈first⌉ = ⌈second⌉) :
    ⌊-first⌋ = ⌊-second⌋ ∧ ⌈-first⌉ = ⌈-second⌉ := by
  simp [Int.floor_neg, Int.ceil_neg, same]

end LegOutcome

end SportsBetting
