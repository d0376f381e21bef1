import SportsBetting.Settlement.LegOutcome
import SportsBetting.Shared.BetMath

/-!
# The verdicts on one market

How the results of the selections of one market fit together, and where a result is
given without the data for one.
-/

namespace SportsBetting.LegOutcome

open Numeral Text

variable (runtime : Runtime) (input : LegSettlementInput)

section Consistency

/-- The selection of the same market that has this name. -/
def named (name : String) : LegSettlementInput := { input with selectionName := name }

section Named

variable (name : String)

@[simp] theorem named_marketType : (named input name).marketType = input.marketType := rfl
@[simp] theorem named_marketLine : (named input name).marketLine = input.marketLine := rfl
@[simp] theorem named_selectionName : (named input name).selectionName = name := rfl
@[simp] theorem named_homeTeamName : (named input name).homeTeamName = input.homeTeamName := rfl
@[simp] theorem named_awayTeamName : (named input name).awayTeamName = input.awayTeamName := rfl

end Named

def resultOf (name : String) : Option LegResult := evaluate runtime (named input name)

/-- One of the results is won, and all others are lost. -/
def OneWins (results : List (Option LegResult)) : Prop :=
  results.Perm (some .won :: List.replicate (results.length - 1) (some .lost))

instance (results : List (Option LegResult)) : Decidable (OneWins results) :=
  inferInstanceAs (Decidable (List.Perm _ _))

/-- The names of the teams differ from each other and from those of a draw. -/
def DistinctNames : Prop :=
  let homeName := runtime.toLowerCase (trim input.homeTeamName)
  let awayName := runtime.toLowerCase (trim input.awayTeamName)
  homeName ≠ awayName ∧ (homeName ≠ "draw" ∧ homeName ≠ "x") ∧ awayName ≠ "draw" ∧ awayName ≠ "x"

instance : Decidable (DistinctNames runtime input) := inferInstanceAs (Decidable (_ ∧ _ ∧ _ ∧ _))

/-- The label has the name of this team in it, and not the name of the other. -/
def LabelsOnly (label team other : String) : Prop :=
  includes (runtime.toLowerCase label) (runtime.toLowerCase team) = true ∧
    includes (runtime.toLowerCase label) (runtime.toLowerCase other) = false

/-- What the selections of the market get between them. -/
def Consistent (homeScore awayScore : ℕ) : Prop :=
  match input.marketType with
  | .matchResult => DistinctNames runtime input →
      OneWins [resultOf runtime input input.homeTeamName,
        resultOf runtime input input.awayTeamName, resultOf runtime input "Draw"]
  | .total => ∀ line : Numeric 6 2, input.marketLine = lineText (some line) →
      if (homeScore + awayScore : ℚ) = line.value then
        resultOf runtime input "Over" = some .void ∧ resultOf runtime input "Under" = some .void
      else OneWins [resultOf runtime input "Over", resultOf runtime input "Under"]
  | .handicap => ∀ line : Numeric 6 2, input.marketLine = lineText (some line) →
      ∀ homeLabel awayLabel,
      LabelsOnly runtime homeLabel input.homeTeamName input.awayTeamName →
      LabelsOnly runtime awayLabel input.awayTeamName input.homeTeamName →
      if (homeScore : ℚ) + line.value = awayScore then
        resultOf runtime input homeLabel = some .void ∧
          resultOf runtime input awayLabel = some .void
      else OneWins [resultOf runtime input homeLabel, resultOf runtime input awayLabel]
  | .bothTeamsScore =>
      OneWins [resultOf runtime input "Yes", resultOf runtime input "No"]
  | .doubleChance => True

/-- Of a condition and its opposite one holds. -/
theorem oneWins_wonIf (wins : Prop) [Decidable wins] :
    OneWins [some (wonIf wins), some (wonIf (¬ wins))] := by
  by_cases won : wins
  · simp only [wonIf, won, not_true_eq_false, if_true, if_false]
    decide
  · simp only [wonIf, won, not_false_eq_true, if_true, if_false]
    decide

theorem wonIf_congr {first second : Prop} [Decidable first] [Decidable second]
    (same : first ↔ second) : wonIf first = wonIf second := by
  simp only [wonIf, same]

variable {runtime input} {homeScore awayScore : ℕ}

theorem toLowerCase_of_ascii (ascii : runtime.LowersAscii) {text lower : String}
    (plain : text.toList.all (fun symbol => symbol.toNat < 128) = true)
    (lowered : asciiLower text = lower) : runtime.toLowerCase text = lower := by
  rw [ascii text (by simpa using plain), lowered]

theorem matchResult_oneWins (ascii : runtime.LowersAscii) (distinct : DistinctNames runtime input) :
    OneWins (([input.homeTeamName, input.awayTeamName, "Draw"].map fun name =>
      matchResult runtime (named input name) homeScore awayScore).map some) := by
  obtain ⟨apart, ⟨homeDraw, homeX⟩, awayDraw, awayX⟩ := distinct
  have draw : runtime.toLowerCase (trim "Draw") = "draw" :=
    toLowerCase_of_ascii ascii (by decide) (by decide)
  simp only [List.map_cons, List.map_nil, matchResult, named_selectionName, named_homeTeamName,
    named_awayTeamName, homeDraw, homeX, awayDraw, awayX, draw,
    apart.symm, or_self, true_or, if_true, if_false]
  rcases lt_trichotomy (homeScore : ℤ) awayScore with less | equal | more
  · simp only [wonIf, less, less.ne, not_lt.mpr less.le, if_true, if_false]
    decide
  · simp only [wonIf, equal, gt_iff_lt, lt_irrefl, if_true, if_false]
    decide
  · simp only [wonIf, more, more.ne', not_lt.mpr more.le, if_true, if_false]
    decide

variable (homeScore awayScore) in
theorem total_consistent (ascii : runtime.LowersAscii) {line : Numeric 6 2}
    (written : input.marketLine = lineText (some line)) :
    if (homeScore + awayScore : ℚ) = line.value then
      ∀ name, total runtime (named input name) homeScore awayScore = some .void
    else OneWins (["Over", "Under"].map fun name =>
      total runtime (named input name) homeScore awayScore) := by
  have read : nullableToNumber input.marketLine = some line.value := by
    rw [written, nullableToNumber_lineText]
  have above : runtime.toLowerCase "Over" = "over" :=
    toLowerCase_of_ascii ascii (by decide) (by decide)
  have under : runtime.toLowerCase "Under" = "under" :=
    toLowerCase_of_ascii ascii (by decide) (by decide)
  have inOver : includes "over" "over" = true := by decide
  have notOver : includes "under" "over" = false := by decide
  have inUnder : includes "under" "under" = true := by decide
  split
  · next push =>
      intro name
      simp only [total, named_marketLine, read, Int.cast_natCast, push, if_true]
  · next apart =>
      have opposite : ((homeScore : ℚ) + awayScore < line.value) ↔
          ¬ (homeScore + awayScore : ℚ) > line.value := by
        rw [gt_iff_lt, not_lt, le_iff_lt_or_eq, or_iff_left apart]
      simp only [List.map_cons, List.map_nil, total, named_marketLine, named_selectionName, read,
        Int.cast_natCast, apart, above, under, inOver, notOver, inUnder, if_true, if_false,
        Bool.false_eq_true, wonIf_congr opposite]
      exact oneWins_wonIf _

theorem handicap_consistent {line : Numeric 6 2}
    (written : input.marketLine = lineText (some line)) {homeLabel awayLabel : String}
    (homeOnly : LabelsOnly runtime homeLabel input.homeTeamName input.awayTeamName)
    (awayOnly : LabelsOnly runtime awayLabel input.awayTeamName input.homeTeamName) :
    if (homeScore : ℚ) + line.value = awayScore then
      handicap runtime (named input homeLabel) homeScore awayScore =
          some .void ∧
        handicap runtime (named input awayLabel) homeScore awayScore =
          some .void
    else OneWins ([homeLabel, awayLabel].map fun name =>
      handicap runtime (named input name) homeScore awayScore) := by
  have read : nullableToNumber input.marketLine = some line.value := by
    rw [written, nullableToNumber_lineText]
  have level : ((homeScore : ℚ) = awayScore - line.value) ↔
      (homeScore : ℚ) + line.value = awayScore := eq_sub_iff_add_eq
  simp only [List.map_cons, List.map_nil, handicap, named_marketLine, named_selectionName,
    named_homeTeamName, named_awayTeamName, read, homeOnly.1, awayOnly.1, awayOnly.2,
    Int.cast_natCast, level, if_true, if_false, Bool.false_eq_true]
  split
  · exact ⟨rfl, rfl⟩
  · next apart =>
      have opposite : ((awayScore : ℚ) - line.value > homeScore) ↔
          ¬ (homeScore : ℚ) + line.value > awayScore := by
        rw [gt_iff_lt, lt_sub_iff_add_lt, gt_iff_lt, not_lt, le_iff_lt_or_eq, or_iff_left apart]
      simp only [wonIf_congr opposite]
      exact oneWins_wonIf _

theorem bothTeamsScore_oneWins (ascii : runtime.LowersAscii) :
    OneWins (["Yes", "No"].map fun name =>
      some (bothTeamsScore runtime (named input name) homeScore awayScore)) := by
  have yes : runtime.toLowerCase "Yes" = "yes" :=
    toLowerCase_of_ascii ascii (by decide) (by decide)
  have no : runtime.toLowerCase "No" = "no" :=
    toLowerCase_of_ascii ascii (by decide) (by decide)
  have inYes : includes "yes" "yes" = true := by decide
  have notYes : includes "no" "yes" = false := by decide
  have inNo : includes "no" "no" = true := by decide
  simp only [List.map_cons, List.map_nil, bothTeamsScore, named_selectionName, yes, no, inYes,
    notYes, inNo, if_true, if_false, Bool.false_eq_true]
  exact oneWins_wonIf _

/-- With both scores a market that is not void is graded by its type. -/
theorem evaluate_scored {home away : ℤ} (unvoided : input.marketStatus ≠ .void)
    (homeScore : input.homeScore = some home) (awayScore : input.awayScore = some away) :
    evaluate runtime input =
      match input.marketType with
      | .matchResult => some (matchResult runtime input home away)
      | .total => total runtime input home away
      | .handicap => handicap runtime input home away
      | .bothTeamsScore => some (bothTeamsScore runtime input home away)
      | .doubleChance => none := by
  cases type : input.marketType <;> simp [evaluate, unvoided, homeScore, awayScore, type]

/-- **The selections of one market are graded consistently**, whatever the scores. -/
theorem evaluate_consistent (ascii : runtime.LowersAscii) (unvoided : input.marketStatus ≠ .void)
    (home : input.homeScore = some (homeScore : ℤ))
    (away : input.awayScore = some (awayScore : ℤ)) :
    Consistent runtime input homeScore awayScore := by
  have result : ∀ name, evaluate runtime (named input name) = _ :=
    fun name => evaluate_scored unvoided home away
  unfold Consistent
  cases type : input.marketType with
  | matchResult =>
      intro distinct
      simp only [resultOf, result, named_marketType, type]
      exact matchResult_oneWins ascii distinct
  | total =>
      intro line written
      simp only [resultOf, result, named_marketType, type]
      have graded := total_consistent homeScore awayScore ascii written
      split
      · next push =>
          rw [if_pos push] at graded
          exact ⟨graded _, graded _⟩
      · next apart =>
          rw [if_neg apart] at graded
          exact graded
  | handicap =>
      intro line written homeLabel awayLabel homeOnly awayOnly
      simp only [resultOf, result, named_marketType, type]
      exact handicap_consistent written homeOnly awayOnly
  | bothTeamsScore =>
      simp only [resultOf, result, named_marketType, type]
      exact bothTeamsScore_oneWins ascii
  | doubleChance => trivial

/-- The ants play the bees, two to one. -/
def antsBees (type : MarketType) (line : Option String) (selectionName : String) :
    LegSettlementInput where
  marketType := type
  marketStatus := .settled
  marketLine := line
  selectionName := selectionName
  homeTeamName := "Ants"
  awayTeamName := "Bees"
  homeScore := some 2
  awayScore := some 1

theorem antsBees_consistent : OneWins [resultOf asciiRuntime (antsBees .matchResult none "") "Ants",
    resultOf asciiRuntime (antsBees .matchResult none "") "Bees",
    resultOf asciiRuntime (antsBees .matchResult none "") "Draw"] :=
  have consistent : Consistent asciiRuntime (antsBees .matchResult none "") 2 1 :=
    evaluate_consistent asciiRuntime_lowersAscii (by decide) rfl rfl
  consistent (by decide)

end Consistency

section Guesses

/-- The name of the selection tells an outcome of the market. -/
def namesOutcome : Bool :=
  let name := runtime.toLowerCase input.selectionName
  match input.marketType with
  | .matchResult => runtime.toLowerCase (trim input.selectionName) ∈
      ["draw", "x", runtime.toLowerCase (trim input.homeTeamName),
        runtime.toLowerCase (trim input.awayTeamName)]
  | .total => includes name "over" || includes name "under"
  | .handicap => includes name (runtime.toLowerCase input.homeTeamName) ||
      includes name (runtime.toLowerCase input.awayTeamName)
  | .bothTeamsScore => includes name "yes" || includes name "no"
  | .doubleChance => false

/-- There is no text of a line, or nothing but white space in it. -/
def lineless : Bool := trim (input.marketLine.getD "") = ""

/-- Totals and handicaps have a line that is written as a number. -/
def lineGiven : Bool :=
  match input.marketType with
  | .total | .handicap => !lineless input && (nullableToNumber input.marketLine).isSome
  | _ => true

/-- A result of a market that is not void has what it needs: both scores, the line, and
the name of an outcome. -/
def NeverGuesses : Prop :=
  input.marketStatus ≠ .void → evaluate runtime input ≠ none →
    input.homeScore.isSome ∧ input.awayScore.isSome ∧ lineGiven input = true ∧
      namesOutcome runtime input = true

instance : Decidable (NeverGuesses runtime input) := inferInstanceAs (Decidable (_ → _ → _))

/-- Nothing is left to guess at this score. The name tells an outcome. A market without a
line, which is read as zero, has neither a total of zero nor the name of an outcome; and
where the name tells nothing the total is not the line. -/
def Certain (home away : ℤ) : Prop :=
  match input.marketType with
  | .matchResult | .bothTeamsScore => namesOutcome runtime input = true
  | .total =>
      if lineless input then home + away ≠ 0 ∧ namesOutcome runtime input = false
      else namesOutcome runtime input = true ∨
        nullableToNumber input.marketLine ≠ some ((home : ℚ) + away)
  | .handicap => lineless input = true → namesOutcome runtime input = false
  | .doubleChance => True

variable {runtime input} {home away : ℤ}

theorem nullableToNumber_of_lineless (empty : lineless input = true) :
    nullableToNumber input.marketLine = some 0 := by
  simp only [lineless, decide_eq_true_eq] at empty
  cases line : input.marketLine with
  | none => rfl
  | some text =>
      rw [line, Option.getD_some] at empty
      simp only [nullableToNumber, toNumber]
      rw [if_pos empty]

/-- A total is graded if its line is a number, and the name tells an outcome or the
total is the line. -/
theorem total_ne_none_iff (type : input.marketType = .total) :
    total runtime input home away ≠ none ↔ ∃ line, nullableToNumber input.marketLine = some line ∧
      (namesOutcome runtime input = true ∨ (home : ℚ) + away = line) := by
  simp only [namesOutcome, type, total]
  cases nullableToNumber input.marketLine with
  | none => simp
  | some line =>
      by_cases push : (home : ℚ) + away = line
      · simp [push]
      · cases above : includes (runtime.toLowerCase input.selectionName) "over" <;>
          cases under : includes (runtime.toLowerCase input.selectionName) "under" <;>
            simp [push]

theorem handicap_ne_none_iff (type : input.marketType = .handicap) :
    handicap runtime input home away ≠ none ↔
      (nullableToNumber input.marketLine).isSome ∧ namesOutcome runtime input = true := by
  simp only [namesOutcome, type, handicap]
  cases nullableToNumber input.marketLine with
  | none => simp
  | some line =>
      dsimp only
      cases includes (runtime.toLowerCase input.selectionName)
        (runtime.toLowerCase input.homeTeamName) with
      | true =>
          simp only [if_true]
          split <;> simp
      | false =>
          cases includes (runtime.toLowerCase input.selectionName)
            (runtime.toLowerCase input.awayTeamName) with
          | true =>
              simp only [if_true, Bool.false_eq_true, if_false]
              split <;> simp
          | false => simp

/-- With both scores a result has what it needs exactly where nothing is left to guess. -/
theorem certain_iff (unvoided : input.marketStatus ≠ .void) (homeScore : input.homeScore = some home)
    (awayScore : input.awayScore = some away) : Certain runtime input home away ↔
      (evaluate runtime input ≠ none →
        lineGiven input = true ∧ namesOutcome runtime input = true) := by
  rw [evaluate_scored unvoided homeScore awayScore]
  unfold Certain lineGiven
  cases type : input.marketType with
  | matchResult => simp
  | total =>
      dsimp only
      rw [total_ne_none_iff type]
      by_cases empty : lineless input = true
      · simp only [empty, if_true, nullableToNumber_of_lineless empty, Option.some.injEq,
          exists_eq_left', Bool.not_true, Bool.false_and, Bool.false_eq_true, false_and, imp_false,
          not_or, Bool.not_eq_true]
        rw [and_comm]
        exact and_congr_right fun _ => not_congr (by exact_mod_cast Iff.rfl)
      · cases read : nullableToNumber input.marketLine with
        | none => simp [empty]
        | some line =>
            cases namesOutcome runtime input <;> simp [empty, eq_comm]
  | handicap =>
      dsimp only
      rw [handicap_ne_none_iff type]
      by_cases empty : lineless input = true
      · simp [empty, nullableToNumber_of_lineless empty]
      · simp [empty]
  | bothTeamsScore => simp
  | doubleChance => simp

/-- **`evaluate` never guesses** exactly where nothing is left to guess: the market is void,
a score is missing, or the input is certain. -/
theorem neverGuesses_iff : NeverGuesses runtime input ↔
    (input.marketStatus ≠ .void → ∀ home away, input.homeScore = some home →
      input.awayScore = some away → Certain runtime input home away) := by
  constructor
  · intro careful unvoided home away homeScore awayScore
    rw [certain_iff unvoided homeScore awayScore]
    intro graded
    exact (careful unvoided graded).2.2
  · intro certain unvoided graded
    cases homeScore : input.homeScore with
    | none => simp [evaluate, unvoided, homeScore] at graded
    | some home =>
        cases awayScore : input.awayScore with
        | none => simp [evaluate, unvoided, homeScore, awayScore] at graded
        | some away =>
            have needed := (certain_iff unvoided homeScore awayScore).mp
              (certain unvoided home away homeScore awayScore) graded
            exact ⟨rfl, rfl, needed⟩

/-- A renamed team, totals with no line and with a line that is met, a handicap with no line,
and a selection that is neither yes nor no. -/
def guesses : List LegSettlementInput :=
  [antsBees .matchResult none "Ants FC", antsBees .total none "Over",
    antsBees .total (some "3.00") "Ants", antsBees .handicap (some "") "Ants -4.5",
    antsBees .bothTeamsScore none "Oui"]

/-- The renamed team and the answer in French lose, a missing line is taken for zero, and a
total that meets its line is void under any name. -/
theorem evaluate_guesses :
    guesses.map (evaluate asciiRuntime) =
      [some .lost, some .won, some .void, some .won, some .lost] ∧
    ¬ ∃ guess ∈ guesses, NeverGuesses asciiRuntime guess := by
  decide +kernel

end Guesses

end SportsBetting.LegOutcome
