import SportsBetting.Data.Outcome
import SportsBetting.Data.Text
import SportsBetting.Schema
import Mathlib.Data.List.Sort

/-!
# Wallet transactions

A debit is rebuilt from the bet on every attempt; credits are built once and
stored with their outbox row. A bet without legs has no primary leg, and
building fails as the source does.
-/

namespace SportsBetting

open Numeral

section Legs

def sortLegs (legs : List BetLeg) : List BetLeg :=
  legs.insertionSort fun first second => first.legOrder ≤ second.legOrder

def primaryLeg (legs : List BetLeg) : Except Failure BetLeg :=
  match sortLegs legs with
  | [] => .error (.error "Cannot read properties of undefined")
  | leg :: _ => .ok leg

def gameCodeFromLeg (leg : BetLeg) : String :=
  match leg.leagueKey.map Text.trim with
  | none => "sportsbook_unknown"
  | some code => if code = "" then "sportsbook_unknown" else code

def formatMarketType : Option MarketType → String
  | none => "market"
  | some .matchResult => "MATCH RESULT"
  | some .handicap => "HANDICAP"
  | some .total => "TOTAL"
  | some .doubleChance => "DOUBLE CHANCE"
  | some .bothTeamsScore => "BOTH TEAMS SCORE"

def sportOf (leg : BetLeg) : String := (leg.sportName.or leg.sportKey).getD "Sport"

def leagueOf (leg : BetLeg) : String := (leg.leagueName.or leg.leagueKey).getD "League"

def matchup (leg : BetLeg) : String :=
  leg.homeTeamName.getD "?" ++ " vs " ++ leg.awayTeamName.getD "?"

def legLine (leg : BetLeg) : String :=
  let line := (leg.marketLine.map fun line => " " ++ line.text).getD ""
  sportOf leg ++ " · " ++ leagueOf leg ++ " · " ++ matchup leg ++ " · " ++
    formatMarketType leg.marketType ++ line ++ " · " ++ leg.selectionName ++ " @ " ++
    leg.priceAtPlacement.text

end Legs

section Builders

variable (bet : Bet)

def buildPlacementDetail (primary : BetLeg) : String :=
  let stake := " · stake " ++ bet.stake.text ++ " " ++ bet.currency
  if bet.legs.length = 1 then legLine primary ++ stake
  else
    let summaries := (sortLegs bet.legs).mapIdx fun index leg =>
      "(" ++ toString (index + 1) ++ ") " ++ legLine leg
    String.intercalate " · " summaries ++ stake

def buildSettlementDetail (primary : BetLeg) (outcome : WalletSettlementOutcome)
    (payout : String) : String :=
  let start := sportOf primary ++ " · " ++ leagueOf primary ++ " · " ++ matchup primary
  match outcome with
  | .won => start ++ " · Bet WON · payout " ++ payout ++ " " ++ bet.currency ++ " · slip " ++ bet.id
  | .void => start ++ " · Bet VOID · stake refund " ++ payout ++ " " ++ bet.currency ++ " · slip " ++
      bet.id
  | .lost => start ++ " · Bet LOST · slip " ++ bet.id

def buildBetDebitTransaction (transactionCode : TransactionCode) :
    Except Failure WalletTransactionRequest := do
  let primary ← primaryLeg bet.legs
  return {
    userCode := bet.username
    casinoGroupId := bet.casinoGroupId
    roundId := bet.id
    transactionCode
    historyId := primary.eventId
    gameCode := gameCodeFromLeg primary
    gameType := 3
    isFinished := false
    isCanceled := false
    amount := "-" ++ bet.stake.text
    detail := buildPlacementDetail bet primary
    createdAt := bet.createdAt }

/-- The payout is given as a number and as the text it prints as. -/
def buildSettlementTransaction (outcome : WalletSettlementOutcome) (payout : String)
    (transactionCode : TransactionCode) (now : Time) :
    Except Failure WalletTransactionRequest := do
  let primary ← primaryLeg bet.legs
  return {
    userCode := bet.username
    casinoGroupId := bet.casinoGroupId
    roundId := bet.id
    transactionCode
    historyId := primary.eventId
    gameCode := gameCodeFromLeg primary
    gameType := 3
    isFinished := true
    isCanceled := outcome = .void
    amount := if outcome = .lost then "0" else payout
    detail := buildSettlementDetail bet primary outcome payout
    createdAt := now }

variable {bet} {transactionCode : TransactionCode} {request : WalletTransactionRequest}

theorem buildBetDebitTransaction_ok
    (built : buildBetDebitTransaction bet transactionCode = .ok request) :
    request.casinoGroupId = bet.casinoGroupId ∧ request.roundId = bet.id ∧
      request.transactionCode = transactionCode ∧ request.isFinished = false ∧
      request.amount = "-" ++ bet.stake.text := by
  unfold buildBetDebitTransaction at built
  obtain ⟨leg, _, built⟩ := Except.bind_eq_ok.mp built
  obtain rfl := Except.pure_eq_ok.mp built
  exact ⟨rfl, rfl, rfl, rfl, rfl⟩

theorem buildSettlementTransaction_ok {outcome : WalletSettlementOutcome} {payout : String}
    {now : Time}
    (built : buildSettlementTransaction bet outcome payout transactionCode now = .ok request) :
    request.casinoGroupId = bet.casinoGroupId ∧ request.roundId = bet.id ∧
      request.transactionCode = transactionCode ∧ request.isFinished = true ∧
      request.amount = if outcome = .lost then "0" else payout := by
  unfold buildSettlementTransaction at built
  obtain ⟨leg, _, built⟩ := Except.bind_eq_ok.mp built
  obtain rfl := Except.pure_eq_ok.mp built
  exact ⟨rfl, rfl, rfl, rfl, rfl⟩

end Builders

end SportsBetting
