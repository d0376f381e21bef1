import SportsBetting.Bets.LegSnapshot
import SportsBetting.Wallet.Outbox

/-!
# Settlement

A run grades accepted bets from the results as they are read, stores one bet
after the other under one batch id for each casino group, and then flushes the
outbox.
-/

namespace SportsBetting.SettlementService

open Async Numeral Text WalletOutboxService

def BATCH_SIZE : ℕ := 50

section Grading

/-- What grading a leg needs, with the status of its event. -/
structure LegContext where
  input : LegSettlementInput
  eventStatus : EventStatus

/-- An event with what it is joined to. -/
structure EventRow where
  event : Event
  homeTeam : Team
  awayTeam : Team
  league : League
  sport : Sport

def findEvent (db : Database) (eventId : String) : Option EventRow := do
  let event ← db.catalog.events.get? eventId
  let fixture ← db.catalog.fixtures.get? event.fixture
  let homeTeam ← db.catalog.teams.get? fixture.homeTeam
  let awayTeam ← db.catalog.teams.get? fixture.awayTeam
  let league ← db.catalog.leagues.get? fixture.league
  let sport ← db.catalog.sports.get? league.sport
  return ⟨event, homeTeam, awayTeam, league, sport⟩

/-- The frozen data of a leg that has the snapshot columns; columns added later are
filled from the catalog. -/
def storedSnapshot (leg : BetLeg) (row : EventRow) : Option LegPlacementSnapshot := do
  let marketType ← leg.marketType
  let homeTeamName ← leg.homeTeamName
  let awayTeamName ← leg.awayTeamName
  return {
    marketType
    marketLine := lineText leg.marketLine
    homeTeamName
    awayTeamName
    eventProviderRef := leg.eventProviderRef.getD row.event.providerRef
    sportKey := leg.sportKey.getD row.sport.key
    sportName := leg.sportName.getD row.sport.name
    leagueKey := leg.leagueKey.getD row.league.key
    leagueName := leg.leagueName.getD row.league.name }

def liveInput (leg : BetLeg) (row : EventRow) (market : Market) : LegSettlementInput where
  marketType := market.type
  marketStatus := market.status
  marketLine := lineText market.line
  selectionName := leg.selectionName
  homeTeamName := row.homeTeam.name
  awayTeamName := row.awayTeam.name
  homeScore := row.event.homeScore
  awayScore := row.event.awayScore

def loadLegContext (leg : BetLeg) : Betting (Option LegContext) := do
  let event? ← view fun db => findEvent db leg.eventId
  let market? ← view fun db => db.catalog.markets.get? leg.marketId
  match event?, market? with
  | some row, some market =>
      match storedSnapshot leg row with
      | some snapshot =>
          return some ⟨buildLegSettlementInput leg snapshot market.status row.event.homeScore
            row.event.awayScore, row.event.status⟩
      | none => do
          let selection? ← view fun db => db.catalog.selections.get? leg.selectionId
          return selection?.map fun _ => ⟨liveInput leg row market, row.event.status⟩
  | _, _ => return none

def loadLegContexts (legs : List BetLeg) : Betting (List (Option LegContext)) :=
  legs.foldlM (fun contexts leg => do
    let context ← loadLegContext leg
    return contexts ++ [context]) []

def isFinal (context : LegContext) : Bool :=
  context.eventStatus = .ended &&
    (context.input.marketStatus = .settled || context.input.marketStatus = .void)

def aggregateBetResult (legResults : List LegResult) : WalletSettlementOutcome :=
  if LegResult.void ∈ legResults then .void
  else if LegResult.lost ∈ legResults then .lost
  else .won

def payoutForResult (stake : Numeric 12 2) (potentialPayout : Numeric 14 2) :
    WalletSettlementOutcome → Numeric 14 2
  | .won => potentialPayout
  | .void => stakeAmount stake
  | .lost => 0

/-- Grade a bet from its contexts, one for each leg. -/
def gradeContexts (runtime : Runtime) (bet : Bet) (contexts : List (Option LegContext)) :
    Option GradedBet := do
  let contexts ← contexts.mapM fun context => context
  if contexts.all isFinal then
    let legResults ← contexts.mapM fun context => LegOutcome.evaluate runtime context.input
    let betResult := aggregateBetResult legResults
    return ⟨bet, legResults, betResult, payoutForResult bet.stake bet.potentialPayout betResult⟩
  else none

/-- The bet while it is accepted, with its legs in order. -/
def findAccepted (db : Database) (betId : String) : Option Bet :=
  ((db.ledger.bets.get? betId).filter fun bet => bet.status = .accepted).map fun bet =>
    { bet with legs := sortLegs bet.legs }

def gradeBet (runtime : Runtime) (betId : String) : Betting (Option GradedBet) := do
  let bet? ← view fun db => findAccepted db betId
  match bet? with
  | none => return none
  | some bet => do
      let contexts ← loadLegContexts bet.legs
      return gradeContexts runtime bet contexts

end Grading

section Runs

/-- The batch id of a group, drawn when it is first needed. -/
def batchIdFor (batchIdByGroup : List (String × ℕ)) (casinoGroupId : String) :
    Betting (ℕ × List (String × ℕ)) :=
  match batchIdByGroup.lookup casinoGroupId with
  | some batchId => return (batchId, batchIdByGroup)
  | none => do
      let batchId ← Program.call .randomUUID
      return (batchId, (casinoGroupId, batchId) :: batchIdByGroup)

def persistGradedSettlements (graded : List GradedBet) : Betting (List (String × ℕ)) :=
  graded.foldlM (fun batchIdByGroup entry => do
    let (batchId, batchIdByGroup) ← batchIdFor batchIdByGroup entry.bet.casinoGroupId
    let _ ← transact (.settleBet entry batchId)
    return batchIdByGroup) []

def applySettlements (graded : List GradedBet) : Betting Unit := do
  let _ ← persistGradedSettlements graded
  let _ ← flushSettlementBatches
  return ()

def gradeBets (runtime : Runtime) (betIds : List String) : Betting (List GradedBet) :=
  betIds.foldlM (fun graded betId => do
    let result ← gradeBet runtime betId
    return graded ++ result.toList) []

def settleBatch (runtime : Runtime) : Betting ℕ := do
  let bets ← Program.call (.read fun db moment =>
    (acceptedBets db moment fun _ => true).take BATCH_SIZE)
  let graded ← gradeBets runtime (bets.map Bet.id)
  if graded = [] then return 0
  else do
    applySettlements graded
    return graded.length

def trySettleBet (runtime : Runtime) (betId : String) : Betting Bool := do
  let graded ← gradeBet runtime betId
  match graded with
  | none => return false
  | some graded => do
      applySettlements [graded]
      return true

/-- How many bets were settled, and how many tried. -/
def settleBetsForEvent (runtime : Runtime) (eventId casinoGroupId : String) : Betting (ℕ × ℕ) := do
  let bets ← Program.call (.read fun db moment => acceptedBets db moment fun bet =>
    bet.casinoGroupId = casinoGroupId && bet.legs.any fun leg => leg.eventId = eventId)
  let settled ← (bets.map Bet.id).foldlM (fun settled betId => do
    let done ← trySettleBet runtime betId
    return if done then settled + 1 else settled) 0
  return (settled, bets.length)

end Runs

end SportsBetting.SettlementService
