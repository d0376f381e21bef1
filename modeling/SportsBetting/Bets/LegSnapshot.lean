import SportsBetting.Settlement.LegOutcome
import SportsBetting.Shared.BetMath

/-!
# The snapshot a leg freezes at placement
-/

namespace SportsBetting

structure LegPlacementSnapshot where
  marketType : MarketType
  marketLine : Option String
  homeTeamName : String
  awayTeamName : String
  eventProviderRef : String
  sportKey : String
  sportName : String
  leagueKey : String
  leagueName : String
  deriving DecidableEq

/-- The leg with its snapshot columns filled in. -/
def legSnapshotCreateData (snapshot : LegPlacementSnapshot) (leg : BetLeg) :
    Except Failure BetLeg := do
  let marketLine ← lineColumn snapshot.marketLine
  return { leg with
    marketType := some snapshot.marketType
    marketLine
    homeTeamName := some snapshot.homeTeamName
    awayTeamName := some snapshot.awayTeamName
    eventProviderRef := some snapshot.eventProviderRef
    sportKey := some snapshot.sportKey
    sportName := some snapshot.sportName
    leagueKey := some snapshot.leagueKey
    leagueName := some snapshot.leagueName }

/-- Frozen leg data with the live result of the event and the market. -/
def buildLegSettlementInput (leg : BetLeg) (snapshot : LegPlacementSnapshot)
    (marketStatus : MarketStatus) (homeScore awayScore : Option ℤ) : LegSettlementInput where
  marketType := snapshot.marketType
  marketStatus
  marketLine := snapshot.marketLine
  selectionName := leg.selectionName
  homeTeamName := snapshot.homeTeamName
  awayTeamName := snapshot.awayTeamName
  homeScore
  awayScore

end SportsBetting
