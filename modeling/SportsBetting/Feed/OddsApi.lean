import SportsBetting.Data.Text
import SportsBetting.Schema

/-!
# The odds feed and the provider snapshot

Raw feed shapes, the per-sport configuration, and the normalized snapshot. The
normalized statuses and market types are spelled as in the database, so the
database enumerations are used for both.
-/

namespace SportsBetting

open Numeral Text

section Snapshot

structure NormalizedSport where
  key : String
  name : String
  slug : String
  deriving DecidableEq

structure NormalizedLeague where
  key : String
  sportKey : String
  name : String
  region : Option String
  deriving DecidableEq

structure NormalizedTeam where
  key : String
  sportKey : String
  name : String
  shortName : Option String
  deriving DecidableEq

structure NormalizedFixture where
  providerRef : String
  leagueKey : String
  homeTeamKey : String
  awayTeamKey : String
  startsAt : String
  status : FixtureStatus
  deriving DecidableEq

structure NormalizedEvent where
  providerRef : String
  fixtureProviderRef : String
  status : EventStatus
  homeScore : Option ℤ
  awayScore : Option ℤ
  period : Option String
  clock : Option String
  deriving DecidableEq

structure NormalizedMarket where
  providerRef : String
  eventProviderRef : String
  type : MarketType
  status : MarketStatus
  line : Option String
  deriving DecidableEq

structure NormalizedSelection where
  providerRef : String
  marketProviderRef : String
  name : String
  status : SelectionStatus
  price : String
  deriving DecidableEq

structure ProviderSnapshot where
  sports : List NormalizedSport
  leagues : List NormalizedLeague
  teams : List NormalizedTeam
  fixtures : List NormalizedFixture
  events : List NormalizedEvent
  markets : List NormalizedMarket
  selections : List NormalizedSelection

end Snapshot

namespace OddsApi

section FeedShapes

structure OddsApiSport where
  key : String
  group : String
  title : String

/-- A feed number is given by the decimal that it prints as. -/
structure OddsApiOutcome where
  name : String
  price : Decimal
  point : Option Decimal

structure OddsApiMarket where
  key : String
  outcomes : List OddsApiOutcome

structure OddsApiBookmaker where
  key : String
  markets : List OddsApiMarket

structure OddsApiEventOdds where
  id : String
  commence_time : String
  home_team : String
  away_team : String
  bookmakers : List OddsApiBookmaker

structure OddsApiScoreEntry where
  name : String
  score : String

structure OddsApiEventScore where
  id : String
  commence_time : String
  completed : Bool
  home_team : String
  away_team : String
  scores : Option (List OddsApiScoreEntry)

end FeedShapes

section Config

structure OddsApiSportConfig where
  groupSportKey : String
  region : String
  bookmaker : String
  leagueName : String
  regionName : String

def groupConfig (groupSportKey : String) : OddsApiSportConfig :=
  ⟨groupSportKey, "all", "", "", ""⟩

def ODDS_API_SPORT_CONFIG (key : String) : Option OddsApiSportConfig :=
  if key ∈ ["basketball", "baseball", "americanfootball", "soccer"] then some (groupConfig key)
  else none

def ODDS_API_MARKET_TYPE_MAP (key : String) : Option MarketType :=
  if key = "h2h" then some .matchResult
  else if key = "spreads" then some .handicap
  else if key = "totals" then some .total
  else none

/-- The first text that is not empty, as `||` picks it. -/
def orElse (text other : String) : String := if text = "" then other else text

def isSlugCharacter (symbol : Char) : Bool := symbol.isDigit || ('a' ≤ symbol && symbol ≤ 'z')

/-- Every run of other characters becomes one underscore. -/
def underscoreRuns (inRun : Bool) : List Char → List Char
  | [] => []
  | symbol :: rest =>
      if isSlugCharacter symbol then symbol :: underscoreRuns false rest
      else if inRun then underscoreRuns true rest
      else '_' :: underscoreRuns true rest

def dropUnderscore : List Char → List Char
  | '_' :: rest => rest
  | text => text

def slugify (runtime : Runtime) (value : String) : String :=
  let letters := (runtime.normalizeNFKD (runtime.toLowerCase value)).toList.filter fun symbol =>
    !(0x300 ≤ symbol.toNat && symbol.toNat ≤ 0x36F)
  let words := dropUnderscore (underscoreRuns false letters)
  String.ofList ((dropUnderscore words.reverse).reverse.take 48)

def resolveSportConfig (runtime : Runtime) (sportKey : String) (apiSport : Option OddsApiSport) :
    OddsApiSportConfig :=
  let title := apiSport.map OddsApiSport.title
  match ODDS_API_SPORT_CONFIG sportKey with
  | some exact =>
      { exact with leagueName := orElse exact.leagueName (orElse (title.getD "") sportKey) }
  | none =>
      let groupKey := before '_' sportKey
      match ODDS_API_SPORT_CONFIG groupKey, decide (groupKey ≠ sportKey) with
      | some group, true => { group with leagueName := title.getD sportKey }
      | _, _ =>
          let groupSportKey := (apiSport.map fun sport => slugify runtime sport.group).getD groupKey
          ⟨groupSportKey, "", "", title.getD sportKey, ""⟩

end Config

end OddsApi

end SportsBetting
