import SportsBetting.Feed.OddsApi

/-!
# From the odds feed to a snapshot

The maps of the source are tables: `set` replaces a value in place, and the
values come out in the order of their first insertion. The clock is read once.
-/

namespace SportsBetting.OddsApi

open Numeral Text

section Parts

def teamKey (runtime : Runtime) (sportKey teamName : String) : String :=
  sportKey ++ "_" ++ slugify runtime teamName

def pickBookmaker (bookmakers : List OddsApiBookmaker) (preferredKey : String) :
    Option OddsApiBookmaker :=
  match bookmakers with
  | [] => none
  | first :: _ =>
      if preferredKey = "" then some first
      else some ((bookmakers.find? fun bookmaker => bookmaker.key = preferredKey).getD first)

def parseScore (scores : Option (List OddsApiScoreEntry)) (homeTeam awayTeam : String) :
    Option ℤ × Option ℤ :=
  let entries := scores.getD []
  let scoreOf := fun team =>
    (entries.find? fun entry => entry.name = team).bind fun entry => parseInt entry.score
  (scoreOf homeTeam, scoreOf awayTeam)

def hasStarted (runtime : Runtime) (now : Time) (commenceTime : String) : Bool :=
  match runtime.dateParse commenceTime with
  | some startsAt => startsAt ≤ now
  | none => false

def fixtureStatus (runtime : Runtime) (now : Time) (commenceTime : String)
    (score : Option OddsApiEventScore) : FixtureStatus :=
  if (score.map OddsApiEventScore.completed).getD false then .ended
  else if !hasStarted runtime now commenceTime then .scheduled
  else .live

def eventStatus (runtime : Runtime) (now : Time) (commenceTime : String)
    (score : Option OddsApiEventScore) : EventStatus :=
  match fixtureStatus runtime now commenceTime score with
  | .ended => .ended
  | .live => .live
  | _ => .scheduled

/-- The case-insensitive match for `over` or `under`. -/
def mentionsOverUnder (name : String) : Bool :=
  includes (asciiLower name) "over" || includes (asciiLower name) "under"

def selectionLabel (outcome : OddsApiOutcome) : String :=
  match outcome.point with
  | some point =>
      if mentionsOverUnder outcome.name then outcome.name ++ " " ++ point.text
      else outcome.name ++ " " ++ ((if 0 < point.significand then "+" else "") ++ point.text)
  | none => outcome.name

/-- The label of an outcome with a point is its name, a space and the point. -/
theorem selectionLabel_of_point {outcome : OddsApiOutcome} {point : Decimal}
    (given : outcome.point = some point) :
    ∃ text, selectionLabel outcome = outcome.name ++ " " ++ text := by
  simp only [selectionLabel, given]
  by_cases total : mentionsOverUnder outcome.name = true
  · exact ⟨point.text, by rw [if_pos total]⟩
  · exact ⟨_, by rw [if_neg total]⟩

def marketLine (market : OddsApiMarket) : Option String :=
  (market.outcomes.findSome? OddsApiOutcome.point).map Decimal.text

def selectionProviderRef (runtime : Runtime) (eventId bookmakerKey marketKey : String)
    (outcome : OddsApiOutcome) : String :=
  let pointPart := (outcome.point.map Decimal.text).getD "np"
  eventId ++ ":" ++ bookmakerKey ++ ":" ++ marketKey ++ ":" ++ slugify runtime outcome.name ++ ":" ++
    pointPart

end Parts

structure MapOddsApiInput where
  sportKeys : List String
  apiSports : List OddsApiSport
  oddsBySport : String → List OddsApiEventOdds
  scoresBySport : String → List OddsApiEventScore
  marketKeys : List String

/-- The maps under construction. -/
structure SnapshotMaps where
  sports : Table NormalizedSport NormalizedSport.key
  leagues : Table NormalizedLeague NormalizedLeague.key
  teams : Table NormalizedTeam NormalizedTeam.key
  fixtures : Table NormalizedFixture NormalizedFixture.providerRef
  events : Table NormalizedEvent NormalizedEvent.providerRef
  markets : Table NormalizedMarket NormalizedMarket.providerRef
  selections : Table NormalizedSelection NormalizedSelection.providerRef

def SnapshotMaps.empty : SnapshotMaps :=
  ⟨.empty, .empty, .empty, .empty, .empty, .empty, .empty⟩

def SnapshotMaps.snapshot (maps : SnapshotMaps) : ProviderSnapshot :=
  ⟨maps.sports.rows, maps.leagues.rows, maps.teams.rows, maps.fixtures.rows, maps.events.rows,
    maps.markets.rows, maps.selections.rows⟩

section Entries

variable (runtime : Runtime) (event : OddsApiEventOdds) (bookmaker : OddsApiBookmaker)
  (isEnded : Bool) (market : OddsApiMarket)

def marketEntry (type : MarketType) : NormalizedMarket where
  providerRef := event.id ++ ":" ++ bookmaker.key ++ ":" ++ market.key
  eventProviderRef := event.id
  type := type
  status := if isEnded then .settled else .open
  line := marketLine market

def selectionEntry (outcome : OddsApiOutcome) : NormalizedSelection where
  providerRef := selectionProviderRef runtime event.id bookmaker.key market.key outcome
  marketProviderRef := event.id ++ ":" ++ bookmaker.key ++ ":" ++ market.key
  name := selectionLabel outcome
  status := if isEnded then .settled else .open
  price := outcome.price.text

end Entries

section Mapping

variable (runtime : Runtime) (now : Time) (input : MapOddsApiInput)

def addMarket (event : OddsApiEventOdds) (bookmaker : OddsApiBookmaker) (isEnded : Bool)
    (maps : SnapshotMaps) (market : OddsApiMarket) : SnapshotMaps :=
  match decide (market.key ∈ input.marketKeys), ODDS_API_MARKET_TYPE_MAP market.key with
  | true, some type =>
      { maps with
        markets := maps.markets.put (marketEntry event bookmaker isEnded market type)
        selections := market.outcomes.foldl (fun selections outcome =>
          selections.put (selectionEntry runtime event bookmaker isEnded market outcome))
          maps.selections }
  | _, _ => maps

/-- Teams, fixture and event of a game, as both halves of the feed list them. -/
def addGame (sportKey groupSportKey id commenceTime homeTeam awayTeam : String)
    (score : Option OddsApiEventScore) (maps : SnapshotMaps) : SnapshotMaps :=
  let homeKey := teamKey runtime sportKey homeTeam
  let awayKey := teamKey runtime sportKey awayTeam
  let (homeScore, awayScore) := parseScore (score.bind OddsApiEventScore.scores) homeTeam awayTeam
  { maps with
    teams := (maps.teams.put ⟨homeKey, groupSportKey, homeTeam, none⟩).put
      ⟨awayKey, groupSportKey, awayTeam, none⟩
    fixtures := maps.fixtures.put ⟨id, sportKey, homeKey, awayKey, commenceTime,
      fixtureStatus runtime now commenceTime score⟩
    events := maps.events.put ⟨id, id, eventStatus runtime now commenceTime score, homeScore,
      awayScore, none, none⟩ }

def scoresByEventId : Table OddsApiEventScore OddsApiEventScore.id :=
  (input.sportKeys.flatMap input.scoresBySport).foldl Table.put Table.empty

def addOdds (sportKey : String) (config : OddsApiSportConfig) (maps : SnapshotMaps)
    (event : OddsApiEventOdds) : SnapshotMaps :=
  let score := (scoresByEventId input).get? event.id
  let maps := addGame runtime now sportKey config.groupSportKey event.id event.commence_time
    event.home_team event.away_team score maps
  let isEnded := decide (eventStatus runtime now event.commence_time score = .ended)
  match pickBookmaker event.bookmakers config.bookmaker with
  | none => maps
  | some bookmaker =>
      bookmaker.markets.foldl (addMarket runtime input event bookmaker isEnded) maps

/-- A completed game may leave the odds before the scores, so scores alone list it too. -/
def addScore (sportKey : String) (config : OddsApiSportConfig) (maps : SnapshotMaps)
    (score : OddsApiEventScore) : SnapshotMaps :=
  let oddsEventIds := (input.oddsBySport sportKey).map OddsApiEventOdds.id
  if score.id ∈ oddsEventIds ∨ (maps.events.get? score.id).isSome then maps
  else addGame runtime now sportKey config.groupSportKey score.id score.commence_time
    score.home_team score.away_team (some score) maps

def addSport (maps : SnapshotMaps) (sportKey : String) : SnapshotMaps :=
  let apiSport := input.apiSports.reverse.find? fun sport => sport.key = sportKey
  let config := resolveSportConfig runtime sportKey apiSport
  let sports :=
    match maps.sports.get? config.groupSportKey with
    | some _ => maps.sports
    | none => maps.sports.put ⟨config.groupSportKey,
        (apiSport.map OddsApiSport.group).getD config.groupSportKey, config.groupSportKey⟩
  let region := if config.regionName = "" then none else some config.regionName
  let maps := { maps with
    sports
    leagues := maps.leagues.put ⟨sportKey, config.groupSportKey, config.leagueName, region⟩ }
  let maps := (input.oddsBySport sportKey).foldl (addOdds runtime now input sportKey config) maps
  (input.scoresBySport sportKey).foldl (addScore runtime now input sportKey config) maps

def mapOddsApiToSnapshot : ProviderSnapshot :=
  (input.sportKeys.foldl (addSport runtime now input) SnapshotMaps.empty).snapshot

end Mapping

end SportsBetting.OddsApi
