import SportsBetting.Ingestion.Queries
import Mathlib.Data.List.Sort

/-!
# The ingestion service

Every run is a sequence of awaited queries without a transaction around it, so
it can stop between any two of them. Broadcasts only await the message broker.
-/

namespace SportsBetting.Ingestion

open Async Text

structure LiveCounts where
  events : ℕ
  markets : ℕ
  selections : ℕ
  oddsSnapshots : ℕ

structure IngestionSummary where
  sports : ℕ
  leagues : ℕ
  teams : ℕ
  fixtures : ℕ
  live : LiveCounts

def publish : Service Unit := read fun _ => ()

section Catalog

def upsertCatalogFromSnapshot (snapshot : ProviderSnapshot) : Service Unit := do
  snapshot.sports.forM fun sport => attempt fun db => upsertSport db sport
  let sportKeys ← read fun db => db.catalog.sports.rows.map Sport.key
  snapshot.leagues.forM fun league =>
    if league.sportKey ∈ sportKeys then write fun db => upsertLeague db league else pure ()
  snapshot.teams.forM fun team =>
    if team.sportKey ∈ sportKeys then write fun db => upsertTeam db team else pure ()

def NBA_LEAGUE_KEY : String := "basketball_nba"

def ACME_LEAGUE_PREFIXES : List String := [NBA_LEAGUE_KEY]

def BETZONE_LEAGUE_PREFIXES : List String := [NBA_LEAGUE_KEY]

def isLeagueOffered (leagueKey : String) (offeredLeagueKeys : List String) : Bool :=
  leagueKey ∈ offeredLeagueKeys

def offeringEntry (slug groupId leagueKey : String) (existing : Option Bool) (enabled : Bool) :
    AuditEntry where
  actorType := "system"
  actorId := "ingestion"
  casinoGroupId := groupId
  action := "tenant.league_offering_updated"
  entityType := "CasinoGroupLeague"
  entityId := groupId ++ ":" ++ leagueKey
  before := (existing.map fun old => [("enabled", toString old), ("leagueKey", leagueKey)]).getD []
  after := [("enabled", toString enabled), ("leagueKey", leagueKey)]
  reason := some ("Catalog ingest sync for " ++ slug)

/-- Sync demo tenant league enablement; audit when `enabled` changes. -/
def syncTenantLeagues (slug : String) (offeredLeagueKeys : List String) : Service Unit := do
  let group ← read fun db => db.catalog.casinoGroups.rows.find? fun group => group.slug = slug
  match group with
  | none => pure ()
  | some group =>
      let leagues ← read fun db => db.catalog.leagues.rows.map League.key
      leagues.forM fun league => do
        let enabled := isLeagueOffered league offeredLeagueKeys
        let existing ← read fun db =>
          (db.catalog.casinoGroupLeagues.get? (group.id, league)).map CasinoGroupLeague.enabled
        write fun db => upsertGroupLeague db group.id league enabled
        if existing = some enabled then pure ()
        else recordAudit (offeringEntry slug group.id league existing enabled)

end Catalog

section Fixtures

def findBetIds (selectionIds : List String) : Service (List String) :=
  if selectionIds.isEmpty then pure [] else read fun db => betIdsOn db selectionIds

/-- How many fixtures and how many bets are gone. -/
def deleteFixturesWithBets (betIds fixtures : List String) : Service (ℕ × ℕ) :=
  if betIds.isEmpty then do
    let removed ← transaction fun db => removeFixtures db fixtures
    pure (removed, 0)
  else do
    let betsRemoved ← transaction fun db => deleteBetsAndFixtures db betIds fixtures
    pure (fixtures.length, betsRemoved)

/-- Deletes the chosen fixtures that have no active bets, with the bets on them. -/
def deleteFixturesAndBetHistory (chosen : Fixture → Bool) : Service (ℕ × ℕ) := do
  let _ ← read fun db => (fixturesWhere db chosen true).length
  let fixtures ← read fun db => fixturesWhere db chosen false
  if fixtures.isEmpty then pure (0, 0)
  else do
    let selectionIds ← read fun db => selectionsOn db fixtures
    let betIds ← findBetIds selectionIds
    deleteFixturesWithBets betIds fixtures

def deleteStaleFixtures (stale : Fixture → Bool) : Service ℕ := do
  let (fixturesRemoved, _) ← deleteFixturesAndBetHistory stale
  pure fixturesRemoved

structure PurgeMockCatalogSummary where
  fixturesRemoved : ℕ
  betsRemoved : ℕ
  fixturesSkipped : ℕ
  teamsRemoved : ℕ

/-- Rows of the mock provider, and those retired earlier. -/
def mockFixtureWhere (fixture : Fixture) : Bool :=
  startsWith fixture.providerRef "mock_" || startsWith fixture.providerRef "purged_mock_"

/-- Deletes mock-provider catalog rows and any non-active bets on those fixtures. -/
def purgeMockCatalog : Service PurgeMockCatalogSummary := do
  let fixturesSkipped ← read fun db => (fixturesWhere db mockFixtureWhere true).length
  let (fixturesRemoved, betsRemoved) ← deleteFixturesAndBetHistory mockFixtureWhere
  let teamsRemoved ← transaction fun db => .ok (deleteMockTeams db)
  pure ⟨fixturesRemoved, betsRemoved, fixturesSkipped, teamsRemoved⟩

def upsertFixturesFromSnapshot (runtime : Runtime) (isOddsApi : Bool)
    (snapshot : ProviderSnapshot) (purgeStale : Bool) : Service ℕ := do
  let leagueKeys ← read fun db => db.catalog.leagues.rows.map League.key
  let teamKeys ← read fun db => db.catalog.teams.rows.map Team.key
  let fixtureCount ← snapshot.fixtures.foldlM (fun count fixture =>
    if fixture.leagueKey ∈ leagueKeys ∧ fixture.homeTeamKey ∈ teamKeys ∧
        fixture.awayTeamKey ∈ teamKeys then do
      attempt fun db => upsertFixture db fixture (runtime.dateParse fixture.startsAt)
      pure (count + 1)
    else pure count) 0
  -- Odds API catalog ingest is upsert-only; stale fixtures are not purged.
  if !purgeStale || isOddsApi then pure fixtureCount
  else do
    let activeMockRefs := (snapshot.fixtures.map NormalizedFixture.providerRef).filter fun ref =>
      startsWith ref "mock_"
    if activeMockRefs.isEmpty then pure fixtureCount
    else do
      let _ ← deleteStaleFixtures fun fixture =>
        startsWith fixture.providerRef "mock_" && fixture.providerRef ∉ activeMockRefs
      pure fixtureCount

end Fixtures

section LiveData

/-- When a game ends, close its markets so settlement can grade placed bets. -/
def closeMarketsForEndedEvent (eventRef : String) : Service Unit := do
  write fun db => settleMarkets db eventRef
  write fun db => settleSelections db eventRef

def closeIfEnded (event : NormalizedEvent) : Service Unit :=
  if event.status = .ended then closeMarketsForEndedEvent event.providerRef else pure ()

def ingestEvent (fixtureRefs : List String) (count : ℕ) (event : NormalizedEvent) : Service ℕ :=
  if event.fixtureProviderRef ∈ fixtureRefs then do
    attempt fun db => upsertEvent db event
    publish
    closeIfEnded event
    pure (count + 1)
  else pure count

def ingestMarket (eventRefs : List String) (count : ℕ) (market : NormalizedMarket) : Service ℕ :=
  if market.eventProviderRef ∈ eventRefs then do
    attempt fun db => upsertMarket db market
    pure (count + 1)
  else pure count

/-- An odds snapshot is recorded whenever the price differs from the one read before the loop. -/
def ingestSelection (marketRefs : List String) (priceByRef : String → Option ℚ)
    (counts : ℕ × ℕ) (selection : NormalizedSelection) : Service (ℕ × ℕ) :=
  if selection.marketProviderRef ∈ marketRefs then
    match newDecimal selection.price with
    | .error failure => throw failure
    | .ok price => do
        attempt fun db => upsertSelection db selection
        if priceByRef selection.providerRef = some price then pure (counts.1 + 1, counts.2)
        else do
          attempt fun db => createOddsSnapshot db selection.providerRef price
          publish
          pure (counts.1 + 1, counts.2 + 1)
  else pure counts

def ingestLiveData (snapshot : ProviderSnapshot) : Service LiveCounts := do
  let fixtureRefs ← read fun db => db.catalog.fixtures.rows.map Fixture.providerRef
  let events ← snapshot.events.foldlM (ingestEvent fixtureRefs) 0
  let eventRefs ← read fun db => db.catalog.events.rows.map Event.providerRef
  let markets ← snapshot.markets.foldlM (ingestMarket eventRefs) 0
  let marketRefs ← read fun db => db.catalog.markets.rows.map Market.providerRef
  let prices ← read fun db => db.catalog.selections
  let (selections, oddsSnapshots) ← snapshot.selections.foldlM
    (ingestSelection marketRefs fun ref => (prices.get? ref).map fun row => row.price.value) (0, 0)
  pure ⟨events, markets, selections, oddsSnapshots⟩

end LiveData

section Runs

variable (runtime : Runtime) (isOddsApi : Bool)

def buildSummary (snapshot : ProviderSnapshot) (fixtureCount : ℕ) (live : LiveCounts) :
    IngestionSummary :=
  ⟨snapshot.sports.length, snapshot.leagues.length, snapshot.teams.length, fixtureCount, live⟩

def ingestFixtures (fetched : Except Failure ProviderSnapshot) : Service IngestionSummary :=
  match fetched with
  | .error failure => throw failure
  | .ok snapshot => do
      upsertCatalogFromSnapshot snapshot
      syncTenantLeagues "acme" ACME_LEAGUE_PREFIXES
      syncTenantLeagues "betzone" BETZONE_LEAGUE_PREFIXES
      let fixtureCount ← upsertFixturesFromSnapshot runtime isOddsApi snapshot true
      let live ← ingestLiveData snapshot
      pure (buildSummary snapshot fixtureCount live)

/-- Distinct league keys of live fixtures and events, and of those starting soon. -/
def liveSportKeys (now prestartMinutes : ℤ) (db : Database) : List String :=
  let inScope := fun (fixture : Fixture) =>
    fixture.status = .live ||
      (db.catalog.events.rows.any fun event =>
        event.fixture = fixture.providerRef && event.status = .live) ||
      (0 < prestartMinutes && fixture.status = .scheduled && now ≤ fixture.startsAt &&
        fixture.startsAt ≤ now + prestartMinutes * 60000)
  ((db.catalog.fixtures.rows.filter inScope).map Fixture.league).dedup.insertionSort (· ≤ ·)

/-- A live tick, or nothing when no game is live. The provider may not support it. -/
def ingestLiveTick (now prestartMinutes : ℤ)
    (fetchLiveSnapshot : Option (List String → Except Failure ProviderSnapshot)) :
    Service (Option IngestionSummary) := do
  let sportKeys ← read (liveSportKeys now prestartMinutes)
  if sportKeys.isEmpty then pure none
  else
    match fetchLiveSnapshot with
    | none =>
        throw (Failure.error "Live ingest is not supported for the current FIXTURE_PROVIDER")
    | some fetch =>
        match fetch sportKeys with
        | .error failure => throw failure
        | .ok snapshot => do
            upsertCatalogFromSnapshot snapshot
            let fixtureCount ← upsertFixturesFromSnapshot runtime isOddsApi snapshot false
            let live ← ingestLiveData snapshot
            pure (some (buildSummary snapshot fixtureCount live))

def applyResultsSnapshot (snapshot : ProviderSnapshot) : Service LiveCounts :=
  ingestLiveData snapshot

/-- Set the final score and ENDED when the feed no longer returns the event. -/
def finalizeEventResult (providerRef : String) (homeScore awayScore : ℤ) :
    Service (Option String) := do
  let event ← read fun db => db.catalog.events.get? providerRef
  match event with
  | none => pure none
  | some event => do
      attempt fun db => endEvent db event homeScore awayScore
      closeMarketsForEndedEvent event.providerRef
      write fun db => clearSettlementNotes db event.providerRef
      pure (some event.providerRef)

end Runs

end SportsBetting.Ingestion
