import SportsBetting.Data.Outcome
import SportsBetting.Database
import SportsBetting.Feed.OddsApi
import SportsBetting.Shared.BetMath

/-!
# The queries of ingestion

An upsert fails where a column overflows, a unique key is taken, or the row
that it refers to is gone.
-/

namespace SportsBetting.Ingestion

open Numeral

/-- Integer columns have 32 bits. -/
def fitsInt : Option ℤ → Bool
  | none => true
  | some number => -2 ^ 31 ≤ number && number < 2 ^ 31

section Upserts

variable (db : Database)

def upsertSport (sport : NormalizedSport) : Except Failure Database :=
  if db.catalog.sports.rows.any fun other => other.slug = sport.slug && other.key ≠ sport.key then
    .error .uniqueViolation
  else
    let active := ((db.catalog.sports.get? sport.key).map Sport.active).getD true
    .ok { db with
      catalog.sports := db.catalog.sports.put ⟨sport.key, sport.name, sport.slug, active⟩ }

/-- An update leaves the region alone where the provider names none. -/
def upsertLeague (league : NormalizedLeague) : Database :=
  let stored := db.catalog.leagues.get? league.key
  let region := league.region.or (stored.bind League.region)
  let active := (stored.map League.active).getD true
  { db with
    catalog.leagues := db.catalog.leagues.put
      ⟨league.key, league.sportKey, league.name, region, active⟩ }

def upsertTeam (team : NormalizedTeam) : Database :=
  let stored := db.catalog.teams.get? team.key
  let shortName := team.shortName.or (stored.bind Team.shortName)
  { db with
    catalog.teams := db.catalog.teams.put ⟨team.key, team.sportKey, team.name, shortName⟩ }

def upsertFixture (fixture : NormalizedFixture) (startsAt : Option Time) :
    Except Failure Database :=
  match startsAt with
  | none => .error .database
  | some startsAt =>
      .ok { db with
        catalog.fixtures := db.catalog.fixtures.put
          ⟨fixture.providerRef, fixture.leagueKey, fixture.homeTeamKey, fixture.awayTeamKey,
            startsAt, fixture.status⟩ }

def eventRow (event : NormalizedEvent) : Event :=
  ⟨event.providerRef, event.fixtureProviderRef, event.status, event.homeScore, event.awayScore,
    event.period, event.clock⟩

/-- A fixture has at most one event. -/
def upsertEvent (event : NormalizedEvent) : Except Failure Database :=
  if !fitsInt event.homeScore || !fitsInt event.awayScore then .error .database
  else if (db.catalog.fixtures.get? event.fixtureProviderRef).isNone then .error .database
  else if db.catalog.events.rows.any fun other =>
      other.fixture = event.fixtureProviderRef && other.providerRef ≠ event.providerRef then
    .error .uniqueViolation
  else .ok { db with catalog.events := db.catalog.events.put (eventRow event) }

def marketRow (market : NormalizedMarket) (line : Option (Numeric 6 2)) : Market :=
  ⟨market.providerRef, market.eventProviderRef, market.type, market.status, line⟩

def selectionRow (selection : NormalizedSelection) (price : Numeric 10 3) : Selection :=
  ⟨selection.providerRef, selection.marketProviderRef, selection.name, selection.status, price⟩

def upsertMarket (market : NormalizedMarket) : Except Failure Database := do
  let line ← lineColumn market.line
  return { db with
    catalog.markets := db.catalog.markets.put (marketRow market line) }

def upsertSelection (selection : NormalizedSelection) : Except Failure Database := do
  let number ← newDecimal selection.price
  let price ← toColumn number
  return { db with
    catalog.selections := db.catalog.selections.put (selectionRow selection price) }

def createOddsSnapshot (selection : String) (number : ℚ) : Except Failure Database := do
  let price ← toColumn number
  return { db with catalog.oddsSnapshots := db.catalog.oddsSnapshots ++ [⟨selection, price⟩] }

def upsertGroupLeague (casinoGroupId league : String) (enabled : Bool) : Database :=
  let platformLocked := ((db.catalog.casinoGroupLeagues.get? (casinoGroupId, league)).map
    CasinoGroupLeague.platformLocked).getD false
  { db with
    catalog.casinoGroupLeagues :=
      db.catalog.casinoGroupLeagues.put ⟨casinoGroupId, league, enabled, platformLocked⟩ }

theorem upsertEvent_ok {db after : Database} {event : NormalizedEvent}
    (done : upsertEvent db event = .ok after) :
    after = { db with catalog.events := db.catalog.events.put (eventRow event) } := by
  unfold upsertEvent at done
  split_ifs at done
  exact (Except.ok.inj done).symm

/-- The database has the fixture of an event that it stores. -/
theorem has_fixture_of_upsertEvent {db after : Database} {event : NormalizedEvent}
    (done : upsertEvent db event = .ok after) :
    db.catalog.fixtures.Has event.fixtureProviderRef := by
  unfold upsertEvent at done
  split_ifs at done with _ absent
  cases found : db.catalog.fixtures.get? event.fixtureProviderRef with
  | none => exact absurd (by rw [found]; rfl) absent
  | some fixture => exact ⟨fixture, Table.get?_eq_some_iff.mp found⟩

theorem upsertMarket_ok {db after : Database} {market : NormalizedMarket}
    (done : upsertMarket db market = .ok after) :
    ∃ line, lineColumn market.line = .ok line ∧
      after = { db with catalog.markets := db.catalog.markets.put (marketRow market line) } := by
  unfold upsertMarket at done
  obtain ⟨line, column, done⟩ := Except.bind_eq_ok.mp done
  exact ⟨line, column, (Except.pure_eq_ok.mp done).symm⟩

/-- The row that the column types make of a listed market. -/
def WritesMarket (listed : NormalizedMarket) (row : Market) : Prop :=
  ∃ line, lineColumn listed.line = .ok line ∧ row = marketRow listed line

/-- The row that the column types make of a listed selection. -/
def WritesSelection (listed : NormalizedSelection) (row : Selection) : Prop :=
  ∃ number price, newDecimal listed.price = .ok number ∧ toColumn number = .ok price ∧
    row = selectionRow listed price

theorem upsertMarket_writes {db after : Database} {market : NormalizedMarket}
    (done : upsertMarket db market = .ok after) :
    ∃ row, WritesMarket market row ∧
      after = { db with catalog.markets := db.catalog.markets.put row } := by
  obtain ⟨line, column, rfl⟩ := upsertMarket_ok done
  exact ⟨_, ⟨line, column, rfl⟩, rfl⟩

theorem upsertSelection_writes {db after : Database} {selection : NormalizedSelection}
    (done : upsertSelection db selection = .ok after) :
    ∃ row, WritesSelection selection row ∧
      after = { db with catalog.selections := db.catalog.selections.put row } := by
  unfold upsertSelection at done
  obtain ⟨number, parsed, done⟩ := Except.bind_eq_ok.mp done
  obtain ⟨price, column, done⟩ := Except.bind_eq_ok.mp done
  exact ⟨_, ⟨number, price, parsed, column, rfl⟩, (Except.pure_eq_ok.mp done).symm⟩

theorem upsertSelection_price {db written : Database} {selection : NormalizedSelection} {number : ℚ}
    (parsed : newDecimal selection.price = .ok number)
    (done : upsertSelection db selection = .ok written) :
    ∃ price : Numeric 10 3, toColumn number = .ok price ∧ written =
      { db with catalog.selections := db.catalog.selections.put (selectionRow selection price) } := by
  obtain ⟨row, ⟨other, price, parsed', column, rfl⟩, rfl⟩ := upsertSelection_writes done
  obtain rfl := Except.ok.inj (parsed.symm.trans parsed')
  exact ⟨price, column, rfl⟩

theorem createOddsSnapshot_price {db : Database} {selection : String} {number : ℚ} {price : Numeric 10 3}
    (column : toColumn number = .ok price) : createOddsSnapshot db selection number =
      .ok { db with catalog.oddsSnapshots := db.catalog.oddsSnapshots ++ [⟨selection, price⟩] } := by
  unfold createOddsSnapshot
  rw [column]
  rfl

theorem upsertSelection_ok {db after : Database} {selection : NormalizedSelection}
    (done : upsertSelection db selection = .ok after) :
    ∃ price, after =
      { db with catalog.selections := db.catalog.selections.put (selectionRow selection price) } := by
  unfold upsertSelection at done
  obtain ⟨number, _, done⟩ := Except.bind_eq_ok.mp done
  obtain ⟨price, _, done⟩ := Except.bind_eq_ok.mp done
  exact ⟨price, (Except.pure_eq_ok.mp done).symm⟩

theorem createOddsSnapshot_ok {db after : Database} {selection : String} {number : ℚ}
    (done : createOddsSnapshot db selection number = .ok after) :
    ∃ odds, after = { db with catalog.oddsSnapshots := odds } := by
  unfold createOddsSnapshot at done
  obtain ⟨price, _, done⟩ := Except.bind_eq_ok.mp done
  exact ⟨_, (Except.pure_eq_ok.mp done).symm⟩

end Upserts

section Closing

variable (db : Database) (eventRef : String)

def settleMarkets : Database :=
  { db with
    catalog.markets := db.catalog.markets.updateWhere (fun market => market.event = eventRef)
      fun market => { market with status := .settled } }

def settleSelections : Database :=
  { db with
    catalog.selections := db.catalog.selections.updateWhere (selectionOfEvent db eventRef)
      fun selection => { selection with status := .settled } }

/-- The fixture and the event are ended in one transaction. -/
def endEvent (event : Event) (homeScore awayScore : ℤ) : Except Failure Database :=
  if !fitsInt (some homeScore) || !fitsInt (some awayScore) then .error .database
  else .ok { db with
    catalog.fixtures := db.catalog.fixtures.updateWhere
      (fun fixture => fixture.providerRef = event.fixture)
      fun fixture => { fixture with status := .ended }
    catalog.events := db.catalog.events.updateWhere
      (fun other => other.providerRef = event.providerRef)
      fun other => { other with
        status := .ended, homeScore := some homeScore, awayScore := some awayScore } }

theorem mem_settleMarkets {db : Database} {eventRef : String} {market : Market}
    (stored : market ∈ (settleMarkets db eventRef).catalog.markets) :
    (∃ old ∈ db.catalog.markets, old.event = eventRef ∧
      market = { old with status := .settled }) ∨
    market ∈ db.catalog.markets ∧ market.event ≠ eventRef := by
  dsimp only [settleMarkets] at stored
  rcases Table.updateWhere_cases stored with ⟨old, present, hit, same⟩ | ⟨present, missed⟩
  · exact .inl ⟨old, present, by simpa using hit, same⟩
  · exact .inr ⟨present, by simpa using missed⟩

theorem mem_settleSelections {db : Database} {eventRef : String} {selection : Selection}
    (stored : selection ∈ (settleSelections db eventRef).catalog.selections) :
    (∃ old ∈ db.catalog.selections, selectionOfEvent db eventRef old = true ∧
      selection = { old with status := .settled }) ∨
    selection ∈ db.catalog.selections ∧ selectionOfEvent db eventRef selection = false := by
  dsimp only [settleSelections] at stored
  exact Table.updateWhere_cases stored

theorem selectionOfEvent_settleMarkets (db : Database) (closed eventRef : String)
    (selection : Selection) : selectionOfEvent (settleMarkets db closed) eventRef selection =
      selectionOfEvent db eventRef selection := by
  unfold selectionOfEvent settleMarkets
  rw [Table.get?_updateWhere]
  cases db.catalog.markets.get? selection.market with
  | none => rfl
  | some market =>
      dsimp only [Option.map_some]
      split <;> rfl

theorem mem_settleMarkets_of_spared {db : Database} {eventRef : String} {market : Market}
    (spared : ∀ old ∈ db.catalog.markets, old.providerRef = market.providerRef →
      old.event ≠ eventRef) :
    market ∈ (settleMarkets db eventRef).catalog.markets ↔ market ∈ db.catalog.markets := by
  dsimp only [settleMarkets]
  apply Table.mem_updateWhere_of_spared
  intro old stored same
  simpa using spared old stored (by rcases same with rfl | rfl <;> rfl)

theorem mem_settleSelections_of_spared {db : Database} {eventRef : String} {selection : Selection}
    (spared : ∀ old ∈ db.catalog.selections, old.market = selection.market →
      selectionOfEvent db eventRef old = false) :
    selection ∈ (settleSelections db eventRef).catalog.selections ↔
      selection ∈ db.catalog.selections := by
  dsimp only [settleSelections]
  apply Table.mem_updateWhere_of_spared
  intro old stored same
  exact spared old stored (by rcases same with rfl | rfl <;> rfl)

theorem endEvent_ok {db after : Database} {event : Event} {homeScore awayScore : ℤ}
    (done : endEvent db event homeScore awayScore = .ok after) :
    after.catalog.markets = db.catalog.markets ∧ after.catalog.selections = db.catalog.selections ∧
    (∀ ref, db.catalog.fixtures.Has ref → after.catalog.fixtures.Has ref) ∧
    ∀ row ∈ after.catalog.events,
      (∃ old ∈ db.catalog.events, old.providerRef = event.providerRef ∧ row = { old with
        status := .ended, homeScore := some homeScore, awayScore := some awayScore }) ∨
      row ∈ db.catalog.events ∧ row.providerRef ≠ event.providerRef := by
  unfold endEvent at done
  split at done
  · cases done
  · obtain rfl := Except.ok.inj done
    refine ⟨rfl, rfl, fun ref has => has.updateWhere _ (fun fixture =>
      { fixture with status := .ended }) fun _ => rfl, fun row stored => ?_⟩
    dsimp only at stored
    rcases Table.updateWhere_cases stored with ⟨old, present, hit, same⟩ | ⟨present, missed⟩
    · exact .inl ⟨old, present, by simpa using hit, same⟩
    · exact .inr ⟨present, by simpa using missed⟩

def clearSettlementNotes : Database :=
  { db with
    ledger := db.ledger.modifyBets
      (fun bet => bet.status = .accepted && bet.legs.any fun leg => leg.eventId = eventRef)
      fun bet => { bet with settlementNote := none } }

end Closing

section Purging

variable (db : Database)

/-- The fixture that a selection belongs to. -/
def fixtureOfSelection (selectionRef : String) : Option String := do
  let selection ← db.catalog.selections.get? selectionRef
  let market ← db.catalog.markets.get? selection.market
  let event ← db.catalog.events.get? market.event
  return event.fixture

def betsOn (fixtures : List String) (bet : Bet) : Bool :=
  bet.legs.any fun leg =>
    match fixtureOfSelection db leg.selectionId with
    | some fixture => fixture ∈ fixtures
    | none => false

/-- Fixtures with open liabilities (PENDING or ACCEPTED bets) must not be purged. -/
def fixtureHasActiveBets (fixtureRef : String) : Bool :=
  db.ledger.bets.rows.any fun bet =>
    (bet.status = .pending || bet.status = .accepted) && betsOn db [fixtureRef] bet

/-- Fixtures go together with their events, markets, selections and odds history. -/
def cascadeFixtures (fixtures : List String) (catalog : Catalog) : Catalog :=
  let eventGone := fun eventRef =>
    match catalog.events.get? eventRef with
    | some event => decide (event.fixture ∈ fixtures)
    | none => false
  let marketGone := fun marketRef =>
    match catalog.markets.get? marketRef with
    | some market => eventGone market.event
    | none => false
  let selectionGone := fun selectionRef =>
    match catalog.selections.get? selectionRef with
    | some selection => marketGone selection.market
    | none => false
  { catalog with
    fixtures := catalog.fixtures.deleteWhere fun fixture => fixture.providerRef ∈ fixtures
    events := catalog.events.deleteWhere fun event => event.fixture ∈ fixtures
    markets := catalog.markets.deleteWhere fun market => eventGone market.event
    selections := catalog.selections.deleteWhere fun selection => marketGone selection.market
    oddsSnapshots := catalog.oddsSnapshots.filter fun odds => !selectionGone odds.selection }

/-- A leg restricts the deletion of its selection. -/
def deleteFixtures (fixtures : List String) : Except Failure Database :=
  if db.ledger.bets.rows.any (betsOn db fixtures) then .error .database
  else .ok { db with catalog := cascadeFixtures fixtures db.catalog }

/-- How many fixtures are gone. -/
def removeFixtures (fixtures : List String) : Except Failure (ℕ × Database) := do
  let after ← deleteFixtures db fixtures
  return ((db.catalog.fixtures.rows.filter fun fixture => fixture.providerRef ∈ fixtures).length,
    after)

/-- Bets, their outbox rows and the fixtures are deleted in one transaction. How many bets
are gone. -/
def deleteBetsAndFixtures (betIds fixtures : List String) : Except Failure (ℕ × Database) := do
  let after ← deleteFixtures
    { db with ledger := db.ledger.deleteBets fun betId => betId ∈ betIds } fixtures
  return ((db.ledger.bets.rows.filter fun bet => bet.id ∈ betIds).length, after)

/-- The chosen fixtures, with active bets or without. -/
def fixturesWhere (chosen : Fixture → Bool) (active : Bool) : List String :=
  (db.catalog.fixtures.rows.filter fun fixture =>
    chosen fixture && fixtureHasActiveBets db fixture.providerRef == active).map Fixture.providerRef

def selectionsOn (fixtures : List String) : List String :=
  (db.catalog.selections.rows.map Selection.providerRef).filter fun selectionRef =>
    match fixtureOfSelection db selectionRef with
    | some fixture => fixture ∈ fixtures
    | none => false

/-- The bets with a leg on one of the selections. -/
def betIdsOn (selectionIds : List String) : List String :=
  (db.ledger.bets.rows.filter fun bet =>
    bet.legs.any fun leg => leg.selectionId ∈ selectionIds).map Bet.id

/-- Team keys seeded only by the mock provider. -/
def MOCK_TEAM_KEYS : List String :=
  ["epl_ars", "epl_che", "epl_liv", "epl_mci", "laliga_rma", "laliga_fcb", "nba_lal", "nba_bos",
    "nba_gsw", "nba_mia"]

/-- Mock teams without fixtures are deleted. How many there were. -/
def deleteMockTeams : ℕ × Database :=
  let unused := fun (team : Team) => decide (team.key ∈ MOCK_TEAM_KEYS) &&
    !db.catalog.fixtures.rows.any fun fixture =>
      fixture.homeTeam = team.key || fixture.awayTeam = team.key
  ((db.catalog.teams.rows.filter unused).length,
    { db with catalog.teams := db.catalog.teams.deleteWhere unused })

end Purging

end SportsBetting.Ingestion
