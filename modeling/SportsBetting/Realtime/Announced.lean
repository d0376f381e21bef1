import SportsBetting.Async.Solo
import SportsBetting.Backoffice.Trading
import SportsBetting.Ingestion.Runs
import SportsBetting.Realtime.Gateway

/-!
# What the services announce

The services that change games, with the calls that change or announce events and
selections told apart from all others. With these names taken away they are the
services as they were.
-/

namespace SportsBetting.Announced

open Async Ingestion Realtime Text Trading

inductive GameCall : Type → Type 1
  | other {Reply : Type} (query : Query Database Failure Reply) : GameCall Reply
  | removeFixtures (fixtures : List String) : GameCall ℕ
  | deleteBetsAndFixtures (betIds fixtures : List String) : GameCall ℕ
  | upsertEvent (event : NormalizedEvent) : GameCall Unit
  | publishEventUpdate (data : EventUpdatePayload) : GameCall Unit
  | settleSelections (eventRef : String) : GameCall Unit
  /-- Whether the odds of the selection are published next. -/
  | upsertSelection (selection : NormalizedSelection) (announced : Bool) : GameCall Unit
  | publishSelectionOdds (data : SelectionOddsPayload) : GameCall Unit
  | endEvent (event : Event) (homeScore awayScore : ℤ) : GameCall Unit
  | suspendEventRows (eventId : String) : GameCall Unit
  | setMarketRows (marketId : String) (marketStatus : MarketStatus)
      (selectionStatus : SelectionStatus) : GameCall Unit

namespace GameCall

/-- A message to the broker leaves the database alone. -/
def toQuery : {Reply : Type} → GameCall Reply → Query Database Failure Reply
  | _, other query => query
  | _, removeFixtures fixtures => Query.transaction fun db => Ingestion.removeFixtures db fixtures
  | _, deleteBetsAndFixtures betIds fixtures =>
      Query.transaction fun db => Ingestion.deleteBetsAndFixtures db betIds fixtures
  | _, upsertEvent event => Query.attempt fun db => Ingestion.upsertEvent db event
  | _, publishEventUpdate _ => Query.read fun _ => ()
  | _, settleSelections eventRef => Query.write fun db => Ingestion.settleSelections db eventRef
  | _, upsertSelection selection _ =>
      Query.attempt fun db => Ingestion.upsertSelection db selection
  | _, publishSelectionOdds _ => Query.read fun _ => ()
  | _, endEvent event homeScore awayScore =>
      Query.attempt fun db => Ingestion.endEvent db event homeScore awayScore
  | _, suspendEventRows eventId => Query.write fun db => Trading.suspendEventRows db eventId
  | _, setMarketRows marketId marketStatus selectionStatus =>
      Query.write fun db => Trading.setMarketRows db marketId marketStatus selectionStatus

def payload : {Reply : Type} → GameCall Reply → Option Payload
  | _, publishEventUpdate data => some (.eventUpdate data)
  | _, publishSelectionOdds data => some (.selectionOdds data)
  | _, _ => none

end GameCall

/-- The database, and the messages that have been published. -/
structure Feed where
  db : Database
  sent : List RealtimeBroadcastMessage

def answer {Reply : Type} (call : GameCall Reply) (feed : Feed) : Except Failure Reply × Feed :=
  ((call.toQuery feed.db).1,
    ⟨(call.toQuery feed.db).2, feed.sent ++ call.payload.elim [] (broadcasts feed.db)⟩)

abbrev GameService := Program GameCall Failure

/-- A service that neither changes nor announces games. -/
def quietly {α : Type} (service : Service α) : GameService α := service.mapCalls GameCall.other

/-- The service without the names of its calls. -/
def erase {α : Type} (service : GameService α) : Service α := service.mapCalls GameCall.toQuery

section Fixtures

def deleteFixturesWithBets (betIds fixtures : List String) : GameService (ℕ × ℕ) :=
  if betIds.isEmpty then do
    let removed ← Program.call (.removeFixtures fixtures)
    pure (removed, 0)
  else do
    let betsRemoved ← Program.call (.deleteBetsAndFixtures betIds fixtures)
    pure (fixtures.length, betsRemoved)

def deleteFixturesAndBetHistory (chosen : Fixture → Bool) : GameService (ℕ × ℕ) := do
  let _ ← quietly (read fun db => (fixturesWhere db chosen true).length)
  let fixtures ← quietly (read fun db => fixturesWhere db chosen false)
  if fixtures.isEmpty then pure (0, 0)
  else do
    let selectionIds ← quietly (read fun db => selectionsOn db fixtures)
    let betIds ← quietly (findBetIds selectionIds)
    deleteFixturesWithBets betIds fixtures

def deleteStaleFixtures (stale : Fixture → Bool) : GameService ℕ := do
  let (fixturesRemoved, _) ← deleteFixturesAndBetHistory stale
  pure fixturesRemoved

/-- The upserts of the fixtures, which come before any purge. -/
def upsertFixtures (runtime : Runtime) (snapshot : ProviderSnapshot) : Service ℕ := do
  let leagueKeys ← read fun db => db.catalog.leagues.rows.map League.key
  let teamKeys ← read fun db => db.catalog.teams.rows.map Team.key
  snapshot.fixtures.foldlM (fun count fixture =>
    if fixture.leagueKey ∈ leagueKeys ∧ fixture.homeTeamKey ∈ teamKeys ∧
        fixture.awayTeamKey ∈ teamKeys then do
      attempt fun db => upsertFixture db fixture (runtime.dateParse fixture.startsAt)
      pure (count + 1)
    else pure count) 0

def upsertFixturesFromSnapshot (runtime : Runtime) (isOddsApi : Bool)
    (snapshot : ProviderSnapshot) (purgeStale : Bool) : GameService ℕ := do
  let fixtureCount ← quietly (upsertFixtures runtime snapshot)
  if !purgeStale || isOddsApi then pure fixtureCount
  else do
    let activeMockRefs := (snapshot.fixtures.map NormalizedFixture.providerRef).filter fun ref =>
      startsWith ref "mock_"
    if activeMockRefs.isEmpty then pure fixtureCount
    else do
      let _ ← deleteStaleFixtures fun fixture =>
        startsWith fixture.providerRef "mock_" && fixture.providerRef ∉ activeMockRefs
      pure fixtureCount

end Fixtures

section LiveData

def closeMarketsForEndedEvent (eventRef : String) : GameService Unit := do
  quietly (write fun db => settleMarkets db eventRef)
  Program.call (.settleSelections eventRef)

def closeIfEnded (event : NormalizedEvent) : GameService Unit :=
  if event.status = .ended then closeMarketsForEndedEvent event.providerRef else pure ()

/-- What is published of an event is the row that the upsert returns. -/
def eventUpdate (event : NormalizedEvent) : EventUpdatePayload :=
  ⟨event.providerRef, event.status, event.homeScore, event.awayScore, event.period, event.clock⟩

def ingestEvent (fixtureRefs : List String) (count : ℕ) (event : NormalizedEvent) :
    GameService ℕ :=
  if event.fixtureProviderRef ∈ fixtureRefs then do
    Program.call (.upsertEvent event)
    Program.call (.publishEventUpdate (eventUpdate event))
    closeIfEnded event
    pure (count + 1)
  else pure count

/-- What is published of a selection is what the feed says, with the price as it was parsed. -/
def selectionOdds (selection : NormalizedSelection) (price : ℚ) : SelectionOddsPayload :=
  ⟨selection.marketProviderRef, selection.providerRef, price, selection.status⟩

def ingestSelection (marketRefs : List String) (priceByRef : String → Option ℚ)
    (counts : ℕ × ℕ) (selection : NormalizedSelection) : GameService (ℕ × ℕ) :=
  if selection.marketProviderRef ∈ marketRefs then
    match newDecimal selection.price with
    | .error failure => throw failure
    | .ok price => do
        Program.call
          (.upsertSelection selection (decide (priceByRef selection.providerRef ≠ some price)))
        if priceByRef selection.providerRef = some price then pure (counts.1 + 1, counts.2)
        else do
          quietly (attempt fun db => createOddsSnapshot db selection.providerRef price)
          Program.call (.publishSelectionOdds (selectionOdds selection price))
          pure (counts.1 + 1, counts.2 + 1)
  else pure counts

def ingestLiveData (snapshot : ProviderSnapshot) : GameService LiveCounts := do
  let fixtureRefs ← quietly (read fun db => db.catalog.fixtures.rows.map Fixture.providerRef)
  let events ← snapshot.events.foldlM (ingestEvent fixtureRefs) 0
  let eventRefs ← quietly (read fun db => db.catalog.events.rows.map Event.providerRef)
  let markets ← snapshot.markets.foldlM
    (fun count market => quietly (ingestMarket eventRefs count market)) 0
  let marketRefs ← quietly (read fun db => db.catalog.markets.rows.map Market.providerRef)
  let prices ← quietly (read fun db => db.catalog.selections)
  let (selections, oddsSnapshots) ← snapshot.selections.foldlM
    (ingestSelection marketRefs fun ref => (prices.get? ref).map fun row => row.price.value) (0, 0)
  pure ⟨events, markets, selections, oddsSnapshots⟩

end LiveData

section Runs

variable (runtime : Runtime) (isOddsApi : Bool)

def ingestFixtures (fetched : Except Failure ProviderSnapshot) : GameService IngestionSummary :=
  match fetched with
  | .error failure => throw failure
  | .ok snapshot => do
      quietly (upsertCatalogFromSnapshot snapshot)
      quietly (syncTenantLeagues "acme" ACME_LEAGUE_PREFIXES)
      quietly (syncTenantLeagues "betzone" BETZONE_LEAGUE_PREFIXES)
      let fixtureCount ← upsertFixturesFromSnapshot runtime isOddsApi snapshot true
      let live ← ingestLiveData snapshot
      pure (buildSummary snapshot fixtureCount live)

def ingestLiveTick (now prestartMinutes : ℤ)
    (fetchLiveSnapshot : Option (List String → Except Failure ProviderSnapshot)) :
    GameService (Option IngestionSummary) := do
  let sportKeys ← quietly (read (liveSportKeys now prestartMinutes))
  if sportKeys.isEmpty then pure none
  else
    match fetchLiveSnapshot with
    | none =>
        throw (Failure.error "Live ingest is not supported for the current FIXTURE_PROVIDER")
    | some fetch =>
        match fetch sportKeys with
        | .error failure => throw failure
        | .ok snapshot => do
            quietly (upsertCatalogFromSnapshot snapshot)
            let fixtureCount ← upsertFixturesFromSnapshot runtime isOddsApi snapshot false
            let live ← ingestLiveData snapshot
            pure (some (buildSummary snapshot fixtureCount live))

/-- Nothing is published of the result. -/
def finalizeEventResult (providerRef : String) (homeScore awayScore : ℤ) :
    GameService (Option String) := do
  let event ← quietly (read fun db => db.catalog.events.get? providerRef)
  match event with
  | none => pure none
  | some event => do
      Program.call (.endEvent event homeScore awayScore)
      closeMarketsForEndedEvent event.providerRef
      quietly (write fun db => clearSettlementNotes db event.providerRef)
      pure (some event.providerRef)

end Runs

section Trading

/-- Nothing is published of what traders do. -/
def suspendEvent (casinoGroupId eventId reason staffUserId : String) : GameService Unit := do
  let event ← quietly (assertTenantEvent casinoGroupId eventId)
  if event.status = .ended ∨ event.status = .cancelled then
    throw (.badRequest "Cannot suspend an ended or cancelled event")
  else do
    Program.call (.suspendEventRows eventId)
    quietly (recordAudit (tradingEntry staffUserId casinoGroupId "trading.event_suspended" "Event"
      eventId (some reason)))

def suspendMarket (casinoGroupId marketId reason staffUserId : String) : GameService Unit := do
  let (market, _) ← quietly (assertTenantMarket casinoGroupId marketId)
  if market.status = .settled ∨ market.status = .void then
    throw (.badRequest "Cannot suspend a settled or void market")
  else do
    Program.call (.setMarketRows marketId .suspended .suspended)
    quietly (recordAudit (tradingEntry staffUserId casinoGroupId "trading.market_suspended" "Market"
      marketId (some reason)))

def resumeMarket (casinoGroupId marketId staffUserId : String) : GameService Unit := do
  let (_, event) ← quietly (assertTenantMarket casinoGroupId marketId)
  if event.status = .ended then
    throw (.badRequest "Cannot resume market on an ended event")
  else do
    Program.call (.setMarketRows marketId .open .open)
    quietly (recordAudit (tradingEntry staffUserId casinoGroupId "trading.market_resumed" "Market"
      marketId none))

end Trading

section Operations

inductive GameOp
  | ingest (run : IngestRun)
  | finalizeEventResult (providerRef : String) (homeScore awayScore : ℤ)
  | suspendEvent (casinoGroupId eventId reason staffUserId : String)
  | suspendMarket (casinoGroupId marketId reason staffUserId : String)
  | resumeMarket (casinoGroupId marketId staffUserId : String)

variable (runtime : Runtime) (isOddsApi : Bool)

def GameOp.program : GameOp → GameService Unit
  | .ingest (.catalog fetched) => (ingestFixtures runtime isOddsApi fetched).void
  | .ingest (.live now prestartMinutes fetchLiveSnapshot) =>
      (ingestLiveTick runtime isOddsApi now prestartMinutes fetchLiveSnapshot).void
  | .ingest (.results snapshot) => (ingestLiveData snapshot).void
  | .finalizeEventResult providerRef homeScore awayScore =>
      (Announced.finalizeEventResult providerRef homeScore awayScore).void
  | .suspendEvent casinoGroupId eventId reason staffUserId =>
      Announced.suspendEvent casinoGroupId eventId reason staffUserId
  | .suspendMarket casinoGroupId marketId reason staffUserId =>
      Announced.suspendMarket casinoGroupId marketId reason staffUserId
  | .resumeMarket casinoGroupId marketId staffUserId =>
      Announced.resumeMarket casinoGroupId marketId staffUserId

/-- The service that carries out the operation. -/
def GameOp.service : GameOp → Service Unit
  | .ingest run => run.program runtime isOddsApi
  | .finalizeEventResult providerRef homeScore awayScore =>
      (Ingestion.finalizeEventResult providerRef homeScore awayScore).void
  | .suspendEvent casinoGroupId eventId reason staffUserId =>
      Trading.suspendEvent casinoGroupId eventId reason staffUserId
  | .suspendMarket casinoGroupId marketId reason staffUserId =>
      Trading.suspendMarket casinoGroupId marketId reason staffUserId
  | .resumeMarket casinoGroupId marketId staffUserId =>
      Trading.resumeMarket casinoGroupId marketId staffUserId

end Operations

section Erasure

@[simp] theorem erase_quietly {α : Type} (service : Service α) :
    erase (quietly service) = service :=
  Program.mapCalls_mapCalls _ (fun _ => rfl) service

@[simp] theorem erase_bind {α β : Type} (service : GameService α) (next : α → GameService β) :
    erase (service >>= next) = erase service >>= fun value => erase (next value) :=
  Program.mapCalls_bind ..

@[simp] theorem erase_done {α : Type} (outcome : Except Failure α) :
    erase (.done outcome) = (.done outcome : Service α) := rfl

@[simp] theorem erase_pure {α : Type} (value : α) :
    erase (pure value : GameService α) = pure value := rfl

@[simp] theorem erase_call {α : Type} (request : GameCall α) :
    erase (Program.call request) = Program.call request.toQuery := rfl

@[simp] theorem erase_foldlM {β ι : Type} (body : β → ι → GameService β) (items : List ι)
    (value : β) : erase (items.foldlM body value) =
      items.foldlM (fun value item => erase (body value item)) value :=
  Program.mapCalls_foldlM ..

theorem erase_void {α : Type} (service : GameService α) :
    erase service.void = (erase service).void :=
  erase_bind ..

theorem erase_deleteStaleFixtures (stale : Fixture → Bool) :
    erase (deleteStaleFixtures stale) = Ingestion.deleteStaleFixtures stale := by
  unfold deleteStaleFixtures deleteFixturesAndBetHistory
  unfold Ingestion.deleteStaleFixtures Ingestion.deleteFixturesAndBetHistory
  simp only [erase_bind, erase_quietly, bind_assoc]
  refine congrArg _ (funext fun _ => congrArg _ (funext fun fixtures => ?_))
  split
  · rfl
  · simp only [erase_bind, erase_quietly, bind_assoc]
    refine congrArg _ (funext fun selectionIds => congrArg _ (funext fun betIds => ?_))
    unfold deleteFixturesWithBets Ingestion.deleteFixturesWithBets
    split
    · simp only [erase_bind, erase_call, erase_pure, bind_assoc]
      rfl
    · simp only [erase_bind, erase_call, erase_pure, bind_assoc]
      rfl

theorem erase_upsertFixturesFromSnapshot (runtime : Runtime) (isOddsApi : Bool)
    (snapshot : ProviderSnapshot) (purgeStale : Bool) :
    erase (upsertFixturesFromSnapshot runtime isOddsApi snapshot purgeStale) =
      Ingestion.upsertFixturesFromSnapshot runtime isOddsApi snapshot purgeStale := by
  unfold upsertFixturesFromSnapshot Ingestion.upsertFixturesFromSnapshot upsertFixtures
  simp only [erase_bind, erase_quietly, bind_assoc]
  refine congrArg _ (funext fun _ => congrArg _ (funext fun _ => congrArg _ (funext fun _ => ?_)))
  split
  · rfl
  · split
    · rfl
    · rw [erase_bind, erase_deleteStaleFixtures]
      rfl

theorem erase_closeMarketsForEndedEvent (eventRef : String) :
    erase (closeMarketsForEndedEvent eventRef) =
      Ingestion.closeMarketsForEndedEvent eventRef := by
  unfold closeMarketsForEndedEvent
  rw [erase_bind, erase_quietly]
  rfl

theorem erase_closeIfEnded (event : NormalizedEvent) :
    erase (closeIfEnded event) = Ingestion.closeIfEnded event := by
  unfold closeIfEnded Ingestion.closeIfEnded
  split
  · exact erase_closeMarketsForEndedEvent _
  · rfl

theorem erase_ingestEvent (fixtureRefs : List String) (count : ℕ) (event : NormalizedEvent) :
    erase (ingestEvent fixtureRefs count event) =
      Ingestion.ingestEvent fixtureRefs count event := by
  unfold ingestEvent Ingestion.ingestEvent
  split
  · simp only [erase_bind, erase_call, erase_pure, erase_closeIfEnded]
    rfl
  · rfl

theorem erase_ingestSelection (marketRefs : List String) (priceByRef : String → Option ℚ)
    (counts : ℕ × ℕ) (selection : NormalizedSelection) :
    erase (ingestSelection marketRefs priceByRef counts selection) =
      Ingestion.ingestSelection marketRefs priceByRef counts selection := by
  unfold ingestSelection Ingestion.ingestSelection
  split
  · cases newDecimal selection.price with
    | error failure => rfl
    | ok price =>
        dsimp only
        rw [erase_bind]
        refine congrArg _ (funext fun _ => ?_)
        split
        · rfl
        · simp only [erase_bind, erase_quietly, erase_call, erase_pure]
          rfl
  · rfl

theorem erase_ingestLiveData (snapshot : ProviderSnapshot) :
    erase (ingestLiveData snapshot) = Ingestion.ingestLiveData snapshot := by
  unfold ingestLiveData Ingestion.ingestLiveData
  simp only [erase_bind, erase_quietly, erase_foldlM, erase_ingestEvent, erase_ingestSelection]
  rfl

theorem erase_ingestFixtures (runtime : Runtime) (isOddsApi : Bool)
    (fetched : Except Failure ProviderSnapshot) :
    erase (ingestFixtures runtime isOddsApi fetched) =
      Ingestion.ingestFixtures runtime isOddsApi fetched := by
  cases fetched with
  | error failure => rfl
  | ok snapshot =>
      simp only [ingestFixtures, Ingestion.ingestFixtures, erase_bind, erase_quietly,
        erase_upsertFixturesFromSnapshot, erase_ingestLiveData, erase_pure]

theorem erase_ingestLiveTick (runtime : Runtime) (isOddsApi : Bool) (now prestartMinutes : ℤ)
    (fetchLiveSnapshot : Option (List String → Except Failure ProviderSnapshot)) :
    erase (ingestLiveTick runtime isOddsApi now prestartMinutes fetchLiveSnapshot) =
      Ingestion.ingestLiveTick runtime isOddsApi now prestartMinutes fetchLiveSnapshot := by
  unfold ingestLiveTick Ingestion.ingestLiveTick
  rw [erase_bind, erase_quietly]
  refine congrArg _ (funext fun sportKeys => ?_)
  split
  · rfl
  · cases fetchLiveSnapshot with
    | none => rfl
    | some fetch =>
        dsimp only
        cases fetch sportKeys with
        | error failure => rfl
        | ok snapshot =>
            simp only [erase_bind, erase_quietly, erase_upsertFixturesFromSnapshot,
              erase_ingestLiveData, erase_pure]

theorem erase_finalizeEventResult (providerRef : String) (homeScore awayScore : ℤ) :
    erase (finalizeEventResult providerRef homeScore awayScore) =
      Ingestion.finalizeEventResult providerRef homeScore awayScore := by
  unfold finalizeEventResult Ingestion.finalizeEventResult
  rw [erase_bind, erase_quietly]
  refine congrArg _ (funext fun event => ?_)
  cases event with
  | none => rfl
  | some event =>
      simp only [erase_bind, erase_call, erase_quietly, erase_closeMarketsForEndedEvent, erase_pure]
      rfl

theorem erase_suspendEvent (casinoGroupId eventId reason staffUserId : String) :
    erase (suspendEvent casinoGroupId eventId reason staffUserId) =
      Trading.suspendEvent casinoGroupId eventId reason staffUserId := by
  unfold suspendEvent Trading.suspendEvent
  rw [erase_bind, erase_quietly]
  refine congrArg _ (funext fun event => ?_)
  split
  · rfl
  · rw [erase_bind, erase_quietly]
    rfl

theorem erase_suspendMarket (casinoGroupId marketId reason staffUserId : String) :
    erase (suspendMarket casinoGroupId marketId reason staffUserId) =
      Trading.suspendMarket casinoGroupId marketId reason staffUserId := by
  unfold suspendMarket Trading.suspendMarket
  rw [erase_bind, erase_quietly]
  refine congrArg _ (funext fun ⟨market, _⟩ => ?_)
  dsimp only
  split
  · rfl
  · rw [erase_bind, erase_quietly]
    rfl

theorem erase_resumeMarket (casinoGroupId marketId staffUserId : String) :
    erase (resumeMarket casinoGroupId marketId staffUserId) =
      Trading.resumeMarket casinoGroupId marketId staffUserId := by
  unfold resumeMarket Trading.resumeMarket
  rw [erase_bind, erase_quietly]
  refine congrArg _ (funext fun ⟨_, event⟩ => ?_)
  dsimp only
  split
  · rfl
  · rw [erase_bind, erase_quietly]
    rfl

/-- Without the names of its calls, each operation is the service that carries it out. -/
theorem erase_program (runtime : Runtime) (isOddsApi : Bool) (op : GameOp) :
    erase (op.program runtime isOddsApi) = op.service runtime isOddsApi := by
  cases op with
  | ingest run =>
      cases run with
      | catalog fetched =>
          exact (erase_void _).trans (congrArg Program.void (erase_ingestFixtures ..))
      | live now prestartMinutes fetchLiveSnapshot =>
          exact (erase_void _).trans (congrArg Program.void (erase_ingestLiveTick ..))
      | results snapshot =>
          exact (erase_void _).trans (congrArg Program.void (erase_ingestLiveData snapshot))
  | finalizeEventResult providerRef homeScore awayScore =>
      exact (erase_void _).trans (congrArg Program.void (erase_finalizeEventResult ..))
  | suspendEvent casinoGroupId eventId reason staffUserId => exact erase_suspendEvent ..
  | suspendMarket casinoGroupId marketId reason staffUserId => exact erase_suspendMarket ..
  | resumeMarket casinoGroupId marketId staffUserId => exact erase_resumeMarket ..

/-- What an operation makes of the database is what its service makes of it. -/
theorem solo_db (runtime : Runtime) (isOddsApi : Bool) (op : GameOp) (feed : Feed) :
    ((op.program runtime isOddsApi).solo answer feed).2.db =
      ((op.service runtime isOddsApi).eval feed.db).2 := by
  rw [Program.eval_eq_solo, ← erase_program, erase]
  exact (congrArg Prod.snd (Program.solo_mapCalls GameCall.toQuery Feed.db
    (fun _ _ => rfl) (op.program runtime isOddsApi) feed)).symm

end Erasure

end SportsBetting.Announced
