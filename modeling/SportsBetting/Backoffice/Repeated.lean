import SportsBetting.Backoffice.Ended
import SportsBetting.Ingestion.Again
import SportsBetting.Ingestion.OddsHistory

/-!
# Repeated ingestion

Whatever has been ingested, finalized, suspended and resumed, in runs that stopped anywhere,
rows are filed under their references. From there on a second run changes nothing.
-/

namespace SportsBetting.Trading

open Async Ingestion Numeral OddsApi Text

variable {runtime : Runtime} {isOddsApi : Bool} {db : Database}

/-- The session is of an operation, and stops wherever it may. -/
def Operation.Ran (runtime : Runtime) (isOddsApi : Bool) (db : Database)
    (session : Session databaseMachine) : Prop :=
  ∃ operation : Operation, session.program = operation.program runtime isOddsApi ∧
    operation.FromFeed db

/-- A manual result leaves rows where they are filed. -/
theorem filed_finalizeEventResult (filed : Filed db) (providerRef : String)
    (homeScore awayScore : ℤ) :
    Keeps Filed (fun _ _ => True) (Ingestion.finalizeEventResult providerRef homeScore awayScore)
      db := by
  have catalog : ∀ db : Database, (clearSettlementNotes db providerRef).catalog = db.catalog :=
    fun _ => rfl
  apply keeps_finalizeEventResult providerRef homeScore awayScore _ _ _ _ filed
  · exact fun _ _ _ _ filed done => filed.endEvent done
  · exact fun _ filed => filed.settleMarkets providerRef
  · exact fun _ filed => filed.settleSelections providerRef
  · exact fun db filed => filed.of_catalog (catalog db)

theorem filed_of_ran {session : Session databaseMachine} (filed : Filed db)
    (ran : Operation.Ran runtime isOddsApi db session) : Filed (session.result db) := by
  obtain ⟨program, moves⟩ := session
  obtain ⟨operation, same, fed⟩ := ran
  obtain rfl : program = operation.program runtime isOddsApi := same
  cases operation with
  | ingest run => exact filed_result moves fed filed
  | finalizeEventResult providerRef homeScore awayScore =>
      exact (Upholds.result filed
        (Upholds.void (filed_finalizeEventResult filed providerRef homeScore awayScore))).1
  | trading tenant staffUserId call =>
      have safe : Keeps (Touched call tenant db) (fun _ after => Wrote call tenant db after)
          (call.program tenant staffUserId) db := keeps_program call tenant staffUserId db
      have reached : Touched call tenant db
          (Session.result ⟨call.program tenant staffUserId, moves⟩ db) :=
        (Upholds.result (touched_refl call) safe).1
      rcases reached with same | wrote
      · exact filed.of_catalog same
      · exact (filed_effect call filed).of_catalog wrote.2

/-- **Ingesting a snapshot twice is ingesting it once**: from an empty catalog on, after any
operations, complete or not, a second run of the same method on the same mapped snapshot leaves
every row of the catalog as the first one did, whether that one returned or was rejected. It
records no odds if no price has more than three decimals. -/
theorem ingest_twice {sessions : List (Session databaseMachine)} {snapshot : ProviderSnapshot}
    {first second : IngestRun} (events : ∀ event, event ∉ db.catalog.events)
    (markets : ∀ market, market ∉ db.catalog.markets)
    (selections : ∀ selection, selection ∉ db.catalog.selections)
    (each : Session.Each (Operation.Ran runtime isOddsApi) sessions db) (mapped : Mapped snapshot)
    (same : first.SameMethod second) (ingests : first.Ingests (Session.runAll sessions db) snapshot) :
    let once := ((first.program runtime true).eval (Session.runAll sessions db)).2
    let twice := ((second.program runtime true).eval once).2
    second.Fetches once snapshot → SameRows once twice ∧
      ((∀ selection ∈ snapshot.selections, ∀ number, newDecimal selection.price = .ok number →
          HasDecimals 3 number) →
        twice.catalog.oddsSnapshots = once.catalog.oddsSnapshots) := by
  intro once twice fetches
  have start : Filed db :=
    ⟨fun event stored => absurd stored (events event),
      fun market stored => absurd stored (markets market),
      fun selection stored => absurd stored (selections selection)⟩
  have filed : Filed (Session.runAll sessions db) :=
    Session.runAll_preserves (fun _ _ filed ran => filed_of_ran filed ran) start each
  have alike := alike_again filed mapped same ingests fetches
  exact ⟨alike.rows, alike.odds⟩

section Sample

def ingestFinal : IngestRun := ingestGame [completedScore]

/-- The game is suspended and given a result by hand before the feed lists it as completed. -/
theorem completed_game_twice :
    let stored := Session.runAll [(IngestRun.catalog (.ok openTotals)).session asciiRuntime true 40,
      suspendForGroup, finalizeGame] freshDatabase
    let once := ((ingestFinal.program asciiRuntime true).eval stored).2
    let twice := ((ingestFinal.program asciiRuntime true).eval once).2
    SameRows once twice ∧ twice.catalog.oddsSnapshots = once.catalog.oddsSnapshots := by
  have each : Session.Each (Operation.Ran asciiRuntime true)
      [(IngestRun.catalog (.ok openTotals)).session asciiRuntime true 40, suspendForGroup,
        finalizeGame] freshDatabase := by
    refine ⟨⟨.ingest (.catalog (.ok openTotals)), rfl, ?_⟩,
      ⟨.trading "group" "staff" (.suspendMarket "game:book:totals" "injury"), rfl, trivial⟩,
      ⟨.finalizeEventResult "game" 100 90, rfl, trivial⟩, trivial⟩
    intro snapshot fetched
    obtain rfl := Except.ok.inj fetched
    exact ⟨_, _, _, plainIds_totalsFeed _ _ _, rfl⟩
  have again := ingest_twice (fun event => (Table.mem_empty event).mp)
    (fun market => (Table.mem_empty market).mp) (fun selection => (Table.mem_empty selection).mp)
    each ⟨asciiRuntime, 1, _, plainIds_totalsFeed _ _ _, rfl⟩
    (show ingestFinal.SameMethod ingestFinal from trivial) rfl rfl
  exact ⟨again.1, again.2 (decimals_of_decide (by decide +kernel))⟩

end Sample

end SportsBetting.Trading
