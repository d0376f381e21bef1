import SportsBetting.Backoffice.Tenants
import SportsBetting.Ingestion.Ended
import SportsBetting.Ingestion.Finished

/-!
# Ended events stay settled

Ingestion, manual results and trading all write the status columns. Run one
after the other to their ends, they leave no ended event with anything open.
-/

namespace SportsBetting.Trading

open Async Ingestion OddsApi Text

section Restating

variable {db after : Database} {onEvent : Event → Event} {onMarket : Market → Market}
  {onSelection : Selection → Selection}

namespace Restated

variable (restated : Restated db after onEvent onMarket onSelection)

include restated

theorem mem_events {event : Event} (stored : event ∈ after.catalog.events) :
    ∃ old ∈ db.catalog.events, event = onEvent old := by
  have found := Table.get?_of_mem stored
  rw [restated.events, Option.map_eq_some_iff] at found
  obtain ⟨old, there, rfl⟩ := found
  exact ⟨old, (Table.get?_eq_some_iff.mp there).1, rfl⟩

theorem mem_markets {market : Market} (stored : market ∈ after.catalog.markets) :
    ∃ old ∈ db.catalog.markets, market = onMarket old := by
  have found := Table.get?_of_mem stored
  rw [restated.markets, Option.map_eq_some_iff] at found
  obtain ⟨old, there, rfl⟩ := found
  exact ⟨old, (Table.get?_eq_some_iff.mp there).1, rfl⟩

theorem mem_selections {selection : Selection} (stored : selection ∈ after.catalog.selections) :
    ∃ old ∈ db.catalog.selections, selection = onSelection old := by
  rw [← Table.mem_rows, restated.selections] at stored
  obtain ⟨old, there, rfl⟩ := List.mem_map.mp stored
  exact ⟨old, there, rfl⟩

theorem has_market {ref : String} (has : db.catalog.markets.Has ref) :
    after.catalog.markets.Has ref := by
  obtain ⟨market, stored, rfl⟩ := has
  have found : after.catalog.markets.get? market.providerRef = some (onMarket market) := by
    rw [restated.markets, Table.get?_of_mem stored, Option.map_some]
  exact ⟨_, Table.get?_eq_some_iff.mp found⟩

theorem filed (filed : Filed db) : Filed after where
  events event stored := by
    obtain ⟨old, there, rfl⟩ := restated.mem_events stored
    obtain ⟨_, same⟩ := restated.event old
    rw [restated.fixtures, same]
    exact filed.events old there
  markets market stored := by
    obtain ⟨old, there, rfl⟩ := restated.mem_markets stored
    obtain ⟨_, same⟩ := restated.market old
    rw [same]
    exact filed.markets old there
  selections selection stored := by
    obtain ⟨old, there, rfl⟩ := restated.mem_selections stored
    obtain ⟨_, same⟩ := restated.selection old
    rw [same]
    exact restated.has_market (filed.selections old there)

theorem selectionOfEvent_eq (eventRef : String) (selection : Selection) :
    selectionOfEvent after eventRef (onSelection selection) =
      selectionOfEvent db eventRef selection := by
  obtain ⟨_, same⟩ := restated.selection selection
  unfold selectionOfEvent
  rw [same, restated.markets]
  cases db.catalog.markets.get? selection.market with
  | none => rfl
  | some market =>
      obtain ⟨_, same⟩ := restated.market market
      rw [Option.map_some, same]

/-- Other statuses keep ended events settled if they end no event and leave what belongs to
an ended one as it is. -/
theorem endedSettled (ended : EndedSettled db)
    (spared : ∀ event ∈ db.catalog.events, (onEvent event).status = .ended →
      event.status = .ended ∧
      (∀ market ∈ db.catalog.markets, market.event = event.providerRef →
        market.status = .settled → onMarket market = market) ∧
      ∀ selection ∈ db.catalog.selections,
        selectionOfEvent db event.providerRef selection = true → onSelection selection = selection) :
    EndedSettled after := by
  intro event stored past
  obtain ⟨old, there, rfl⟩ := restated.mem_events stored
  obtain ⟨before, markets, selections⟩ := spared old there past
  obtain ⟨_, same⟩ := restated.event old
  have ref : (onEvent old).providerRef = old.providerRef := by rw [same]
  have settled := ended old there before
  rw [ref]
  constructor
  · intro market stored of
    obtain ⟨row, present, rfl⟩ := restated.mem_markets stored
    obtain ⟨_, same⟩ := restated.market row
    have of' : row.event = old.providerRef := by
      rw [same] at of
      exact of
    have closed := settled.markets row present of'
    rw [markets row present of' closed]
    exact closed
  · intro selection stored of
    obtain ⟨row, present, rfl⟩ := restated.mem_selections stored
    rw [restated.selectionOfEvent_eq] at of
    rw [selections row present of]
    exact settled.selections row present of

end Restated

end Restating

section Operations

variable {db after : Database}

/-- A market of another event, and its selections, are none of the event's. -/
theorem spared_setMarketRows {marketId eventRef : String} {market : Market}
    {marketStatus : MarketStatus} {selectionStatus : SelectionStatus}
    (stored : market ∈ db.catalog.markets) (ref : market.providerRef = marketId)
    (apart : market.event ≠ eventRef) :
    (∀ other ∈ db.catalog.markets, other.event = eventRef → other.status = .settled →
      (if other.providerRef = marketId then { other with status := marketStatus } else other) =
        other) ∧
    ∀ selection ∈ db.catalog.selections, selectionOfEvent db eventRef selection = true →
      (if selection.market = marketId then { selection with status := selectionStatus }
        else selection) = selection := by
  constructor
  · intro other present of _
    apply if_neg
    intro same
    obtain rfl := Table.eq_of_key present stored (same.trans ref.symm)
    exact apart of
  · intro selection _ of
    apply if_neg
    intro same
    obtain ⟨other, present, on, under⟩ := selectionOfEvent_iff.mp of
    obtain rfl := Table.eq_of_key present stored (on.trans (same.trans ref.symm))
    exact apart under

theorem filed_effect (call : TradingCall) (filed : Filed db) : Filed (call.effect db) := by
  cases call with
  | suspendEvent eventId => exact (restated_suspendEventRows db eventId).filed filed
  | suspendMarket marketId => exact (restated_setMarketRows db marketId _ _).filed filed
  | resumeMarket marketId => exact (restated_setMarketRows db marketId _ _).filed filed

/-- What the status checks of the trading service spare. -/
theorem endedSettled_of_passes {tenant : String} (call : TradingCall)
    (passes : call.passes tenant db) (ended : EndedSettled db) : EndedSettled (call.effect db) := by
  cases call with
  | suspendEvent eventId reason =>
      apply (restated_suspendEventRows db eventId).endedSettled ended
      intro event _ past
      by_cases hit : event.providerRef = eventId
      · simp [hit] at past
      · refine ⟨by simpa [hit] using past, fun market _ of _ => ?_, fun selection _ of => ?_⟩
        · exact if_neg (of ▸ hit)
        · apply if_neg
          intro other
          obtain ⟨market, stored, on, under⟩ := selectionOfEvent_iff.mp of
          obtain ⟨market', stored', on', under'⟩ := selectionOfEvent_iff.mp other
          obtain rfl := Table.eq_of_key stored stored' (on.trans on'.symm)
          exact hit (under.symm.trans under')
  | suspendMarket marketId reason =>
      obtain ⟨closed, stored, ref, _, _, _, _, isOpen⟩ := passes
      apply (restated_setMarketRows db marketId _ _).endedSettled ended
      intro event present past
      have apart : closed.event ≠ event.providerRef := fun of =>
        isOpen (.inl ((ended event present past).markets closed stored of))
      exact ⟨past, spared_setMarketRows stored ref apart⟩
  | resumeMarket marketId =>
      obtain ⟨resumed, stored, ref, other, there, of, _, running⟩ := passes
      apply (restated_setMarketRows db marketId _ _).endedSettled ended
      intro event present past
      have apart : resumed.event ≠ event.providerRef := by
        intro same
        obtain rfl := Table.eq_of_key there present (of.trans same)
        exact running past
      exact ⟨past, spared_setMarketRows stored ref apart⟩

end Operations

section Runs

/-- What changes the statuses of the catalog. -/
inductive Operation
  | ingest (run : IngestRun)
  | finalizeEventResult (providerRef : String) (homeScore awayScore : ℤ)
  | trading (tenant staffUserId : String) (call : TradingCall)

namespace Operation

def program (runtime : Runtime) (isOddsApi : Bool) : Operation → Service Unit
  | .ingest run => run.program runtime isOddsApi
  | .finalizeEventResult providerRef homeScore awayScore =>
      (Ingestion.finalizeEventResult providerRef homeScore awayScore).void
  | .trading tenant staffUserId call => call.program tenant staffUserId

/-- What an ingest run fetches was mapped from the odds feed. -/
def FromFeed (db : Database) : Operation → Prop
  | .ingest run => Ingestion.FromFeed db run
  | _ => True

/-- The session runs an operation to its end. -/
def Completes (runtime : Runtime) (isOddsApi : Bool) (db : Database)
    (session : Session databaseMachine) : Prop :=
  ∃ operation : Operation, session.program = operation.program runtime isOddsApi ∧
    operation.FromFeed db ∧ session.Returned db

end Operation

variable {runtime : Runtime} {isOddsApi : Bool} {db : Database}

theorem ended_of_completed {session : Session databaseMachine}
    (completes : Operation.Completes runtime isOddsApi db session)
    (kept : Filed db ∧ EndedSettled db) :
    Filed (session.result db) ∧ EndedSettled (session.result db) := by
  obtain ⟨program, moves⟩ := session
  obtain ⟨operation, same, fed, returned⟩ := completes
  obtain rfl : program = operation.program runtime isOddsApi := same
  cases operation with
  | ingest run =>
      exact ended_of_returned run moves (fun snapshot fetched => (fed snapshot fetched).coherent)
        kept.1 kept.2 returned
  | finalizeEventResult providerRef homeScore awayScore =>
      have safe : Returns (fun _ after => Filed after ∧ EndedSettled after)
          (Ingestion.finalizeEventResult providerRef homeScore awayScore).void db :=
        Upholds.void (ended_finalizeEventResult kept.1 kept.2 providerRef homeScore awayScore)
      exact (Upholds.result trivial safe).2 returned
  | trading tenant staffUserId call =>
      have safe : Keeps (Touched call tenant db) (fun _ after => Wrote call tenant db after)
          (call.program tenant staffUserId) db := keeps_program call tenant staffUserId db
      obtain ⟨passes, catalog⟩ := (Upholds.result (touched_refl call) safe).2 returned
      exact ⟨(filed_effect call kept.1).of_catalog catalog,
        (endedSettled_of_passes call passes kept.2).of_catalog catalog⟩

/-- **Ended events are settled**: from an empty catalog on, after any operations that ran one
after the other to their ends, no ended event has a market or selection that is not settled. -/
theorem ended_events_settled {sessions : List (Session databaseMachine)}
    (events : ∀ event, event ∉ db.catalog.events) (markets : ∀ market, market ∉ db.catalog.markets)
    (selections : ∀ selection, selection ∉ db.catalog.selections)
    (each : Session.Each (Operation.Completes runtime isOddsApi) sessions db) :
    ∀ event ∈ (Session.runAll sessions db).catalog.events, event.status = .ended →
      Settled (Session.runAll sessions db) event.providerRef := by
  have start : Filed db ∧ EndedSettled db :=
    ⟨⟨fun event stored => absurd stored (events event),
      fun market stored => absurd stored (markets market),
      fun selection stored => absurd stored (selections selection)⟩,
      fun event stored => absurd stored (events event)⟩
  have step : ∀ db session, Filed db ∧ EndedSettled db →
      Operation.Completes runtime isOddsApi db session →
        Filed (session.result db) ∧ EndedSettled (session.result db) :=
    fun _ _ kept completes => ended_of_completed completes kept
  exact (Session.runAll_preserves step start each).2

end Runs

section Sample

/-- The game is ingested, suspended, given its result, and listed by the feed as over. -/
def finishedGame : List (Session databaseMachine) :=
  [(IngestRun.catalog (.ok openTotals)).session asciiRuntime true 40, suspendForGroup, finalizeGame,
    (ingestGame [completedScore]).session asciiRuntime true 40]

theorem plainIds_totalsFeed (point : Numeral.Decimal) (scores : List OddsApiEventScore)
    (marketKeys : List String) : PlainIds (totalsFeed point scores marketKeys) := by
  intro sportKey _ event listed
  obtain rfl := List.mem_singleton.mp listed
  have plain : ':' ∉ "game".toList := by decide
  exact plain

theorem finished_game_settled :
    (∃ event ∈ (Session.runAll finishedGame freshDatabase).catalog.events.rows,
      event.status = .ended) ∧
    ∀ event ∈ (Session.runAll finishedGame freshDatabase).catalog.events, event.status = .ended →
      Settled (Session.runAll finishedGame freshDatabase) event.providerRef := by
  have each : Session.Each (Operation.Completes asciiRuntime true) finishedGame freshDatabase := by
    refine ⟨⟨.ingest (.catalog (.ok openTotals)), rfl, ?_, by decide +kernel⟩,
      ⟨.trading "group" "staff" (.suspendMarket "game:book:totals" "injury"), rfl, trivial,
        by decide +kernel⟩,
      ⟨.finalizeEventResult "game" 100 90, rfl, trivial, by decide +kernel⟩,
      ⟨.ingest (ingestGame [completedScore]), rfl, ?_, by decide +kernel⟩, trivial⟩
    · intro snapshot fetched
      obtain rfl := Except.ok.inj fetched
      exact ⟨_, _, _, plainIds_totalsFeed _ _ _, rfl⟩
    · intro snapshot fetched
      obtain rfl := Except.ok.inj fetched
      exact ⟨_, _, _, plainIds_totalsFeed _ _ _, rfl⟩
  exact ⟨by decide +kernel, ended_events_settled (fun event => (Table.mem_empty event).mp)
    (fun market => (Table.mem_empty market).mp) (fun selection => (Table.mem_empty selection).mp) each⟩

end Sample

end SportsBetting.Trading
