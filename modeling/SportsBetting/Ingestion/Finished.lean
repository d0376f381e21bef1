import SportsBetting.Ingestion.Trace

/-!
# Finished games

A game is final once its event is ENDED with both scores. Ingestion takes every
status and score from the feed, so the game stays final as long as no snapshot
says otherwise.
-/

namespace SportsBetting.Ingestion

open Async Text

/-- The event is final, and nothing of it is open that was not open at the start. -/
structure Finished (start : Database) (eventRef : String) (db : Database) : Prop where
  ended : ∃ event ∈ db.catalog.events, event.providerRef = eventRef ∧ event.status = .ended ∧
    event.homeScore.isSome = true ∧ event.awayScore.isSome = true
  markets : ∀ market ∈ db.catalog.markets, market.event = eventRef → market.status = .open →
    ∃ old ∈ start.catalog.markets, old.providerRef = market.providerRef ∧ old.event = eventRef ∧
      old.status = .open
  selections : ∀ selection ∈ db.catalog.selections, selection.status = .open →
    selectionOfEvent db eventRef selection = true →
      ∃ old ∈ start.catalog.selections, old.providerRef = selection.providerRef ∧
        old.status = .open ∧ selectionOfEvent start eventRef old = true

theorem Finished.start {db : Database} {eventRef : String}
    (ended : ∃ event ∈ db.catalog.events, event.providerRef = eventRef ∧ event.status = .ended ∧
      event.homeScore.isSome = true ∧ event.awayScore.isSome = true) :
    Finished db eventRef db where
  ended := ended
  markets market stored of isOpen := ⟨market, stored, rfl, of, isOpen⟩
  selections selection stored isOpen of := ⟨selection, stored, rfl, isOpen, of⟩

/-- A run that does not touch the final result: it lists the event as final or not
at all, opens nothing of it, and does not purge its fixture. -/
structure Respects (isOddsApi : Bool) (eventRef : String) (run : IngestRun)
    (snapshot : ProviderSnapshot) (db : Database) : Prop where
  events : ∀ listed ∈ snapshot.events, listed.providerRef = eventRef →
    listed.status = .ended ∧ listed.homeScore.isSome = true ∧ listed.awayScore.isSome = true
  fixture : ∀ event ∈ db.catalog.events, event.providerRef = eventRef →
    ¬ run.Purges isOddsApi snapshot db event.fixture
  markets : ∀ listed ∈ snapshot.markets, listed.eventProviderRef = eventRef →
    listed.status ≠ .open
  selections : ∀ listed ∈ snapshot.selections, listed.status = .open →
    (∀ market ∈ db.catalog.markets, market.providerRef = listed.marketProviderRef →
      market.event ≠ eventRef) ∧
    ∀ market ∈ snapshot.markets, market.providerRef = listed.marketProviderRef →
      market.eventProviderRef ≠ eventRef
  /-- A market that the run moves to the event brings no open selections. -/
  moved : ∀ listed ∈ snapshot.markets, listed.eventProviderRef = eventRef →
    ∀ selection ∈ db.catalog.selections, selection.market = listed.providerRef →
      selection.status = .open → selectionOfEvent db eventRef selection = true

section Traced

variable {isOddsApi : Bool} {eventRef : String} {run : IngestRun} {snapshot : ProviderSnapshot}
  {start db after : Database}

theorem Respects.ended (respects : Respects isOddsApi eventRef run snapshot db)
    (traced : Traced (run.Purges isOddsApi snapshot db) snapshot db after)
    (finished : Finished start eventRef db) :
    ∃ event ∈ after.catalog.events, event.providerRef = eventRef ∧ event.status = .ended ∧
      event.homeScore.isSome = true ∧ event.awayScore.isSome = true := by
  obtain ⟨event, stored, ref, result⟩ := finished.ended
  rcases traced.stay event stored with purged | ⟨later, present, same⟩
  · exact absurd purged (respects.fixture event stored ref)
  · refine ⟨later, present, same.trans ref, ?_⟩
    rcases traced.events later present with old | ⟨listed, member, rfl⟩
    · rwa [Table.eq_of_key old stored same]
    · exact respects.events listed member (same.trans ref)

theorem Respects.markets_open (respects : Respects isOddsApi eventRef run snapshot db)
    (traced : Traced (run.Purges isOddsApi snapshot db) snapshot db after) {market : Market}
    (stored : market ∈ after.catalog.markets) (of : market.event = eventRef)
    (isOpen : market.status = .open) : market ∈ db.catalog.markets := by
  rcases traced.markets market stored with kept | ⟨listed, member, line, _, rfl⟩
  · exact kept.of_open isOpen
  · exact absurd isOpen (respects.markets listed member of)

/-- An open selection of the event was open, and of the event, before the run. -/
theorem Respects.selections_open (respects : Respects isOddsApi eventRef run snapshot db)
    (traced : Traced (run.Purges isOddsApi snapshot db) snapshot db after) {selection : Selection}
    (stored : selection ∈ after.catalog.selections) (isOpen : selection.status = .open)
    (of : selectionOfEvent after eventRef selection = true) :
    selection ∈ db.catalog.selections ∧ selectionOfEvent db eventRef selection = true := by
  obtain ⟨market, present, on, under⟩ := selectionOfEvent_iff.mp of
  rcases traced.selection_cases stored with kept | ⟨listed, member, price, rfl⟩
  · have old := kept.of_open isOpen
    refine ⟨old, ?_⟩
    rcases traced.markets market present with ⟨base, known, same⟩ | ⟨moved, member, line, _, rfl⟩
    · apply selectionOfEvent_iff.mpr
      refine ⟨base, known, ?_⟩
      rcases same with rfl | rfl
      · exact ⟨on, under⟩
      · exact ⟨on, under⟩
    · exact respects.moved moved member under selection old on.symm isOpen
  · obtain ⟨notStored, notListed⟩ := respects.selections listed member isOpen
    rcases traced.markets market present with ⟨base, known, same⟩ | ⟨other, member, line, _, rfl⟩
    · rcases same with rfl | rfl
      · exact absurd under (notStored market known on)
      · exact absurd under (notStored base known on)
    · exact absurd under (notListed other member on)

theorem Respects.finished (respects : Respects isOddsApi eventRef run snapshot db)
    (traced : Traced (run.Purges isOddsApi snapshot db) snapshot db after)
    (finished : Finished start eventRef db) : Finished start eventRef after where
  ended := respects.ended traced finished
  markets market stored of isOpen :=
    finished.markets market (respects.markets_open traced stored of isOpen) of isOpen
  selections selection stored isOpen of := by
    obtain ⟨old, under⟩ := respects.selections_open traced stored isOpen of
    exact finished.selections selection old isOpen under

theorem Finished.of_games (finished : Finished start eventRef db) (same : SameGames db after) :
    Finished start eventRef after := by
  constructor
  · rw [same.events]
    exact finished.ended
  · rw [same.markets]
    exact finished.markets
  · unfold selectionOfEvent
    rw [same.selections, same.markets]
    exact finished.selections

end Traced

/-- **A final result stays final** through every history of ingest runs that respect it. -/
theorem finished_of_history {runtime : Runtime} {isOddsApi : Bool} {eventRef : String}
    {db : Database} {sessions : List (Session databaseMachine)}
    (ended : ∃ event ∈ db.catalog.events, event.providerRef = eventRef ∧ event.status = .ended ∧
      event.homeScore.isSome = true ∧ event.awayScore.isSome = true)
    (each : Session.Each (Meets runtime isOddsApi (Respects isOddsApi eventRef)) sessions db) :
    Finished db eventRef (Session.runAll sessions db) := by
  apply history_keeps ?_ ?_ (Finished.start ended) each
  · exact fun _ _ same finished => finished.of_games same
  · exact fun _ _ _ _ respects traced finished => respects.finished traced finished

section Sample

/-- The result that staff enter for the open game. -/
def finalizeGame : Session databaseMachine :=
  ⟨(finalizeEventResult "game" 100 90).void, List.replicate 8 (.run 0 .none)⟩

def finalDatabase : Database := finalizeGame.result openDatabase

/-- A catalog run on a feed with these scores. -/
def ingestGame (scores : List OddsApi.OddsApiEventScore) : IngestRun :=
  .catalog (.ok (OddsApi.mapOddsApiToSnapshot asciiRuntime 1
    (totalsFeed (.ofDigits 2205 (-1)) scores ["totals"])))

def completedScore : OddsApi.OddsApiEventScore :=
  ⟨"game", "0", true, "Lakers", "Celtics", some [⟨"Lakers", "100"⟩, ⟨"Celtics", "90"⟩]⟩

/-- A feed that knows the result leaves it as it is. -/
theorem finished_of_completed_feed : Finished finalDatabase "game" (Session.runAll
    [(ingestGame [completedScore]).session asciiRuntime true 40] finalDatabase) := by
  have ended : ∃ event ∈ finalDatabase.catalog.events.rows, event.providerRef = "game" ∧
      event.status = .ended ∧ event.homeScore.isSome = true ∧ event.awayScore.isSome = true := by
    decide +kernel
  obtain ⟨event, stored, final⟩ := ended
  suffices each : Session.Each (Meets asciiRuntime true (Respects true "game"))
      [(ingestGame [completedScore]).session asciiRuntime true 40] finalDatabase from
    finished_of_history ⟨event, Table.mem_rows.mp stored, final⟩ each
  refine ⟨⟨ingestGame [completedScore], rfl, ?_⟩, trivial⟩
  intro snapshot fetched
  obtain rfl := Except.ok.inj fetched
  constructor
  · decide +kernel
  · exact fun _ _ _ purged => absurd purged.1 (by decide)
  · decide +kernel
  · intro listed member isOpen
    have none : ∀ listed ∈ (OddsApi.mapOddsApiToSnapshot asciiRuntime 1 (totalsFeed
        ⟨2205, -1, by decide⟩ [completedScore] ["totals"])).selections, listed.status ≠ .open := by
      decide +kernel
    exact absurd isOpen (none listed member)
  · have none : ∀ selection ∈ finalDatabase.catalog.selections.rows,
        selection.status ≠ .open := by
      decide +kernel
    exact fun _ _ _ selection stored _ isOpen => absurd isOpen (none selection stored)

/-- A feed that still has the odds but no score puts the finished game back on sale. -/
theorem finished_game_reopened :
    finalizeGame.Returned openDatabase ∧
    (∃ event ∈ finalDatabase.catalog.events.rows, event.providerRef = "game" ∧
      event.status = .ended ∧ event.homeScore = some 100 ∧ event.awayScore = some 90) ∧
    (∀ market ∈ finalDatabase.catalog.markets.rows, market.status = .settled) ∧
    let after := ((ingestGame []).session asciiRuntime true 40).result finalDatabase
    (∃ event ∈ after.catalog.events.rows, event.providerRef = "game" ∧ event.status = .live ∧
      event.homeScore = none ∧ event.awayScore = none) ∧
    (∃ market ∈ after.catalog.markets.rows, market.event = "game" ∧ market.status = .open) ∧
    ∃ selection ∈ after.catalog.selections.rows, selection.market = "game:book:totals" ∧
      selection.status = .open := by
  decide +kernel

end Sample

end SportsBetting.Ingestion
