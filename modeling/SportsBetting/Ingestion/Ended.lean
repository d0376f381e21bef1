import SportsBetting.Ingestion.Filed
import SportsBetting.Ingestion.Trace

/-!
# Ended events are settled

A run that returns closes the markets of every event that it shows as ended,
and brings for such an event only settled markets and selections.
-/

namespace SportsBetting.Ingestion

open Async OddsApi Text

/-- Every market and every selection of the event is settled. -/
structure Settled (db : Database) (eventRef : String) : Prop where
  markets : ∀ market ∈ db.catalog.markets, market.event = eventRef → market.status = .settled
  selections : ∀ selection ∈ db.catalog.selections, selectionOfEvent db eventRef selection = true →
    selection.status = .settled

def EndedSettled (db : Database) : Prop :=
  ∀ event ∈ db.catalog.events, event.status = .ended → Settled db event.providerRef

section Closing

variable {db after : Database} {eventRef : String}

theorem Settled.settleMarkets (settled : Settled db eventRef) (closed : String) :
    Settled (settleMarkets db closed) eventRef where
  markets market stored of := by
    rcases mem_settleMarkets stored with ⟨old, _, _, rfl⟩ | ⟨present, _⟩
    · rfl
    · exact settled.markets market present of
  selections selection stored of := by
    rw [selectionOfEvent_settleMarkets] at of
    exact settled.selections selection stored of

theorem Settled.settleSelections (settled : Settled db eventRef) (closed : String) :
    Settled (settleSelections db closed) eventRef where
  markets := settled.markets
  selections selection stored of := by
    rcases mem_settleSelections stored with ⟨old, _, _, rfl⟩ | ⟨present, _⟩
    · rfl
    · exact settled.selections selection present of

/-- Closing an event settles all of it. -/
theorem settled_of_closing (db : Database) (eventRef : String) :
    Settled (settleSelections (settleMarkets db eventRef) eventRef) eventRef where
  markets market stored of := by
    rcases mem_settleMarkets stored with ⟨old, _, _, rfl⟩ | ⟨_, other⟩
    · rfl
    · exact absurd of other
  selections selection stored of := by
    rcases mem_settleSelections stored with ⟨old, _, _, rfl⟩ | ⟨_, other⟩
    · rfl
    · have under : selectionOfEvent (settleMarkets db eventRef) eventRef selection = true := of
      rw [other] at under
      cases under

theorem Settled.closeEnded (settled : Settled db eventRef) (event : NormalizedEvent) :
    Settled (closeEnded db event) eventRef := by
  unfold Ingestion.closeEnded
  split
  · exact (settled.settleMarkets _).settleSelections _
  · exact settled

/-- A market of the event comes in settled. One that was there before has the same reference,
so it belongs to the same event. -/
theorem Settled.putMarket (settled : Settled db eventRef) (filed : Filed db) {row : Market}
    (plain : before ':' row.providerRef = row.event)
    (closed : row.event = eventRef → row.status = .settled) :
    Settled { db with catalog.markets := db.catalog.markets.put row } eventRef where
  markets market stored of := by
    rcases Table.mem_put.mp stored with rfl | ⟨old, _⟩
    · exact closed of
    · exact settled.markets market old of
  selections selection stored of := by
    apply settled.selections selection stored
    obtain ⟨market, there, on, under⟩ := selectionOfEvent_iff.mp of
    rcases Table.mem_put.mp there with rfl | ⟨old, _⟩
    · obtain ⟨earlier, known, named⟩ := filed.selections selection stored
      refine selectionOfEvent_iff.mpr ⟨earlier, known, named, ?_⟩
      rw [← filed.markets earlier known, named, ← on, plain]
      exact under
    · exact selectionOfEvent_iff.mpr ⟨market, old, on, under⟩

/-- A selection of the event comes in settled. -/
theorem Settled.putSelection (settled : Settled db eventRef) {row : Selection}
    (closed : selectionOfEvent db eventRef row = true → row.status = .settled)
    (odds : List OddsSnapshot) :
    Settled { db with
      catalog.selections := db.catalog.selections.put row, catalog.oddsSnapshots := odds }
      eventRef where
  markets := settled.markets
  selections selection stored of := by
    rcases Table.mem_put.mp stored with rfl | ⟨old, _⟩
    · exact closed of
    · exact settled.selections selection old of

theorem EndedSettled.of_catalog (same : after.catalog = db.catalog) (ended : EndedSettled db) :
    EndedSettled after := by
  intro event stored past
  rw [same] at stored
  obtain ⟨markets, selections⟩ := ended event stored past
  constructor
  · rw [same]
    exact markets
  · unfold selectionOfEvent
    rw [same]
    exact selections

theorem EndedSettled.of_games (ended : EndedSettled db) (same : SameGames db after) :
    EndedSettled after := by
  intro event stored past
  rw [same.events] at stored
  obtain ⟨markets, selections⟩ := ended event stored past
  constructor
  · rw [same.markets]
    exact markets
  · unfold selectionOfEvent
    rw [same.markets, same.selections]
    exact selections

theorem EndedSettled.purge (ended : EndedSettled db) (ledger : Ledger) (fixtures : List String) :
    EndedSettled { db with ledger, catalog := cascadeFixtures fixtures db.catalog } := by
  intro event stored past
  have settled := ended event (Table.mem_deleteWhere.mp stored).1 past
  constructor
  · exact fun market present => settled.markets market (Table.mem_deleteWhere.mp present).1
  · intro selection present of
    obtain ⟨market, there, on, under⟩ := selectionOfEvent_iff.mp of
    exact settled.selections selection (Table.mem_deleteWhere.mp present).1
      (selectionOfEvent_iff.mpr ⟨market, (Table.mem_deleteWhere.mp there).1, on, under⟩)

end Closing

section LivePhase

/-- All events but the remaining ones are stored with the status that the snapshot shows. -/
structure Showing (snapshot : ProviderSnapshot) (rest : List NormalizedEvent) (db : Database) :
    Prop where
  listed : rest ⊆ snapshot.events
  filed : Filed db
  ended : EndedSettled db
  shown : ∀ event ∈ snapshot.events, event ∉ rest → ∀ row ∈ db.catalog.events,
    row.providerRef = event.providerRef → row.status = event.status

variable {snapshot : ProviderSnapshot} {db after : Database}

theorem Showing.event (coherent : Coherent snapshot) {event : NormalizedEvent}
    {rest : List NormalizedEvent} (showing : Showing snapshot (event :: rest) db)
    (done : upsertEvent db event = .ok after) : Showing snapshot rest (closeEnded after event) := by
  obtain ⟨here, later⟩ := List.cons_subset.mp showing.listed
  have filed := showing.filed.upsertEvent coherent here done
  obtain rfl := upsertEvent_ok done
  refine ⟨later, filed.closeEnded event, ?_, ?_⟩
  · intro row stored past
    rw [closeEnded_events] at stored
    rcases Table.mem_put.mp stored with rfl | ⟨old, _⟩
    · have isEnded : event.status = .ended := past
      unfold closeEnded
      rw [if_pos isEnded]
      exact settled_of_closing _ _
    · have settled := showing.ended row old past
      refine Settled.closeEnded ?_ event
      exact ⟨settled.markets, settled.selections⟩
  · intro other member passed row stored same
    rw [closeEnded_events] at stored
    rcases Table.mem_put.mp stored with rfl | ⟨old, differs⟩
    · rw [coherent.event_eq member here same.symm]
      rfl
    · have apart : other ≠ event := fun equal => differs (same.trans (by rw [equal]; rfl))
      exact showing.shown other member (by simp [apart, passed]) row old same

/-- The fixture of a stored event is stored, so only events that are not stored are skipped. -/
theorem Showing.skipEvent (coherent : Coherent snapshot) {event : NormalizedEvent}
    {rest : List NormalizedEvent} (showing : Showing snapshot (event :: rest) db)
    (unknown : ¬ db.catalog.fixtures.Has event.fixtureProviderRef) : Showing snapshot rest db := by
  obtain ⟨here, later⟩ := List.cons_subset.mp showing.listed
  refine ⟨later, showing.filed, showing.ended, ?_⟩
  intro other member passed row stored same
  by_cases equal : other = event
  · subst equal
    rw [(coherent.events other here).1, ← same] at unknown
    exact absurd (showing.filed.events row stored).2 unknown
  · exact showing.shown other member (by simp [equal, passed]) row stored same

/-- A market that the snapshot lists for an ended event is listed as settled. -/
theorem Showing.settled_of_listed (coherent : Coherent snapshot) (showing : Showing snapshot [] db)
    {market : NormalizedMarket} (listed : market ∈ snapshot.markets) {event : Event}
    (stored : event ∈ db.catalog.events) (same : event.providerRef = market.eventProviderRef)
    (past : event.status = .ended) : market.status = .settled := by
  obtain ⟨_, shown, member, named, status⟩ := coherent.markets market listed
  rw [status, if_pos]
  rw [← showing.shown shown member (by simp) event stored (same.trans named.symm)]
  exact past

theorem Showing.market (coherent : Coherent snapshot) (showing : Showing snapshot [] db)
    {market : NormalizedMarket} (listed : market ∈ snapshot.markets)
    (done : upsertMarket db market = .ok after) : Showing snapshot [] after := by
  have filed := showing.filed.upsertMarket coherent listed done
  obtain ⟨line, _, rfl⟩ := upsertMarket_ok done
  refine ⟨showing.listed, filed, ?_, showing.shown⟩
  intro event stored past
  have plain : before ':' (marketRow market line).providerRef = (marketRow market line).event :=
    (coherent.markets market listed).1
  exact (showing.ended event stored past).putMarket showing.filed plain fun of =>
    showing.settled_of_listed coherent listed stored of.symm past

theorem Showing.selection (coherent : Coherent snapshot) (showing : Showing snapshot [] db)
    {selection : NormalizedSelection} (listed : selection ∈ snapshot.selections)
    (known : db.catalog.markets.Has selection.marketProviderRef)
    (done : upsertSelection db selection = .ok after) : Showing snapshot [] after := by
  have filed := showing.filed.upsertSelection known done
  obtain ⟨price, rfl⟩ := upsertSelection_ok done
  refine ⟨showing.listed, filed, ?_, showing.shown⟩
  intro event stored past
  apply (showing.ended event stored past).putSelection
  intro of
  obtain ⟨market, among, named, status⟩ := coherent.selections selection listed
  obtain ⟨found, there, on, under⟩ := selectionOfEvent_iff.mp of
  have same : event.providerRef = market.eventProviderRef := by
    rw [← under, ← showing.filed.markets found there, on, ← (coherent.markets market among).1,
      named]
    rfl
  have closed := showing.settled_of_listed coherent among stored same past
  exact status.trans (if_pos closed)

/-- The live phase of a coherent snapshot leaves every ended event settled. -/
theorem ended_ingestLiveData (coherent : Coherent snapshot) (filed : Filed db)
    (ended : EndedSettled db) :
    Returns (fun _ after => Filed after ∧ EndedSettled after) (ingestLiveData snapshot) db := by
  have start : Showing snapshot snapshot.events db :=
    ⟨List.Subset.refl _, filed, ended, fun event member passed => absurd member passed⟩
  refine (ingestLiveData_returns snapshot (Showing snapshot []) (Showing snapshot [])
    (Showing snapshot []) (ingestEvents_returns _ ?_ ?_ start) ?_ ?_).mono
    fun _ _ showing => ⟨showing.filed, showing.ended⟩
  · exact fun event rest db after showing _ done => showing.event coherent done
  · exact fun event rest db showing unknown => showing.skipEvent coherent unknown
  · intro db showing
    have each : Returns (fun _ after => [] ⊆ snapshot.markets ∧ Showing snapshot [] after)
        (snapshot.markets.foldlM
          (ingestMarket (db.catalog.events.rows.map Event.providerRef)) 0) db := by
      refine ingestMarkets_returns (fun rest db => rest ⊆ snapshot.markets ∧
        Showing snapshot [] db) ?_ ?_ ⟨List.Subset.refl _, showing⟩
      · rintro market rest db after ⟨listed, showing⟩ _ done
        obtain ⟨here, later⟩ := List.cons_subset.mp listed
        exact ⟨later, showing.market coherent here done⟩
      · exact fun market rest db held _ =>
          held.imp_left fun listed => (List.cons_subset.mp listed).2
    exact each.mono fun _ _ held => held.2
  · intro db prices showing
    have each : Returns (fun _ after => [] ⊆ snapshot.selections ∧ Showing snapshot [] after)
        (snapshot.selections.foldlM
          (ingestSelection (db.catalog.markets.rows.map Market.providerRef) prices) (0, 0)) db := by
      refine ingestSelections_returns (fun rest db => rest ⊆ snapshot.selections ∧
        Showing snapshot [] db) ?_ ?_ prices ⟨List.Subset.refl _, showing⟩
      · rintro selection rest db written odds ⟨listed, showing⟩ known done
        obtain ⟨here, later⟩ := List.cons_subset.mp listed
        have shown := showing.selection coherent here known done
        have onward := onward_oddsSnapshots written odds
        exact ⟨later, shown.listed, shown.filed.onward onward,
          shown.ended.of_games onward.toSameGames, shown.shown⟩
      · exact fun selection rest db held _ =>
          held.imp_left fun listed => (List.cons_subset.mp listed).2
    exact each.mono fun _ _ held => held.2

end LivePhase

section Runs

variable {runtime : Runtime} {isOddsApi : Bool} {db : Database}

/-- A run that returns, on a coherent snapshot or on none. -/
theorem ended_of_returned (run : IngestRun) (moves : List (Move databaseMachine))
    (coherent : ∀ snapshot, run.Fetches db snapshot → Coherent snapshot) (filed : Filed db)
    (ended : EndedSettled db)
    (returned : Session.Returned ⟨run.program runtime isOddsApi, moves⟩ db) :
    Filed (Session.result ⟨run.program runtime isOddsApi, moves⟩ db) ∧
      EndedSettled (Session.result ⟨run.program runtime isOddsApi, moves⟩ db) := by
  have reached := (IngestRun.result_upholds (fun _ => True) runtime isOddsApi
    (fun snapshot db => Coherent snapshot ∧ Filed db ∧ EndedSettled db)
    (fun snapshot db => Coherent snapshot ∧ Filed db ∧ EndedSettled db)
    (fun _ after => Filed after ∧ EndedSettled after) ?_ ?_ ?_ run ?_ ?_ moves trivial ?_).2 returned
  · rcases reached with same | ⟨_, _, held⟩
    · rw [same]
      exact ⟨filed, ended⟩
    · exact held
  · exact fun _ _ _ onward held =>
      ⟨held.1, held.2.1.onward onward.toOnward, held.2.2.of_games onward.toSameGames⟩
  · exact fun _ _ held => held
  · exact fun _ _ _ => trivial
  · exact fun _ _ _ fixtures ledger held _ =>
      ⟨held.1, held.2.1.purge ledger fixtures, held.2.2.purge ledger fixtures⟩
  · exact fun _ _ held => ended_ingestLiveData held.1 held.2.1 held.2.2
  · exact fun snapshot fetched => ⟨coherent snapshot fetched, filed, ended⟩

theorem ended_of_endEvent {event : Event} {homeScore awayScore : ℤ} {past : Database}
    (filed : Filed db) (ended : EndedSettled db)
    (done : endEvent db event homeScore awayScore = .ok past) :
    let closed := settleSelections (settleMarkets past event.providerRef) event.providerRef
    Filed closed ∧ EndedSettled closed := by
  intro closed
  have rows := filed.endEvent done
  obtain ⟨markets, selections, fixtures, events⟩ := endEvent_ok done
  refine ⟨(rows.settleMarkets _).settleSelections _, ?_⟩
  intro row stored finished
  rcases events row stored with ⟨old, _, ref, rfl⟩ | ⟨present, _⟩
  · rw [ref]
    exact settled_of_closing _ _
  · have settled := ended row present finished
    refine Settled.settleSelections (Settled.settleMarkets ?_ _) _
    constructor
    · rw [markets]
      exact settled.markets
    · unfold selectionOfEvent
      rw [markets, selections]
      exact settled.selections

/-- A manual result ends its event and closes its markets. -/
theorem ended_finalizeEventResult (filed : Filed db) (ended : EndedSettled db)
    (providerRef : String) (homeScore awayScore : ℤ) :
    Returns (fun _ after => Filed after ∧ EndedSettled after)
      (finalizeEventResult providerRef homeScore awayScore) db := by
  refine (finalizeEventResult_returns providerRef homeScore awayScore).mono ?_
  rintro _ after (rfl | ⟨event, _, past, done, rfl⟩)
  · exact ⟨filed, ended⟩
  · obtain ⟨rows, closed⟩ := ended_of_endEvent filed ended done
    have catalog : ∀ db : Database,
        (clearSettlementNotes db event.providerRef).catalog = db.catalog := fun _ => rfl
    exact ⟨rows.of_catalog (catalog _), closed.of_catalog (catalog _)⟩

end Runs

end SportsBetting.Ingestion
