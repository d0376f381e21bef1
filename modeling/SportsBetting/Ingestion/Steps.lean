import SportsBetting.Ingestion.Phases

/-!
# The live phase, step by step

Where a run returns, its live phase has written every event, market and
selection whose parent was stored. What each of these steps keeps, the phase
has reached.
-/

namespace SportsBetting.Ingestion

open Async Text

/-- The database once the markets of an event that has ended are closed. -/
def closeEnded (db : Database) (event : NormalizedEvent) : Database :=
  if event.status = .ended then
    settleSelections (settleMarkets db event.providerRef) event.providerRef
  else db

section Steps

/-- Nothing is asked of the states in between. -/
abbrev Returns {α : Type} (post : α → Database → Prop) (service : Service α) (db : Database) : Prop :=
  Keeps (fun _ => True) post service db

variable {db : Database}

theorem mem_map_iff_has {Row : Type} {key : Row → String} (table : Table Row key) (ref : String) :
    ref ∈ table.rows.map key ↔ table.Has ref := by
  simp [Table.mem_rows]

theorem closeMarkets_returns (eventRef : String) :
    Returns (fun _ after => after = settleSelections (settleMarkets db eventRef) eventRef)
      (closeMarketsForEndedEvent eventRef) db := by
  refine Upholds.bind (Upholds.write trivial trivial) ?_
  rintro _ settled _ rfl
  exact Upholds.write trivial trivial

/-- The database after a manual result on the event. -/
def finalized (ended : Database) (eventRef : String) : Database :=
  clearSettlementNotes (settleSelections (settleMarkets ended eventRef) eventRef) eventRef

theorem finalizeEventResult_returns (providerRef : String) (homeScore awayScore : ℤ) :
    Returns (fun _ after => after = db ∨ ∃ event ∈ db.catalog.events, ∃ ended,
        endEvent db event homeScore awayScore = .ok ended ∧
          after = finalized ended event.providerRef)
      (finalizeEventResult providerRef homeScore awayScore) db := by
  unfold finalizeEventResult
  refine Upholds.bind (Upholds.read trivial) ?_
  rintro event now _ ⟨rfl, rfl⟩
  cases found : now.catalog.events.get? providerRef with
  | none => exact Upholds.pure trivial (.inl rfl)
  | some event =>
      have stored := (Table.get?_eq_some_iff.mp found).1
      refine Upholds.bind (Upholds.attempt trivial fun _ _ => trivial) ?_
      rintro _ ended _ done
      refine Upholds.bind (closeMarkets_returns event.providerRef) ?_
      rintro _ closed _ rfl
      refine Upholds.bind (Upholds.write trivial trivial) ?_
      rintro _ after _ rfl
      exact Upholds.pure trivial (.inr ⟨event, stored, ended, done, rfl⟩)

theorem closeIfEnded_returns (event : NormalizedEvent) :
    Returns (fun _ after => after = closeEnded db event) (closeIfEnded event) db := by
  unfold closeIfEnded closeEnded
  split
  · exact closeMarkets_returns event.providerRef
  · exact Upholds.pure trivial rfl

theorem ingestEvent_returns (count : ℕ) (event : NormalizedEvent) :
    Returns (fun _ after =>
        (db.catalog.fixtures.Has event.fixtureProviderRef ∧
          ∃ written, upsertEvent db event = .ok written ∧ after = closeEnded written event) ∨
        ¬ db.catalog.fixtures.Has event.fixtureProviderRef ∧ after = db)
      (ingestEvent (db.catalog.fixtures.rows.map Fixture.providerRef) count event) db := by
  unfold ingestEvent
  split
  · next known =>
      have has := (mem_map_iff_has _ _).mp known
      refine Upholds.bind (Upholds.attempt trivial fun _ _ => trivial) ?_
      rintro _ written _ done
      refine Upholds.bind (keeps_publish trivial) ?_
      rintro _ after _ rfl
      refine Upholds.bind (closeIfEnded_returns event) ?_
      exact fun _ closed _ same => Upholds.pure trivial (.inl ⟨has, after, done, same⟩)
  · next unknown =>
      exact Upholds.pure trivial (.inr ⟨fun has => unknown ((mem_map_iff_has _ _).mpr has), rfl⟩)

theorem ingestMarket_returns (count : ℕ) (market : NormalizedMarket) :
    Returns (fun _ after =>
        (db.catalog.events.Has market.eventProviderRef ∧ upsertMarket db market = .ok after) ∨
        ¬ db.catalog.events.Has market.eventProviderRef ∧ after = db)
      (ingestMarket (db.catalog.events.rows.map Event.providerRef) count market) db := by
  unfold ingestMarket
  split
  · next known =>
      refine Upholds.bind (Upholds.attempt trivial fun _ _ => trivial) ?_
      rintro _ after _ done
      exact Upholds.pure trivial (.inl ⟨(mem_map_iff_has _ _).mp known, done⟩)
  · next unknown =>
      exact Upholds.pure trivial (.inr ⟨fun has => unknown ((mem_map_iff_has _ _).mpr has), rfl⟩)

/-- Beside the selection, a step may record its odds. -/
theorem ingestSelection_returns (priceByRef : String → Option ℚ) (counts : ℕ × ℕ)
    (selection : NormalizedSelection) :
    Returns (fun _ after =>
        (db.catalog.markets.Has selection.marketProviderRef ∧
          ∃ written odds, upsertSelection db selection = .ok written ∧
            after = { written with catalog.oddsSnapshots := odds }) ∨
        ¬ db.catalog.markets.Has selection.marketProviderRef ∧ after = db)
      (ingestSelection (db.catalog.markets.rows.map Market.providerRef) priceByRef counts selection)
      db := by
  unfold ingestSelection
  split
  · next known =>
      have has := (mem_map_iff_has _ _).mp known
      split
      · exact Upholds.throw trivial
      · refine Upholds.bind (Upholds.attempt trivial fun _ _ => trivial) ?_
        rintro _ written _ done
        split
        · exact Upholds.pure trivial (.inl ⟨has, written, _, done, rfl⟩)
        · refine Upholds.bind (Upholds.attempt trivial fun _ _ => trivial) ?_
          rintro _ recorded _ made
          obtain ⟨odds, rfl⟩ := createOddsSnapshot_ok made
          refine Upholds.bind (keeps_publish trivial) ?_
          rintro _ after _ rfl
          exact Upholds.pure trivial (.inl ⟨has, written, odds, done, rfl⟩)
  · next unknown =>
      exact Upholds.pure trivial (.inr ⟨fun has => unknown ((mem_map_iff_has _ _).mpr has), rfl⟩)

end Steps

section Loops

variable {db : Database}

theorem closeEnded_events (db : Database) (event : NormalizedEvent) :
    (closeEnded db event).catalog.events = db.catalog.events := by
  unfold closeEnded
  split <;> rfl

theorem closeEnded_fixtures (db : Database) (event : NormalizedEvent) :
    (closeEnded db event).catalog.fixtures = db.catalog.fixtures := by
  unfold closeEnded
  split <;> rfl

theorem ingestEvents_returns (phase : List NormalizedEvent → Database → Prop)
    (step : ∀ event rest db written, phase (event :: rest) db →
      db.catalog.fixtures.Has event.fixtureProviderRef → upsertEvent db event = .ok written →
      phase rest (closeEnded written event))
    (skip : ∀ event rest db, phase (event :: rest) db →
      ¬ db.catalog.fixtures.Has event.fixtureProviderRef → phase rest db)
    {events : List NormalizedEvent} (start : phase events db) :
    Returns (fun _ after => phase [] after)
      (events.foldlM (ingestEvent (db.catalog.fixtures.rows.map Fixture.providerRef)) 0) db := by
  refine (Upholds.foldlM (fun rest _ now => now.catalog.fixtures = db.catalog.fixtures ∧
    phase rest now) ?_ trivial ⟨rfl, start⟩).mono fun _ _ held => held.2
  rintro event rest count now _ ⟨fixtures, held⟩
  rw [← fixtures]
  refine (ingestEvent_returns count event).mono ?_
  rintro _ after (⟨has, written, done, rfl⟩ | ⟨hasNot, rfl⟩)
  · refine ⟨?_, step event rest now written held has done⟩
    rw [closeEnded_fixtures, upsertEvent_ok done]
  · exact ⟨rfl, skip event rest after held hasNot⟩

theorem ingestMarkets_returns (phase : List NormalizedMarket → Database → Prop)
    (step : ∀ market rest db after, phase (market :: rest) db →
      db.catalog.events.Has market.eventProviderRef → upsertMarket db market = .ok after →
      phase rest after)
    (skip : ∀ market rest db, phase (market :: rest) db →
      ¬ db.catalog.events.Has market.eventProviderRef → phase rest db)
    {markets : List NormalizedMarket} (start : phase markets db) :
    Returns (fun _ after => phase [] after)
      (markets.foldlM (ingestMarket (db.catalog.events.rows.map Event.providerRef)) 0) db := by
  refine (Upholds.foldlM (fun rest _ now => now.catalog.events = db.catalog.events ∧
    phase rest now) ?_ trivial ⟨rfl, start⟩).mono fun _ _ held => held.2
  rintro market rest count now _ ⟨events, held⟩
  rw [← events]
  refine (ingestMarket_returns count market).mono ?_
  rintro _ after (⟨has, done⟩ | ⟨hasNot, rfl⟩)
  · refine ⟨?_, step market rest now after held has done⟩
    obtain ⟨line, _, rfl⟩ := upsertMarket_ok done
    rfl
  · exact ⟨rfl, skip market rest after held hasNot⟩

theorem ingestSelections_returns (phase : List NormalizedSelection → Database → Prop)
    (step : ∀ selection rest db written odds, phase (selection :: rest) db →
      db.catalog.markets.Has selection.marketProviderRef →
      upsertSelection db selection = .ok written →
      phase rest { written with catalog.oddsSnapshots := odds })
    (skip : ∀ selection rest db, phase (selection :: rest) db →
      ¬ db.catalog.markets.Has selection.marketProviderRef → phase rest db)
    {selections : List NormalizedSelection} (priceByRef : String → Option ℚ)
    (start : phase selections db) :
    Returns (fun _ after => phase [] after)
      (selections.foldlM
        (ingestSelection (db.catalog.markets.rows.map Market.providerRef) priceByRef) (0, 0)) db := by
  refine (Upholds.foldlM (fun rest _ now => now.catalog.markets = db.catalog.markets ∧
    phase rest now) ?_ trivial ⟨rfl, start⟩).mono fun _ _ held => held.2
  rintro selection rest counts now _ ⟨markets, held⟩
  rw [← markets]
  refine (ingestSelection_returns priceByRef counts selection).mono ?_
  rintro _ after (⟨has, written, odds, done, rfl⟩ | ⟨hasNot, rfl⟩)
  · refine ⟨?_, step selection rest now written odds held has done⟩
    obtain ⟨price, rfl⟩ := upsertSelection_ok done
    rfl
  · exact ⟨rfl, skip selection rest after held hasNot⟩

/-- The live phase: its three loops one after the other. -/
theorem ingestLiveData_returns (snapshot : ProviderSnapshot)
    (afterEvents afterMarkets afterSelections : Database → Prop)
    (first : Returns (fun _ after => afterEvents after) (snapshot.events.foldlM
      (ingestEvent (db.catalog.fixtures.rows.map Fixture.providerRef)) 0) db)
    (second : ∀ db, afterEvents db → Returns (fun _ after => afterMarkets after)
      (snapshot.markets.foldlM
        (ingestMarket (db.catalog.events.rows.map Event.providerRef)) 0) db)
    (third : ∀ db prices, afterMarkets db → Returns (fun _ after => afterSelections after)
      (snapshot.selections.foldlM
        (ingestSelection (db.catalog.markets.rows.map Market.providerRef) prices) (0, 0)) db) :
    Returns (fun _ after => afterSelections after) (ingestLiveData snapshot) db := by
  unfold ingestLiveData
  refine Upholds.bind (Upholds.read trivial) ?_
  rintro _ now _ ⟨rfl, rfl⟩
  refine Upholds.bind first fun _ now _ held => ?_
  refine Upholds.bind (Upholds.read trivial) ?_
  rintro _ now' _ ⟨rfl, rfl⟩
  refine Upholds.bind (second _ held) fun _ now _ held => ?_
  refine Upholds.bind (Upholds.read trivial) ?_
  rintro _ now' _ ⟨rfl, rfl⟩
  refine Upholds.bind (Upholds.read trivial) ?_
  rintro prices now' _ ⟨rfl, rfl⟩
  exact Upholds.bind (third _ _ held) fun _ _ _ held => Upholds.pure trivial held

end Loops

end SportsBetting.Ingestion
