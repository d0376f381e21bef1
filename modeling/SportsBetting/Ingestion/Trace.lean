import SportsBetting.Ingestion.Runs

/-!
# Where the rows of a run come from

Wherever a run stops, every event, market and selection is one stored before
the run, possibly settled since, or one that the snapshot lists. The events are
written first, then the markets, then the selections.
-/

namespace SportsBetting.Ingestion

open Async Text

/-- The events of stored markets are stored. -/
def Linked (db : Database) : Prop :=
  ∀ market ∈ db.catalog.markets, ∃ event ∈ db.catalog.events, event.providerRef = market.event

section Origins

variable (before : Database) (snapshot : ProviderSnapshot)

def KeptMarket (market : Market) : Prop :=
  ∃ old ∈ before.catalog.markets, market = old ∨ market = { old with status := .settled }

def KeptSelection (selection : Selection) : Prop :=
  ∃ old ∈ before.catalog.selections, selection = old ∨ selection = { old with status := .settled }

def ListedMarket (market : Market) : Prop :=
  ∃ listed ∈ snapshot.markets, ∃ line, lineColumn listed.line = .ok line ∧
    market = marketRow listed line

def ListedSelection (selection : Selection) : Prop :=
  ∃ listed ∈ snapshot.selections, ∃ price, selection = selectionRow listed price

/-- A kept market that the snapshot lists is listed for an unknown event, or still
to be written. -/
def Written (rest : List NormalizedMarket) (db : Database) : Prop :=
  ∀ market ∈ db.catalog.markets, ListedMarket snapshot market ∨ KeptMarket before market ∧
    ∀ listed ∈ snapshot.markets, listed.providerRef = market.providerRef → listed ∈ rest ∨
      ∀ event ∈ db.catalog.events, event.providerRef ≠ listed.eventProviderRef

end Origins

/-- The events of a run, where `purged` holds of the fixtures it may delete. -/
structure TracedEvents (purged : String → Prop) (snapshot : ProviderSnapshot)
    (before after : Database) : Prop where
  events : ∀ event ∈ after.catalog.events, event ∈ before.catalog.events ∨
    ∃ listed ∈ snapshot.events, event = eventRow listed
  stay : ∀ event ∈ before.catalog.events, purged event.fixture ∨
    ∃ later ∈ after.catalog.events, later.providerRef = event.providerRef
  linked : Linked before → Linked after

/-- The games after a run. Selections are written when all markets have been. -/
structure Traced (purged : String → Prop) (snapshot : ProviderSnapshot)
    (before after : Database) : Prop extends TracedEvents purged snapshot before after where
  markets : ∀ market ∈ after.catalog.markets,
    KeptMarket before market ∨ ListedMarket snapshot market
  selections : (∀ selection ∈ after.catalog.selections, KeptSelection before selection) ∨
    Written before snapshot [] after ∧ ∀ selection ∈ after.catalog.selections,
      KeptSelection before selection ∨ ListedSelection snapshot selection

theorem Traced.selection_cases {purged : String → Prop} {snapshot : ProviderSnapshot}
    {before after : Database} (traced : Traced purged snapshot before after) {selection : Selection}
    (stored : selection ∈ after.catalog.selections) :
    KeptSelection before selection ∨ ListedSelection snapshot selection := by
  rcases traced.selections with kept | ⟨_, either⟩
  · exact .inl (kept selection stored)
  · exact either selection stored

section Settling

variable {before : Database}

theorem KeptMarket.settle {market : Market} (kept : KeptMarket before market) :
    KeptMarket before { market with status := .settled } := by
  obtain ⟨old, stored, rfl | rfl⟩ := kept
  · exact ⟨market, stored, .inr rfl⟩
  · exact ⟨old, stored, .inr rfl⟩

theorem KeptSelection.settle {selection : Selection} (kept : KeptSelection before selection) :
    KeptSelection before { selection with status := .settled } := by
  obtain ⟨old, stored, rfl | rfl⟩ := kept
  · exact ⟨selection, stored, .inr rfl⟩
  · exact ⟨old, stored, .inr rfl⟩

/-- An open row was not settled, so it is stored as it was. -/
theorem KeptMarket.of_open {market : Market} (kept : KeptMarket before market)
    (isOpen : market.status = .open) : market ∈ before.catalog.markets := by
  obtain ⟨old, stored, rfl | rfl⟩ := kept
  · exact stored
  · cases isOpen

theorem KeptSelection.of_open {selection : Selection} (kept : KeptSelection before selection)
    (isOpen : selection.status = .open) : selection ∈ before.catalog.selections := by
  obtain ⟨old, stored, rfl | rfl⟩ := kept
  · exact stored
  · cases isOpen

end Settling

section Phases

variable {purged : String → Prop} {snapshot : ProviderSnapshot} {before : Database}

/-- Until the markets are written, all markets and selections are kept ones. -/
structure EventPhase (purged : String → Prop) (snapshot : ProviderSnapshot)
    (before db : Database) : Prop extends TracedEvents purged snapshot before db where
  markets : ∀ market ∈ db.catalog.markets, KeptMarket before market
  selections : ∀ selection ∈ db.catalog.selections, KeptSelection before selection

theorem EventPhase.traced {db : Database} (phase : EventPhase purged snapshot before db) :
    Traced purged snapshot before db where
  toTracedEvents := phase.toTracedEvents
  markets market stored := .inl (phase.markets market stored)
  selections := .inl phase.selections

/-- While the markets are written, with `rest` still to come. -/
structure MarketPhase (purged : String → Prop) (snapshot : ProviderSnapshot)
    (before : Database) (eventRefs : List String) (rest : List NormalizedMarket) (db : Database) :
    Prop extends TracedEvents purged snapshot before db where
  known : db.catalog.events.rows.map Event.providerRef = eventRefs
  written : Written before snapshot rest db
  selections : ∀ selection ∈ db.catalog.selections, KeptSelection before selection

theorem MarketPhase.traced {eventRefs : List String} {rest : List NormalizedMarket}
    {db : Database} (phase : MarketPhase purged snapshot before eventRefs rest db) :
    Traced purged snapshot before db where
  toTracedEvents := phase.toTracedEvents
  markets market stored := (phase.written market stored).symm.imp_left And.left
  selections := .inl phase.selections

/-- While the selections are written. -/
structure SelectionPhase (purged : String → Prop) (snapshot : ProviderSnapshot)
    (before db : Database) : Prop extends TracedEvents purged snapshot before db where
  written : Written before snapshot [] db
  selections : ∀ selection ∈ db.catalog.selections,
    KeptSelection before selection ∨ ListedSelection snapshot selection

theorem SelectionPhase.traced {db : Database} (phase : SelectionPhase purged snapshot before db) :
    Traced purged snapshot before db where
  toTracedEvents := phase.toTracedEvents
  markets market stored := (phase.written market stored).symm.imp_left And.left
  selections := .inr ⟨phase.written, phase.selections⟩

end Phases

section Writes

variable {purged : String → Prop} {snapshot : ProviderSnapshot} {before db after : Database}

theorem TracedEvents.of_games (traced : TracedEvents purged snapshot before db)
    (same : SameGames db after) : TracedEvents purged snapshot before after where
  events := by rw [same.events]; exact traced.events
  stay := by rw [same.events]; exact traced.stay
  linked start := by
    unfold Linked
    rw [same.events, same.markets]
    exact traced.linked start

theorem EventPhase.upsertEvent (phase : EventPhase purged snapshot before db)
    {event : NormalizedEvent} (listed : event ∈ snapshot.events)
    (done : upsertEvent db event = .ok after) : EventPhase purged snapshot before after := by
  obtain rfl := upsertEvent_ok done
  constructor
  · constructor
    · intro row stored
      rcases Table.mem_put.mp stored with rfl | ⟨old, _⟩
      · exact .inr ⟨event, listed, rfl⟩
      · exact phase.events row old
    · intro row stored
      refine (phase.stay row stored).imp_right ?_
      rintro ⟨later, present, same⟩
      exact Table.Has.put ⟨later, present, same⟩ (eventRow event)
    · intro start market stored
      obtain ⟨old, present, same⟩ := phase.linked start market stored
      exact Table.Has.put ⟨old, present, same⟩ (eventRow event)
  · exact phase.markets
  · exact phase.selections

theorem EventPhase.settleMarkets (phase : EventPhase purged snapshot before db)
    (eventRef : String) : EventPhase purged snapshot before (settleMarkets db eventRef) := by
  constructor
  · refine ⟨phase.events, phase.stay, fun start market stored => ?_⟩
    rcases mem_settleMarkets stored with ⟨old, present, _, rfl⟩ | ⟨old, _⟩
    · exact phase.linked start old present
    · exact phase.linked start market old
  · intro market stored
    rcases mem_settleMarkets stored with ⟨old, present, _, rfl⟩ | ⟨old, _⟩
    · exact (phase.markets old present).settle
    · exact phase.markets market old
  · exact phase.selections

theorem EventPhase.settleSelections (phase : EventPhase purged snapshot before db)
    (eventRef : String) : EventPhase purged snapshot before (settleSelections db eventRef) := by
  constructor
  · exact ⟨phase.events, phase.stay, phase.linked⟩
  · exact phase.markets
  · intro selection stored
    rcases mem_settleSelections stored with ⟨old, present, _, rfl⟩ | ⟨old, _⟩
    · exact (phase.selections old present).settle
    · exact phase.selections selection old

theorem MarketPhase.upsertMarket {eventRefs : List String} {market : NormalizedMarket}
    {rest : List NormalizedMarket}
    (phase : MarketPhase purged snapshot before eventRefs (market :: rest) db)
    (listed : market ∈ snapshot.markets) (known : market.eventProviderRef ∈ eventRefs)
    (done : upsertMarket db market = .ok after) :
    MarketPhase purged snapshot before eventRefs rest after := by
  obtain ⟨line, column, rfl⟩ := upsertMarket_ok done
  constructor
  · refine ⟨phase.events, phase.stay, fun start row stored => ?_⟩
    rcases Table.mem_put.mp stored with rfl | ⟨old, _⟩
    · rw [← phase.known] at known
      obtain ⟨event, present, same⟩ := List.mem_map.mp known
      exact ⟨event, present, same⟩
    · exact phase.linked start row old
  · exact phase.known
  · intro row stored
    rcases Table.mem_put.mp stored with rfl | ⟨old, differs⟩
    · exact .inl ⟨market, listed, line, column, rfl⟩
    · refine (phase.written row old).imp_right (And.imp_right fun relisted other mem same => ?_)
      refine (relisted other mem same).imp_left fun position => ?_
      rcases List.mem_cons.mp position with rfl | later
      · exact absurd same.symm differs
      · exact later
  · exact phase.selections

theorem MarketPhase.skip {eventRefs : List String} {market : NormalizedMarket}
    {rest : List NormalizedMarket}
    (phase : MarketPhase purged snapshot before eventRefs (market :: rest) db)
    (unknown : market.eventProviderRef ∉ eventRefs) :
    MarketPhase purged snapshot before eventRefs rest db := by
  refine ⟨phase.toTracedEvents, phase.known, fun row stored => ?_, phase.selections⟩
  refine (phase.written row stored).imp_right (And.imp_right fun relisted other mem same => ?_)
  rcases relisted other mem same with position | absent
  · rcases List.mem_cons.mp position with rfl | later
    · refine .inr fun event present named => unknown ?_
      rw [← phase.known]
      exact List.mem_map.mpr ⟨event, present, named⟩
    · exact .inl later
  · exact .inr absent

theorem SelectionPhase.of_games (phase : SelectionPhase purged snapshot before db)
    (same : SameGames db after) : SelectionPhase purged snapshot before after where
  toTracedEvents := phase.toTracedEvents.of_games same
  written := by
    unfold Written
    rw [same.events, same.markets]
    exact phase.written
  selections := by rw [same.selections]; exact phase.selections

theorem SelectionPhase.upsertSelection (phase : SelectionPhase purged snapshot before db)
    {selection : NormalizedSelection} (listed : selection ∈ snapshot.selections)
    (done : upsertSelection db selection = .ok after) :
    SelectionPhase purged snapshot before after := by
  obtain ⟨price, rfl⟩ := upsertSelection_ok done
  constructor
  · exact ⟨phase.events, phase.stay, phase.linked⟩
  · exact phase.written
  · intro row stored
    rcases Table.mem_put.mp stored with rfl | ⟨old, _⟩
    · exact .inr ⟨selection, listed, price, rfl⟩
    · exact phase.selections row old

end Writes

/-- The live phase, from a state in which all rows are kept ones. -/
theorem traced_ingestLiveData {purged : String → Prop} {snapshot : ProviderSnapshot}
    {before db : Database} (start : EventPhase purged snapshot before db) :
    Keeps (Traced purged snapshot before) (fun _ _ => True) (ingestLiveData snapshot) db := by
  unfold ingestLiveData
  refine Upholds.bind (Upholds.read start.traced) ?_
  rintro fixtureRefs after _ ⟨same, _⟩
  subst after
  have events := keeps_ingestEvents snapshot
    (fun event listed db _ (phase : EventPhase purged snapshot before db) done =>
      phase.upsertEvent listed done)
    (fun event _ _ db phase => phase.settleMarkets event.providerRef)
    (fun event _ _ db phase => phase.settleSelections event.providerRef) fixtureRefs start
  refine Upholds.bind (Upholds.weaken (fun _ phase => phase.traced) start events) ?_
  rintro _ db kept ⟨phase, _⟩
  refine Upholds.bind (Upholds.read kept) ?_
  rintro eventRefs after _ ⟨same, known⟩
  subst after
  have unwritten : MarketPhase purged snapshot before eventRefs snapshot.markets db :=
    ⟨phase.toTracedEvents, known.symm, fun market stored => .inr ⟨phase.markets market stored,
      fun listed member _ => .inl member⟩, phase.selections⟩
  refine Upholds.bind (keeps_ingestMarkets snapshot (MarketPhase purged snapshot before eventRefs)
    (fun _ _ phase => phase.traced) eventRefs
    (fun market rest db after listed known phase done => phase.upsertMarket listed known done)
    (fun market rest db unknown phase => phase.skip unknown) unwritten) ?_
  rintro _ db kept phase
  refine Upholds.bind (Upholds.read kept) ?_
  rintro marketRefs after _ ⟨same, _⟩
  subst after
  refine Upholds.bind (Upholds.read kept) ?_
  rintro prices after _ ⟨same, _⟩
  subst after
  have unsold : SelectionPhase purged snapshot before db :=
    ⟨phase.toTracedEvents, phase.written, fun selection stored =>
      .inl (phase.selections selection stored)⟩
  have selections := keeps_ingestSelections snapshot marketRefs
    (fun ref => (prices.get? ref).map fun row => row.price.value)
    (fun db odds (phase : SelectionPhase purged snapshot before db) =>
      phase.of_games (onward_oddsSnapshots db odds).toSameGames)
    (fun selection listed _ db after phase done => phase.upsertSelection listed done) unsold
  refine Upholds.bind (Upholds.weaken (fun _ phase => phase.traced) unsold selections) ?_
  exact fun _ _ kept _ => Upholds.pure kept trivial

section Purge

theorem SameGames.refl (db : Database) : SameGames db db := ⟨rfl, rfl, rfl, rfl⟩

theorem SameGames.trans {first second third : Database} (former : SameGames first second)
    (latter : SameGames second third) : SameGames first third :=
  ⟨latter.events.trans former.events, latter.markets.trans former.markets,
    latter.selections.trans former.selections, latter.ledger.trans former.ledger⟩

theorem SameGames.eventPhase {purged : String → Prop} {snapshot : ProviderSnapshot}
    {before db : Database} (same : SameGames before db) :
    EventPhase purged snapshot before db where
  events event stored := .inl (by rwa [same.events] at stored)
  stay event stored := .inr ⟨event, by rwa [same.events], rfl⟩
  linked start := by
    unfold Linked
    rwa [same.events, same.markets]
  markets market stored := ⟨market, by rwa [same.markets] at stored, .inl rfl⟩
  selections selection stored := ⟨selection, by rwa [same.selections] at stored, .inl rfl⟩

theorem SameGames.fixtureHasActiveBets {before db : Database} (same : SameGames before db)
    (ref : String) : fixtureHasActiveBets db ref = fixtureHasActiveBets before ref := by
  unfold Ingestion.fixtureHasActiveBets betsOn fixtureOfSelection
  rw [same.events, same.markets, same.selections, same.ledger]

/-- A purge deletes events with their fixture, and markets and selections with their event. -/
theorem EventPhase.purge {purged : String → Prop} {snapshot : ProviderSnapshot}
    {before db : Database} (same : SameGames before db) {fixtures : List String} (ledger : Ledger)
    (chosen : ∀ ref ∈ fixtures, purged ref) :
    EventPhase purged snapshot before
      { db with ledger, catalog := cascadeFixtures fixtures db.catalog } := by
  have start : EventPhase purged snapshot before db := same.eventPhase
  constructor
  · constructor
    · exact fun event stored => start.events event (Table.mem_deleteWhere.mp stored).1
    · intro event stored
      by_cases gone : event.fixture ∈ fixtures
      · exact .inl (chosen _ gone)
      · refine .inr ⟨event, Table.mem_deleteWhere.mpr ⟨?_, by simpa using gone⟩, rfl⟩
        rwa [same.events]
    · intro linked market stored
      obtain ⟨stored, stays⟩ := Table.mem_deleteWhere.mp stored
      obtain ⟨event, present, on⟩ := start.linked linked market stored
      refine ⟨event, Table.mem_deleteWhere.mpr ⟨present, ?_⟩, on⟩
      simpa only [← on, Table.get?_of_mem present] using stays
  · exact fun market stored => start.markets market (Table.mem_deleteWhere.mp stored).1
  · exact fun selection stored => start.selections selection (Table.mem_deleteWhere.mp stored).1

end Purge

namespace IngestRun

variable (runtime : Runtime) (isOddsApi : Bool) (run : IngestRun)

/-- The run may delete the fixture. -/
def Purges (snapshot : ProviderSnapshot) (db : Database) (fixtureRef : String) : Prop :=
  run.mayPurge isOddsApi = true ∧ staleFixture snapshot fixtureRef = true ∧
    fixtureHasActiveBets db fixtureRef = false

/-- What a run can do to the games, wherever it stops. -/
def Reaches (db after : Database) : Prop :=
  SameGames db after ∨ ∃ snapshot, run.Fetches db snapshot ∧
    Traced (run.Purges isOddsApi snapshot db) snapshot db after

theorem result_reaches (moves : List (Move databaseMachine)) (db : Database) :
    run.Reaches isOddsApi db (Session.result ⟨run.program runtime isOddsApi, moves⟩ db) := by
  refine (result_upholds (run.Reaches isOddsApi db) runtime isOddsApi
    (fun snapshot after => run.Fetches db snapshot ∧ SameGames db after)
    (fun snapshot after => run.Fetches db snapshot ∧
      EventPhase (run.Purges isOddsApi snapshot db) snapshot db after) (fun _ _ => True)
    ?_ ?_ ?_ run ?_ ?_ moves ?_ ?_).1
  · rintro snapshot first second onward ⟨fetched, start⟩
    exact ⟨fetched, start.trans onward.toSameGames⟩
  · rintro snapshot after ⟨fetched, start⟩
    exact ⟨fetched, start.eventPhase⟩
  · rintro snapshot after ⟨fetched, phase⟩
    exact .inr ⟨snapshot, fetched, phase.traced⟩
  · rintro purges snapshot after fixtures ledger ⟨fetched, start⟩ chosen
    refine ⟨fetched, EventPhase.purge start ledger fun ref member => ⟨purges, ?_⟩⟩
    obtain ⟨stale, idle⟩ := chosen ref member
    exact ⟨stale, by rwa [start.fixtureHasActiveBets] at idle⟩
  · rintro snapshot after ⟨fetched, phase⟩
    exact (Upholds.weaken (fun _ traced => .inr ⟨snapshot, fetched, traced⟩) phase.traced
      (traced_ingestLiveData phase)).mono fun _ _ _ => trivial
  · exact .inl (SameGames.refl db)
  · exact fun snapshot fetched => ⟨fetched, SameGames.refl db⟩

end IngestRun

section Histories

variable (runtime : Runtime) (isOddsApi : Bool)
  (condition : IngestRun → ProviderSnapshot → Database → Prop)

/-- The session is an ingest run that meets the condition with the snapshot it applies. -/
def Meets (db : Database) (session : Session databaseMachine) : Prop :=
  ∃ run : IngestRun, session.program = run.program runtime isOddsApi ∧
    ∀ snapshot, run.Fetches db snapshot → condition run snapshot db

variable {runtime isOddsApi condition}

/-- What every traced run keeps holds after any history. -/
theorem history_keeps {holds : Database → Prop}
    (games : ∀ db after, SameGames db after → holds db → holds after)
    (traced : ∀ run snapshot db after, condition run snapshot db →
      Traced (run.Purges isOddsApi snapshot db) snapshot db after → holds db → holds after)
    {sessions : List (Session databaseMachine)} {db : Database} (start : holds db)
    (each : Session.Each (Meets runtime isOddsApi condition) sessions db) :
    holds (Session.runAll sessions db) := by
  apply Session.runAll_preserves ?_ start each
  rintro db ⟨program, moves⟩ held ⟨run, same, meets⟩
  obtain rfl : program = run.program runtime isOddsApi := same
  rcases run.result_reaches runtime isOddsApi moves db with same | ⟨snapshot, fetched, reached⟩
  · exact games db _ same held
  · exact traced run snapshot db _ (meets snapshot fetched) reached held

end Histories

end SportsBetting.Ingestion
