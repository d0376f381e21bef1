import SportsBetting.Feed.WellFormed
import SportsBetting.Ingestion.Finished
import SportsBetting.Ingestion.Stored

/-!
# Fixtures and events end together

Both tables say where a game stands, and polling asks both. A results run writes the events
alone, so the two agree only as long as the results say what the fixtures say already.
-/

namespace SportsBetting.Ingestion

open Async OddsApi Text

section Scope

def LIVE_GAME_SCOPE (db : Database) (fixture : Fixture) : Bool :=
  fixture.status = .live || db.catalog.events.rows.any fun event =>
    event.fixture = fixture.providerRef && event.status = .live

/-- What a tick polls: live games, and games that start soon. -/
def pollScope (now prestartMinutes : ℤ) (db : Database) (fixture : Fixture) : Bool :=
  LIVE_GAME_SCOPE db fixture || (0 < prestartMinutes && fixture.status = .scheduled &&
    now ≤ fixture.startsAt && fixture.startsAt ≤ now + prestartMinutes * 60000)

def hasLiveGames (db : Database) : Bool := db.catalog.fixtures.rows.any (LIVE_GAME_SCOPE db)

theorem liveSportKeys_eq (now prestartMinutes : ℤ) (db : Database) :
    liveSportKeys now prestartMinutes db = ((db.catalog.fixtures.rows.filter
      (pollScope now prestartMinutes db)).map Fixture.league).dedup.insertionSort (· ≤ ·) := rfl

end Scope

section Invariant

/-- The event and the fixture are both ended or both not. -/
def Agrees (event : EventStatus) (fixture : FixtureStatus) : Prop :=
  event = .ended ↔ fixture = .ended

theorem agrees_of_same {event : EventStatus} {fixture : FixtureStatus}
    (same : SameStatus fixture event) : Agrees event fixture := by
  cases same <;> simp [Agrees]

def EndedTogether (db : Database) : Prop :=
  ∀ event ∈ db.catalog.events, ∀ fixture ∈ db.catalog.fixtures,
    fixture.providerRef = event.fixture → Agrees event.status fixture.status

/-- Every fixture has its event. -/
def Hosted (db : Database) : Prop :=
  ∀ fixture ∈ db.catalog.fixtures, ∃ event ∈ db.catalog.events, event.fixture = fixture.providerRef

structure Lifecycle (db : Database) : Prop where
  filed : Filed db
  together : EndedTogether db
  hosted : Hosted db

/-- The events that the snapshot lists end where the stored fixtures have ended. -/
def ResultsAgree (snapshot : ProviderSnapshot) (db : Database) : Prop :=
  ∀ event ∈ snapshot.events, ∀ fixture ∈ db.catalog.fixtures,
    fixture.providerRef = event.fixtureProviderRef → Agrees event.status fixture.status

instance (event : EventStatus) (fixture : FixtureStatus) : Decidable (Agrees event fixture) :=
  inferInstanceAs (Decidable (_ ↔ _))

variable {db after : Database}

/-- A finished game is not polled. -/
theorem Lifecycle.uncounted (lifecycle : Lifecycle db) {event : Event} {fixture : Fixture}
    (stored : event ∈ db.catalog.events) (past : event.status = .ended)
    (present : fixture ∈ db.catalog.fixtures) (of : fixture.providerRef = event.fixture)
    (now prestartMinutes : ℤ) : pollScope now prestartMinutes db fixture = false := by
  have ended : fixture.status = .ended := (lifecycle.together event stored fixture present of).mp past
  have only : ∀ other ∈ db.catalog.events, other.fixture = fixture.providerRef →
      other.status ≠ .live := by
    intro other there on
    have same : other.providerRef = event.providerRef := by
      rw [← (lifecycle.filed.events other there).1, on, of, (lifecycle.filed.events event stored).1]
    rw [Table.eq_of_key there stored same, past]
    exact nofun
  have quiet : (db.catalog.events.rows.any fun event =>
      event.fixture = fixture.providerRef && event.status = .live) = false := by
    simpa [Table.mem_rows] using only
  simp [pollScope, LIVE_GAME_SCOPE, ended, quiet]

/-- Once all games are finished nothing is polled any more. -/
theorem Lifecycle.stops (lifecycle : Lifecycle db)
    (all : ∀ event ∈ db.catalog.events, event.status = .ended) :
    hasLiveGames db = false ∧ ∀ now prestartMinutes, liveSportKeys now prestartMinutes db = [] := by
  have none : ∀ now prestartMinutes, ∀ fixture ∈ db.catalog.fixtures,
      pollScope now prestartMinutes db fixture = false := by
    intro now prestartMinutes fixture present
    obtain ⟨event, stored, of⟩ := lifecycle.hosted fixture present
    exact lifecycle.uncounted stored (all event stored) present of.symm now prestartMinutes
  constructor
  · rw [hasLiveGames, List.any_eq_false]
    intro fixture present
    have out := none 0 0 fixture present
    simpa [pollScope] using out
  · intro now prestartMinutes
    rw [liveSportKeys_eq, List.filter_eq_nil_iff.mpr]
    · rfl
    · intro fixture present
      simp [none now prestartMinutes fixture present]

end Invariant

section LivePhase

variable {snapshot : ProviderSnapshot} {db after : Database}

/-- The events of the snapshot but for the remaining ones have replaced what was there. -/
structure Replaced (snapshot : ProviderSnapshot) (rest : List NormalizedEvent)
    (db after : Database) : Prop where
  fixtures : after.catalog.fixtures = db.catalog.fixtures
  listed : rest ⊆ snapshot.events
  written : ∀ event ∈ snapshot.events, event ∉ rest →
    db.catalog.fixtures.Has event.fixtureProviderRef → eventRow event ∈ after.catalog.events
  rows : ∀ row ∈ after.catalog.events, (∃ event ∈ snapshot.events, row = eventRow event) ∨
    row ∈ db.catalog.events ∧ ∀ event ∈ snapshot.events, event ∉ rest →
      event.providerRef ≠ row.providerRef
  kept : ∀ row ∈ db.catalog.events,
    (∀ event ∈ snapshot.events, event.providerRef ≠ row.providerRef) → row ∈ after.catalog.events

theorem Replaced.refl (snapshot : ProviderSnapshot) (db : Database) :
    Replaced snapshot snapshot.events db db where
  fixtures := rfl
  listed := List.Subset.refl _
  written _ member passed := absurd member passed
  rows _ stored := .inr ⟨stored, fun _ member passed => absurd member passed⟩
  kept _ stored _ := stored

theorem Replaced.event {rest : List NormalizedEvent} {event : NormalizedEvent} {now : Database}
    (coherent : Coherent snapshot) (replaced : Replaced snapshot (event :: rest) db now)
    (done : upsertEvent now event = .ok after) :
    Replaced snapshot rest db (closeEnded after event) := by
  obtain ⟨here, later⟩ := List.cons_subset.mp replaced.listed
  obtain rfl := upsertEvent_ok done
  refine ⟨(closeEnded_fixtures _ event).trans replaced.fixtures, later, ?_, ?_, ?_⟩
  · intro other member passed known
    rw [closeEnded_events]
    by_cases same : other = event
    · rw [same]
      exact Table.mem_put_self _ _
    · refine Table.mem_put.mpr (.inr ⟨replaced.written other member (by simp [same, passed]) known,
        fun ref => same (coherent.event_eq member here ref)⟩)
  · intro row stored
    rw [closeEnded_events] at stored
    rcases Table.mem_put.mp stored with rfl | ⟨old, differs⟩
    · exact .inl ⟨event, here, rfl⟩
    · refine (replaced.rows row old).imp_right fun kept => ⟨kept.1, fun other member passed => ?_⟩
      by_cases same : other = event
      · rw [same]
        exact fun ref => differs ref.symm
      · exact kept.2 other member (by simp [same, passed])
  · intro row stored unlisted
    rw [closeEnded_events]
    exact Table.mem_put.mpr (.inr ⟨replaced.kept row stored unlisted, (unlisted event here).symm⟩)

/-- An event without a fixture is not stored, so it replaces nothing. -/
theorem Replaced.skip {rest : List NormalizedEvent} {event : NormalizedEvent} {now : Database}
    (coherent : Coherent snapshot) (filed : Filed db)
    (replaced : Replaced snapshot (event :: rest) db now)
    (unknown : ¬ now.catalog.fixtures.Has event.fixtureProviderRef) :
    Replaced snapshot rest db now := by
  obtain ⟨here, later⟩ := List.cons_subset.mp replaced.listed
  rw [replaced.fixtures] at unknown
  refine ⟨replaced.fixtures, later, ?_, ?_, replaced.kept⟩
  · intro other member passed known
    by_cases same : other = event
    · exact absurd (same ▸ known) unknown
    · exact replaced.written other member (by simp [same, passed]) known
  · intro row stored
    refine (replaced.rows row stored).imp_right fun kept => ⟨kept.1, fun other member passed => ?_⟩
    by_cases same : other = event
    · intro ref
      apply unknown
      rw [(coherent.events event here).1, ← same, ref]
      exact (filed.events row kept.1).2
    · exact kept.2 other member (by simp [same, passed])

theorem Replaced.frame {rest : List NormalizedEvent} {now : Database}
    (replaced : Replaced snapshot rest db now) (later : Database)
    (fixtures : later.catalog.fixtures = now.catalog.fixtures)
    (events : later.catalog.events = now.catalog.events) : Replaced snapshot rest db later := by
  refine ⟨fixtures.trans replaced.fixtures, replaced.listed, ?_, ?_, ?_⟩ <;> rw [events]
  · exact replaced.written
  · exact replaced.rows
  · exact replaced.kept

/-- The live phase replaces the events that the snapshot lists, and no other. -/
theorem ingestLiveData_replaces (coherent : Coherent snapshot) (filed : Filed db) :
    Returns (fun _ after => Replaced snapshot [] db after) (ingestLiveData snapshot) db := by
  refine ingestLiveData_returns snapshot (Replaced snapshot [] db) (Replaced snapshot [] db)
    (Replaced snapshot [] db) (ingestEvents_returns (fun rest => Replaced snapshot rest db)
      ?_ ?_ (Replaced.refl snapshot db)) ?_ ?_
  · exact fun event rest now after replaced _ done => replaced.event coherent done
  · exact fun event rest now replaced unknown => replaced.skip coherent filed unknown
  · intro now replaced
    refine ingestMarkets_returns (fun _ => Replaced snapshot [] db) ?_ (fun _ _ _ held _ => held)
      replaced
    intro market rest now after held _ done
    obtain ⟨line, _, rfl⟩ := upsertMarket_ok done
    exact held.frame _ rfl rfl
  · intro now prices replaced
    refine ingestSelections_returns (fun _ => Replaced snapshot [] db) ?_ (fun _ _ _ held _ => held)
      prices replaced
    intro selection rest now written odds held _ done
    obtain ⟨price, rfl⟩ := upsertSelection_ok done
    exact held.frame _ rfl rfl

/-- What the live phase needs of the database that it starts from. -/
structure Primed (snapshot : ProviderSnapshot) (db : Database) : Prop where
  filed : Filed db
  listed : ResultsAgree snapshot db
  elsewhere : ∀ row ∈ db.catalog.events,
    (∀ event ∈ snapshot.events, event.providerRef ≠ row.providerRef) →
    ∀ fixture ∈ db.catalog.fixtures, fixture.providerRef = row.fixture →
      Agrees row.status fixture.status
  hosted : ∀ fixture ∈ db.catalog.fixtures,
    (∃ row ∈ db.catalog.events, row.fixture = fixture.providerRef) ∨
    ∃ event ∈ snapshot.events, event.fixtureProviderRef = fixture.providerRef

theorem Primed.together (primed : Primed snapshot db) (replaced : Replaced snapshot [] db after) :
    EndedTogether after := by
  intro row stored fixture present of
  rw [replaced.fixtures] at present
  rcases replaced.rows row stored with ⟨event, listed, rfl⟩ | ⟨old, unlisted⟩
  · exact primed.listed event listed fixture present of
  · exact primed.elsewhere row old (fun event listed => unlisted event listed (by simp)) fixture
      present of

theorem Primed.hosts (coherent : Coherent snapshot) (primed : Primed snapshot db)
    (replaced : Replaced snapshot [] db after) : Hosted after := by
  intro fixture present
  rw [replaced.fixtures] at present
  have writes : ∀ event ∈ snapshot.events, event.fixtureProviderRef = fixture.providerRef →
      ∃ row ∈ after.catalog.events, row.fixture = fixture.providerRef := fun event listed of =>
    ⟨_, replaced.written event listed (by simp) ⟨fixture, present, of.symm⟩, of⟩
  by_cases again : ∃ event ∈ snapshot.events, event.fixtureProviderRef = fixture.providerRef
  · obtain ⟨event, listed, of⟩ := again
    exact writes event listed of
  · obtain ⟨row, stored, of⟩ := (primed.hosted fixture present).resolve_right again
    refine ⟨row, replaced.kept row stored fun event listed ref => again ⟨event, listed, ?_⟩, of⟩
    rw [(coherent.events event listed).1, ref, ← (primed.filed.events row stored).1, of]

/-- Where the live phase ends, the games agree if and only if its snapshot agreed with the
fixtures. -/
theorem together_iff (together : EndedTogether db)
    (replaced : Replaced snapshot [] db after) :
    EndedTogether after ↔ ResultsAgree snapshot db := by
  constructor
  · intro later event listed fixture present of
    have written := replaced.written event listed (by simp) ⟨fixture, present, of⟩
    exact later _ written fixture (replaced.fixtures ▸ present) of
  · intro agree row stored fixture present of
    rw [replaced.fixtures] at present
    rcases replaced.rows row stored with ⟨event, listed, rfl⟩ | ⟨old, _⟩
    · exact agree event listed fixture present of
    · exact together row old fixture present of

end LivePhase

section FixturesPhase

variable {snapshot : ProviderSnapshot} {db now after : Database}

theorem Primed.scheduled (wellFormed : WellFormed snapshot) (lifecycle : Lifecycle db)
    (filed : Filed after) (fixtures : now.catalog.fixtures = db.catalog.fixtures)
    (events : after.catalog.events = db.catalog.events)
    (scheduled : Scheduled snapshot.fixtures now after) : Primed snapshot after := by
  refine ⟨filed, ?_, ?_, ?_⟩
  · intro event listed fixture present of
    obtain ⟨own, shown, among, same, status⟩ := wellFormed.events event listed
    rcases scheduled.rows fixture present with ⟨given, member, ref, stored⟩ | ⟨_, unlisted⟩
    · have equal : given = shown := List.inj_on_of_nodup_map wellFormed.fixturesOnce member among
        (by rw [ref, of, own, same])
      rw [stored, equal]
      exact agrees_of_same status
    · exact absurd (by rw [same, of, own]) (unlisted shown among)
  · intro row stored unlisted fixture present of
    rw [events] at stored
    rcases scheduled.rows fixture present with ⟨given, member, ref, _⟩ | ⟨old, _⟩
    · obtain ⟨_, _, _, event, listed, same, _⟩ := wellFormed.fixtures given member
      refine absurd ?_ (unlisted event listed)
      rw [same, ref, of, (lifecycle.filed.events row stored).1]
    · exact lifecycle.together row stored fixture (fixtures ▸ old) of
  · intro fixture present
    rcases scheduled.rows fixture present with ⟨given, member, ref, _⟩ | ⟨old, _⟩
    · obtain ⟨_, _, _, event, listed, same, _⟩ := wellFormed.fixtures given member
      exact .inr ⟨event, listed, by rw [(wellFormed.events event listed).1, same, ref]⟩
    · rw [events]
      exact .inl (lifecycle.hosted fixture (fixtures ▸ old))

theorem Primed.purge (primed : Primed snapshot db) (ledger : Ledger) (fixtures : List String) :
    Primed snapshot { db with ledger, catalog := cascadeFixtures fixtures db.catalog } := by
  refine ⟨primed.filed.purge ledger fixtures, ?_, ?_, ?_⟩
  · intro event listed fixture present
    exact primed.listed event listed fixture (Table.mem_deleteWhere.mp present).1
  · intro row stored unlisted fixture present
    exact primed.elsewhere row (Table.mem_deleteWhere.mp stored).1 unlisted fixture
      (Table.mem_deleteWhere.mp present).1
  · intro fixture present
    obtain ⟨old, stays⟩ := Table.mem_deleteWhere.mp present
    refine (primed.hosted fixture old).imp_left ?_
    rintro ⟨row, stored, of⟩
    exact ⟨row, Table.mem_deleteWhere.mpr ⟨stored, by rw [of]; exact stays⟩, of⟩

end FixturesPhase

section Runs

variable {snapshot : ProviderSnapshot} {db : Database} {runtime : Runtime} {isOddsApi : Bool}

theorem Mapped.wellFormed (mapped : Mapped snapshot) : WellFormed snapshot := by
  obtain ⟨runtime, now, input, plain, rfl⟩ := mapped
  exact wellFormed_mapOddsApiToSnapshot runtime now plain

/-- A run may apply results only where they agree with the fixtures. -/
def IngestRun.Agreeing : IngestRun → Database → Prop
  | .results snapshot, db => ResultsAgree snapshot db
  | _, _ => True

/-- A complete run keeps games together, unless it is a results run that disagrees. -/
theorem together_returns (run : IngestRun) (fed : FromFeed db run) (lifecycle : Lifecycle db)
    (agreeing : run.Agreeing db) :
    Returns (fun _ after => EndedTogether after ∧ Hosted after) (run.program runtime isOddsApi) db := by
  refine run_returns run ?_ ?_ ?_ ?_
  · exact fun snapshot applies => (fed snapshot applies.fetches).coherent
  · exact fun _ => ⟨lifecycle.together, lifecycle.hosted⟩
  · intro snapshot applies now aside catalogued purgeStale α summary
    have mapped := fed snapshot applies.fetches
    have filed := lifecycle.filed.onward aside.toOnward
    refine Upholds.bind (upsertFixtures_holds runtime isOddsApi purgeStale mapped.coherent catalogued
      (fun after onward scheduled => Primed.scheduled mapped.wellFormed lifecycle
        (filed.onward onward.toOnward) aside.sameFixtures (onward.events.trans aside.events)
        scheduled)
      fun now ledger fixtures primed _ => primed.purge ledger fixtures) ?_
    rintro count primedDb _ primed
    refine Upholds.bind (ingestLiveData_replaces mapped.coherent primed.filed) ?_
    rintro live after _ replaced
    exact Upholds.pure trivial
      ⟨primed.together replaced, primed.hosts mapped.coherent replaced⟩
  · rintro snapshot rfl
    have mapped := fed snapshot rfl
    have primed : Primed snapshot db := ⟨lifecycle.filed, agreeing,
      fun row stored _ => lifecycle.together row stored, fun fixture present =>
        .inl (lifecycle.hosted fixture present)⟩
    exact (ingestLiveData_replaces mapped.coherent lifecycle.filed).mono
      fun _ after replaced => ⟨primed.together replaced, primed.hosts mapped.coherent replaced⟩

theorem endEvent_together {event : Event} {homeScore awayScore : ℤ} {past : Database}
    (stored : event ∈ db.catalog.events) (lifecycle : Lifecycle db)
    (done : endEvent db event homeScore awayScore = .ok past) :
    EndedTogether past ∧ Hosted past := by
  have own := (lifecycle.filed.events event stored).1
  unfold endEvent at done
  split at done
  · cases done
  obtain rfl := Except.ok.inj done
  constructor
  · intro row there fixture present of
    dsimp only at there present
    rcases Table.updateWhere_cases there with ⟨old, before, hit, rfl⟩ | ⟨before, missed⟩
    · rcases Table.updateWhere_cases present with ⟨game, _, _, rfl⟩ | ⟨game, apart⟩
      · simp [Agrees]
      · have same : old.providerRef = event.providerRef := by simpa using hit
        refine absurd ?_ (by simpa using apart)
        rw [of, (lifecycle.filed.events old before).1, same, own]
    · rcases Table.updateWhere_cases present with ⟨game, _, hit, rfl⟩ | ⟨game, _⟩
      · have same : game.providerRef = event.fixture := by simpa using hit
        refine absurd ?_ (by simpa using missed)
        rw [← (lifecycle.filed.events row before).1, ← of, ← own]
        exact same
      · exact lifecycle.together row before fixture game of
  · intro fixture present
    have named : ∃ game ∈ db.catalog.fixtures, game.providerRef = fixture.providerRef := by
      dsimp only at present
      rcases Table.updateWhere_cases present with ⟨game, there, _, rfl⟩ | ⟨there, _⟩
      · exact ⟨game, there, rfl⟩
      · exact ⟨fixture, there, rfl⟩
    obtain ⟨game, there, same⟩ := named
    obtain ⟨row, before, of⟩ := lifecycle.hosted game there
    obtain ⟨after, stands, equal⟩ := Table.exists_updateWhere before
      (fun other => other.providerRef = event.providerRef) (fun other => { other with
        status := .ended, homeScore := some homeScore, awayScore := some awayScore }) fun _ => rfl
    refine ⟨after, stands, ?_⟩
    rw [equal, ← same, ← of]
    split <;> rfl

/-- A manual result ends both at once. -/
theorem finalize_returns (lifecycle : Lifecycle db) (providerRef : String) (homeScore awayScore : ℤ) :
    Returns (fun _ after => Lifecycle after)
      (finalizeEventResult providerRef homeScore awayScore).void db := by
  refine Upholds.void ((finalizeEventResult_returns providerRef homeScore awayScore).mono ?_)
  rintro _ after (rfl | ⟨event, stored, ended, done, rfl⟩)
  · exact lifecycle
  · have filed := ((lifecycle.filed.endEvent done).settleMarkets event.providerRef).settleSelections
      event.providerRef
    have catalog : ∀ db : Database,
        (clearSettlementNotes db event.providerRef).catalog = db.catalog := fun _ => rfl
    obtain ⟨together, hosted⟩ := endEvent_together stored lifecycle done
    exact ⟨filed.of_catalog (catalog _), together, hosted⟩

variable (runtime isOddsApi) in
/-- A complete ingest run on the odds feed under a condition, or a complete manual result. -/
inductive Plays (condition : IngestRun → Database → Prop) (db : Database) :
    Session databaseMachine → Prop
  | ingest (run : IngestRun) (moves : List (Move databaseMachine)) (fed : FromFeed db run)
      (holds : condition run db)
      (returned : Session.Returned ⟨run.program runtime isOddsApi, moves⟩ db) :
      Plays condition db ⟨run.program runtime isOddsApi, moves⟩
  | finalizeEventResult (providerRef : String) (homeScore awayScore : ℤ)
      (moves : List (Move databaseMachine))
      (returned : Session.Returned
        ⟨(finalizeEventResult providerRef homeScore awayScore).void, moves⟩ db) :
      Plays condition db ⟨(finalizeEventResult providerRef homeScore awayScore).void, moves⟩

theorem Lifecycle.play (lifecycle : Lifecycle db) {session : Session databaseMachine}
    (plays : Plays runtime isOddsApi IngestRun.Agreeing db session) :
    Lifecycle (session.result db) := by
  cases plays with
  | ingest run moves fed agreeing returned =>
      have safe : Returns (fun _ after => EndedTogether after ∧ Hosted after)
          (run.program runtime isOddsApi) db := together_returns run fed lifecycle agreeing
      obtain ⟨together, hosted⟩ := (Upholds.result trivial safe).2 returned
      exact ⟨filed_result moves fed lifecycle.filed, together, hosted⟩
  | finalizeEventResult providerRef homeScore awayScore moves returned =>
      have safe := finalize_returns lifecycle providerRef homeScore awayScore
      exact (Upholds.result trivial safe).2 returned

/-- Whether a complete results run keeps the games together. -/
theorem results_keep_together_iff (lifecycle : Lifecycle db) (mapped : Mapped snapshot)
    {moves : List (Move databaseMachine)}
    (returned : Session.Returned ⟨(applyResultsSnapshot snapshot).void, moves⟩ db) :
    EndedTogether (Session.result ⟨(applyResultsSnapshot snapshot).void, moves⟩ db) ↔
      ResultsAgree snapshot db := by
  have safe : Returns (fun _ after => Replaced snapshot [] db after)
      (applyResultsSnapshot snapshot).void db :=
    Upholds.void (ingestLiveData_replaces mapped.coherent lifecycle.filed)
  exact together_iff lifecycle.together ((Upholds.result trivial safe).2 returned)

/-- What the tables say of finished games: both that they are over, and neither that there is
anything to poll. -/
structure Finishes (db : Database) : Prop where
  together : EndedTogether db
  uncounted : ∀ event ∈ db.catalog.events, event.status = .ended →
    ∀ fixture ∈ db.catalog.fixtures, fixture.providerRef = event.fixture →
      LIVE_GAME_SCOPE db fixture = false ∧
        ∀ now prestartMinutes, pollScope now prestartMinutes db fixture = false
  stops : (∀ event ∈ db.catalog.events, event.status = .ended) →
    hasLiveGames db = false ∧ ∀ now prestartMinutes, liveSportKeys now prestartMinutes db = []

theorem Lifecycle.finishes (lifecycle : Lifecycle db) : Finishes db where
  together := lifecycle.together
  uncounted event stored past fixture present of := by
    have out := lifecycle.uncounted stored past present of
    exact ⟨by simpa [pollScope] using out 0 0, out⟩
  stops := lifecycle.stops

/-- **Fixtures and events end together**, from an empty catalog on, through complete runs and
manual results whose results runs agree with the fixtures. -/
theorem fixtures_and_events_end_together {sessions : List (Session databaseMachine)}
    (fixtures : ∀ fixture, fixture ∉ db.catalog.fixtures)
    (events : ∀ event, event ∉ db.catalog.events) (markets : ∀ market, market ∉ db.catalog.markets)
    (selections : ∀ selection, selection ∉ db.catalog.selections)
    (each : Session.Each (Plays runtime isOddsApi IngestRun.Agreeing) sessions db) :
    Finishes (Session.runAll sessions db) := by
  have start : Lifecycle db :=
    ⟨⟨fun event stored => absurd stored (events event),
      fun market stored => absurd stored (markets market),
      fun selection stored => absurd stored (selections selection)⟩,
      fun event stored => absurd stored (events event),
      fun fixture stored => absurd stored (fixtures fixture)⟩
  have step : ∀ db session, Lifecycle db → Plays runtime isOddsApi IngestRun.Agreeing db session →
      Lifecycle (session.result db) := fun _ _ lifecycle plays => lifecycle.play plays
  exact (Session.runAll_preserves step start each).finishes

end Runs

section Sample

/-- The results of the feed with these scores. -/
def resultsOf (scores : List OddsApiEventScore) : IngestRun :=
  .results (mapOddsApiToSnapshot asciiRuntime 1
    (totalsFeed (.ofDigits 2205 (-1)) scores ["totals"]))

def playGame (run : IngestRun) : Session databaseMachine := run.session asciiRuntime true 40

theorem fromFeed_totals {db : Database} {run : IngestRun} {point : Numeral.Decimal}
    {scores : List OddsApiEventScore} {marketKeys : List String}
    (only : ∀ snapshot, run.Fetches db snapshot →
      snapshot = mapOddsApiToSnapshot asciiRuntime 1 (totalsFeed point scores marketKeys)) :
    FromFeed db run := by
  intro snapshot fetched
  refine ⟨asciiRuntime, 1, totalsFeed point scores marketKeys, ?_, only snapshot fetched⟩
  intro sportKey _ event listed
  obtain rfl := List.mem_singleton.mp listed
  have plain : ':' ∉ "game".toList := by decide
  exact plain

/-- The game ends by hand before its results come. -/
theorem finalized_before_results : Finishes (Session.runAll
    [playGame (.catalog (.ok openTotals)), finalizeGame, playGame (resultsOf [completedScore])]
    freshDatabase) := by
  suffices each : Session.Each (Plays asciiRuntime true IngestRun.Agreeing)
      [playGame (.catalog (.ok openTotals)), finalizeGame, playGame (resultsOf [completedScore])]
      freshDatabase from fixtures_and_events_end_together (fun _ => (Table.mem_empty _).mp)
    (fun _ => (Table.mem_empty _).mp) (fun _ => (Table.mem_empty _).mp)
    (fun _ => (Table.mem_empty _).mp) each
  refine ⟨.ingest (.catalog (.ok openTotals)) _ ?_ trivial (by decide +kernel),
    .finalizeEventResult "game" 100 90 _ (by decide +kernel),
    .ingest (resultsOf [completedScore]) _ ?_ ?_ (by decide +kernel), trivial⟩
  · exact fromFeed_totals fun snapshot fetched => (Except.ok.inj fetched).symm
  · exact fromFeed_totals fun snapshot fetched => fetched.symm
  · have agrees : ∀ event ∈ (mapOddsApiToSnapshot asciiRuntime 1
        (totalsFeed ⟨2205, -1, by decide⟩ [completedScore] ["totals"])).events,
        ∀ fixture ∈ (finalizeGame.result
          ((playGame (.catalog (.ok openTotals))).result freshDatabase)).catalog.fixtures.rows,
        fixture.providerRef = event.fixtureProviderRef → Agrees event.status fixture.status := by
      decide +kernel
    exact fun event listed fixture present => agrees event listed fixture present

/-- The results of a live game end its event alone, and it is polled on. -/
theorem results_leave_fixture_live :
    ¬ ∀ sessions : List (Session databaseMachine),
      Session.Each (Plays asciiRuntime true fun _ _ => True) sessions freshDatabase →
      Finishes (Session.runAll sessions freshDatabase) := by
  intro claim
  have each : Session.Each (Plays asciiRuntime true fun _ _ => True)
      [playGame (.catalog (.ok openTotals)), playGame (resultsOf [completedScore])]
      freshDatabase := by
    refine ⟨.ingest (.catalog (.ok openTotals)) _ ?_ trivial (by decide +kernel),
      .ingest (resultsOf [completedScore]) _ ?_ trivial (by decide +kernel), trivial⟩
    · exact fromFeed_totals fun snapshot fetched => (Except.ok.inj fetched).symm
    · exact fromFeed_totals fun snapshot fetched => fetched.symm
  have past : ∀ event ∈ (Session.runAll [playGame (.catalog (.ok openTotals)),
      playGame (resultsOf [completedScore])] freshDatabase).catalog.events.rows,
      event.status = .ended := by decide +kernel
  have polled : hasLiveGames (Session.runAll [playGame (.catalog (.ok openTotals)),
      playGame (resultsOf [completedScore])] freshDatabase) = true := by decide +kernel
  have silent := ((claim _ each).stops past).1
  rw [polled] at silent
  cases silent

end Sample

end SportsBetting.Ingestion
