import SportsBetting.Feed.Listing
import SportsBetting.Ingestion.Runs
import SportsBetting.Ingestion.Steps

/-!
# Rows filed under their references

The feed names a market after its event, and an event after its fixture. So a
run never moves a market to another event, and finds the fixture of every
event that is stored.
-/

namespace SportsBetting.Ingestion

open Async OddsApi Text

structure Filed (db : Database) : Prop where
  events : ∀ event ∈ db.catalog.events, event.fixture = event.providerRef ∧
    db.catalog.fixtures.Has event.providerRef
  markets : ∀ market ∈ db.catalog.markets, before ':' market.providerRef = market.event
  selections : ∀ selection ∈ db.catalog.selections, db.catalog.markets.Has selection.market

namespace Filed

variable {db after : Database} {snapshot : ProviderSnapshot}

theorem of_catalog (same : after.catalog = db.catalog) (filed : Filed db) : Filed after := by
  obtain ⟨events, markets, selections⟩ := filed
  constructor <;> rw [same] <;> assumption

theorem onward (filed : Filed db) (same : Onward db after) : Filed after where
  events := by
    rw [same.events]
    exact fun event stored => (filed.events event stored).imp_right (same.fixtures _)
  markets := by
    rw [same.markets]
    exact filed.markets
  selections := by
    rw [same.selections, same.markets]
    exact filed.selections

theorem upsertEvent (filed : Filed db) (coherent : Coherent snapshot) {event : NormalizedEvent}
    (listed : event ∈ snapshot.events) (done : upsertEvent db event = .ok after) :
    Filed after := by
  have known := has_fixture_of_upsertEvent done
  obtain rfl := upsertEvent_ok done
  refine ⟨?_, filed.markets, filed.selections⟩
  have own := (coherent.events event listed).1
  intro row stored
  rcases Table.mem_put.mp stored with rfl | ⟨old, _⟩
  · refine ⟨own, ?_⟩
    rw [own] at known
    exact known
  · exact filed.events row old

theorem settleMarkets (filed : Filed db) (eventRef : String) : Filed (settleMarkets db eventRef) := by
  refine ⟨filed.events, ?_, ?_⟩
  · intro market stored
    rcases mem_settleMarkets stored with ⟨old, present, _, rfl⟩ | ⟨present, _⟩
    · exact filed.markets old present
    · exact filed.markets market present
  · exact fun selection stored => (filed.selections selection stored).updateWhere
      (fun market => market.event = eventRef) (fun market => { market with status := .settled })
      fun _ => rfl

theorem settleSelections (filed : Filed db) (eventRef : String) :
    Filed (settleSelections db eventRef) := by
  refine ⟨filed.events, filed.markets, ?_⟩
  intro selection stored
  rcases mem_settleSelections stored with ⟨old, present, _, rfl⟩ | ⟨present, _⟩
  · exact filed.selections old present
  · exact filed.selections selection present

theorem closeEnded (filed : Filed db) (event : NormalizedEvent) : Filed (closeEnded db event) := by
  unfold Ingestion.closeEnded
  split
  · exact (filed.settleMarkets _).settleSelections _
  · exact filed

theorem upsertMarket (filed : Filed db) (coherent : Coherent snapshot) {market : NormalizedMarket}
    (listed : market ∈ snapshot.markets) (done : upsertMarket db market = .ok after) :
    Filed after := by
  obtain ⟨line, _, rfl⟩ := upsertMarket_ok done
  refine ⟨filed.events, ?_, fun selection stored => (filed.selections selection stored).put _⟩
  intro row stored
  rcases Table.mem_put.mp stored with rfl | ⟨old, _⟩
  · exact (coherent.markets market listed).1
  · exact filed.markets row old

theorem upsertSelection (filed : Filed db) {selection : NormalizedSelection}
    (known : db.catalog.markets.Has selection.marketProviderRef)
    (done : upsertSelection db selection = .ok after) : Filed after := by
  obtain ⟨price, rfl⟩ := upsertSelection_ok done
  refine ⟨filed.events, filed.markets, ?_⟩
  intro row stored
  rcases Table.mem_put.mp stored with rfl | ⟨old, _⟩
  · exact known
  · exact filed.selections row old

theorem endEvent (filed : Filed db) {event : Event} {homeScore awayScore : ℤ}
    (done : endEvent db event homeScore awayScore = .ok after) : Filed after := by
  obtain ⟨markets, selections, fixtures, events⟩ := endEvent_ok done
  refine ⟨fun row stored => ?_, markets ▸ filed.markets, ?_⟩
  · rcases events row stored with ⟨old, present, _, rfl⟩ | ⟨present, _⟩
    · exact (filed.events old present).imp_right (fixtures _)
    · exact (filed.events row present).imp_right (fixtures _)
  · rw [selections, markets]
    exact filed.selections

theorem purge (filed : Filed db) (ledger : Ledger) (fixtures : List String) :
    Filed { db with ledger, catalog := cascadeFixtures fixtures db.catalog } := by
  constructor
  · intro event stored
    obtain ⟨old, stays⟩ := Table.mem_deleteWhere.mp stored
    obtain ⟨own, fixture, present, named⟩ := filed.events event old
    refine ⟨own, fixture, Table.mem_deleteWhere.mpr ⟨present, ?_⟩, named⟩
    simpa only [named, own] using stays
  · exact fun market stored => filed.markets market (Table.mem_deleteWhere.mp stored).1
  · intro selection stored
    obtain ⟨old, stays⟩ := Table.mem_deleteWhere.mp stored
    obtain ⟨market, present, on⟩ := filed.selections selection old
    refine ⟨market, Table.mem_deleteWhere.mpr ⟨present, ?_⟩, on⟩
    simpa only [← on, Table.get?_of_mem present] using stays

end Filed

section Runs

variable {snapshot : ProviderSnapshot} {db : Database}

theorem filed_ingestLiveData (coherent : Coherent snapshot) (filed : Filed db) :
    Keeps Filed (fun _ _ => True) (ingestLiveData snapshot) db := by
  unfold ingestLiveData
  refine Upholds.bind (Upholds.read filed) ?_
  rintro fixtureRefs now filed _
  refine Upholds.bind (keeps_ingestEvents snapshot
    (fun event listed db after filed done => filed.upsertEvent coherent listed done)
    (fun event _ _ db filed => filed.settleMarkets event.providerRef)
    (fun event _ _ db filed => filed.settleSelections event.providerRef) fixtureRefs filed) ?_
  rintro _ now filed _
  refine Upholds.bind (Upholds.read filed) ?_
  rintro eventRefs now filed _
  refine Upholds.bind (keeps_ingestMarkets snapshot (fun _ => Filed) (fun _ _ filed => filed) eventRefs
    (fun market rest db after listed _ filed done => filed.upsertMarket coherent listed done)
    (fun market rest db _ filed => filed) filed) ?_
  rintro _ now filed _
  refine Upholds.bind (Upholds.read filed) ?_
  rintro marketRefs now _ ⟨rfl, rfl⟩
  refine Upholds.bind (Upholds.read filed) ?_
  rintro prices now' _ ⟨rfl, rfl⟩
  have stored : ∀ later : Database, later.catalog.markets = now'.catalog.markets → ∀ ref,
      ref ∈ now'.catalog.markets.rows.map Market.providerRef → later.catalog.markets.Has ref :=
    fun later same ref known => same ▸ (mem_map_iff_has _ _).mp known
  have selections : Keeps (fun later => Filed later ∧ later.catalog.markets = now'.catalog.markets)
      (fun _ _ => True) (snapshot.selections.foldlM
        (ingestSelection (now'.catalog.markets.rows.map Market.providerRef)
          fun ref => (now'.catalog.selections.get? ref).map fun row => row.price.value) (0, 0)) now' := by
    refine keeps_ingestSelections snapshot _ _ ?_ ?_ ⟨filed, rfl⟩
    · rintro db odds ⟨filed, markets⟩
      exact ⟨filed.onward (onward_oddsSnapshots db odds), markets⟩
    · rintro selection _ known db after ⟨filed, markets⟩ done
      refine ⟨filed.upsertSelection (stored db markets _ known) done, ?_⟩
      obtain ⟨price, rfl⟩ := upsertSelection_ok done
      exact markets
  refine Upholds.bind (Upholds.weaken (fun _ held => held.1) ⟨filed, rfl⟩ selections) ?_
  exact fun _ _ kept _ => Upholds.pure kept trivial

/-- The snapshot was mapped from what the odds feed answered. -/
def Mapped (snapshot : ProviderSnapshot) : Prop :=
  ∃ runtime now input, PlainIds input ∧ snapshot = mapOddsApiToSnapshot runtime now input

theorem Mapped.coherent (mapped : Mapped snapshot) : Coherent snapshot := by
  obtain ⟨runtime, now, input, plain, rfl⟩ := mapped
  exact coherent_mapOddsApiToSnapshot runtime now plain

def FromFeed (db : Database) (run : IngestRun) : Prop :=
  ∀ snapshot, run.Fetches db snapshot → Mapped snapshot

/-- Wherever a run on the odds feed stops, the rows are filed. -/
theorem filed_result {runtime : Runtime} {isOddsApi : Bool} {run : IngestRun}
    (moves : List (Move databaseMachine)) (fed : FromFeed db run) (filed : Filed db) :
    Filed (Session.result ⟨run.program runtime isOddsApi, moves⟩ db) := by
  refine (IngestRun.result_upholds Filed runtime isOddsApi
    (fun snapshot db => Coherent snapshot ∧ Filed db) (fun snapshot db => Coherent snapshot ∧ Filed db)
    (fun _ _ => True) ?_ ?_ ?_ run ?_ ?_ moves filed ?_).1
  · exact fun _ _ _ onward held => held.imp_right fun filed => filed.onward onward.toOnward
  · exact fun _ _ held => held
  · exact fun _ _ held => held.2
  · exact fun _ _ _ fixtures ledger held _ => held.imp_right fun filed => filed.purge ledger fixtures
  · exact fun _ _ held => filed_ingestLiveData held.1 held.2
  · exact fun snapshot fetched => ⟨(fed snapshot fetched).coherent, filed⟩

end Runs

end SportsBetting.Ingestion
